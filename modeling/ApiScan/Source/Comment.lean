import ApiScan.Text.Basic

set_option autoImplicit false

/-! # Comments in source texts

Source texts hold line comments, block comments and three kinds of quoted literals. Removing the
comments keeps every literal as it is: a comment mark inside a literal is text, and a quote inside a
comment opens nothing. A literal in single or double quotes ends on its line, one in backquotes may
span lines; a quote that is never closed is an ordinary character, and so is a block comment mark
that is never closed. -/

namespace ApiScan.Source

/-- Whether a character opens and closes a literal. -/
def isQuote (c : Char) : Bool := c = '\'' || c = '"' || c = '\x60'

/-- The rest of a literal, up to and including its closing quote, and what follows it. A backslash
    takes the next character along. -/
def literal? (quote : Char) : Text → Option (Text × Text)
  | [] => none
  | '\\' :: c :: cs => (literal? quote cs).map fun (body, rest) => ('\\' :: c :: body, rest)
  | c :: cs =>
    if c = quote then some ([c], cs)
    else if c = '\\' ∨ (c = '\n' ∧ quote ≠ '\x60') then none
    else (literal? quote cs).map fun (body, rest) => (c :: body, rest)

/-- What a place in a source text keeps, where it starts a literal (all of it) or a comment
    (nothing), and what follows. -/
def kept? : Text → Option (Text × Text)
  | '/' :: '/' :: cs => some ([], cs.dropWhile (· ≠ '\n'))
  | '/' :: '*' :: cs => (Text.cut? ['*', '/'] cs).map fun (_, rest) => ([], rest)
  | c :: cs =>
    if isQuote c then (literal? c cs).map fun (body, rest) => (c :: body, rest) else none
  | [] => none

/-- A source text without its comments. -/
def stripComments (s : Text) : Text := Text.replaceAll kept? s

/-! ## Literals and comments consume what they recognise -/

theorem eq_of_literal? {quote : Char} {s body rest : Text}
    (h : literal? quote s = some (body, rest)) : s = body ++ rest ∧ body ≠ [] := by
  fun_induction literal? quote s generalizing body with
  | case1 => simp at h
  | case2 c cs ih =>
    simp only [Option.map_eq_some_iff] at h
    obtain ⟨⟨b, r⟩, hb, he⟩ := h
    obtain ⟨rfl, rfl⟩ := Prod.mk.inj he
    simp [(ih hb).1]
  | case3 cs =>
    obtain ⟨rfl, rfl⟩ := Prod.mk.inj (Option.some.inj h)
    simp
  | case4 c cs _ _ _ => simp at h
  | case5 c cs _ _ _ ih =>
    simp only [Option.map_eq_some_iff] at h
    obtain ⟨⟨b, r⟩, hb, he⟩ := h
    obtain ⟨rfl, rfl⟩ := Prod.mk.inj he
    simp [(ih hb).1]

theorem kept?_consumes : Text.Consumes kept? := by
  intro s new rest h
  unfold kept? at h
  split at h
  · next cs =>
    obtain ⟨rfl, rfl⟩ := Prod.mk.inj (Option.some.inj h)
    have := (List.dropWhile_suffix (fun c : Char => decide (c ≠ '\n')) (l := cs)).length_le
    simp only [List.length_cons]
    omega
  · next cs =>
    simp only [Option.map_eq_some_iff] at h
    obtain ⟨⟨front, r⟩, hf, he⟩ := h
    obtain ⟨rfl, rfl⟩ := Prod.mk.inj he
    have := congrArg List.length (Text.eq_of_cut?_eq_some hf)
    simp only [List.length_append, List.length_cons] at this ⊢
    omega
  · next c cs _ _ =>
    split at h
    · simp only [Option.map_eq_some_iff] at h
      obtain ⟨⟨b, r⟩, hb, he⟩ := h
      obtain ⟨rfl, rfl⟩ := Prod.mk.inj he
      have := congrArg List.length (eq_of_literal? hb).1
      simp only [List.length_append, List.length_cons] at this ⊢
      omega
    · simp at h
  · simp at h

end ApiScan.Source
