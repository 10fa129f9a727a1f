import ApiScan.Text.Basic

set_option autoImplicit false

/-! # Brace blocks

The block that follows a mark in a source text, from its first opening brace to the first place
where as many braces have been closed as opened since the mark. Braces are counted, not stacked: a
closing brace between the mark and the block counts too. -/

namespace ApiScan.Source

/-- How a character changes the number of braces that are still to be closed. -/
def braceStep (c : Char) : Int := if c = '{' then 1 else if c = '}' then -1 else 0

/-- The rest of a block in which `owed` braces are still to be closed, and what follows it. -/
def blockBody? (owed : Int) : Text → Option (Text × Text)
  | [] => none
  | c :: cs =>
    if owed + braceStep c = 0 then some ([c], cs)
    else (blockBody? (owed + braceStep c) cs).map fun (body, rest) => (c :: body, rest)

/-- The first block of a text, given the number of braces owed before it, and what follows it. -/
def blockFrom? (owed : Int) : Text → Option (Text × Text)
  | [] => none
  | '{' :: cs => blockBody? owed ('{' :: cs)
  | c :: cs => blockFrom? (owed + braceStep c) cs

/-- The block that follows the first occurrence of `mark`, and what follows the block. The mark may
    itself hold braces, so the count starts with it. -/
def blockAfter? (mark s : Text) : Option (Text × Text) := do
  let (_, rest) ← Text.cut? mark s
  blockFrom? 0 (mark ++ rest)

/-- The block that follows the first occurrence of `mark`. -/
def block? (mark s : Text) : Option Text := (blockAfter? mark s).map Prod.fst

/-- The mark whose first occurrence comes first. -/
def firstMark? (marks : List Text) (s : Text) : Option Text :=
  (marks.foldl (fun best mark =>
    match Text.indexOf? mark s, best with
    | some i, some (j, other) => if i < j then some (i, mark) else some (j, other)
    | some i, none => some (i, mark)
    | none, best => best) (none : Option (Nat × Text))).map Prod.snd

/-! ## A block is a part of the text -/

theorem eq_of_blockBody? {owed : Int} {s body rest : Text}
    (h : blockBody? owed s = some (body, rest)) : s = body ++ rest ∧ body ≠ [] := by
  induction s generalizing owed body with
  | nil => simp [blockBody?] at h
  | cons c cs ih =>
    simp only [blockBody?] at h
    split at h
    · obtain ⟨rfl, rfl⟩ := Prod.mk.inj (Option.some.inj h)
      simp
    · simp only [Option.map_eq_some_iff] at h
      obtain ⟨⟨b, r⟩, hb, he⟩ := h
      obtain ⟨rfl, rfl⟩ := Prod.mk.inj he
      simp [(ih hb).1]

end ApiScan.Source
