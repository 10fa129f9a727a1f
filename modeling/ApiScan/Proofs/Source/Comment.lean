import ApiScan.Proofs.Text.Words
import ApiScan.Source.Comment

set_option autoImplicit false

/-! # What removing comments keeps and drops

A text without comment marks and quotes is kept as it is, and so is a complete literal. Texts that are
kept wherever they stand can be put one behind another. A comment is dropped up to its end. -/

namespace ApiScan.Source

open Text

variable {s t w : Text} {c : Char}

/-- A text that stays as it is when comments are removed, whatever follows it. -/
def Kept (s : Text) : Prop := ∀ rest, stripComments (s ++ rest) = s ++ stripComments rest

theorem kept_nil : Kept [] := fun _ => rfl

theorem Kept.append (hs : Kept s) (ht : Kept t) : Kept (s ++ t) := by
  intro rest
  rw [List.append_assoc, hs, ht, List.append_assoc]

theorem Kept.stripComments_eq (h : Kept s) : stripComments s = s := by
  have hall := h []
  rwa [List.append_nil, show stripComments [] = [] from rfl, List.append_nil] at hall

/-! ## Plain texts -/

/-- A text without slashes and quotes. -/
def NoMark (s : Text) : Prop := ∀ c ∈ s, c ≠ '/' ∧ isQuote c = false

instance (s : Text) : Decidable (NoMark s) :=
  List.decidableBAll (fun c => c ≠ '/' ∧ isQuote c = false) s

theorem noMark_append (hs : NoMark s) (ht : NoMark t) : NoMark (s ++ t) :=
  List.forall_mem_append.2 ⟨hs, ht⟩

theorem isQuote_single : isQuote '\'' = true := rfl

theorem isQuote_double : isQuote '"' = true := rfl

theorem isQuote_eq_false (hword : isWord c = true ∨ isBlank c = true) : isQuote c = false := by
  cases hquote : isQuote c with
  | false => rfl
  | true =>
      simp only [isQuote, Bool.or_eq_true, decide_eq_true_eq] at hquote
      rcases hquote with (rfl | rfl) | rfl
      all_goals exact absurd hword (by decide)

theorem isBlank_eq_false_of_isQuote (h : isQuote c = true) : isBlank c = false := by
  rw [Bool.eq_false_iff]
  intro hblank
  exact nomatch h.symm.trans (isQuote_eq_false (Or.inr hblank))

theorem isWord_eq_false_of_isQuote (h : isQuote c = true) : isWord c = false := by
  rw [Bool.eq_false_iff]
  intro hword
  exact nomatch h.symm.trans (isQuote_eq_false (Or.inl hword))

/-- A quote is no other character. -/
theorem ne_of_isQuote {quote : Char} (hquote : isQuote quote = true) (hc : isQuote c = false) :
    c ≠ quote := by
  rintro rfl
  exact nomatch hquote.symm.trans hc

theorem noMark_of_allWord (h : AllWord w) : NoMark w := by
  refine fun c hc => ⟨?_, isQuote_eq_false (Or.inl (h c hc))⟩
  rintro rfl
  exact absurd (h '/' hc) (by decide)

theorem noMark_of_allBlank (h : AllBlank s) : NoMark s := by
  refine fun c hc => ⟨?_, isQuote_eq_false (Or.inr (h c hc))⟩
  rintro rfl
  exact absurd (h '/' hc) (by decide)

theorem noMark_name (hw : ∀ c ∈ w, isNameChar c = true) : NoMark w := by
  intro c hc
  rcases isWord_or_eq_dollar (hw c hc) with hword | rfl
  · exact noMark_of_allWord (w := [c]) (by simpa [AllWord] using hword) c (List.mem_singleton_self c)
  · decide

/-- Where neither a comment nor a literal starts, one character is kept. -/
theorem kept?_eq_none (hslash : c ≠ '/') (hquote : isQuote c = false) : kept? (c :: s) = none := by
  unfold kept?
  split
  · next he => exact absurd (List.cons.inj he).1 hslash
  · next he => exact absurd (List.cons.inj he).1 hslash
  · next he =>
      obtain ⟨rfl, rfl⟩ := List.cons.inj he
      rw [hquote]
      rfl
  · rfl

theorem NoMark.kept (h : NoMark s) : Kept s :=
  replaceAll_append_of_forall fun c hc _ => kept?_eq_none (h c hc).1 (h c hc).2

/-! ## Literals -/

/-- What may stand between the quotes of a literal: characters other than the quote, and backslashes
    each with the character that it takes along. A line may end between backquotes only. -/
inductive LiteralBody (quote : Char) : Text → Prop
  | nil : LiteralBody quote []
  | escape {s : Text} (c : Char) (h : LiteralBody quote s) : LiteralBody quote ('\\' :: c :: s)
  | char {s : Text} {c : Char} (hquote : c ≠ quote) (hslash : c ≠ '\\')
      (hbreak : c = '\n' → quote = '\x60') (h : LiteralBody quote s) : LiteralBody quote (c :: s)

/-- A text on one line without the quote and without backslashes may stand between quotes. -/
theorem literalBody_of_plain {quote : Char} (h : ∀ c ∈ s, c ≠ quote ∧ c ≠ '\\' ∧ c ≠ '\n') :
    LiteralBody quote s := by
  induction s with
  | nil => exact .nil
  | cons c s ih =>
      obtain ⟨⟨hquote, hslash, hbreak⟩, hs⟩ := List.forall_mem_cons.1 h
      exact .char hquote hslash (fun he => absurd he hbreak) (ih hs)

theorem literalBody_of_allWord {quote : Char} (hquote : isQuote quote = true) (hw : AllWord w) :
    LiteralBody quote w := by
  refine literalBody_of_plain fun c hc => ?_
  have hword := hw c hc
  refine ⟨?_, ?_, ?_⟩
  · rintro rfl
    exact nomatch hquote.symm.trans (isQuote_eq_false (Or.inl hword))
  all_goals
    rintro rfl
    exact absurd hword (by decide)

/-- A literal goes on up to its quote. -/
theorem literal?_body {quote : Char} (hquote : isQuote quote = true) (hs : LiteralBody quote s)
    (rest : Text) : literal? quote (s ++ quote :: rest) = some (s ++ [quote], rest) := by
  have hbackslash : quote ≠ '\\' := by
    rintro rfl
    exact absurd hquote (by decide)
  induction hs with
  | nil =>
      rw [List.nil_append, literal?, if_pos rfl]
      · rfl
      · intro _ _ he
        exact absurd he hbackslash
  | escape c _ ih =>
      rw [List.cons_append, List.cons_append, literal?, ih]
      rfl
  | @char s c hne hslash hbreak _ ih =>
      have hgoes : ¬ (c = '\\' ∨ c = '\n' ∧ quote ≠ '\x60') := by
        rintro (he | ⟨he, hback⟩)
        · exact hslash he
        · exact hback (hbreak he)
      rw [List.cons_append, literal?, if_neg hne, if_neg hgoes, ih]
      · rfl
      · intro _ _ he
        exact absurd he hslash

/-- **A literal is kept.** -/
theorem kept_literal {quote : Char} (hquote : isQuote quote = true) (hs : LiteralBody quote s) :
    Kept (quote :: (s ++ [quote])) := by
  intro rest
  have hslash : quote ≠ '/' := by
    rintro rfl
    exact absurd hquote (by decide)
  have hfound : kept? (quote :: (s ++ quote :: rest)) = some (quote :: (s ++ [quote]), rest) := by
    unfold kept?
    split
    · next he => exact absurd (List.cons.inj he).1 hslash
    · next he => exact absurd (List.cons.inj he).1 hslash
    · next he =>
        obtain ⟨rfl, rfl⟩ := List.cons.inj he
        rw [hquote, if_pos rfl, literal?_body hquote hs]
        rfl
    · next he => exact nomatch he
  have htext : quote :: (s ++ [quote]) ++ rest = quote :: (s ++ quote :: rest) := by simp
  rw [htext, stripComments, replaceAll_of_found kept?_consumes hfound]
  rfl

theorem kept_quoted {quote : Char} (hquote : isQuote quote = true) (hw : AllWord w) :
    Kept (quote :: (w ++ [quote])) :=
  kept_literal hquote (literalBody_of_allWord hquote hw)

/-! ## Comments -/

/-- A line comment is removed up to the end of its line. -/
theorem stripComments_lineComment {rest : Text} (hs : '\n' ∉ s)
    (hrest : ∀ c ∈ rest.head?, c = '\n') :
    stripComments ('/' :: '/' :: (s ++ rest)) = stripComments rest := by
  have hline : ∀ c ∈ s, decide (c ≠ '\n') = true := by
    intro c hc
    rw [decide_eq_true_eq]
    rintro rfl
    exact hs hc
  have hdrop : (s ++ rest).dropWhile (fun c => decide (c ≠ '\n')) = rest := by
    rw [List.dropWhile_append_of_pos hline]
    cases rest with
    | nil => rfl
    | cons c rest =>
        obtain rfl := hrest c rfl
        rfl
  have hfound : kept? ('/' :: '/' :: (s ++ rest)) = some ([], rest) := by
    rw [kept?, hdrop]
  exact replaceAll_of_found kept?_consumes hfound

/-- A comment mark is found where it first stands. -/
theorem cut?_commentEnd (hs : ¬ ['*', '/'] <:+: s) (rest : Text) :
    cut? ['*', '/'] (s ++ '*' :: '/' :: rest) = some (s, rest) := by
  induction s with
  | nil => rfl
  | cons c s ih =>
      have hnone : after? ['*', '/'] (c :: (s ++ '*' :: '/' :: rest)) = none := by
        rw [Option.eq_none_iff_forall_ne_some]
        intro found hfound
        obtain ⟨rfl, he⟩ := List.cons.inj (after?_eq_some_iff.1 hfound)
        -- the slash behind the asterisk would belong to the text
        cases s with
        | nil => exact absurd (List.cons.inj he).1 (by decide)
        | cons d s =>
            obtain ⟨rfl, -⟩ := List.cons.inj he
            exact hs ⟨[], s, rfl⟩
      have hmore := ih fun h => hs (h.trans (List.infix_cons (List.infix_refl s)))
      rw [List.cons_append, cut?, hnone]
      simp only [hmore]
      rfl

/-- A block comment is removed up to the first mark that closes it. -/
theorem stripComments_blockComment (hs : ¬ ['*', '/'] <:+: s) (rest : Text) :
    stripComments ('/' :: '*' :: (s ++ '*' :: '/' :: rest)) = stripComments rest := by
  have hfound : kept? ('/' :: '*' :: (s ++ '*' :: '/' :: rest)) = some ([], rest) := by
    rw [kept?, cut?_commentEnd hs]
    rfl
  exact replaceAll_of_found kept?_consumes hfound

end ApiScan.Source
