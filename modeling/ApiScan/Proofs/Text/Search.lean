import ApiScan.Text.Basic
import Mathlib.Data.List.Infix
import Mathlib.Data.List.TakeWhile

set_option autoImplicit false

/-! # What searching finds

The searches of `Text` are recursive scanners. Here they are tied to what they look for: `holds` is
the infix relation, `first?` and `find?` give what is recognised at the leftmost place, where a
place of a text is a way to split it into the part before and the part from the place on. -/

namespace ApiScan.Text

/-! ## Up to a character -/

theorem takeWhile_ne_of_not_mem {s : Text} {x : Char} (h : x ∉ s) : s.takeWhile (· ≠ x) = s :=
  List.takeWhile_eq_self_iff.2 fun _ hc => decide_eq_true fun he => h (he ▸ hc)

theorem takeWhile_ne_append_cons {s : Text} {x : Char} (h : x ∉ s) (rest : Text) :
    (s ++ x :: rest).takeWhile (· ≠ x) = s := by
  have hall : ∀ c ∈ s, decide (c ≠ x) = true := fun _ hc => decide_eq_true fun he => h (he ▸ hc)
  rw [List.takeWhile_append_of_pos hall, List.takeWhile_cons_of_neg (by simp), List.append_nil]

theorem dropWhile_ne_of_not_mem {s : Text} {x : Char} (h : x ∉ s) : s.dropWhile (· ≠ x) = [] :=
  List.dropWhile_eq_nil_iff.2 fun _ hc => decide_eq_true fun he => h (he ▸ hc)

theorem dropWhile_ne_append_cons {s : Text} {x : Char} (h : x ∉ s) (rest : Text) :
    (s ++ x :: rest).dropWhile (· ≠ x) = x :: rest := by
  have hall : ∀ c ∈ s, decide (c ≠ x) = true := fun _ hc => decide_eq_true fun he => h (he ▸ hc)
  rw [List.dropWhile_append_of_pos hall, List.dropWhile_cons_of_neg (by simp)]

/-- A text is cut in front of the first place of a character. -/
theorem exists_of_mem {s : Text} {x : Char} (h : x ∈ s) :
    ∃ front rest, s = front ++ x :: rest ∧ x ∉ front := by
  induction s with
  | nil => exact absurd h List.not_mem_nil
  | cons c s ih =>
      by_cases hc : x = c
      · exact ⟨[], s, by rw [hc]; rfl, List.not_mem_nil⟩
      · obtain ⟨front, rest, rfl, hfront⟩ := ih ((List.mem_cons.1 h).resolve_left hc)
        exact ⟨c :: front, rest, rfl, List.not_mem_cons_of_ne_of_not_mem hc hfront⟩

/-! ## Marks -/

theorem after?_isSome_iff {mark s : Text} : (after? mark s).isSome = true ↔ mark <+: s := by
  constructor
  · intro h
    obtain ⟨rest, hrest⟩ := Option.isSome_iff_exists.1 h
    exact ⟨rest, (after?_eq_some_iff.1 hrest).symm⟩
  · rintro ⟨rest, rfl⟩
    exact Option.isSome_iff_exists.2 ⟨rest, after?_eq_some_iff.2 rfl⟩

theorem startsWith_iff {mark s : Text} : startsWith mark s = true ↔ mark <+: s :=
  after?_isSome_iff

theorem endsWith_iff {mark s : Text} : endsWith mark s = true ↔ mark <:+ s := by
  rw [endsWith, startsWith_iff, List.reverse_prefix]

/-- **A text holds a mark exactly when the mark is an infix of it.** -/
theorem holds_iff {mark s : Text} : holds mark s = true ↔ mark <:+: s := by
  unfold holds
  induction s with
  | nil =>
      rw [cut?, Option.isSome_map, after?_isSome_iff, List.prefix_nil, List.infix_nil]
  | cons c cs ih =>
      rw [cut?, List.infix_cons_iff, ← ih, ← after?_isSome_iff]
      split
      · next rest h => simp [h]
      · next h => simp [h]

theorem holds_eq_false_iff {mark s : Text} : holds mark s = false ↔ ¬ mark <:+: s := by
  rw [← holds_iff, Bool.not_eq_true]

/-- A mark that ends with a character occurs first where the character does, if no other occurrence
    of the character stands in it or in front of it. -/
theorem cut?_of_not_mem {m front rest : Text} {x : Char} (hm : x ∉ m) (hfront : x ∉ front) :
    cut? (m ++ [x]) (front ++ (m ++ [x] ++ rest)) = some (front, rest) := by
  induction front with
  | nil =>
      have hafter : after? (m ++ [x]) (m ++ [x] ++ rest) = some rest := after?_eq_some_iff.2 rfl
      rw [List.nil_append]
      cases hs : m ++ [x] ++ rest with
      | nil => exact absurd hs (by simp)
      | cons c s =>
          rw [hs] at hafter
          rw [cut?, hafter]
  | cons c front ih =>
      rw [List.mem_cons, not_or] at hfront
      have hnone : after? (m ++ [x]) (c :: (front ++ (m ++ [x] ++ rest))) = none := by
        cases hafter : after? (m ++ [x]) (c :: (front ++ (m ++ [x] ++ rest))) with
        | none => rfl
        | some found =>
            -- the character would come after the mark, and after what stands in front of it, too
            have htext : (c :: front ++ m) ++ x :: rest = m ++ x :: found := by
              have he := after?_eq_some_iff.1 hafter
              simpa using he
            have hlong := takeWhile_ne_append_cons (s := c :: front ++ m) (x := x) (by simp [hfront, hm]) rest
            rw [htext, takeWhile_ne_append_cons hm] at hlong
            have hlength := congrArg List.length hlong
            simp only [List.cons_append, List.length_cons, List.length_append] at hlength
            omega
      rw [List.cons_append, cut?, hnone]
      simp only [ih hfront.2]
      rfl

theorem cut?_char {front : Text} {x : Char} (h : x ∉ front) (rest : Text) :
    cut? [x] (front ++ x :: rest) = some (front, rest) :=
  cut?_of_not_mem (m := []) List.not_mem_nil h

theorem cut?_append {mark : Text} (hne : mark ≠ []) (rest : Text) :
    cut? mark (mark ++ rest) = some ([], rest) := by
  have hafter : after? mark (mark ++ rest) = some rest := after?_eq_some_iff.2 rfl
  obtain ⟨c, m, rfl⟩ := List.exists_cons_of_ne_nil hne
  rw [List.cons_append] at hafter ⊢
  rw [cut?, hafter]

theorem cut?_isSome_iff {mark s : Text} : (cut? mark s).isSome = true ↔ mark <:+: s := holds_iff

theorem cut?_eq_none_iff {mark s : Text} : cut? mark s = none ↔ ¬ mark <:+: s := by
  rw [← cut?_isSome_iff, Option.not_isSome_iff_eq_none]

theorem cut?_char_of_not_mem {s : Text} {x : Char} (h : x ∉ s) : cut? [x] s = none :=
  cut?_eq_none_iff.2 fun hinfix => h ((List.singleton_infix_iff x s).1 hinfix)

theorem cut?_cons_of_not_isPrefix {mark s : Text} {c : Char} (h : ¬ mark <+: c :: s) :
    cut? mark (c :: s) = (cut? mark s).map fun found => (c :: found.1, found.2) := by
  rw [← after?_isSome_iff, Option.not_isSome_iff_eq_none] at h
  rw [cut?, h]

/-- What is found first in a text is found first in a longer one. -/
theorem cut?_append_of_some {mark s front rest : Text} (h : cut? mark s = some (front, rest)) (t : Text) :
    cut? mark (s ++ t) = some (front, rest ++ t) := by
  induction s generalizing front with
  | nil =>
      obtain ⟨found, hfound, he⟩ := Option.map_eq_some_iff.1 h
      obtain ⟨rfl, rfl⟩ := Prod.mk.inj he
      obtain ⟨rfl, rfl⟩ := List.append_eq_nil_iff.1 (after?_eq_some_iff.1 hfound).symm
      cases t <;> rfl
  | cons c s ih =>
      by_cases hprefix : mark <+: c :: s
      · obtain ⟨more, hmore⟩ := hprefix
        have hhere {u more : Text} (hu : c :: u = mark ++ more) : cut? mark (c :: u) = some ([], more) := by
          rw [cut?, after?_eq_some_iff.2 hu]
        rw [hhere hmore.symm] at h
        obtain ⟨rfl, rfl⟩ := Prod.mk.inj (Option.some.inj h)
        exact hhere (by rw [← List.append_assoc, hmore]; rfl)
      · rw [cut?_cons_of_not_isPrefix hprefix] at h
        obtain ⟨⟨before, behind⟩, hfound, he⟩ := Option.map_eq_some_iff.1 h
        obtain ⟨rfl, rfl⟩ := Prod.mk.inj he
        -- a mark at the start would end in front of the text that is added
        have hlonger : ¬ mark <+: c :: (s ++ t) := by
          intro hlong
          have hlength := congrArg List.length (eq_of_cut?_eq_some hfound)
          simp only [List.length_append] at hlength
          exact hprefix (List.prefix_of_prefix_length_le hlong (List.prefix_append (c :: s) t)
            (by rw [List.length_cons]; omega))
        rw [List.cons_append, cut?_cons_of_not_isPrefix hlonger, ih hfound]
        rfl

/-- The first occurrence of a mark in a text stands right behind `front`. -/
structure FirstBehind (mark front s : Text) : Prop where
  stands : front ++ mark <+: s
  first : ∀ before, before ++ mark <+: s → front.length ≤ before.length

theorem length_le_of_cut? {mark s front rest before : Text} (h : cut? mark s = some (front, rest))
    (hbefore : before ++ mark <+: s) : front.length ≤ before.length := by
  induction s generalizing front before with
  | nil =>
      obtain ⟨found, -, he⟩ := Option.map_eq_some_iff.1 h
      obtain ⟨rfl, -⟩ := Prod.mk.inj he
      exact Nat.zero_le _
  | cons c s ih =>
      by_cases hprefix : mark <+: c :: s
      · rw [cut?] at h
        obtain ⟨found, hfound⟩ := Option.isSome_iff_exists.1 (after?_isSome_iff.2 hprefix)
        simp only [hfound] at h
        obtain ⟨rfl, -⟩ := Prod.mk.inj (Option.some.inj h)
        exact Nat.zero_le _
      · rw [cut?_cons_of_not_isPrefix hprefix] at h
        obtain ⟨⟨more, behind⟩, hmore, he⟩ := Option.map_eq_some_iff.1 h
        obtain ⟨rfl, rfl⟩ := Prod.mk.inj he
        cases before with
        | nil => exact absurd hbefore hprefix
        | cons d before =>
            obtain ⟨rfl, hrest⟩ := List.cons_prefix_cons.1 hbefore
            exact Nat.succ_le_succ (ih hmore hrest)

/-- **A text is cut at the first occurrence of the mark.** -/
theorem cut?_eq_some_iff {mark s front rest : Text} :
    cut? mark s = some (front, rest) ↔ s = front ++ mark ++ rest ∧ FirstBehind mark front s := by
  constructor
  · intro h
    have hs := eq_of_cut?_eq_some h
    exact ⟨hs, ⟨rest, hs.symm⟩, fun _ hbefore => length_le_of_cut? h hbefore⟩
  · rintro ⟨hs, hfirst⟩
    have hinfix : mark <:+: s := (List.suffix_append front mark).isInfix.trans hfirst.stands.isInfix
    obtain ⟨⟨found, behind⟩, hfound⟩ := Option.isSome_iff_exists.1 (cut?_isSome_iff.2 hinfix)
    have hcut := eq_of_cut?_eq_some hfound
    -- both stand in front of a first occurrence
    have hlength : found.length = front.length :=
      Nat.le_antisymm (length_le_of_cut? hfound hfirst.stands)
        (hfirst.first found ⟨behind, hcut.symm⟩)
    rw [hs, List.append_assoc, List.append_assoc] at hcut
    obtain ⟨rfl, hrest⟩ := List.append_inj hcut.symm hlength
    rw [hfound, List.append_cancel_left hrest]

/-- A mark stands on one side of a character that it does not have. -/
theorem split_of_not_mem {mark w s front rest : Text} {c : Char} (hc : c ∉ mark)
    (h : w ++ c :: s = front ++ mark ++ rest) :
    (∃ tail, w = front ++ mark ++ tail ∧ rest = tail ++ c :: s)
      ∨ ∃ more, front = w ++ c :: more ∧ s = more ++ mark ++ rest := by
  rw [List.append_assoc] at h
  rcases List.append_eq_append_iff.1 h with ⟨tail, hfront, hs⟩ | ⟨tail, hw, hs⟩
  · cases tail with
    | nil =>
        -- the mark cannot start with the character
        cases mark with
        | nil => exact Or.inl ⟨[], by simpa using hfront.symm, by simpa using hs.symm⟩
        | cons d mark =>
            obtain ⟨rfl, -⟩ := List.cons.inj hs
            exact absurd List.mem_cons_self hc
    | cons d tail =>
        obtain ⟨rfl, rfl⟩ := List.cons.inj hs
        exact Or.inr ⟨tail, hfront, (List.append_assoc _ _ _).symm⟩
  · rcases List.append_eq_append_iff.1 hs with ⟨more, hm, hrest⟩ | ⟨more, hm, hrest⟩
    · exact Or.inl ⟨more, by rw [hw, hm, List.append_assoc], hrest⟩
    · cases more with
      | nil => exact Or.inl ⟨[], by simp [hw, hm], by simpa using hrest.symm⟩
      | cons d more =>
          obtain ⟨rfl, -⟩ := List.cons.inj hrest
          exact absurd (hm ▸ by simp) hc

theorem infix_append_cons_iff {mark s t : Text} {c : Char} (hc : c ∉ mark) :
    mark <:+: s ++ c :: t ↔ mark <:+: s ∨ mark <:+: t := by
  constructor
  · rintro ⟨front, rest, h⟩
    rcases split_of_not_mem hc h.symm with ⟨tail, hs, -⟩ | ⟨more, -, ht⟩
    · exact Or.inl ⟨front, tail, hs.symm⟩
    · exact Or.inr ⟨more, rest, ht.symm⟩
  · rintro (h | h)
    · exact h.trans ⟨[], c :: t, rfl⟩
    · exact h.trans ((List.suffix_cons c t).trans (List.suffix_append s (c :: t))).isInfix

/-- A text that does not hold a mark is passed over, up to a character that the mark does not have. -/
theorem cut?_append_cons {mark s : Text} {c : Char} (hc : c ∉ mark) (hs : ¬ mark <:+: s) (t : Text) :
    cut? mark (s ++ c :: t) = (cut? mark t).map fun found => (s ++ c :: found.1, found.2) := by
  have hne : mark ≠ [] := by
    rintro rfl
    exact hs List.nil_infix
  induction s with
  | nil =>
      have hnone : after? mark (c :: t) = none := by
        cases mark with
        | nil => exact absurd rfl hne
        | cons m mark => exact if_neg (show ¬ m = c by rintro rfl; exact hc List.mem_cons_self)
      rw [List.nil_append, cut?, hnone]
      rfl
  | cons d s ih =>
      have hnone : after? mark (d :: (s ++ c :: t)) = none := by
        rw [Option.eq_none_iff_forall_ne_some]
        intro rest hrest
        have htext : (d :: s) ++ c :: t = mark ++ rest := after?_eq_some_iff.1 hrest
        rcases List.append_eq_append_iff.1 htext with ⟨more, hmark, hmore⟩ | ⟨more, hlong, -⟩
        · cases more with
          | nil => exact hs ⟨[], [], by simpa using hmark⟩
          | cons e more =>
              obtain ⟨rfl, -⟩ := List.cons.inj hmore
              exact hc (hmark ▸ by simp)
        · exact hs ⟨[], more, hlong.symm⟩
      have hrest : ¬ mark <:+: s := fun h => hs (h.trans (List.infix_cons (List.infix_refl s)))
      rw [List.cons_append, cut?, hnone]
      simp only [ih hrest, Option.map_map]
      rfl

theorem holds_append_cons {mark s : Text} {c : Char} (hc : c ∉ mark) (hs : ¬ mark <:+: s) (t : Text) :
    holds mark (s ++ c :: t) = holds mark t := by
  rw [holds, cut?_append_cons hc hs, Option.isSome_map, holds]

/-! ## Leftmost places -/

section
variable {α : Type} {found : Option Char → Text → Option α} {before : Option Char} {s : Text}

/-- The character before a place is the last one of the part before it. -/
theorem getLast?_cons_or (c : Char) (front : Text) :
    (c :: front).getLast?.or before = front.getLast?.or (some c) := by
  cases front <;> simp [List.getLast?_cons]

/-- **`first?` gives what is recognised at the leftmost place where anything is.** -/
theorem first?_eq_some_iff {a : α} :
    first? found before s = some a ↔
      ∃ front rest, s = front ++ rest ∧ found (front.getLast?.or before) rest = some a ∧
        ∀ front' rest', s = front' ++ rest' → front'.length < front.length →
          found (front'.getLast?.or before) rest' = none := by
  induction s generalizing before with
  | nil =>
      constructor
      · intro h
        exact ⟨[], [], rfl, h, fun _ _ _ hl => absurd hl (Nat.not_lt_zero _)⟩
      · rintro ⟨front, rest, he, hf, -⟩
        obtain ⟨rfl, rfl⟩ := List.append_eq_nil_iff.1 he.symm
        exact hf
  | cons c cs ih =>
      rw [first?]
      cases hc : found before (c :: cs) with
      | some b =>
          constructor
          · rintro h
            obtain rfl := Option.some.inj h
            exact ⟨[], c :: cs, rfl, hc, fun _ _ _ hl => absurd hl (Nat.not_lt_zero _)⟩
          · rintro ⟨front, rest, he, hf, hmin⟩
            cases front with
            | nil =>
                obtain rfl : c :: cs = rest := he
                exact hc.symm.trans hf
            | cons d front =>
                have := hmin [] (c :: cs) rfl (Nat.zero_lt_succ _)
                exact absurd (hc.symm.trans this) (Option.some_ne_none b)
      | none =>
          simp only [ih]
          constructor
          · rintro ⟨front, rest, rfl, hf, hmin⟩
            refine ⟨c :: front, rest, rfl, by rw [getLast?_cons_or]; exact hf, ?_⟩
            intro front' rest' he hl
            cases front' with
            | nil =>
                obtain rfl : _ = rest' := he
                exact hc
            | cons d front' =>
                obtain ⟨hd, ht⟩ := List.cons.inj he
                subst hd
                rw [getLast?_cons_or]
                exact hmin front' rest' ht (Nat.lt_of_succ_lt_succ hl)
          · rintro ⟨front, rest, he, hf, hmin⟩
            cases front with
            | nil =>
                obtain rfl : _ = rest := he
                exact absurd (hc.symm.trans hf) (Option.some_ne_none a).symm
            | cons d front =>
                obtain ⟨hd, ht⟩ := List.cons.inj he
                subst hd
                refine ⟨front, rest, ht, by rw [← getLast?_cons_or]; exact hf, ?_⟩
                intro front' rest' he' hl
                rw [← getLast?_cons_or]
                exact hmin (c :: front') rest' (by rw [he']; rfl) (Nat.succ_lt_succ hl)

/-- What is recognised at the start comes first. -/
theorem first?_of_found {a : α} (h : found before s = some a) : first? found before s = some a := by
  cases s with
  | nil => exact h
  | cons c s => rw [first?, h]

/-- `first?` finds nothing exactly when nothing is recognised at any place. -/
theorem first?_eq_none_iff :
    first? found before s = none ↔
      ∀ front rest, s = front ++ rest → found (front.getLast?.or before) rest = none := by
  induction s generalizing before with
  | nil =>
      constructor
      · intro h front rest he
        obtain ⟨rfl, rfl⟩ := List.append_eq_nil_iff.1 he.symm
        exact h
      · intro h
        exact h [] [] rfl
  | cons c cs ih =>
      rw [first?]
      constructor
      · intro h front rest he
        cases hc : found before (c :: cs) with
        | some b => simp [hc] at h
        | none =>
            simp only [hc] at h
            cases front with
            | nil =>
                obtain rfl : _ = rest := he
                exact hc
            | cons d front =>
                obtain ⟨hd, ht⟩ := List.cons.inj he
                subst hd
                rw [getLast?_cons_or]
                exact ih.1 h front rest ht
      · intro h
        have hc : found before (c :: cs) = none := h [] (c :: cs) rfl
        simp only [hc]
        refine ih.2 fun front rest he => ?_
        rw [← getLast?_cons_or]
        exact h (c :: front) rest (by rw [he]; rfl)

/-- `first?` finds something exactly when there is a place where something is recognised. -/
theorem first?_isSome_iff :
    (first? found before s).isSome = true ↔
      ∃ front rest, s = front ++ rest ∧
        (found (front.getLast?.or before) rest).isSome = true := by
  rw [← not_iff_not, Bool.not_eq_true, Option.isSome_eq_false_iff, Option.isNone_iff_eq_none,
    first?_eq_none_iff]
  push Not
  simp only [ne_eq, Bool.not_eq_true, Option.isSome_eq_false_iff, Option.isNone_iff_eq_none]

end

/-- `find?` gives what is recognised at the leftmost place where anything is. -/
theorem find?_eq_some_iff {α : Type} {found : Text → Option α} {s : Text} {a : α} :
    find? found s = some a ↔
      ∃ front rest, s = front ++ rest ∧ found rest = some a ∧
        ∀ front' rest', s = front' ++ rest' → front'.length < front.length →
          found rest' = none :=
  first?_eq_some_iff

/-- Behind `front` stands the leftmost of what may stand at a place. -/
structure Leftmost {α : Type} (stands : Text → α → Prop) (s front : Text) (a : α) : Prop where
  here : ∃ rest, s = front ++ rest ∧ stands rest a
  first : ∀ front' rest' a', s = front' ++ rest' → stands rest' a' → front.length ≤ front'.length

/-- `find?` gives the leftmost of what it recognises. -/
theorem find?_eq_some_iff_leftmost {α : Type} {found : Text → Option α} {stands : Text → α → Prop}
    (h : ∀ s a, found s = some a ↔ stands s a) {s : Text} {a : α} :
    find? found s = some a ↔ ∃ front, Leftmost stands s front a := by
  rw [find?_eq_some_iff]
  constructor
  · rintro ⟨front, rest, hs, hfound, hfirst⟩
    refine ⟨front, ⟨rest, hs, (h _ _).1 hfound⟩, fun front' rest' a' hs' hstands => ?_⟩
    by_contra hlt
    exact nomatch (hfirst front' rest' hs' (Nat.lt_of_not_le hlt)).symm.trans ((h _ _).2 hstands)
  · rintro ⟨front, ⟨rest, hs, hstands⟩, hfirst⟩
    refine ⟨front, rest, hs, (h _ _).2 hstands, fun front' rest' hs' hlt => ?_⟩
    rw [Option.eq_none_iff_forall_ne_some]
    intro a' hfound
    exact absurd hlt (Nat.not_lt.2 (hfirst front' rest' a' hs' ((h _ _).1 hfound)))

/-- What is recognised at the start comes first. -/
theorem find?_cons {α : Type} (found : Text → Option α) (c : Char) (s : Text) :
    find? found (c :: s) = (found (c :: s)).or (find? found s) := by
  have hsame (before : Option Char) (s : Text) :
      first? (fun _ rest => found rest) before s = first? (fun _ rest => found rest) none s := by
    cases s <;> rfl
  rw [find?, first?]
  cases found (c :: s) with
  | some a => rfl
  | none => exact hsame (some c) s

/-- A text is passed over if nothing is recognised where one of its characters stands. -/
theorem find?_append_of_forall {α : Type} {found : Text → Option α} {s : Text}
    (h : ∀ c ∈ s, ∀ rest, found (c :: rest) = none) (rest : Text) :
    find? found (s ++ rest) = find? found rest := by
  induction s with
  | nil => rfl
  | cons c s ih =>
      obtain ⟨hc, hs⟩ := List.forall_mem_cons.1 h
      rw [List.cons_append, find?_cons, hc, ih hs]
      rfl

/-- What wants a mark and is found at the first one is found first. -/
theorem first?_of_cut? {α : Type} {found : Option Char → Text → Option α} {before : Option Char}
    {mark s front rest : Text} {a : α} (h : cut? mark s = some (front, rest))
    (hnone : ∀ before s, after? mark s = none → found before s = none)
    (hsome : ∀ before, found before (mark ++ rest) = some a) : first? found before s = some a := by
  induction s generalizing before front with
  | nil =>
      obtain ⟨rest', hafter, he⟩ := Option.map_eq_some_iff.1 h
      obtain ⟨-, rfl⟩ := Prod.mk.inj he
      rw [first?, after?_eq_some_iff.1 hafter]
      exact hsome before
  | cons c s ih =>
      rw [cut?] at h
      rw [first?]
      cases hafter : after? mark (c :: s) with
      | some rest' =>
          simp only [hafter] at h
          obtain ⟨-, rfl⟩ := Prod.mk.inj (Option.some.inj h)
          rw [after?_eq_some_iff.1 hafter, hsome before]
      | none =>
          simp only [hafter] at h
          obtain ⟨⟨front', rest'⟩, hcut, he⟩ := Option.map_eq_some_iff.1 h
          obtain ⟨-, rfl⟩ := Prod.mk.inj he
          rw [hnone before _ hafter]
          exact ih hcut

/-! ## Replacing -/

theorem replaceFirst_of_not_infix {mark s : Text} (h : ¬ mark <:+: s) (new : Text) :
    replaceFirst mark new s = s := by
  rw [replaceFirst, cut?_eq_none_iff.2 h]

theorem mem_of_mem_replaceFirst {mark new s : Text} {c : Char} (h : c ∈ replaceFirst mark new s) :
    c ∈ new ∨ c ∈ s := by
  unfold replaceFirst at h
  split at h
  · next front rest hcut =>
      rw [eq_of_cut?_eq_some hcut]
      simp only [List.mem_append] at h ⊢
      tauto
  · exact Or.inr h

/-- A text that does not hold a mark is kept, up to a character that the mark does not have. -/
theorem replaceFirst_append_cons {mark s : Text} {c : Char} (hc : c ∉ mark) (hs : ¬ mark <:+: s)
    (new t : Text) : replaceFirst mark new (s ++ c :: t) = s ++ c :: replaceFirst mark new t := by
  rw [replaceFirst, cut?_append_cons hc hs, replaceFirst]
  cases cut? mark t <;> simp

/-- A text is kept if nothing is recognised where one of its characters stands. -/
theorem replaceAll_append_of_forall {found : Text → Option (Text × Text)} {s : Text}
    (h : ∀ c ∈ s, ∀ rest, found (c :: rest) = none) (rest : Text) :
    replaceAll found (s ++ rest) = s ++ replaceAll found rest := by
  induction s with
  | nil => rfl
  | cons c s ih =>
      obtain ⟨hc, hs⟩ := List.forall_mem_cons.1 h
      rw [List.cons_append, replaceAll_of_not_found (hc _), ih hs]
      rfl

end ApiScan.Text
