import ApiScan.Proofs.Model.Layout
import ApiScan.Proofs.Source.Block
import ApiScan.Proofs.Source.Segment

set_option autoImplicit false

/-! # Blocks with comments in them

Braces are counted in comments too. A block is still read to the same end as without its comments if it
opens in the code and the braces of each comment in it nest: then a comment leaves the count as it
found it and never closes the block. What is read differs in comments of the block only, and removing
them leaves the same. -/

namespace ApiScan.Source

open Text DocumentSchema

variable {segments more : List Segment} {segment : Segment} {owed : Int} {depth : Nat}
  {s rest left : Text} {done : Text → List Segment → Prop}

/-! ## Counting braces -/

/-- A block ends in the first part of a text, or it goes on with what is owed behind that part. -/
theorem blockBody?_append (owed : Int) (s rest : Text) :
    blockBody? owed (s ++ rest)
      = match blockBody? owed s with
        | some (body, left) => some (body, left ++ rest)
        | none => (blockBody? (owed + braces s) rest).map fun found => (s ++ found.1, found.2) := by
  induction s generalizing owed with
  | nil => simp [blockBody?, braces]
  | cons c s ih =>
      rw [List.cons_append, blockBody?, blockBody?]
      split
      · rfl
      · rw [ih, braces_cons, ← Int.add_assoc]
        cases blockBody? (owed + braceStep c) s with
        | some found => rfl
        | none => simp [Option.map_map, Function.comp_def]

/-- A block that does not end stays open. -/
theorem owed_pos (howed : 0 < owed) (h : blockBody? owed s = none) : 0 < owed + braces s := by
  induction s generalizing owed with
  | nil => simpa [braces] using howed
  | cons c s ih =>
      rw [blockBody?] at h
      split at h
      · cases h
      · next hne =>
          have hstep : -1 ≤ braceStep c := by
            unfold braceStep
            split <;> [decide; split <;> decide]
          have hpos : 0 < owed + braceStep c := by omega
          have := ih hpos (Option.map_eq_none_iff.1 h)
          rw [braces_cons]
          omega

/-- Every brace that a text opens is closed in it and the other way round, in a place where `depth`
    braces of it are open. -/
def Nested (depth : Nat) : Text → Prop
  | [] => depth = 0
  | c :: s =>
    if c = '{' then Nested (depth + 1) s
    else if c = '}' then 0 < depth ∧ Nested (depth - 1) s
    else Nested depth s

instance decidableNested : (depth : Nat) → (s : Text) → Decidable (Nested depth s)
  | depth, [] => inferInstanceAs (Decidable (depth = 0))
  | depth, c :: s =>
    have := decidableNested (depth + 1) s
    have := decidableNested (depth - 1) s
    have := decidableNested depth s
    inferInstanceAs (Decidable (if c = '{' then Nested (depth + 1) s
      else if c = '}' then 0 < depth ∧ Nested (depth - 1) s else Nested depth s))

theorem blockBody?_nested (howed : 0 < owed) (h : Nested depth s) (rest : Text) :
    blockBody? (owed + depth) (s ++ rest)
      = (blockBody? owed rest).map fun found => (s ++ found.1, found.2) := by
  induction s generalizing depth with
  | nil =>
      obtain rfl : depth = 0 := h
      simp
  | cons c s ih =>
      have hstep (next : Nat) (hnext : Nested next s)
          (hcount : owed + depth + braceStep c = owed + next) :
          blockBody? (owed + depth) (c :: s ++ rest)
            = (blockBody? owed rest).map fun found => (c :: s ++ found.1, found.2) := by
        rw [List.cons_append, blockBody?, hcount, if_neg (by omega), ih hnext, Option.map_map]
        rfl
      unfold Nested at h
      split at h
      · next hopen =>
          refine hstep (depth + 1) h ?_
          rw [braceStep, if_pos hopen]
          omega
      · next hopen =>
          split at h
          · next hclose =>
              refine hstep (depth - 1) h.2 ?_
              rw [braceStep, if_neg hopen, if_pos hclose]
              omega
          · next hclose =>
              refine hstep depth h ?_
              rw [braceStep, if_neg hopen, if_neg hclose, Int.add_zero]

theorem Nested.balanced (h : Nested 0 s) : Balanced s := by
  intro owed rest howed
  have hall := blockBody?_nested howed h rest
  rwa [Int.natCast_zero, Int.add_zero] at hall

/-! ## Blocks in segments -/

/-- A block in which `owed` braces are still to be closed: the braces of each comment in it nest. What
    is asked of the place behind it is `done`. -/
def Steady (done : Text → List Segment → Prop) (owed : Int) : List Segment → Prop
  | [] => True
  | segment :: more =>
    if segment.isComment then Nested 0 segment.text ∧ Steady done owed more
    else (∀ found ∈ blockBody? owed segment.text, done found.2 more) ∧
      (blockBody? owed segment.text = none → Steady done (owed + braces segment.text) more)

/-- The first brace of segments, if there is one, is of the code and opens a steady block. -/
def OpensInCode (done : Text → List Segment → Prop) : List Segment → Prop
  | [] => True
  | segment :: more =>
    if segment.text = ['{'] then Steady done 1 more
    else NoBrace segment.text ∧ OpensInCode done more

instance decidableSteady [∀ left more, Decidable (done left more)] :
    (owed : Int) → (segments : List Segment) → Decidable (Steady done owed segments)
  | _, [] => .isTrue trivial
  | owed, segment :: more =>
    have : Decidable (Steady done owed more) := decidableSteady owed more
    have : Decidable (Steady done (owed + braces segment.text) more) := decidableSteady _ more
    inferInstanceAs (Decidable (if segment.isComment then Nested 0 segment.text ∧ Steady done owed more
      else (∀ found ∈ blockBody? owed segment.text, done found.2 more) ∧
        (blockBody? owed segment.text = none → Steady done (owed + braces segment.text) more)))

instance decidableOpensInCode [∀ left more, Decidable (done left more)] :
    (segments : List Segment) → Decidable (OpensInCode done segments)
  | [] => .isTrue trivial
  | segment :: more =>
    have : Decidable (OpensInCode done more) := decidableOpensInCode more
    inferInstanceAs (Decidable (if segment.text = ['{'] then Steady done 1 more
      else NoBrace segment.text ∧ OpensInCode done more))

/-- **A steady block ends at the same place without its comments.** -/
theorem blockBody?_steady (howed : 0 < owed) (h : Steady done owed segments) :
    blockBody? owed (textOf segments) = none ∧ blockBody? owed (textOf (bare segments)) = none ∨
      ∃ front segment more body left, segments = front ++ segment :: more ∧
        segment.isComment = false ∧ segment.text = body ++ left ∧ body ≠ [] ∧ done left more ∧
        blockBody? owed (textOf segments) = some (textOf front ++ body, left ++ textOf more) ∧
        blockBody? owed (textOf (bare segments))
          = some (textOf (bare front) ++ body, left ++ textOf (bare more)) := by
  induction segments generalizing owed with
  | nil => exact Or.inl ⟨rfl, rfl⟩
  | cons segment more ih =>
      unfold Steady at h
      cases hcomment : segment.isComment with
      | true =>
          -- as many braces are owed behind the comment as in front of it
          rw [if_pos hcomment] at h
          rw [bare_cons_of_comment hcomment, textOf_cons, h.1.balanced owed _ howed]
          rcases ih howed h.2 with ⟨hwhole, hcode⟩ |
            ⟨front, last, after, body, left, rfl, hlast, htext, hne, hdone, hwhole, hcode⟩
          · exact Or.inl ⟨by rw [hwhole]; rfl, hcode⟩
          · refine Or.inr ⟨segment :: front, last, after, body, left, rfl, hlast, htext, hne, hdone, ?_, ?_⟩
            · rw [hwhole]
              simp
            · rw [hcode, bare_cons_of_comment hcomment]
      | false =>
          rw [hcomment, if_neg Bool.false_ne_true] at h
          rw [bare_cons_of_code hcomment, textOf_cons, textOf_cons, blockBody?_append, blockBody?_append]
          cases hbody : blockBody? owed segment.text with
          | some found =>
              obtain ⟨htext, hne⟩ := eq_of_blockBody? hbody
              exact Or.inr ⟨[], segment, more, found.1, found.2, rfl, hcomment, htext, hne,
                h.1 found hbody, rfl, rfl⟩
          | none =>
              rcases ih (owed_pos howed hbody) (h.2 hbody) with ⟨hwhole, hcode⟩ |
                ⟨front, last, after, body, left, rfl, hlast, htext, hne, hdone, hwhole, hcode⟩
              · exact Or.inl ⟨by rw [hwhole]; rfl, by rw [hcode]; rfl⟩
              · refine Or.inr
                  ⟨segment :: front, last, after, body, left, rfl, hlast, htext, hne, hdone, ?_, ?_⟩
                · rw [hwhole]
                  simp
                · rw [hcode, bare_cons_of_code hcomment]
                  simp

/-- What is read of a block with its comments and without them: nothing, or the same but for comments,
    and both readings go on behind it at one place. -/
def SameBlock (done : Text → List Segment → Prop) (whole code : Option (Text × Text)) : Prop :=
  whole = none ∧ code = none ∨
    ∃ block bareBlock left more, whole = some (block, left ++ textOf more) ∧
      code = some (bareBlock, left ++ textOf (bare more)) ∧
      stripComments block = stripComments bareBlock ∧ Fitting more ∧ done left more

theorem sameBlock_cons (hopening : segment.text = ['{']) (hfit : Fitting (segment :: more))
    (h : Steady done 1 more) :
    SameBlock done (blockFrom? 0 (textOf (segment :: more)))
      (blockFrom? 0 (textOf (bare (segment :: more)))) := by
  have hcode : segment.isComment = false := by
    rw [Bool.eq_false_iff]
    intro hcomment
    have hhead := segment.head?_text hcomment
    rw [hopening] at hhead
    exact absurd hhead (by decide)
  have hblock (rest : Text) :
      blockFrom? 0 ('{' :: rest) = (blockBody? 1 rest).map fun found => ('{' :: found.1, found.2) := by
    rw [blockFrom?, blockBody?]
    exact if_neg (by decide)
  rw [bare_cons_of_code hcode, textOf_cons, textOf_cons, hopening, List.singleton_append,
    List.singleton_append, hblock, hblock]
  rcases blockBody?_steady Int.one_pos h with ⟨hwhole, hbare⟩ |
    ⟨front, last, after, body, left, rfl, hlast, htext, hne, hdone, hwhole, hbare⟩
  · exact Or.inl ⟨by rw [hwhole]; rfl, by rw [hbare]; rfl⟩
  · refine Or.inr ⟨'{' :: (textOf front ++ body), '{' :: (textOf (bare front) ++ body), left, after,
      by rw [hwhole]; rfl, by rw [hbare]; rfl, ?_, ?_, hdone⟩
    · -- the block is cut inside its last segment, which is code: what is left of it starts alike
      have hhead (more : List Segment) : body.head? = (textOf (last :: more)).head? := by
        obtain ⟨c, tail, rfl⟩ := List.exists_cons_of_ne_nil hne
        rw [textOf_cons, htext]
        rfl
      have hwhole : stripComments (textOf (segment :: front) ++ body)
          = textOf (bare (segment :: front)) ++ stripComments body :=
        stripComments_textOf_append hfit (hhead after)
      have hfit' := fitting_bare hfit
      rw [← List.cons_append, bare_append, bare_cons_of_code hlast] at hfit'
      have hbare := stripComments_textOf_append hfit' (hhead (bare after))
      rw [bare_bare, ← hwhole, bare_cons_of_code hcode, textOf_cons, textOf_cons, hopening] at hbare
      exact hbare.symm
    · have hlast : Fitting (last :: after) :=
        fitting_of_append (show Fitting ((segment :: front) ++ last :: after) from hfit)
      exact hlast.2

/-- **A block that opens in the code is read the same** but for its comments. -/
theorem sameBlock_of_opensInCode (hfit : Fitting segments) (h : OpensInCode done segments) :
    SameBlock done (blockFrom? 0 (textOf segments)) (blockFrom? 0 (textOf (bare segments))) := by
  induction segments with
  | nil => exact Or.inl ⟨rfl, rfl⟩
  | cons segment more ih =>
      unfold OpensInCode at h
      split at h
      · next hopening => exact sameBlock_cons hopening hfit h
      · rw [textOf_cons, blockFrom?_noBrace h.1]
        cases hcomment : segment.isComment with
        | true =>
            rw [bare_cons_of_comment hcomment]
            exact ih hfit.2 h.2
        | false =>
            rw [bare_cons_of_code hcomment, textOf_cons, blockFrom?_noBrace h.1]
            exact ih hfit.2 h.2

end ApiScan.Source
