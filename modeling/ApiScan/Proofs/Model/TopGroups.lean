import ApiScan.Model.DocumentSchema
import ApiScan.Proofs.Model.ColumnArguments
import ApiScan.Proofs.Model.Layout

set_option autoImplicit false

/-! # One group on each line

A block is laid out by its depth: how many groups are open at a place, not counting the block itself.
Where the braces of the block nest, the depth is by how many braces have been opened more than closed,
so a line ends exactly behind each group that is at the top. Nothing but line breaks is added. -/

namespace ApiScan.DocumentSchema

open Text Source
open ColumnTable (Nested)

variable {s body front : Text} {depth : Nat}

/-! ## What is added -/

theorem filter_breakGroups (depth : Nat) (s : Text) :
    (breakGroups depth s).filter (· ≠ '\n') = s.filter (· ≠ '\n') := by
  fun_induction breakGroups depth s with
  | case1 => rfl
  | case2 depth cs ih => rw [List.filter_cons, List.filter_cons, ih]
  | case3 depth c cs _ _ ih =>
      rw [List.filter_cons, List.filter_cons_of_neg (by decide), List.filter_cons, ih]
  | case4 depth cs _ _ ih => rw [List.filter_cons, List.filter_cons, ih]
  | case5 depth c cs _ _ _ ih => rw [List.filter_cons, List.filter_cons, ih]

/-- Only line breaks are added. -/
theorem filter_reflow (s : Text) : (reflow s).filter (· ≠ '\n') = s.filter (· ≠ '\n') := by
  unfold reflow
  split
  · next cs =>
      rw [List.filter_cons, List.filter_cons_of_neg (by decide), List.filter_cons, filter_breakGroups]
  · exact filter_breakGroups 0 s

theorem flatten_lines_reflow (hbreak : '\n' ∉ s) : (lines (reflow s)).flatten = s := by
  rw [lines, flatten_pieces]
  calc (reflow s).filter (fun c => !decide (c = '\n'))
      = s.filter (· ≠ '\n') := by simpa using filter_reflow s
    _ = s := List.filter_eq_self.2 fun c hc => decide_eq_true fun he => hbreak (he ▸ hc)

/-! ## Nested braces -/

/-- Where `owed` braces are still to be closed, a text closes none that is not open. -/
def Opened (owed : Int) (s : Text) : Prop := ∀ front, front <+: s → 0 ≤ owed + braces front

theorem Opened.nonneg {owed : Int} (h : Opened owed s) : 0 ≤ owed := by
  simpa [braces] using h [] List.nil_prefix

theorem opened_append {owed : Int} {t : Text} :
    Opened owed (s ++ t) ↔ Opened owed s ∧ Opened (owed + braces s) t := by
  constructor
  · intro h
    refine ⟨fun front hfront => h front (hfront.trans (List.prefix_append s t)), fun front hfront => ?_⟩
    have := h (s ++ front) ((List.prefix_append_right_inj s).2 hfront)
    rwa [braces_append, ← Int.add_assoc] at this
  · rintro ⟨hs, ht⟩ front hfront
    rcases List.prefix_or_prefix_of_prefix hfront (List.prefix_append s t) with hshort | ⟨more, rfl⟩
    · exact hs front hshort
    · rw [braces_append, ← Int.add_assoc]
      exact ht more ((List.prefix_append_right_inj s).1 hfront)

theorem opened_cons {owed : Int} {c : Char} :
    Opened owed (c :: s) ↔ 0 ≤ owed ∧ Opened (owed + braceStep c) s := by
  have hsingle : braces [c] = braceStep c := Int.add_zero _
  rw [← List.singleton_append, opened_append, hsingle]
  refine and_congr_left fun hs => ⟨Opened.nonneg, fun howed front hfront => ?_⟩
  rcases List.prefix_cons_iff.1 hfront with rfl | ⟨more, rfl, hmore⟩
  · simpa [braces] using howed
  · rw [List.prefix_nil.1 hmore, hsingle]
    exact hs.nonneg

theorem NoBrace.braces_eq_zero (h : NoBrace s) : braces s = 0 :=
  Source.braces_eq_zero (fun hc => (h _ hc).1 rfl) fun hc => (h _ hc).2 rfl

theorem NoBrace.opened {owed : Int} (h : NoBrace s) (howed : 0 ≤ owed) : Opened owed s := by
  intro front hfront
  have hnone : NoBrace front := fun c hc => h c (hfront.subset hc)
  rw [hnone.braces_eq_zero, Int.add_zero]
  exact howed

theorem nested_iff : Nested s ↔ braces s = 0 ∧ Opened 0 s := by
  constructor
  · rintro ⟨hopened, hclosed⟩
    refine ⟨by rw [braces_eq]; omega, fun front hfront => ?_⟩
    have := hopened front hfront
    rw [braces_eq]
    omega
  · rintro ⟨hzero, hopened⟩
    refine ⟨fun front hfront => ?_, by rw [braces_eq] at hzero; omega⟩
    have := hopened front hfront
    rw [braces_eq] at this
    omega

/-! ## Groups -/

/-- A group at the top, with the text in front of it. -/
structure Group where
  lead : Text
  inner : Text
  noBrace : NoBrace lead
  nested : Nested inner

/-- The text in front of the group, and the group up to the brace that closes it. -/
def Group.text (group : Group) : Text := group.lead ++ '{' :: (group.inner ++ ['}'])

/-- What stands between the braces of a block: groups at the top, and text without braces. -/
structure Groups where
  groups : List Group
  tail : Text
  noBrace : NoBrace tail

/-- The text of each group. -/
def Groups.lines (body : Groups) : List Text := body.groups.map Group.text

def Groups.text (body : Groups) : Text := body.lines.flatten ++ body.tail

theorem Group.nested_text (group : Group) : Nested group.text := by
  obtain ⟨hinner, hopened⟩ := nested_iff.1 group.nested
  have hlead := group.noBrace.braces_eq_zero
  rw [nested_iff, text, braces_append, braces_cons, braces_append, opened_append, opened_cons,
    opened_append, hlead, hinner]
  refine ⟨rfl, group.noBrace.opened (Int.le_refl 0), Int.le_refl 0, fun front hfront => ?_, ?_⟩
  · have := hopened front hfront
    rw [braceStep, if_pos rfl]
    omega
  · exact opened_cons.2 ⟨by decide, fun front hfront => by rw [List.prefix_nil.1 hfront]; decide⟩

/-- A group that is opened is closed, and what is behind it nests like what is in front. -/
theorem exists_closed {more : Text} (h : Nested ('{' :: more)) :
    ∃ inner behind, more = inner ++ '}' :: behind ∧ Nested inner ∧ Nested behind := by
  obtain ⟨hzero, hopened⟩ := nested_iff.1 h
  rw [braces_cons, braceStep, if_pos rfl] at hzero
  cases hblock : blockBody? 1 more with
  | none =>
      have hne : more ≠ [] := by
        rintro rfl
        exact absurd hzero (by decide)
      exact absurd hzero (blockBody?_eq_none_iff.1 hblock more (List.prefix_refl more) hne)
  | some found =>
      obtain ⟨closed, behind⟩ := found
      obtain ⟨rfl, hclosing⟩ := blockBody?_eq_some_iff.1 hblock
      -- the count stays above zero up to the brace that closes the group
      obtain ⟨habove, c, hlast, hstep⟩ := hclosing.stays (Or.inl rfl) (by decide)
      have hbrace : c = '}' := by
        unfold braceStep at hstep
        split at hstep
        · exact absurd hstep (by decide)
        · split at hstep
          · assumption
          · exact absurd hstep (by decide)
      subst hbrace
      obtain ⟨inner, rfl⟩ := List.getLast?_eq_some_iff.1 hlast
      have hpaid := hclosing.paid
      have hclose : braces ['}'] = -1 := rfl
      rw [braces_append, hclose] at hpaid
      have hinner : braces inner = 0 := by omega
      rw [opened_cons, opened_append, braces_append, hclose, hinner] at hopened
      rw [braces_append, braces_append, hclose, hinner] at hzero
      refine ⟨inner, behind, by simp, nested_iff.2 ⟨hinner, fun front hfront => ?_⟩,
        nested_iff.2 ⟨by omega, hopened.2.2⟩⟩
      have hshort : front ≠ inner ++ ['}'] := by
        rintro rfl
        have := hfront.length_le
        rw [List.length_append, List.length_singleton] at this
        omega
      have := habove front (hfront.trans (List.prefix_append inner ['}'])) hshort
      omega

/-- **Nested text is in groups.** -/
theorem exists_groups (h : Nested body) : ∃ groups : Groups, body = groups.text := by
  induction hlength : body.length using Nat.strong_induction_on generalizing body with
  | _ n ih =>
      obtain ⟨hzero, hopened⟩ := nested_iff.1 h
      obtain ⟨lead, rest, rfl, hlead, hrest⟩ := exists_gap body
      rw [opened_append] at hopened
      rw [braces_append] at hzero
      -- no brace can be closed in front of the first one that is opened
      have hnone : NoBrace lead := by
        have hclosed := hopened.1 lead (List.prefix_refl lead)
        rw [braces_eq, List.count_eq_zero.2 hlead] at hclosed
        have hcount : lead.count '}' = 0 := by omega
        exact fun c hc => ⟨fun he => hlead (he ▸ hc), fun he => List.count_eq_zero.1 hcount (he ▸ hc)⟩
      rw [hnone.braces_eq_zero, Int.zero_add] at hzero hopened
      rcases hrest with rfl | hhead
      · exact ⟨⟨[], lead, hnone⟩, List.append_nil lead⟩
      · obtain ⟨more, rfl⟩ := List.head?_eq_some_iff.1 hhead
        obtain ⟨inner, behind, rfl, hinner, hbehind⟩ := exists_closed (nested_iff.2 ⟨hzero, hopened.2⟩)
        have hshort : behind.length < n := by
          rw [← hlength]
          simp only [List.length_append, List.length_cons]
          omega
        obtain ⟨groups, rfl⟩ := ih _ hshort hbehind rfl
        refine ⟨⟨⟨lead, inner, hnone, hinner⟩ :: groups.groups, groups.tail, groups.noBrace⟩, ?_⟩
        simp [Groups.text, Groups.lines, Group.text]

/-! ## Lines -/

/-- Inside a group the depth goes with the braces, and no line ends. -/
theorem breakGroups_opened (h : Opened depth s) (rest : Text) :
    breakGroups (depth + 1) (s ++ rest)
      = s ++ breakGroups ((depth + braces s).toNat + 1) rest := by
  induction s generalizing depth with
  | nil => simp [braces]
  | cons c s ih =>
      obtain ⟨-, hs⟩ := opened_cons.1 h
      rw [List.cons_append, breakGroups, braces_cons, ← Int.add_assoc]
      by_cases hopen : c = '{'
      · have hstep : (depth : Int) + braceStep c = (depth + 1 : Nat) := by
          rw [braceStep, if_pos hopen]
          rfl
        rw [if_pos hopen, hstep, ih (hstep ▸ hs), hopen, List.cons_append]
      · by_cases hclose : c = '}'
        · have hpos := hs.nonneg
          have hminus : braceStep c = -1 := by rw [hclose]; rfl
          rw [hminus] at hpos hs ⊢
          obtain ⟨outer, rfl⟩ : ∃ outer, depth = outer + 1 := ⟨depth - 1, by omega⟩
          have hstep : ((outer + 1 : Nat) : Int) + -1 = outer := by omega
          rw [hstep] at hs ⊢
          rw [if_neg hopen, if_neg (by omega), if_pos hclose, Nat.add_sub_cancel, ih hs,
            List.cons_append]
        · have hstep : braceStep c = 0 := by rw [braceStep, if_neg hopen, if_neg hclose]
          rw [hstep, Int.add_zero] at hs ⊢
          rw [if_neg hopen, if_neg (by tauto), if_neg hclose, ih hs, List.cons_append]

/-- A line ends behind a group at the top. -/
theorem breakGroups_text (group : Group) (rest : Text) :
    breakGroups 0 (group.text ++ rest) = group.text ++ '\n' :: breakGroups 0 rest := by
  obtain ⟨hzero, hopened⟩ := nested_iff.1 group.nested
  have hinner : breakGroups 1 (group.inner ++ '}' :: rest)
      = group.inner ++ breakGroups 1 ('}' :: rest) := by
    have h := breakGroups_opened hopened ('}' :: rest)
    rwa [hzero] at h
  calc breakGroups 0 (group.text ++ rest)
      = breakGroups 0 (group.lead ++ '{' :: (group.inner ++ '}' :: rest)) := by simp [Group.text]
    _ = group.lead ++ '{' :: breakGroups 1 (group.inner ++ '}' :: rest) := by
        rw [breakGroups_of_noBrace group.noBrace, breakGroups, if_pos rfl]
    _ = group.lead ++ '{' :: (group.inner ++ breakGroups 1 ('}' :: rest)) :=
        congrArg (fun s => group.lead ++ '{' :: s) hinner
    _ = group.text ++ '\n' :: breakGroups 0 rest := by
        rw [breakGroups, if_neg (by decide), if_pos ⟨rfl, rfl⟩]
        simp [Group.text]

theorem lines_breakGroups_text (groups : List Group) {tail : Text} (htail : NoBrace tail)
    (hbreak : '\n' ∉ (groups.map Group.text).flatten ++ tail) :
    lines (breakGroups 0 ((groups.map Group.text).flatten ++ tail ++ ['}']))
      = groups.map Group.text ++ [tail ++ ['}']] := by
  induction groups with
  | nil =>
      have hlast : breakGroups 0 (tail ++ ['}']) = tail ++ ['}'] := breakGroups_of_noBrace htail ['}']
      have hline : '\n' ∉ tail ++ ['}'] := by simpa using hbreak
      show lines (breakGroups 0 (tail ++ ['}'])) = [tail ++ ['}']]
      rw [hlast, lines_of_not_mem hline]
  | cons group groups ih =>
      rw [List.map_cons, List.flatten_cons, List.append_assoc] at hbreak ⊢
      rw [List.mem_append, not_or] at hbreak
      rw [List.append_assoc, breakGroups_text, lines_append_cons hbreak.1, ← List.append_assoc,
        ih hbreak.2]
      rfl

/-- **A block is laid out with one group at the top on each line.** The lines of a layout are the text
    again. Those of a block whose braces nest are its opening brace, the text of each group up to the
    brace that closes it, and what is left, up to the brace that closes the block. -/
theorem lines_reflow (hbreak : '\n' ∉ s) :
    (lines (reflow s)).flatten = s
      ∧ ∀ body, s = '{' :: (body ++ ['}']) → Nested body →
          (∃ groups : Groups, body = groups.text)
            ∧ ∀ groups : Groups, body = groups.text →
              lines (reflow s) = ['{'] :: (groups.lines ++ [groups.tail ++ ['}']])
                ∧ (∀ line ∈ groups.lines, Nested line) ∧ '{' ∉ groups.tail ++ ['}'] := by
  refine ⟨flatten_lines_reflow hbreak, ?_⟩
  rintro body rfl hnested
  refine ⟨exists_groups hnested, ?_⟩
  rintro ⟨groups, tail, htail⟩ rfl
  refine ⟨?_, fun line hline => ?_, ?_⟩
  · have hbody : '\n' ∉ (groups.map Group.text).flatten ++ tail := by
      simpa [Groups.text, Groups.lines] using hbreak
    show lines ('{' :: '\n' :: breakGroups 0 _) = _
    rw [← List.singleton_append, lines_append_cons (by decide)]
    exact congrArg (['{'] :: ·) (lines_breakGroups_text groups htail hbody)
  · obtain ⟨group, -, rfl⟩ := List.mem_map.1 hline
    exact group.nested_text
  · intro hopen
    have hmem : '{' ∈ tail := by simpa using hopen
    exact (htail _ hmem).1 rfl

/-- Two fields, one of them with groups inside. -/
def addressBody : Groups where
  groups := [
    ⟨" name: ".toList, " type: String ".toList, by decide, by decide⟩,
    ⟨", address: ".toList, " city: \x7b type: String \x7d, at: \x7b \x7d ".toList, by decide, by decide⟩]
  tail := ", age: Number ".toList
  noBrace := by decide

/-- The inner groups stay on the line of their field. -/
theorem lines_reflow_addressBody :
    '\n' ∉ '{' :: (addressBody.text ++ ['}']) ∧ Nested addressBody.text
      ∧ lines (reflow ('{' :: (addressBody.text ++ ['}'])))
        = ["\x7b", " name: \x7b type: String \x7d",
            ", address: \x7b city: \x7b type: String \x7d, at: \x7b \x7d \x7d",
            ", age: Number \x7d"].map String.toList := by
  have hbreak : '\n' ∉ '{' :: (addressBody.text ++ ['}']) := by decide
  have hnested : Nested addressBody.text := by decide +kernel
  obtain ⟨-, hblock⟩ := lines_reflow hbreak
  exact ⟨hbreak, hnested, ((hblock _ rfl hnested).2 addressBody rfl).1⟩

end ApiScan.DocumentSchema
