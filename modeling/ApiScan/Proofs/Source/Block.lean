import ApiScan.Proofs.Text.Search
import ApiScan.Source.Block

set_option autoImplicit false

/-! # Which block is found

The braces behind a mark are counted, and the block ends where the count comes back to zero. Behind a
mark without braces the block is the shortest part of the text that closes as many braces as it opens,
so it is open everywhere in between. A brace that is closed in front of the block is counted, too: the
block has to make up for it and then ends with a brace that it opens. -/

namespace ApiScan.Source

open Text

variable {mark front gap s block after body rest : Text} {owed : Int}

/-! ## Counting braces -/

/-- By how many the opening braces of a text outnumber the closing ones. -/
def braces : Text → Int
  | [] => 0
  | c :: s => braceStep c + braces s

theorem braces_cons (c : Char) (s : Text) : braces (c :: s) = braceStep c + braces s := rfl

theorem braceStep_eq (c : Char) : braceStep c = ([c].count '{' : Int) - [c].count '}' := by
  unfold braceStep
  by_cases hopen : c = '{'
  · subst hopen
    rfl
  · by_cases hclose : c = '}'
    · subst hclose
      rfl
    · simp [hopen, hclose]

theorem braces_eq (s : Text) : braces s = (s.count '{' : Int) - s.count '}' := by
  induction s with
  | nil => rfl
  | cons c s ih =>
      have hcount (d : Char) : (c :: s).count d = [c].count d + s.count d := by
        rw [← List.count_append, List.singleton_append]
      rw [braces_cons, braceStep_eq, ih, hcount, hcount]
      omega

theorem braces_append (s t : Text) : braces (s ++ t) = braces s + braces t := by
  rw [braces_eq, braces_eq, braces_eq, List.count_append, List.count_append]
  omega

theorem braces_eq_zero (hopen : '{' ∉ s) (hclose : '}' ∉ s) : braces s = 0 := by
  rw [braces_eq, List.count_eq_zero.2 hopen, List.count_eq_zero.2 hclose]
  rfl

/-! ## Where a block ends -/

/-- A text pays back what is owed in front of it, and no shorter part of its front does. -/
structure Closing (owed : Int) (body : Text) : Prop where
  ne_nil : body ≠ []
  paid : owed + braces body = 0
  unpaid : ∀ front, front <+: body → front ≠ [] → front ≠ body → owed + braces front ≠ 0

theorem closing_cons {c : Char} :
    Closing owed (c :: body) ↔
      if owed + braceStep c = 0 then body = [] else Closing (owed + braceStep c) body := by
  constructor
  · intro h
    split
    · next hzero =>
        by_contra hne
        refine h.unpaid [c] (List.prefix_append [c] body) (List.cons_ne_nil c []) (by simpa using hne) ?_
        rwa [braces_cons, braces, Int.add_zero]
    · next hstep =>
        have hpaid := h.paid
        rw [braces_cons, ← Int.add_assoc] at hpaid
        refine ⟨fun hnil => hstep ?_, hpaid, fun front hfront hne hshort => ?_⟩
        · rwa [hnil, braces, Int.add_zero] at hpaid
        · have hunpaid := h.unpaid (c :: front) ((List.prefix_cons_inj c).2 hfront)
            (List.cons_ne_nil c front) (by simpa using hshort)
          rwa [braces_cons, ← Int.add_assoc] at hunpaid
  · intro h
    split at h
    · next hzero =>
        subst h
        refine ⟨List.cons_ne_nil c [], by rwa [braces_cons, braces, Int.add_zero], ?_⟩
        intro front hfront hne hshort
        obtain rfl | ⟨more, rfl, hmore⟩ := List.prefix_cons_iff.1 hfront
        · exact absurd rfl hne
        · exact absurd (by rw [List.prefix_nil.1 hmore]) hshort
    · next hstep =>
        refine ⟨List.cons_ne_nil c body, by rw [braces_cons, ← Int.add_assoc, h.paid], ?_⟩
        intro front hfront hne hshort
        obtain rfl | ⟨more, rfl, hmore⟩ := List.prefix_cons_iff.1 hfront
        · exact absurd rfl hne
        · rw [braces_cons, ← Int.add_assoc]
          by_cases hnil : more = []
          · rwa [hnil, braces, Int.add_zero]
          · exact h.unpaid more hmore hnil fun he => hshort (congrArg (c :: ·) he)

/-- **A block ends where what is owed is paid back for the first time.** -/
theorem blockBody?_eq_some_iff :
    blockBody? owed s = some (body, rest) ↔ s = body ++ rest ∧ Closing owed body := by
  induction s generalizing owed body with
  | nil =>
      refine iff_of_false nofun ?_
      rintro ⟨hs, hclosing⟩
      exact hclosing.ne_nil (List.append_eq_nil_iff.1 hs.symm).1
  | cons c s ih =>
      rw [blockBody?]
      cases body with
      | nil =>
          refine iff_of_false ?_ fun h => h.2.ne_nil rfl
          split <;> simp
      | cons d body =>
          rw [List.cons_append, List.cons.injEq]
          split
          · next hzero =>
              constructor
              · intro h
                obtain ⟨he, rfl⟩ := Prod.mk.inj (Option.some.inj h)
                obtain ⟨rfl, rfl⟩ := List.cons.inj he
                exact ⟨⟨rfl, rfl⟩, closing_cons.2 (by rw [if_pos hzero])⟩
              · rintro ⟨⟨rfl, rfl⟩, hclosing⟩
                rw [closing_cons, if_pos hzero] at hclosing
                rw [hclosing]
                rfl
          · next hstep =>
              rw [Option.map_eq_some_iff]
              constructor
              · rintro ⟨⟨found, left⟩, hfound, he⟩
                obtain ⟨hbody, rfl⟩ := Prod.mk.inj he
                obtain ⟨rfl, rfl⟩ := List.cons.inj hbody
                obtain ⟨rfl, hclosing⟩ := ih.1 hfound
                exact ⟨⟨rfl, rfl⟩, closing_cons.2 (by rwa [if_neg hstep])⟩
              · rintro ⟨⟨rfl, rfl⟩, hclosing⟩
                rw [closing_cons, if_neg hstep] at hclosing
                exact ⟨(body, rest), ih.2 ⟨rfl, hclosing⟩, rfl⟩

/-- A block does not end exactly if what is owed is not paid back anywhere. -/
theorem blockBody?_eq_none_iff :
    blockBody? owed s = none ↔ ∀ front, front <+: s → front ≠ [] → owed + braces front ≠ 0 := by
  induction s generalizing owed with
  | nil => exact iff_of_true rfl fun front hfront hne => absurd (List.prefix_nil.1 hfront) hne
  | cons c s ih =>
      rw [blockBody?]
      constructor
      · intro h front hfront hne
        obtain rfl | ⟨more, rfl, hmore⟩ := List.prefix_cons_iff.1 hfront
        · exact absurd rfl hne
        · rw [braces_cons, ← Int.add_assoc]
          split at h
          · cases h
          · next hstep =>
              by_cases hnil : more = []
              · rwa [hnil, braces, Int.add_zero]
              · exact ih.1 (Option.map_eq_none_iff.1 h) more hmore hnil
      · intro h
        have hstep := h [c] (List.prefix_append [c] s) (List.cons_ne_nil c [])
        rw [braces_cons, braces, Int.add_zero] at hstep
        rw [if_neg hstep, Option.map_eq_none_iff, ih]
        intro front hfront _
        have hlonger := h (c :: front) ((List.prefix_cons_inj c).2 hfront) (List.cons_ne_nil c front)
        rwa [braces_cons, ← Int.add_assoc] at hlonger

/-- Up to the end of a block the count stays on one side of zero, because it changes by one at a time;
    the last brace brings it back from that side. -/
theorem Closing.stays {sign : Int} (hsign : sign = 1 ∨ sign = -1) (h : Closing owed body)
    (howed : 0 < sign * owed) :
    (∀ front, front <+: body → front ≠ body → 0 < sign * (owed + braces front))
      ∧ ∃ c ∈ body.getLast?, braceStep c = -sign := by
  induction body generalizing owed with
  | nil => exact absurd rfl h.ne_nil
  | cons c body ih =>
      have hone : braceStep c = 1 ∨ braceStep c = -1 ∨ braceStep c = 0 := by
        unfold braceStep
        split
        · exact Or.inl rfl
        · split
          · exact Or.inr (Or.inl rfl)
          · exact Or.inr (Or.inr rfl)
      rw [closing_cons] at h
      split at h
      · next hzero =>
          subst h
          refine ⟨fun front hfront hshort => ?_, c, rfl, ?_⟩
          · obtain rfl | ⟨more, rfl, hmore⟩ := List.prefix_cons_iff.1 hfront
            · rwa [braces, Int.add_zero]
            · exact absurd (by rw [List.prefix_nil.1 hmore]) hshort
          · rcases hsign with rfl | rfl <;> omega
      · next hstep =>
          have hnext : 0 < sign * (owed + braceStep c) := by
            rcases hsign with rfl | rfl <;> omega
          obtain ⟨hopen, last, hlast, hlaststep⟩ := ih h hnext
          refine ⟨fun front hfront hshort => ?_, last, ?_, hlaststep⟩
          · obtain rfl | ⟨more, rfl, hmore⟩ := List.prefix_cons_iff.1 hfront
            · rwa [braces, Int.add_zero]
            · rw [braces_cons, ← Int.add_assoc]
              exact hopen more hmore fun he => hshort (congrArg (c :: ·) he)
          · rw [List.getLast?_cons, Option.mem_def.1 hlast]
            rfl

/-! ## In front of a block -/

/-- What stands in front of the first brace that is opened counts with its braces. -/
theorem blockFrom?_append (h : '{' ∉ gap) (s : Text) :
    blockFrom? owed (gap ++ s) = blockFrom? (owed + braces gap) s := by
  induction gap generalizing owed with
  | nil => rw [List.nil_append, braces, Int.add_zero]
  | cons c gap ih =>
      rw [List.mem_cons, not_or] at h
      rw [List.cons_append, blockFrom?, ih h.2, braces_cons, Int.add_assoc]
      rintro rfl
      exact h.1 rfl

/-- A text up to the first brace that it opens. -/
theorem exists_gap (s : Text) :
    ∃ gap rest, s = gap ++ rest ∧ '{' ∉ gap ∧ (rest = [] ∨ rest.head? = some '{') := by
  by_cases hopen : '{' ∈ s
  · obtain ⟨gap, rest, hs, hgap⟩ := exists_of_mem hopen
    exact ⟨gap, '{' :: rest, hs, hgap, Or.inr rfl⟩
  · exact ⟨s, [], (List.append_nil s).symm, hopen, Or.inl rfl⟩

/-- A block starts at the first brace that is opened. -/
theorem blockFrom?_of_opens (h : rest = [] ∨ rest.head? = some '{') :
    blockFrom? owed rest = blockBody? owed rest := by
  rcases h with rfl | h
  · rfl
  · obtain ⟨s, rfl⟩ := List.head?_eq_some_iff.1 h
    rfl

/-- What is found behind a mark is found behind its first occurrence. -/
theorem block?_of_firstBehind (hs : s = front ++ mark ++ rest) (h : FirstBehind mark front s) :
    block? mark s = (blockFrom? 0 (mark ++ rest)).map Prod.fst := by
  rw [block?, blockAfter?, cut?_eq_some_iff.2 ⟨hs, h⟩]
  rfl

/-! ## Well-formed blocks -/

/-- A text closes as many braces as it opens. -/
def IsEven (s : Text) : Prop := s.count '}' = s.count '{'

/-- A block as it is meant: its first brace is closed by its last one, and in between it is open. -/
structure IsBlock (s : Text) : Prop where
  starts : s.head? = some '{'
  ends : s.getLast? = some '}'
  even : IsEven s
  opened : ∀ front, front <+: s → front ≠ [] → front ≠ s → front.count '}' < front.count '{'

/-- The shortest front part of a text that is not empty and closes as many braces as it opens. -/
structure FirstEven (body s : Text) : Prop where
  isPrefix : body <+: s
  ne_nil : body ≠ []
  even : IsEven body
  shortest : ∀ front, front <+: s → front ≠ [] → IsEven front → body.length ≤ front.length

theorem isEven_iff : IsEven s ↔ 0 + braces s = 0 := by
  rw [IsEven, braces_eq]
  omega

theorem firstEven_iff : FirstEven body s ↔ (∃ rest, s = body ++ rest) ∧ Closing 0 body := by
  constructor
  · intro h
    obtain ⟨rest, hrest⟩ := h.isPrefix
    refine ⟨⟨rest, hrest.symm⟩, h.ne_nil, isEven_iff.1 h.even, fun front hfront hne hshort hzero => ?_⟩
    have hlong := h.shortest front (hfront.trans h.isPrefix) hne (isEven_iff.2 hzero)
    exact hshort (hfront.eq_of_length (Nat.le_antisymm hfront.length_le hlong))
  · rintro ⟨⟨rest, rfl⟩, hclosing⟩
    refine ⟨List.prefix_append body rest, hclosing.ne_nil, isEven_iff.2 hclosing.paid, ?_⟩
    intro front hfront hne heven
    by_contra hlong
    have hshort : front <+: body :=
      List.prefix_of_prefix_length_le hfront (List.prefix_append body rest) (by omega)
    exact hclosing.unpaid front hshort hne (fun he => hlong (he ▸ Nat.le_refl _)) (isEven_iff.1 heven)

/-- A block with nothing owed in front of it is well formed. -/
theorem Closing.isBlock (h : Closing 0 body) (hopen : body.head? = some '{') : IsBlock body := by
  obtain ⟨more, rfl⟩ := List.head?_eq_some_iff.1 hopen
  have heven := isEven_iff.2 h.paid
  rw [closing_cons] at h
  obtain ⟨hstays, last, hlast, hstep⟩ := Closing.stays (Or.inl rfl) h (by decide)
  refine ⟨rfl, ?_, heven, fun front hfront hne hshort => ?_⟩
  · rw [List.getLast?_cons, Option.mem_def.1 hlast]
    unfold braceStep at hstep
    split at hstep
    · exact absurd hstep (by decide)
    · split at hstep
      · next hclose => exact congrArg some hclose
      · exact absurd hstep (by decide)
  · obtain rfl | ⟨inner, rfl, hinner⟩ := List.prefix_cons_iff.1 hfront
    · exact absurd rfl hne
    · have hpos := hstays inner hinner fun he => hshort (congrArg ('{' :: ·) he)
      have hbraces : braces ('{' :: inner) = 1 + braces inner := rfl
      rw [braces_eq] at hbraces
      have hone : (0 : Int) + braceStep '{' = 1 := rfl
      omega

/-! ## Behind a mark without braces -/

/-- A text with a mark in it. No brace stands in the mark, or between the mark and the first brace that
    is opened behind it. -/
structure MarkedText where
  front : Text
  mark : Text
  gap : Text
  rest : Text
  first : FirstBehind mark front (front ++ mark ++ (gap ++ rest))
  noOpening : '{' ∉ mark ++ gap
  noClosing : '}' ∉ mark ++ gap
  opens : rest = [] ∨ rest.head? = some '{'

namespace MarkedText

/-- The whole text. -/
def text (source : MarkedText) : Text := source.front ++ source.mark ++ (source.gap ++ source.rest)

theorem block?_text (source : MarkedText) :
    block? source.mark source.text = (blockBody? 0 source.rest).map Prod.fst := by
  rw [block?_of_firstBehind (s := source.text) rfl source.first, ← List.append_assoc,
    blockFrom?_append source.noOpening, braces_eq_zero source.noOpening source.noClosing,
    Int.add_zero, blockFrom?_of_opens source.opens]

end MarkedText

/-- **Behind a plain mark the block is the shortest part that closes as many braces as it opens**, and it
    is well formed. There is none exactly if no part does, and none in a text without the mark. -/
theorem block?_eq_some_iff_firstEven :
    (∀ source : MarkedText,
      (∀ body, block? source.mark source.text = some body ↔ FirstEven body source.rest)
        ∧ (∀ body, FirstEven body source.rest → IsBlock body)
        ∧ (block? source.mark source.text = none ↔
            ∀ front, front <+: source.rest → front ≠ [] → ¬ IsEven front))
      ∧ ∀ mark s, ¬ mark <:+: s → block? mark s = none := by
  refine ⟨fun source => ⟨fun body => ?_, fun body h => ?_, ?_⟩, fun mark s hmark => ?_⟩
  · rw [source.block?_text, firstEven_iff, Option.map_eq_some_iff]
    constructor
    · rintro ⟨⟨found, rest⟩, hfound, rfl⟩
      obtain ⟨hrest, hclosing⟩ := blockBody?_eq_some_iff.1 hfound
      exact ⟨⟨rest, hrest⟩, hclosing⟩
    · rintro ⟨⟨rest, hrest⟩, hclosing⟩
      exact ⟨(body, rest), blockBody?_eq_some_iff.2 ⟨hrest, hclosing⟩, rfl⟩
  · obtain ⟨⟨rest, hrest⟩, hclosing⟩ := firstEven_iff.1 h
    refine hclosing.isBlock ?_
    -- the block starts where the rest does
    obtain ⟨c, more, rfl⟩ := List.exists_cons_of_ne_nil hclosing.ne_nil
    rcases source.opens with hnil | hopen
    · rw [hnil] at hrest
      exact nomatch hrest
    · rwa [hrest] at hopen
  · rw [source.block?_text, Option.map_eq_none_iff, blockBody?_eq_none_iff]
    simp only [isEven_iff, ne_eq]
  · rw [block?, blockAfter?, cut?_eq_none_iff.2 hmark]
    rfl

/-- A block in a block. -/
def nestedBlock : Text := "\x7b a: \x7b b: 1 \x7d \x7d".toList

/-- The same without its last brace. -/
def unclosedBlock : Text := "\x7b a: \x7b b: 1 \x7d".toList

/-- A nested block is found whole, and nothing is found when its last brace or the mark is missing. -/
theorem block?_nestedSchema :
    block? "Schema(".toList ("Schema( ".toList ++ (nestedBlock ++ ", o)".toList)) = some nestedBlock
      ∧ block? "Schema(".toList ("Schema( ".toList ++ (unclosedBlock ++ ", o)".toList)) = none
      ∧ block? "Schema(".toList ("model(".toList ++ nestedBlock) = none := by
  have hfirst (s : Text) : FirstBehind "Schema(".toList [] ([] ++ "Schema(".toList ++ s) :=
    ⟨List.prefix_append _ _, fun _ _ => Nat.zero_le _⟩
  let schema (rest : Text) (hrest : rest = [] ∨ rest.head? = some '{') : MarkedText :=
    ⟨[], "Schema(".toList, [' '], rest, hfirst _, by decide, by decide, hrest⟩
  obtain ⟨hfound, hnone⟩ := block?_eq_some_iff_firstEven
  obtain ⟨hsome, -, -⟩ := hfound (schema (nestedBlock ++ ", o)".toList) (Or.inr rfl))
  obtain ⟨-, -, hunclosed⟩ := hfound (schema (unclosedBlock ++ ", o)".toList) (Or.inr rfl))
  refine ⟨(hsome nestedBlock).2 ?_, hunclosed.2 ?_, hnone _ _ ?_⟩
  · have hbody : blockBody? 0 (nestedBlock ++ ", o)".toList) = some (nestedBlock, ", o)".toList) := by
      decide
    exact firstEven_iff.2 ⟨⟨_, rfl⟩, (blockBody?_eq_some_iff.1 hbody).2⟩
  · have hall : ∀ front ∈ List.inits (unclosedBlock ++ ", o)".toList), front ≠ [] →
        ¬ IsEven front := by
      unfold IsEven
      decide
    exact fun front hfront => hall front ((List.mem_inits front _).2 hfront)
  · exact cut?_eq_none_iff.1 (by decide)

/-! ## Behind any mark -/

/-- A block that makes up for braces that are closed in front of it: they outnumber those that it opens
    up to its last one, which it opens. -/
structure MakesUp (owed : Nat) (s : Text) : Prop where
  ends : s.getLast? = some '{'
  paid : s.count '{' = s.count '}' + owed
  unpaid : ∀ front, front <+: s → front ≠ s → front.count '{' < front.count '}' + owed

theorem Closing.makesUp {debt : Nat} (h : Closing (-debt) body) (hdebt : 0 < debt) :
    MakesUp debt body := by
  obtain ⟨hstays, last, hlast, hstep⟩ := h.stays (Or.inr rfl) (by omega)
  have hpaid := h.paid
  rw [braces_eq] at hpaid
  refine ⟨?_, by omega, fun front hfront hshort => ?_⟩
  · rw [Option.mem_def.1 hlast]
    unfold braceStep at hstep
    split at hstep
    · next hopen => exact congrArg some hopen
    · split at hstep <;> exact absurd hstep (by decide)
  · have hneg := hstays front hfront hshort
    rw [braces_eq] at hneg
    omega

/-- What is found behind a mark starts at the first brace that is opened from the mark on, and the block
    pays back what is owed in front of it. -/
theorem exists_of_blockAfter? (h : blockAfter? mark s = some (block, after)) :
    ∃ front gap, s = front ++ (gap ++ (block ++ after)) ∧ FirstBehind mark front s
      ∧ '{' ∉ gap ∧ block.head? = some '{' ∧ Closing (-(gap.count '}' : Int)) block := by
  obtain ⟨⟨front, rest⟩, hcut, hfrom⟩ := Option.bind_eq_some_iff.1 h
  obtain ⟨hs, hfirst⟩ := cut?_eq_some_iff.1 hcut
  obtain ⟨gap, tail, htail, hgap, hopens⟩ := exists_gap (mark ++ rest)
  have howed : (0 : Int) + braces gap = -(gap.count '}' : Int) := by
    rw [braces_eq, List.count_eq_zero.2 hgap]
    omega
  change blockFrom? 0 (mark ++ rest) = some (block, after) at hfrom
  rw [htail, blockFrom?_append hgap, blockFrom?_of_opens hopens, howed] at hfrom
  obtain ⟨rfl, hclosing⟩ := blockBody?_eq_some_iff.1 hfrom
  refine ⟨front, gap, ?_, hfirst, hgap, ?_, hclosing⟩
  · rw [hs, List.append_assoc, htail]
  · obtain ⟨c, more, rfl⟩ := List.exists_cons_of_ne_nil hclosing.ne_nil
    exact hopens.resolve_left (List.cons_ne_nil c _)

/-- **A block is well formed exactly if no brace is closed between the start of the mark and the
    block**; otherwise it makes up for those that are. -/
theorem isBlock_iff_of_block? (h : block? mark s = some block) :
    ∃ front gap after, s = front ++ (gap ++ (block ++ after)) ∧ FirstBehind mark front s
      ∧ '{' ∉ gap ∧ block.head? = some '{' ∧ (IsBlock block ↔ '}' ∉ gap)
      ∧ ('}' ∈ gap → MakesUp (gap.count '}') block) := by
  obtain ⟨⟨found, after⟩, hfound, rfl⟩ := Option.map_eq_some_iff.1 h
  obtain ⟨front, gap, hs, hfirst, hgap, hhead, hclosing⟩ := exists_of_blockAfter? hfound
  have hmakesUp (hclose : '}' ∈ gap) : MakesUp (gap.count '}') found :=
    hclosing.makesUp (List.count_pos_iff.2 hclose)
  refine ⟨front, gap, after, hs, hfirst, hgap, hhead, ⟨fun hblock hclose => ?_, fun hclose => ?_⟩,
    hmakesUp⟩
  · have hends := (hmakesUp hclose).ends
    rw [hblock.ends] at hends
    exact absurd hends (by decide)
  · rw [List.count_eq_zero.2 hclose] at hclosing
    exact hclosing.isBlock hhead

/-- A brace that is closed in front of a block leaves an opening brace as the block. -/
theorem block?_closedMark :
    block? "Schema(".toList "Schema(\x7d \x7b a: 1 \x7d".toList = some ['{'] ∧ ¬ IsBlock ['{'] := by
  have hblock : block? "Schema(".toList "Schema(\x7d \x7b a: 1 \x7d".toList = some ['{'] := by decide
  refine ⟨hblock, ?_⟩
  obtain ⟨front, gap, after, hs, hfirst, hgap, -, hiff, -⟩ := isBlock_iff_of_block? hblock
  rw [hiff, not_not]
  -- the mark stands at the start, and the gap goes up to the only brace that is opened
  obtain rfl : front = [] :=
    List.length_eq_zero_iff.1 (Nat.le_zero.1 (hfirst.first [] ⟨"\x7d \x7b a: 1 \x7d".toList, rfl⟩))
  have htake := congrArg (List.takeWhile (· ≠ '{')) hs
  rw [List.nil_append, List.singleton_append, takeWhile_ne_append_cons hgap] at htake
  rw [← htake]
  decide

end ApiScan.Source
