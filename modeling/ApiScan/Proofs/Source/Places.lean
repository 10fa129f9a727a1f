import ApiScan.Assoc
import ApiScan.Proofs.Model.Commented
import ApiScan.Proofs.Text.Order

set_option autoImplicit false

/-! # Reading by places

The scanners of this library recurse on their texts, so nothing in them is looked up at a place. The
same can be read by places: the character at a number, the next brace from a number on, the second part
of a text that is cut at a mark, the least one of several places. Each of these lookups misses where
there is nothing to be found. Here blocks and marks are read so. A block ends only where the brace that
opens it has been passed, so that its lookup finds it, and what is read by places is what the scanners
give. -/

namespace ApiScan

/-- Why a lookup misses. -/
inductive Miss where
  /-- A list has no such place. -/
  | noPlace
  /-- A mark does not come any more. -/
  | noMark
  /-- There is no least one of no items. -/
  | noItems
  /-- A mark that is empty cuts nothing. -/
  | emptyMark
  /-- A table has no such key. -/
  | noKey
  deriving DecidableEq, Repr

namespace Lookup

open Text

variable {α β κ ν : Type} {mark s : Text} {c : Char}

/-! ## Lookups -/

/-- The item at a place of a list. -/
def itemAt (items : List α) (i : Nat) : Except Miss α :=
  match items[i]? with
  | some item => .ok item
  | none => .error .noPlace

/-- The last item of a list. -/
def lastItem (items : List α) : Except Miss α :=
  match items.getLast? with
  | some item => .ok item
  | none => .error .noPlace

/-- The value of a key in a table. -/
def valueOf [BEq κ] (key : κ) (table : List (κ × ν)) : Except Miss ν :=
  match Assoc.get? key table with
  | some value => .ok value
  | none => .error .noKey

/-- The place of the first occurrence of a mark, and -1 without one. -/
def placeOf (mark s : Text) : Int :=
  match indexOf? mark s with
  | some i => i
  | none => -1

/-- The place of the first occurrence of a mark from a place on. A place below zero counts from the
    end. -/
def placeFrom (mark s : Text) (start : Int) : Except Miss Nat :=
  let start := (if start < 0 then start + s.length else start).toNat
  match indexOf? mark (s.drop start) with
  | some i => .ok (start + i)
  | none => .error .noMark

/-- The parts of a text in front of and behind the first occurrence of a mark; the whole text without
    one. -/
def cutOnce (mark s : Text) : Except Miss (List Text) :=
  if mark.isEmpty then .error .emptyMark
  else
    match cut? mark s with
    | some (front, rest) => .ok [front, rest]
    | none => .ok [s]

/-- The first part of a text that is cut once. -/
def frontOf (mark s : Text) : Except Miss Text := do itemAt (← cutOnce mark s) 0

/-- The second part of a text that is cut once. -/
def behind (mark s : Text) : Except Miss Text := do itemAt (← cutOnce mark s) 1

/-- The parts of a text in front of and behind the last `c`; the whole text without one. -/
def cutLast (c : Char) (s : Text) : List Text :=
  if s.contains c then
    [(s.reverse.dropWhile (· ≠ c)).tail.reverse, (s.reverse.takeWhile (· ≠ c)).reverse]
  else [s]

/-- Whether a mark at a place comes before another one: at an earlier place, or at the same one and
    earlier in the order of texts. -/
def comesBefore (item other : Int × Text) : Bool :=
  item.1 < other.1 || (item.1 = other.1 && !le other.2 item.2)

/-- The nearer one of two marks. -/
def pick (best item : Int × Text) : Int × Text := if comesBefore item best then item else best

/-- The first one of several marks at places. -/
def least : List (Int × Text) → Except Miss (Int × Text)
  | [] => .error .noItems
  | item :: more => .ok (more.foldl pick item)

/-! ## Where they find something -/

theorem ok_bind {a : α} {f : α → Except Miss β} : (Except.ok a >>= f) = f a := rfl

theorem mapM_of_forall {f : α → Except Miss β} {g : α → β} (h : ∀ a, f a = .ok (g a))
    (items : List α) : items.mapM f = .ok (items.map g) := by
  rw [show f = fun a => pure (g a) from funext h]
  exact List.mapM_pure

theorem foldlM_of_forall {f : β → α → Except Miss β} {g : β → α → β} (h : ∀ b a, f b a = .ok (g b a))
    (b : β) (items : List α) : items.foldlM f b = .ok (items.foldl g b) := by
  rw [show f = fun b a => pure (g b a) from funext fun b => funext (h b)]
  exact List.foldlM_pure

theorem findSomeM?_of_forall {f : α → Except Miss (Option β)} {g : α → Option β} {items : List α}
    (h : ∀ a ∈ items, f a = .ok (g a)) : items.findSomeM? f = .ok (items.findSome? g) := by
  induction items with
  | nil => rfl
  | cons a items ih =>
      obtain ⟨ha, hitems⟩ := List.forall_mem_cons.1 h
      rw [List.findSomeM?, ha, ok_bind, List.findSome?_cons]
      cases g a with
      | none => exact ih hitems
      | some b => rfl

/-- The part in front of the first `c` is there in every text. -/
theorem frontOf_char (c : Char) (s : Text) : frontOf [c] s = .ok (s.takeWhile (· ≠ c)) := by
  rw [frontOf, cutOnce]
  by_cases hc : c ∈ s
  · obtain ⟨front, rest, rfl, hfront⟩ := exists_of_mem hc
    rw [cut?_char hfront, takeWhile_ne_append_cons hfront]
    rfl
  · rw [cut?_char_of_not_mem hc, takeWhile_ne_of_not_mem hc]
    rfl

theorem lastItem_cutLast (s : Text) :
    lastItem (cutLast c s) = .ok (s.reverse.takeWhile (· ≠ c)).reverse := by
  unfold cutLast
  split
  · rfl
  · next hc =>
      have hnot : c ∉ s.reverse := fun h => hc (List.contains_iff_mem.2 (List.mem_reverse.1 h))
      rw [takeWhile_ne_of_not_mem hnot, List.reverse_reverse]
      rfl

/-- From a place on, the next `c` is found. -/
theorem placeFrom_append {before front : Text} (h : c ∉ front) (rest : Text) :
    placeFrom [c] (before ++ (front ++ c :: rest)) before.length = .ok (before ++ front).length := by
  have hstart : ((if (before.length : Int) < 0 then
      (before.length : Int) + (before ++ (front ++ c :: rest)).length else before.length)).toNat
        = before.length := by
    rw [if_neg (by omega), Int.toNat_natCast]
  rw [placeFrom, hstart, List.drop_left, indexOf?, cut?_char h, List.length_append]
  rfl

end Lookup

open Lookup

/-! ## Blocks -/

namespace Source

open Text
open ColumnTable (nearer)

variable {mark s before seen rest : Text} {start : Nat}

/-- Read the characters at the given places, with the braces counted so far, up to the end of a block,
    and go on with `ended` from there. -/
def scanPlaces (s : Text) (ended : Nat → Except Miss (Option Text)) (opened closed : Nat) :
    List Nat → Except Miss (Option Text)
  | [] => pure none
  | i :: places => do
    let c ← itemAt s i
    let opened := if c = '{' then opened + 1 else opened
    let closed := if c = '}' then closed + 1 else closed
    if 0 < opened ∧ opened = closed then ended i
    else scanPlaces s ended opened closed places

/-- The places of a text from `start` on, read from the first one. -/
def scanFrom (s : Text) (ended : Nat → Except Miss (Option Text)) (start : Nat) :
    Except Miss (Option Text) :=
  scanPlaces s ended 0 0 (List.range' start (s.length - start))

/-- The part of a text from its next brace on, up to the place `i`. -/
def blockTo (s : Text) (start i : Nat) : Except Miss (Option Text) := do
  let first ← placeFrom ['{'] s start
  pure (some ((s.take (i + 1)).drop first))

/-- The block that follows the first occurrence of a mark, read by places. -/
def blockByPlace (mark s : Text) : Except Miss (Option Text) :=
  match indexOf? mark s with
  | some start => scanFrom s (blockTo s start) start
  | none => pure none

variable {ended : Nat → Except Miss (Option Text)}

/-- One more character is read: the block ends with it, or it counts with what has been read. -/
theorem scanPlaces_cons {c : Char} (hs : s = before ++ (seen ++ c :: rest)) :
    scanPlaces s ended (seen.count '{') (seen.count '}')
        (List.range' (before.length + seen.length) (rest.length + 1))
      = if '{' ∈ seen ++ [c] ∧ braces (seen ++ [c]) = 0 then ended (before.length + seen.length)
        else scanPlaces s ended ((seen ++ [c]).count '{') ((seen ++ [c]).count '}')
          (List.range' (before.length + (seen ++ [c]).length) rest.length) := by
  have hitem : itemAt s (before.length + seen.length) = .ok c := by
    simp [hs, itemAt]
  have hopened : (if c = '{' then seen.count '{' + 1 else seen.count '{')
      = (seen ++ [c]).count '{' := by
    by_cases hc : c = '{' <;> simp [List.count_append, hc]
  have hclosed : (if c = '}' then seen.count '}' + 1 else seen.count '}')
      = (seen ++ [c]).count '}' := by
    by_cases hc : c = '}' <;> simp [List.count_append, hc]
  have hend : (0 < (seen ++ [c]).count '{' ∧ (seen ++ [c]).count '{' = (seen ++ [c]).count '}')
      ↔ '{' ∈ seen ++ [c] ∧ braces (seen ++ [c]) = 0 := by
    rw [List.count_pos_iff, braces_eq]
    exact and_congr_right fun _ => by omega
  have hnext : before.length + seen.length + 1 = before.length + (seen ++ [c]).length := by
    simp [Nat.add_assoc]
  rw [List.range'_succ, scanPlaces, hitem, ok_bind, hopened, hclosed, hnext]
  exact if_congr hend rfl rfl

/-- **A block ends only where a brace has been opened**, whatever is done there. -/
theorem scanPlaces_cases (ended : Nat → Except Miss (Option Text)) (seen : Text)
    (hs : s = before ++ (seen ++ rest)) :
    scanPlaces s ended (seen.count '{') (seen.count '}')
        (List.range' (before.length + seen.length) rest.length) = .ok none
      ∨ ∃ more after i, s = before ++ (more ++ after) ∧ '{' ∈ more ∧ i + 1 = (before ++ more).length
        ∧ scanPlaces s ended (seen.count '{') (seen.count '}')
            (List.range' (before.length + seen.length) rest.length) = ended i := by
  induction rest generalizing seen with
  | nil => exact Or.inl rfl
  | cons c rest ih =>
      have hnext : s = before ++ ((seen ++ [c]) ++ rest) := by simp [hs]
      rw [List.length_cons, scanPlaces_cons hs]
      split
      · next hend =>
          exact Or.inr ⟨seen ++ [c], rest, _, hnext, hend.1, by simp [Nat.add_assoc], rfl⟩
      · exact ih (seen ++ [c]) hnext

/-- The block of a text whose front part has been read. -/
def blockBehind? (seen rest : Text) : Option Text :=
  if '{' ∈ seen then
    (blockBody? (braces seen) rest).map fun found => seen.dropWhile (· ≠ '{') ++ found.1
  else (blockFrom? (braces seen) rest).map Prod.fst

theorem blockBehind?_nil (seen : Text) : blockBehind? seen [] = none := by
  unfold blockBehind?
  split <;> rfl

/-- What is cut out starts at the first brace that has been read. -/
theorem blockTo_eq {i : Nat} (hs : s = before ++ (seen ++ rest)) (hopen : '{' ∈ seen)
    (hi : i + 1 = (before ++ seen).length) :
    blockTo s before.length i = .ok (some (seen.dropWhile (· ≠ '{'))) := by
  have htake : s.take (i + 1) = before ++ seen := by
    rw [hs, hi, ← List.append_assoc, List.take_left]
  obtain ⟨front, tail, rfl, hfront⟩ := exists_of_mem hopen
  have hplace : placeFrom ['{'] s before.length = .ok (before ++ front).length := by
    rw [hs, List.append_assoc, List.cons_append, placeFrom_append hfront]
  rw [blockTo, hplace, ok_bind, htake, ← List.append_assoc, List.drop_left,
    dropWhile_ne_append_cons hfront]
  rfl

/-- The block ends where a brace has been opened and none is owed. -/
theorem blockBehind?_cons (seen rest : Text) (c : Char) :
    blockBehind? seen (c :: rest) =
      if '{' ∈ seen ++ [c] ∧ braces (seen ++ [c]) = 0 then
        some ((seen ++ [c]).dropWhile (· ≠ '{'))
      else blockBehind? (seen ++ [c]) rest := by
  have howed : braces (seen ++ [c]) = braces seen + braceStep c := by
    rw [braces_append, braces_cons, braces, Int.add_zero]
  by_cases hopen : '{' ∈ seen ++ [c]
  · have hbody : blockBehind? seen (c :: rest) = (blockBody? (braces seen) (c :: rest)).map
          (fun found => seen.dropWhile (· ≠ '{') ++ found.1)
        ∧ (seen ++ [c]).dropWhile (· ≠ '{') = seen.dropWhile (· ≠ '{') ++ [c] := by
      by_cases hseen : '{' ∈ seen
      · refine ⟨if_pos hseen, ?_⟩
        obtain ⟨gap, tail, rfl, hgap⟩ := exists_of_mem hseen
        rw [List.append_assoc, List.cons_append, dropWhile_ne_append_cons hgap,
          dropWhile_ne_append_cons hgap, List.cons_append]
      · -- the block starts with the character that is read
        obtain rfl : '{' = c := by simpa [hseen] using hopen
        rw [dropWhile_ne_append_cons hseen, dropWhile_ne_of_not_mem hseen, blockBehind?, if_neg hseen]
        exact ⟨rfl, rfl⟩
    rw [hbody.1, hbody.2, blockBody?, blockBehind?, if_pos hopen, howed, hbody.2]
    by_cases hzero : braces seen + braceStep c = 0
    · rw [if_pos hzero, if_pos ⟨hopen, hzero⟩]
      rfl
    · rw [if_neg hzero, if_neg fun h => hzero h.2, Option.map_map]
      congr 1
      funext found
      simp
  · have hseen : '{' ∉ seen := fun h => hopen (List.mem_append_left _ h)
    have hc : c ≠ '{' := by
      rintro rfl
      simp at hopen
    rw [if_neg fun h => hopen h.1, blockBehind?, if_neg hseen, blockBehind?, if_neg hopen, howed,
      blockFrom?]
    exact hc

/-- **Reading goes on as the block does.** What has been read counts with its braces. -/
theorem scanPlaces_eq (seen : Text) (hs : s = before ++ (seen ++ rest)) :
    scanPlaces s (blockTo s before.length) (seen.count '{') (seen.count '}')
        (List.range' (before.length + seen.length) rest.length)
      = .ok (blockBehind? seen rest) := by
  induction rest generalizing seen with
  | nil =>
      rw [blockBehind?_nil]
      rfl
  | cons c rest ih =>
      have hnext : s = before ++ ((seen ++ [c]) ++ rest) := by simp [hs]
      rw [List.length_cons, scanPlaces_cons hs, blockBehind?_cons]
      split
      · next hend => exact blockTo_eq hnext hend.1 (by simp [Nat.add_assoc])
      · exact ih (seen ++ [c]) hnext

theorem scanFrom_eq (hs : s = before ++ rest) :
    scanFrom s ended before.length
      = scanPlaces s ended 0 0 (List.range' before.length rest.length) := by
  rw [scanFrom, hs, List.length_append, Nat.add_sub_cancel_left]

/-- **A block is read by places as it is read from left to right**, and no lookup misses. -/
theorem blockByPlace_eq (mark s : Text) : blockByPlace mark s = .ok (block? mark s) := by
  rw [blockByPlace, block?, blockAfter?, indexOf?]
  cases hcut : cut? mark s with
  | none => rfl
  | some found =>
      obtain ⟨front, rest⟩ := found
      have hs : s = front ++ (mark ++ rest) := by
        rw [eq_of_cut?_eq_some hcut, List.append_assoc]
      exact (scanFrom_eq hs).trans (scanPlaces_eq [] hs)

/-- From the start of a mark on, a block ends only where the next brace has been passed. -/
theorem scanFrom_cases {start : Nat} (h : indexOf? mark s = some start) :
    scanFrom s ended start = .ok none
      ∨ ∃ i first, placeFrom ['{'] s start = .ok first ∧ start ≤ first ∧ first ≤ i
        ∧ s[first]? = some '{' ∧ scanFrom s ended start = ended i := by
  obtain ⟨⟨front, rest⟩, hcut, rfl⟩ := Option.map_eq_some_iff.1 h
  have hs : s = front ++ (mark ++ rest) := by
    rw [eq_of_cut?_eq_some hcut, List.append_assoc]
  dsimp only
  rw [scanFrom_eq hs]
  rcases scanPlaces_cases ended [] hs with
    hnone | ⟨more, after, i, hmore, hopen, hi, hend⟩
  · exact Or.inl hnone
  · obtain ⟨gap, tail, rfl, hgap⟩ := exists_of_mem hopen
    have hplace : placeFrom ['{'] s front.length = .ok (front ++ gap).length := by
      rw [hmore, List.append_assoc, List.cons_append, placeFrom_append hgap]
    have hbrace : s[(front ++ gap).length]? = some '{' := by
      rw [hmore, List.append_assoc, ← List.append_assoc, List.getElem?_append_right (Nat.le_refl _),
        Nat.sub_self]
      rfl
    simp only [List.length_append, List.length_cons] at hi
    refine Or.inr ⟨i, _, hplace, ?_, ?_, hbrace, hend⟩
    all_goals
      rw [List.length_append]
      omega

/-- The brace that opens the block behind a mark stands at a place: it is the next one from the start of
    the mark on, the block starts with it, and `rest` is what follows the block. -/
structure OpensAt (mark s block rest : Text) (first : Nat) : Prop where
  found : placeFrom ['{'] s (placeOf mark s) = .ok first
  nearest : '{' ∉ (s.take first).drop (placeOf mark s).toNat
  opened : block.head? = some '{'
  text_eq : s = s.take first ++ block ++ s.drop (first + block.length)
  rest_eq : s.drop (first + block.length) = rest

theorem placeOf_of_firstBehind {front : Text} (h : FirstBehind mark front s) :
    placeOf mark s = front.length := by
  obtain ⟨rest, hrest⟩ := h.stands
  rw [placeOf, indexOf?, cut?_eq_some_iff.2 ⟨hrest.symm, h⟩]
  rfl

/-- **The lookup of the next brace finds the one that opens the block.** -/
theorem exists_opensAt {block : Text} (h : blockAfter? mark s = some (block, rest)) :
    ∃ first, OpensAt mark s block rest first := by
  obtain ⟨front, gap, hs, hfirst, hgap, hopened, -⟩ := exists_of_blockAfter? h
  obtain ⟨more, rfl⟩ := List.head?_eq_some_iff.1 hopened
  have hplace := placeOf_of_firstBehind hfirst
  have hfound : placeFrom ['{'] s (placeOf mark s) = .ok (front ++ gap).length := by
    rw [hplace, hs, List.cons_append, placeFrom_append hgap]
  have htext : s = front ++ gap ++ ('{' :: more) ++ rest := by
    rw [hs, List.append_assoc, List.append_assoc]
  have htake : s.take (front ++ gap).length = front ++ gap := by
    rw [htext, List.append_assoc]
    exact List.take_left
  have hdrop : s.drop ((front ++ gap).length + ('{' :: more).length) = rest := by
    rw [← List.length_append, htext]
    exact List.drop_left
  refine ⟨(front ++ gap).length, hfound, ?_, rfl, ?_, hdrop⟩
  · rw [htake, hplace, Int.toNat_natCast, List.drop_left]
    exact hgap
  · rw [htake, hdrop]
    exact htext

/-! ## The first of several marks -/

/-- The marks that a text holds, each at its place. -/
def placesOf (marks : List Text) (s : Text) : List (Int × Text) :=
  (marks.filter (holds · s)).map fun mark => (placeOf mark s, mark)

/-- The mark whose first occurrence comes first, read by places. -/
def firstMarkByPlace (marks : List Text) (s : Text) : Except Miss (Option Text) :=
  if (placesOf marks s).isEmpty then pure none
  else do
    let (_, mark) ← least (placesOf marks s)
    pure (some mark)

/-- Of marks that stand apart, no two have the same place. -/
theorem eq_of_indexOf? {marks : List Text} (h : Apart marks) {mark other : Text} (hmark : mark ∈ marks)
    (hother : other ∈ marks) {i : Nat} (hi : indexOf? mark s = some i) (hj : indexOf? other s = some i) :
    mark = other := by
  obtain ⟨⟨front, rest⟩, hcut, rfl⟩ := Option.map_eq_some_iff.1 hi
  obtain ⟨⟨front', rest'⟩, hcut', hlength⟩ := Option.map_eq_some_iff.1 hj
  by_contra hne
  have htext := (eq_of_cut?_eq_some hcut).symm.trans (eq_of_cut?_eq_some hcut')
  rw [List.append_assoc, List.append_assoc] at htext
  obtain ⟨-, hstands⟩ := List.append_inj htext hlength.symm
  have hnone := (h mark hmark).2 other hother (Ne.symm hne) rest
  rw [after?_eq_some_iff.2 hstands] at hnone
  exact nomatch hnone

theorem placesOf_cons {marks : List Text} {i : Nat} (h : indexOf? mark s = some i) :
    placesOf (mark :: marks) s = ((i : Int), mark) :: placesOf marks s := by
  have hholds : holds mark s = true := by
    obtain ⟨found, hfound, -⟩ := Option.map_eq_some_iff.1 h
    rw [holds, hfound]
    rfl
  rw [placesOf, List.filter_cons_of_pos (p := fun mark => holds mark s) hholds, List.map_cons,
    placeOf, h]
  rfl

theorem placesOf_cons_of_none {marks : List Text} (h : indexOf? mark s = none) :
    placesOf (mark :: marks) s = placesOf marks s := by
  have hholds : holds mark s = false := by
    rw [holds, Option.map_eq_none_iff.1 h]
    rfl
  rw [placesOf, List.filter_cons_of_neg (by simp [hholds])]
  rfl

theorem comesBefore_iff (i j : Nat) (mark other : Text) (h : i = j → mark = other) :
    comesBefore ((i : Int), mark) ((j : Int), other) = true ↔ i < j := by
  rw [comesBefore, Bool.or_eq_true, Bool.and_eq_true, decide_eq_true_eq, decide_eq_true_eq,
    Int.ofNat_lt, or_iff_left]
  rintro ⟨he, hle⟩
  rw [h (Int.ofNat_inj.1 he), Bool.not_eq_true', Bool.eq_false_iff] at hle
  exact hle (Or.elim (Text.le_total other other) id id)

theorem nearer_of_none (h : indexOf? mark s = none) (best : Option (Nat × Text)) :
    nearer s best mark = best := by
  unfold nearer
  rw [h]

theorem nearer_none_of_some {i : Nat} (h : indexOf? mark s = some i) :
    nearer s none mark = some (i, mark) := by
  unfold nearer
  rw [h]

theorem nearer_some_of_some {i j : Nat} (h : indexOf? mark s = some i) (other : Text) :
    nearer s (some (j, other)) mark = if i < j then some (i, mark) else some (j, other) := by
  unfold nearer
  rw [h]

/-- The nearest of the marks found so far and those to come is the least one of their places. -/
theorem foldl_nearer {marks items : List Text} (h : Apart marks) (hitems : items ⊆ marks) {j : Nat}
    {other : Text} (hother : other ∈ marks) (hj : indexOf? other s = some j) :
    (items.foldl (nearer s) (some (j, other))).map (fun best => ((best.1 : Int), best.2))
      = some ((placesOf items s).foldl pick ((j : Int), other)) := by
  induction items generalizing j other with
  | nil => rfl
  | cons item items ih =>
      obtain ⟨hitem, hitems⟩ := List.cons_subset.1 hitems
      rw [List.foldl_cons]
      cases hi : indexOf? item s with
      | none =>
          rw [nearer_of_none hi, placesOf_cons_of_none hi, ih hitems hother hj]
      | some i =>
          have hbefore := comesBefore_iff i j item other fun he =>
            eq_of_indexOf? h hitem hother hi (he ▸ hj)
          rw [nearer_some_of_some hi, placesOf_cons hi, List.foldl_cons, pick]
          by_cases hlt : i < j
          · rw [if_pos hlt, if_pos (hbefore.2 hlt), ih hitems hitem hi]
          · rw [if_neg hlt, if_neg (mt hbefore.1 hlt), ih hitems hother hj]

/-- **The mark that comes first is found by places, too**; where there is none, no least place is
    looked for. -/
theorem firstMarkByPlace_eq {marks : List Text} (h : Apart marks) (s : Text) :
    firstMarkByPlace marks s = .ok (firstMark? marks s) := by
  have hfold (items : List Text) (hitems : items ⊆ marks) :
      firstMarkByPlace items s = .ok ((items.foldl (nearer s) none).map Prod.snd) := by
    induction items with
    | nil => rfl
    | cons item items ih =>
        obtain ⟨hitem, hitems⟩ := List.cons_subset.1 hitems
        rw [List.foldl_cons]
        cases hi : indexOf? item s with
        | none =>
            rw [nearer_of_none hi, ← ih hitems, firstMarkByPlace, firstMarkByPlace,
              placesOf_cons_of_none hi]
        | some i =>
            have hleast := congrArg (Option.map Prod.snd) (foldl_nearer h hitems hitem hi)
            rw [Option.map_map] at hleast
            rw [nearer_none_of_some hi, firstMarkByPlace, placesOf_cons hi]
            exact congrArg Except.ok hleast.symm
  exact hfold marks (List.Subset.refl _)

end Source

end ApiScan
