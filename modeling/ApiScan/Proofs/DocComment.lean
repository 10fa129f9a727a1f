import ApiScan.DocComment
import ApiScan.Proofs.Assoc
import ApiScan.Proofs.Path
import ApiScan.Proofs.Text.Search
import ApiScan.Yaml.Value

set_option autoImplicit false

/-! # The blocks of a file

A block that is no YAML text, or no mapping, is told and passed over, and the other blocks are merged
one after another. A block of a third kind ends the reading of its file: its text is well formed, but
a scalar in it stands for no value. -/

/-! ## Keys of YAML mappings

Two values are the same key if they count for the same whole number, or if they are one and the same
value of a kind that equals itself. A computed number that is none equals no key, so being the same
key is symmetric and transitive but not reflexive. -/

namespace ApiScan.Yaml.Value

variable {a b : Value}

theorem sameKey_iff : (a == b) = true ↔
    (∃ n, wholeKey? a = some n ∧ wholeKey? b = some n) ∨ (a = b ∧ (a == a) = true) := by
  show sameKey a b = true ↔ _ ∨ (_ ∧ sameKey a a = true)
  constructor
  · intro h
    unfold sameKey at h
    split at h
    · next m n ha hb =>
        obtain rfl := of_decide_eq_true h
        exact Or.inl ⟨m, ha, hb⟩
    · next ha hb =>
        refine Or.inr ?_
        unfold sameKey
        rw [ha]
        split at h
        case h_2 x y =>
            obtain ⟨hx, rfl⟩ : x ≠ .nan ∧ x = y := by simpa using h
            simp [hx]
        all_goals simp_all
    · exact absurd h Bool.false_ne_true
  · rintro (⟨n, ha, hb⟩ | ⟨rfl, h⟩)
    · unfold sameKey
      rw [ha, hb]
      exact decide_eq_true rfl
    · exact h

instance : PartialEquivBEq Value where
  symm {a b} h := by
    rcases sameKey_iff.1 h with ⟨n, ha, hb⟩ | ⟨rfl, h⟩
    · exact sameKey_iff.2 (Or.inl ⟨n, hb, ha⟩)
    · exact h
  trans {a b c} h h' := by
    rcases sameKey_iff.1 h with ⟨n, ha, hb⟩ | ⟨rfl, -⟩
    · rcases sameKey_iff.1 h' with ⟨m, hb', hc⟩ | ⟨rfl, -⟩
      · rw [hb] at hb'
        exact sameKey_iff.2 (Or.inl ⟨n, ha, hb' ▸ hc⟩)
      · exact h
    · exact h'

end ApiScan.Yaml.Value

namespace ApiScan.DocComment

variable {block : Text} {texts : List Text} {items entries : Entries} {fault : Yaml.Fault}

/-! ## Kinds of blocks -/

/-- The block ends the reading: its text is well formed and stands for no value. -/
def Fatal (block : Text) (fault : Yaml.Fault) : Prop :=
  Yaml.Value.ofText block = .error fault ∧ fault ≠ .malformed

/-- Whether a block ends the reading. -/
def endsReading (block : Text) : Bool :=
  match Yaml.Value.ofText block with
  | .ok _ => false
  | .error fault => fault ≠ .malformed

theorem not_fatal_iff : (∀ fault, ¬ Fatal block fault) ↔ endsReading block = false := by
  unfold Fatal endsReading
  cases Yaml.Value.ofText block with
  | ok value => simp
  | error found => simp

instance (block : Text) : Decidable (∀ fault, ¬ Fatal block fault) :=
  decidable_of_iff _ not_fatal_iff.symm

/-- The entries of a block that is a mapping. -/
def mapping? (block : Text) : Option Entries :=
  match Yaml.Value.ofText block with
  | .ok value => value.entries?
  | .error _ => none

/-- What is told of a block that is passed over. -/
def told? (block : Text) : Option Event :=
  match Yaml.Value.ofText block with
  | .ok value => if value.entries?.isSome then none else some .docBlockNotMapping
  | .error _ => some .malformedDocBlock

/-- The items of the blocks before, with those of one more block. -/
def mergeNext (items : Entries) (block : Text) : Entries :=
  match mapping? block with
  | some entries => mergeBlock items entries
  | none => items

/-! ## One block after another -/

theorem loadBlocks_cons (h : ∀ fault, ¬ Fatal block fault) :
    loadBlocks items (block :: texts)
      = ((told? block).toList ++ (loadBlocks (mergeNext items block) texts).1,
          (loadBlocks (mergeNext items block) texts).2) := by
  unfold mergeNext mapping? told?
  rw [loadBlocks]
  cases hread : Yaml.Value.ofText block with
  | error fault =>
      by_cases hfault : fault = .malformed
      · rw [hfault]
        rfl
      · exact absurd ⟨hread, hfault⟩ (h fault)
  | ok value =>
      cases hentries : value.entries? with
      | none => simp [hentries]
      | some entries => simp [hentries]

theorem loadBlocks_cons_of_fatal (h : Fatal block fault) :
    loadBlocks items (block :: texts) = ([], .error fault) := by
  obtain ⟨hread, hfault⟩ := h
  rw [loadBlocks, hread]
  cases fault
  case malformed => exact absurd rfl hfault
  all_goals rfl

/-- **Blocks that do not end the reading are merged, or told and passed over.** -/
theorem loadBlocks_eq (h : ∀ block ∈ texts, ∀ fault, ¬ Fatal block fault) :
    loadBlocks items texts = (texts.filterMap told?, .ok (texts.foldl mergeNext items)) := by
  induction texts generalizing items with
  | nil => rfl
  | cons block texts ih =>
      rw [List.forall_mem_cons] at h
      rw [loadBlocks_cons h.1, ih h.2]
      cases htold : told? block <;> simp [htold]

/-- The first of the blocks that end the reading does so with the fault. -/
def FirstFatal (texts : List Text) (fault : Yaml.Fault) : Prop :=
  ∃ before block after, texts = before ++ block :: after
    ∧ (∀ earlier ∈ before, ∀ fault, ¬ Fatal earlier fault) ∧ Fatal block fault

/-- **The reading fails with the first block that ends it.** -/
theorem loadBlocks_eq_error_iff (items : Entries) :
    (loadBlocks items texts).2 = .error fault ↔ FirstFatal texts fault := by
  unfold FirstFatal
  induction texts generalizing items with
  | nil => simp [loadBlocks]
  | cons first texts ih =>
      by_cases hfirst : ∃ fault, Fatal first fault
      · obtain ⟨found, hfound⟩ := hfirst
        rw [loadBlocks_cons_of_fatal hfound]
        constructor
        · intro h
          exact ⟨[], first, texts, rfl, fun _ h => absurd h List.not_mem_nil,
            Except.error.inj h ▸ hfound⟩
        · rintro ⟨before, block, after, he, hbefore, hblock⟩
          cases before with
          | nil =>
              obtain ⟨rfl, -⟩ := List.cons.inj he
              exact congrArg _ (Except.error.inj (hfound.1.symm.trans hblock.1))
          | cons earlier before =>
              obtain ⟨rfl, -⟩ := List.cons.inj he
              exact absurd hfound (hbefore _ List.mem_cons_self _)
      · rw [not_exists] at hfirst
        rw [loadBlocks_cons hfirst, ih]
        constructor
        · rintro ⟨before, block, after, rfl, hbefore, hblock⟩
          exact ⟨first :: before, block, after, rfl, List.forall_mem_cons.2 ⟨hfirst, hbefore⟩, hblock⟩
        · rintro ⟨before, block, after, he, hbefore, hblock⟩
          cases before with
          | nil =>
              obtain ⟨rfl, -⟩ := List.cons.inj he
              exact absurd hblock (hfirst _)
          | cons earlier before =>
              obtain ⟨-, rfl⟩ := List.cons.inj he
              exact ⟨before, block, after, rfl, (List.forall_mem_cons.1 hbefore).2, hblock⟩

theorem loadBlocks_eq_ok_iff :
    (loadBlocks items texts).2 = .ok entries ↔
      (∀ block ∈ texts, ∀ fault, ¬ Fatal block fault) ∧ texts.foldl mergeNext items = entries := by
  constructor
  · intro h
    have hall : ∀ block ∈ texts, ∀ fault, ¬ Fatal block fault := by
      induction texts generalizing items with
      | nil => exact fun _ h => absurd h List.not_mem_nil
      | cons first texts ih =>
          have hfirst : ∀ fault, ¬ Fatal first fault := fun fault hfatal => by
            rw [loadBlocks_cons_of_fatal hfatal] at h
            exact nomatch h
          rw [loadBlocks_cons hfirst] at h
          exact List.forall_mem_cons.2 ⟨hfirst, ih h⟩
    rw [loadBlocks_eq hall] at h
    exact ⟨hall, Except.ok.inj h⟩
  · rintro ⟨hall, rfl⟩
    rw [loadBlocks_eq hall]

/-! ## The items of a file -/

/-- What a text documents: the items of its blocks that are mappings, merged in their order. -/
def itemsOf (text : Text) : Entries := (blocks text).foldl mergeNext []

theorem load_eq_ok_iff {text : Text} :
    (load text).2 = .ok entries ↔
      (∀ block ∈ blocks text, ∀ fault, ¬ Fatal block fault) ∧ itemsOf text = entries :=
  loadBlocks_eq_ok_iff

theorem distinct_mergeNext (h : Assoc.Distinct items) : Assoc.Distinct (mergeNext items block) := by
  unfold mergeNext
  cases mapping? block with
  | none => exact h
  | some entries => exact h.foldl_alter entries

/-- A text documents a path once. -/
theorem distinct_itemsOf (text : Text) : Assoc.Distinct (itemsOf text) := by
  have hall (texts : List Text) {items : Entries} (hitems : Assoc.Distinct items) :
      Assoc.Distinct (texts.foldl mergeNext items) := by
    induction texts generalizing items with
    | nil => exact hitems
    | cons block texts ih => exact ih (distinct_mergeNext hitems)
  exact hall _ Assoc.distinct_nil

/-- What entries document for a method of a path. -/
def documented? (entries : Entries) (path method : Yaml.Value) : Option Yaml.Value :=
  (Assoc.get? path entries).bind fun item => item.entries?.bind (Assoc.get? method)

/-! ## Texts without a mark -/

theorem blocksFrom_of_not_holds {lines : List Text} (h : ∀ line ∈ lines, Text.holds mark line = false) :
    blocksFrom none lines = [] := by
  induction lines with
  | nil => rfl
  | cons line lines ih =>
      rw [List.forall_mem_cons] at h
      simpa [blocksFrom, h.1] using ih h.2

/-- A text without a mark has no blocks. -/
theorem blocks_of_not_holds {text : Text} (h : Text.holds mark text = false) : blocks text = [] := by
  refine blocksFrom_of_not_holds fun line hline => ?_
  rw [Text.holds_eq_false_iff] at h ⊢
  exact fun hmark => h (hmark.trans (Text.isInfix_of_mem_pieces hline))

end ApiScan.DocComment
