import ApiScan.Proofs.Text.Words
import ApiScan.Text.Letter

set_option autoImplicit false

/-! # Texts in lower case

The lower-case form of a character is in lower case already, whichever table it comes from, so a text
in lower case stays as it is. No mapping makes white space or the bracket of an array mark. -/

namespace ApiScan.Text

variable {s : Text} {c d : Char}

/-! ## Characters in lower case -/

/-- A character that has no other lower-case form, wherever it stands. -/
def IsLower (c : Char) : Prop := lowerChar c = [c] ∧ c ≠ 'Σ'

instance (c : Char) : Decidable (IsLower c) := inferInstanceAs (Decidable (_ ∧ _))

/-- White space, and the bracket that closes an array mark: what no mapping makes. -/
def NeverMade (c : Char) : Prop := isBlank c = true ∨ c = ']'

instance (c : Char) : Decidable (NeverMade c) := inferInstanceAs (Decidable (_ ∨ _))

/-- What holds of the code points below a bound holds of the characters there. -/
theorem forall_char_lt {bound : Nat} {P : Char → Prop} (h : ∀ n < bound, P (Char.ofNat n)) (c : Char)
    (hc : c.toNat < bound) : P c := by
  have hn := h c.toNat hc
  rwa [Char.ofNat_toNat] at hn

namespace CaseRun

variable {run other : CaseRun} {n : Nat}

/-- Whether a run holds a code point. -/
def Has (run : CaseRun) (n : Nat) : Prop :=
  run.first ≤ n ∧ n ≤ run.last ∧ (n - run.first) % run.step = 0

/-- The code point to which a run maps one of its own. -/
def image (run : CaseRun) (n : Nat) : Nat := ((n : Int) + run.shift).toNat

/-- Whether the images of a run lie apart from another run: on one side of it, or between its steps of
    two. -/
def misses (run other : CaseRun) : Bool :=
  let low := run.image run.first
  let high := run.image run.last
  high.blt other.first || other.last.blt low ||
    (Nat.blt 0 low && other.step.beq 2 && ((low + other.first) % 2).beq 1
      && (run.step.beq 2 || run.first.beq run.last))

/-- Whether the images of a run are characters. -/
def isValid (run : CaseRun) : Bool :=
  (run.image run.last).blt 0xD800
    || (Nat.blt 0xDFFF (run.image run.first) && (run.image run.last).blt 0x110000)

theorem not_has_of_misses (h : run.misses other = true) (hn : run.Has n) : ¬ other.Has (run.image n) := by
  simp only [misses, image, Bool.or_eq_true, Bool.and_eq_true, Nat.blt_eq, Nat.beq_eq] at h
  obtain ⟨hfirst, hlast, hstep⟩ := hn
  rintro ⟨hfirst', hlast', hstep'⟩
  rw [image] at hfirst' hlast' hstep'
  rcases h with (h | h) | ⟨⟨⟨hlow, htwo⟩, hodd⟩, htwo' | hone⟩
  · omega
  · omega
  · rw [htwo] at hstep'
    rw [htwo'] at hstep
    omega
  · rw [htwo] at hstep'
    omega

theorem toNat_image (h : run.isValid = true) (hn : run.Has n) :
    (Char.ofNat (run.image n)).toNat = run.image n := by
  simp only [isValid, image, Bool.or_eq_true, Bool.and_eq_true, Nat.blt_eq] at h
  obtain ⟨hfirst, hlast, -⟩ := hn
  have hvalid : (run.image n).isValidChar := by
    rw [Nat.isValidChar, image]
    omega
  rw [Char.ofNat, dif_pos hvalid]
  rfl

end CaseRun

/-- A code point is mapped by a run that holds it, if there is one. -/
theorem shifted_cases (n : Nat) (runs : List CaseRun) :
    (shifted n runs = n ∧ ∀ run ∈ runs, ¬ run.Has n)
      ∨ ∃ run ∈ runs, run.Has n ∧ shifted n runs = run.image n := by
  induction runs with
  | nil => exact Or.inl ⟨rfl, fun _ h => absurd h List.not_mem_nil⟩
  | cons run runs ih =>
      rw [shifted]
      split
      · next hrun => exact Or.inr ⟨run, List.mem_cons_self, hrun, rfl⟩
      · next hrun =>
          rcases ih with ⟨hsame, hnone⟩ | ⟨other, hother, himage⟩
          · exact Or.inl ⟨hsame, List.forall_mem_cons.2 ⟨hrun, hnone⟩⟩
          · exact Or.inr ⟨other, List.mem_cons_of_mem _ hother, himage⟩

theorem shifted_eq_self {n : Nat} {runs : List CaseRun} (h : ∀ run ∈ runs, ¬ run.Has n) :
    shifted n runs = n := by
  rcases shifted_cases n runs with ⟨hsame, -⟩ | ⟨run, hrun, hhas, -⟩
  · exact hsame
  · exact absurd hhas (h run hrun)

/-- The runs of characters that have another lower-case form, of white space and of the bracket. -/
def changingRuns : List CaseRun :=
  lowerRuns ++ longLower.map (fun entry => ⟨entry.1, entry.1, 1, 0⟩)
    ++ wideBlankRanges.map (fun range => ⟨range.1, range.2, 1, 0⟩) ++ [⟨9, 13, 1, 0⟩, ⟨28, 32, 1, 0⟩, ⟨93, 93, 1, 0⟩]

/-- The images of the table lie apart from all of these runs. -/
theorem lowerRuns_misses :
    (lowerRuns.all fun run => run.isValid && changingRuns.all run.misses) = true := by
  decide +kernel

/-- A range of code points is a run of step one. -/
theorem not_inRanges_of_not_has {n : Nat} {table : List (Nat × Nat)}
    (h : ∀ range ∈ table, ¬ CaseRun.Has ⟨range.1, range.2, 1, 0⟩ n) : inRanges n table = false := by
  cases hin : inRanges n table with
  | false => rfl
  | true =>
      obtain ⟨range, hrange, hlow, hhigh⟩ := exists_of_inRanges hin
      exact absurd ⟨hlow, hhigh, Nat.mod_one _⟩ (h range hrange)

/-- A character outside these runs is in lower case, and a mapping may make it. -/
theorem isLower_of_not_has (h : ∀ run ∈ changingRuns, ¬ run.Has c.toNat) :
    IsLower c ∧ ¬ NeverMade c := by
  simp only [changingRuns, List.forall_mem_append, List.forall_mem_map] at h
  obtain ⟨⟨⟨hruns, hlong⟩, hwide⟩, hnarrow⟩ := h
  obtain ⟨hbreaks, hnarrow⟩ := List.forall_mem_cons.1 hnarrow
  obtain ⟨hblanks, hbracket⟩ := List.forall_mem_cons.1 hnarrow
  have hnone : longLower.lookup c.toNat = none := by
    rw [List.lookup_eq_none_iff]
    intro entry hentry
    rw [bne_iff_ne]
    intro he
    exact hlong entry hentry ⟨he.ge, he.le, Nat.mod_one _⟩
  have hself : mapped longLower lowerRuns c = [c] := by
    rw [mapped, hnone, shifted_eq_self hruns, Char.ofNat_toNat]
  have hcapital : ¬ (65 ≤ c.toNat ∧ c.toNat ≤ 90) := fun hc =>
    hruns ⟨0x41, 0x5A, 1, 32⟩ List.mem_cons_self ⟨hc.1, hc.2, Nat.mod_one _⟩
  have hsigma : c ≠ 'Σ' := by
    rintro rfl
    exact absurd (shifted_eq_self hruns) (by decide)
  have hblank : isBlank c = false := by
    simp only [CaseRun.Has, Nat.mod_one, and_true] at hbreaks hblanks
    rw [isBlank, not_inRanges_of_not_has hwide]
    simp only [ite_eq_right_iff, Bool.or_eq_false_iff, Bool.and_eq_false_iff, decide_eq_false_iff_not]
    omega
  refine ⟨⟨?_, hsigma⟩, ?_⟩
  · rw [lowerChar, hself]
    simp [hcapital]
  · rintro (hc | rfl)
    · exact Bool.false_ne_true (hblank.symm.trans hc)
    · exact List.forall_mem_singleton.1 hbracket ⟨le_rfl, le_rfl, rfl⟩

/-- The lower-case forms of a character are in lower case, and what no mapping makes comes from itself
    alone. -/
theorem of_mem_lowerChar (hc : c ≠ 'Σ') (hd : d ∈ lowerChar c) :
    IsLower d ∧ (NeverMade d → d = c) := by
  by_cases hascii : c.toNat < 0x80
  · let P (c : Char) : Prop := c ≠ 'Σ' → ∀ d ∈ lowerChar c, IsLower d ∧ (NeverMade d → d = c)
    have hall : ∀ n < 0x80, P (Char.ofNat n) := by decide +kernel
    exact forall_char_lt hall c hascii hc d hd
  · -- beyond ASCII the image comes from one of the two tables, or it is the character itself
    have hform : lowerChar c = mapped longLower lowerRuns c := if_neg hascii
    have hapart (h : IsLower d ∧ ¬ NeverMade d) : IsLower d ∧ (NeverMade d → d = c) :=
      ⟨h.1, fun hnever => absurd hnever h.2⟩
    rw [hform, mapped] at hd
    cases hlong : longLower.lookup c.toNat with
    | some image =>
        have hall : ∀ entry ∈ longLower, ∀ e ∈ entry.2.map Char.ofNat, IsLower e ∧ ¬ NeverMade e := by
          decide +kernel
        obtain ⟨front, rest, htable, -⟩ := List.lookup_eq_some_iff.1 hlong
        rw [hlong] at hd
        exact hapart (hall (c.toNat, image) (by rw [htable]; simp) d hd)
    | none =>
        rw [hlong] at hd
        obtain rfl := List.mem_singleton.1 hd
        rcases shifted_cases c.toNat lowerRuns with ⟨hsame, -⟩ | ⟨run, hrun, hhas, himage⟩
        · have hself : Char.ofNat (shifted c.toNat lowerRuns) = c := by rw [hsame, Char.ofNat_toNat]
          rw [hself]
          refine ⟨⟨?_, hc⟩, fun _ => rfl⟩
          rw [hform, mapped, hlong, hself]
        · have hmisses := List.all_eq_true.1 lowerRuns_misses run hrun
          rw [Bool.and_eq_true, List.all_eq_true] at hmisses
          refine hapart (isLower_of_not_has fun other hother => ?_)
          rw [himage, CaseRun.toNat_image hmisses.1 hhas]
          exact CaseRun.not_has_of_misses (hmisses.2 other hother) hhas

theorem lowerChar_ne_nil (c : Char) : lowerChar c ≠ [] := by
  have hlong : ∀ entry ∈ longLower, entry.2.map Char.ofNat ≠ [] := by decide +kernel
  unfold lowerChar mapped
  split
  · split <;> exact List.cons_ne_nil _ _
  · split
    · next image hlookup =>
        obtain ⟨front, rest, htable, -⟩ := List.lookup_eq_some_iff.1 hlookup
        exact hlong (c.toNat, image) (by rw [htable]; simp)
    · exact List.cons_ne_nil _ _

/-! ## Texts in lower case -/

/-- What one character of a text gives in lower case. -/
theorem lowerAfter_cons (front : Text) (c : Char) (s : Text) :
    ∃ image, lowerAfter front (c :: s) = image ++ lowerAfter (c :: front) s ∧ image ≠ [] ∧
      ∀ d ∈ image, IsLower d ∧ (NeverMade d → d = c) := by
  by_cases hc : c = 'Σ'
  · have hsigma : ∀ d ∈ ['ς', 'σ'], IsLower d ∧ ¬ NeverMade d := by decide +kernel
    have hapart {d : Char} (hd : d ∈ ['ς', 'σ']) : IsLower d ∧ (NeverMade d → d = c) :=
      ⟨(hsigma d hd).1, fun h => absurd h (hsigma d hd).2⟩
    refine ⟨if meetsCased front && !meetsCased s then ['ς'] else ['σ'], ?_, ?_, ?_⟩
    · rw [lowerAfter, if_pos hc]
    · split <;> exact List.cons_ne_nil _ _
    · intro d hd
      refine hapart ?_
      split at hd <;> simp_all
  · refine ⟨lowerChar c, ?_, lowerChar_ne_nil c, fun d hd => of_mem_lowerChar hc hd⟩
    rw [lowerAfter, if_neg hc]

theorem lower_ne_nil (hs : s ≠ []) : lower s ≠ [] := by
  obtain ⟨c, s, rfl⟩ := List.exists_cons_of_ne_nil hs
  obtain ⟨image, himage, hne, -⟩ := lowerAfter_cons [] c s
  rw [lower, himage]
  exact List.append_ne_nil_of_left_ne_nil hne _

/-- **The characters of a text in lower case are in lower case**, and what no mapping makes is kept from
    the text. -/
theorem of_mem_lower (hd : d ∈ lower s) : IsLower d ∧ (NeverMade d → d ∈ s) := by
  have hafter (front s : Text) (hd : d ∈ lowerAfter front s) :
      IsLower d ∧ (NeverMade d → d ∈ s) := by
    induction s generalizing front with
    | nil => exact absurd hd List.not_mem_nil
    | cons c s ih =>
        obtain ⟨image, himage, -, hall⟩ := lowerAfter_cons front c s
        rw [himage] at hd
        rcases List.mem_append.1 hd with hd | hd
        · exact ⟨(hall d hd).1, fun h => (hall d hd).2 h ▸ List.mem_cons_self⟩
        · exact ⟨(ih _ hd).1, fun h => List.mem_cons_of_mem c ((ih _ hd).2 h)⟩
  exact hafter [] s hd

/-- A text of characters in lower case stays as it is. -/
theorem lower_eq_self (hs : ∀ c ∈ s, IsLower c) : lower s = s := by
  have hafter (front s : Text) (hs : ∀ c ∈ s, IsLower c) : lowerAfter front s = s := by
    induction s generalizing front with
    | nil => rfl
    | cons c s ih =>
        obtain ⟨⟨hc, hsigma⟩, hs⟩ := List.forall_mem_cons.1 hs
        rw [lowerAfter, if_neg hsigma, hc, ih _ hs, List.singleton_append]
  exact hafter [] s hs

/-- **Lower case is reached at once.** -/
theorem lower_lower (s : Text) : lower (lower s) = lower s :=
  lower_eq_self fun _ hc => (of_mem_lower hc).1

end ApiScan.Text
