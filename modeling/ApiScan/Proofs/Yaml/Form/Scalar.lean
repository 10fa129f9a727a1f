import ApiScan.Proofs.Yaml.Form.Double
import ApiScan.Proofs.Yaml.Form.Plain
import ApiScan.Proofs.Yaml.Form.Single

set_option autoImplicit false

/-! # The forms of scalars and keys

A text is written in the form of its style. Three texts are not kept by this: one in single quotes
that holds a next-line character, one in double quotes whose line is broken twice at a blank, and a
key in double quotes that is longer than a reader looks back for the start of a key. -/

namespace ApiScan.Yaml

variable {s out : Text} {indent : Nat} {plain : Bool} {c : Char}

/-! ## The form of a scalar -/

/-- The forms of a scalar, by whether it is written plain. -/
inductive ScalarForm (indent : Nat) : Bool → Text → Text → Prop
  | plain {s out : Text} (hs : Style.allowsPlain s = true) (h : PlainForm indent s out) :
      ScalarForm indent true s out
  | single {s body : Text} (hs : s.any Style.isSpecial = false) (h : SingleForm indent s body) :
      ScalarForm indent false s ('\'' :: (body ++ ['\'']))
  | double {s body : Text} (h : DoubleForm indent s body) :
      ScalarForm indent false s ('"' :: (body ++ ['"']))

theorem isWritten_of_not_special (hc : Style.isSpecial c = false) : isWritten c = true := by
  have hbounds : c.toNat = 0x0A ∨ (0x20 ≤ c.toNat ∧ c.toNat ≤ 0x7E) ∨ c.toNat = 0x85
      ∨ (0xA0 ≤ c.toNat ∧ c.toNat ≤ 0xFFFD) ∨ 0x10000 ≤ c.toNat := by
    simp only [Style.isSpecial, Bool.not_eq_false', Bool.or_eq_true, Bool.and_eq_true,
      decide_eq_true_eq] at hc
    omega
  refine isWritten_of_toNat ?_ (by omega)
  simp only [isPrintable, Bool.or_eq_true, Bool.and_eq_true, decide_eq_true_eq]
  omega

/-- The characters of a scalar may stand in a YAML text and come back from a file. -/
theorem ScalarForm.isWritten (h : ScalarForm indent plain s out) :
    ∀ c ∈ out, isWritten c = true := by
  have hfeed : Yaml.isWritten '\n' = true := by decide
  have hblank : Yaml.isWritten ' ' = true := by decide
  have hsingle : Yaml.isWritten '\'' = true := by decide
  have hdouble : Yaml.isWritten '"' = true := by decide
  intro c hc
  cases h with
  | plain hs h =>
      have hspecial : s.any Style.isSpecial = false := by
        simp only [Style.allowsPlain, Bool.not_eq_true', Bool.or_eq_false_iff] at hs
        exact hs.1.1.2
      rcases h.mem c hc with hc | rfl | rfl
      · exact isWritten_of_not_special (Bool.eq_false_iff.2 (List.any_eq_false.1 hspecial c hc))
      · exact hfeed
      · exact hblank
  | single hs h =>
      simp only [List.mem_cons, List.mem_append, List.not_mem_nil, or_false] at hc
      rcases hc with rfl | hc | rfl
      · exact hsingle
      · rcases h.mem c hc with hc | rfl | rfl | rfl
        · exact isWritten_of_not_special (Bool.eq_false_iff.2 (List.any_eq_false.1 hs c hc))
        · exact hsingle
        · exact hfeed
        · exact hblank
      · exact hsingle
  | double h =>
      simp only [List.mem_cons, List.mem_append, List.not_mem_nil, or_false] at hc
      rcases hc with rfl | hc | rfl
      · exact hdouble
      · exact h.isWritten c hc
      · exact hdouble

/-! ## Writing texts -/

/-- Whether a text is written plain. -/
def isPlainText (s : Text) : Bool := Style.ofText s = .plain

/-- Whether the form of a text is read as the text: between single quotes there is no line break
    besides the line feed, and between double quotes no line is broken twice at one blank. -/
def KeptText (indent : Nat) (split : Bool) (s : Text) : Prop :=
  (Style.ofText s = .single → '\x85' ∉ s) ∧ (Style.ofText s = .double → BreaksOnce indent split true s)

instance (indent : Nat) (split : Bool) (s : Text) : Decidable (KeptText indent split s) :=
  inferInstanceAs (Decidable ((_ → _) ∧ (_ → _)))

theorem style_eq_plain (h : Style.ofText s = .plain) :
    Tag.ofPlain s = .str ∧ Style.allowsPlain s = true ∧ s ≠ [] := by
  unfold Style.ofText at h
  split at h
  · next hplain =>
      obtain ⟨htag, hallows⟩ : Tag.ofPlain s = .str ∧ Style.allowsPlain s = true := by
        simpa using hplain
      refine ⟨htag, hallows, ?_⟩
      rintro rfl
      exact absurd htag (by decide)
  · split at h <;> cases h

theorem style_eq_single (h : Style.ofText s = .single) : Style.allowsSingle s = true := by
  unfold Style.ofText at h
  split at h
  · cases h
  · split at h
    · assumption
    · cases h

/-- **A text that is kept is written in one of the forms of its style**, apart from what stands
    before it. -/
theorem exists_putText (split : Bool) (pen : Pen) (h : KeptText indent split s) :
    ∃ out, ScalarForm indent (isPlainText s) s out
      ∧ (putText indent split (Points.ofText s) pen).written
        = (if pen.spaced then out else ' ' :: out).reverse ++ pen.written
      ∧ (putText indent split (Points.ofText s) pen).fresh = false
      ∧ (putText indent split (Points.ofText s) pen).spaced = false := by
  have hstyle : Style.ofPoints (Points.ofText s) = Style.ofText s := by
    rw [Style.ofPoints, Points.toText?_ofText]
  unfold putText isPlainText
  rw [hstyle, Points.shown_ofText]
  cases hs : Style.ofText s with
  | plain =>
      obtain ⟨-, hallows, hne⟩ := style_eq_plain hs
      obtain ⟨out, hform, hwritten⟩ := exists_putPlain split pen hne hallows
      exact ⟨out, .plain hallows hform, hwritten⟩
  | single =>
      have hallows := style_eq_single hs
      have hspecial : s.any Style.isSpecial = false := by
        simp only [Style.allowsSingle, Bool.not_eq_true', Bool.or_eq_false_iff] at hallows
        exact hallows.2
      obtain ⟨body, hform, hwritten⟩ := exists_putSingle split pen hallows (h.1 hs)
      exact ⟨_, .single hspecial hform, hwritten⟩
  | double =>
      obtain ⟨body, hform, hwritten⟩ := exists_putDouble split pen (h.2 hs)
      exact ⟨_, .double hform, hwritten⟩

/-! ## Keys -/

/-- Whether a key without a mark of its own is no longer than a reader looks back. -/
def KeptKey (s : Text) : Prop := Style.ofText s = .double → (doubleText s).length + 2 ≤ 1024

instance (s : Text) : Decidable (KeptKey s) := inferInstanceAs (Decidable (_ → _))

/-- The forms of a key without a mark of its own: it stands on one line and is not too long. -/
structure KeyForm (indent : Nat) (s out : Text) : Prop where
  form : ScalarForm indent (isPlainText s) s out
  chars : ∀ c ∈ out, TakesColumn c
  length_le : out.length ≤ 1024
  startsLine : StartsLine out

/-- The form of a text where no line is broken. -/
def flatForm (s : Text) : Text :=
  match Style.ofText s with
  | .plain => s
  | .single => '\'' :: (singleText s ++ ['\''])
  | .double => '"' :: (doubleText s ++ ['"'])

theorem written_putText_of_not_split {pen : Pen} (hspaced : pen.spaced = true)
    (hlines : Style.isMultiline s = false) :
    (putText indent false (Points.ofText s) pen).written = (flatForm s).reverse ++ pen.written := by
  have hstyle : Style.ofPoints (Points.ofText s) = Style.ofText s := by
    rw [Style.ofPoints, Points.toText?_ofText]
  unfold putText flatForm
  rw [hstyle, Points.shown_ofText]
  cases hs : Style.ofText s with
  | plain =>
      obtain ⟨-, -, hne⟩ := style_eq_plain hs
      simp [putPlain, hne, hspaced, plainBody_of_not_split]
  | single => simp [putSingle, singleBody_of_not_split hlines, Pen.written_mark, hspaced]
  | double => simp [putDouble, doubleBody_of_not_split, Pen.written_mark, hspaced]

theorem takesColumn_of_not_special (hspecial : Style.isSpecial c = false)
    (hbreak : Style.breaksLine c = false) : TakesColumn c := by
  have hmark : c ≠ '\uFEFF' := by
    rintro rfl
    exact absurd hspecial (by decide)
  exact ⟨by rw [isBreak_eq_breaksLine hspecial, hbreak], hmark⟩

theorem startsLine_of_head? {u : Text} (hc : c ≠ ' ' ∧ c ≠ '#' ∧ c ≠ '-' ∧ c ≠ '.')
    (hcolumn : TakesColumn c) : StartsLine (c :: u) where
  head := by
    intro d hd
    obtain rfl : c = d := Option.some.inj hd
    exact ⟨hc.1, hc.2.1, hcolumn⟩
  not_dashes := fun he => hc.2.2.1 (List.cons.inj he).1
  not_dots := fun he => hc.2.2.2 (List.cons.inj he).1

theorem startsLine_of_allowsPlain (hne : s ≠ []) (h : Style.allowsPlain s = true) : StartsLine s := by
  have hmarks : Style.hasLeadingMark s = false := by
    simp only [Style.allowsPlain, Bool.not_eq_true', Bool.or_eq_false_iff] at h
    exact h.1.2
  obtain ⟨hdashes, hdots⟩ : Text.startsWith ['-', '-', '-'] s = false
      ∧ Text.startsWith ['.', '.', '.'] s = false := by
    simp only [Style.hasLeadingMark, Bool.or_eq_false_iff] at hmarks
    exact hmarks.1
  obtain ⟨c, t, rfl⟩ := List.exists_cons_of_ne_nil hne
  obtain ⟨hc, hhash, -⟩ := goesPlain_of_allowsPlain h
  refine ⟨?_, ?_, ?_⟩
  · intro d hd
    obtain rfl : c = d := Option.some.inj hd
    exact ⟨hc.ne_blank, hhash, hc.takesColumn⟩
  · intro he
    have hprefix : ['-', '-', '-'] <+: c :: t := he ▸ List.take_prefix 3 (c :: t)
    exact absurd (hdashes.symm.trans (Text.startsWith_iff.2 hprefix)) (by decide)
  · intro he
    have hprefix : ['.', '.', '.'] <+: c :: t := he ▸ List.take_prefix 3 (c :: t)
    exact absurd (hdots.symm.trans (Text.startsWith_iff.2 hprefix)) (by decide)

theorem isSimpleKey_spec (h : Style.isSimpleKey (Points.ofText s) = true) :
    (s ≠ [] ∧ Style.isMultiline s = false) ∧ s.length ≤ Style.maxKeyLength := by
  have hempty : (Points.ofText s).isEmpty = s.isEmpty := by cases s <;> rfl
  have hcount : (Points.ofText s).length = s.length := List.length_map _
  simpa [Style.isSimpleKey, hempty, hcount] using h

/-- **A key without a mark of its own is written as one**, if it is no longer than a reader looks
    back. -/
theorem keyForm_flatForm (hsimple : Style.isSimpleKey (Points.ofText s) = true) (hkept : KeptKey s) :
    KeyForm indent s (flatForm s) := by
  obtain ⟨⟨hne, hlines⟩, hlength⟩ := isSimpleKey_spec hsimple
  have hbreak : ∀ c ∈ s, Style.breaksLine c = false := fun c hc =>
    Bool.eq_false_iff.2 (List.any_eq_false.1 hlines c hc)
  have hkeptText : KeptText indent false s :=
    ⟨fun _ hmem => absurd (hbreak _ hmem) (by decide), fun _ hsplit => absurd hsplit (by decide)⟩
  have hform : ScalarForm indent (isPlainText s) s (flatForm s) := by
    let pen : Pen := {}
    obtain ⟨out, hform, hwritten, -⟩ := exists_putText false pen hkeptText
    have hflat : out = flatForm s := by
      rw [written_putText_of_not_split rfl hlines] at hwritten
      simpa [pen] using hwritten.symm
    exact hflat ▸ hform
  -- nothing in the form of a simple key breaks a line
  have hcolumns (hspecial : s.any Style.isSpecial = false) : ∀ c ∈ s, TakesColumn c := fun c hc =>
    takesColumn_of_not_special (Bool.eq_false_iff.2 (List.any_eq_false.1 hspecial c hc)) (hbreak c hc)
  have hsingle : TakesColumn '\'' := by decide
  have hdouble : TakesColumn '"' := by decide
  suffices hflat : (∀ c ∈ flatForm s, TakesColumn c) ∧ (flatForm s).length ≤ 1024
      ∧ StartsLine (flatForm s) from ⟨hform, hflat.1, hflat.2.1, hflat.2.2⟩
  unfold flatForm
  cases hs : Style.ofText s with
  | plain =>
      obtain ⟨-, hallows, -⟩ := style_eq_plain hs
      have hspecial : s.any Style.isSpecial = false := by
        simp only [Style.allowsPlain, Bool.not_eq_true', Bool.or_eq_false_iff] at hallows
        exact hallows.1.1.2
      refine ⟨hcolumns hspecial, ?_, startsLine_of_allowsPlain hne hallows⟩
      exact hlength.trans (by decide)
  | single =>
      have hallows := style_eq_single hs
      have hspecial : s.any Style.isSpecial = false := by
        simp only [Style.allowsSingle, Bool.not_eq_true', Bool.or_eq_false_iff] at hallows
        exact hallows.2
      refine ⟨?_, ?_, startsLine_of_head? (by decide) hsingle⟩
      · refine List.forall_mem_cons.2 ⟨hsingle, List.forall_mem_append.2 ⟨fun c hc => ?_, by simpa⟩⟩
        exact hcolumns hspecial c (mem_of_mem_singleText hc)
      · have hdoubled := length_singleText_le s
        simp only [Style.maxKeyLength] at hlength
        simp only [List.length_cons, List.length_append, List.length_nil]
        omega
  | double =>
      refine ⟨?_, ?_, startsLine_of_head? (by decide) hdouble⟩
      · refine List.forall_mem_cons.2 ⟨hdouble, List.forall_mem_append.2 ⟨fun c hc => ?_, by simpa⟩⟩
        exact takesColumn_of_mem_doubleText hc
      · have hlimit := hkept hs
        simp only [List.length_cons, List.length_append, List.length_nil]
        omega

end ApiScan.Yaml
