import ApiScan.Proofs.Yaml.Form.Pen
import ApiScan.Proofs.Yaml.Form.Quoted

set_option autoImplicit false

/-! # The form of a text in single quotes

Between single quotes a quote is written twice, a single blank between two words may give way to a
line break, and line breaks are written as they are, the first one of a group twice if it is a line
feed. Such a form is read as its text unless the text holds a next-line character (U+0085): that one
is written as a line break too, and read as a line feed. -/

namespace ApiScan.Yaml

variable {s out bs : Text} {indent : Nat} {b c : Char} {before : Option Char}

/-! ## The form -/

/-- A group of line breaks as it is written between single quotes. -/
def breakGroup (first : Char) (more : Text) : Text :=
  (if first = '\n' then ['\n'] else []) ++ first :: more

/-- The forms of a text between single quotes. -/
inductive SingleForm (indent : Nat) : Text → Text → Prop
  | nil : SingleForm indent [] []
  | char {c : Char} {s out : Text} (hspacing : isSpacing c = false) (hbreak : isBreak c = false)
      (hquote : c ≠ '\'') (h : SingleForm indent s out) : SingleForm indent (c :: s) (c :: out)
  | quote {s out : Text} (h : SingleForm indent s out) :
      SingleForm indent ('\'' :: s) ('\'' :: '\'' :: out)
  | blank {s out : Text} (hline : StaysOnLine out) (h : SingleForm indent s out) :
      SingleForm indent (' ' :: s) (' ' :: out)
  | fold {s out : Text} (hs : StartsInk s) (h : SingleForm indent s out) :
      SingleForm indent (' ' :: s) (lineStart indent ++ out)
  | breaks {b : Char} {bs s out : Text} (hb : IsOwnBreak b) (hbs : ∀ b ∈ bs, IsOwnBreak b)
      (hs : StartsInk s) (h : SingleForm indent s out) :
      SingleForm indent (b :: (bs ++ s)) (breakGroup b bs ++ (List.replicate indent ' ' ++ out))

theorem SingleForm.startsInk (h : SingleForm indent s out) (hs : StartsInk s) : StartsInk out := by
  cases h with
  | nil => exact hs
  | char => exact hs
  | quote => exact hs
  | blank => exact absurd (hs ' ' rfl).1 (by decide)
  | fold => exact absurd (hs ' ' rfl).1 (by decide)
  | breaks hb => exact absurd (hs _ rfl).2 (by rw [hb.isBreak]; decide)

/-! ## Reading -/

/-- **A form between single quotes is read as its text.** -/
theorem SingleForm.readsAs (hindent : 0 < indent) (h : SingleForm indent s out) :
    ReadsAs false out (Points.ofText s) := by
  induction h with
  | nil => exact .nil false
  | @char c s out hspacing hbreak hquote _ ih =>
      have hblank : c ≠ ' ' ∧ c ≠ '\t' := by simpa [isSpacing] using hspacing
      exact ih.char hblank hbreak (fun _ => hquote) (fun hdouble => absurd hdouble (by decide))
  | quote _ ih => exact ih.quote
  | blank hline _ ih => exact ih.blank hline
  | fold hs h ih =>
      have hnone : ∀ b ∈ ([] : Text), IsOwnBreak b := by simp
      exact ih.breaks (Or.inl rfl) hnone hindent (h.startsInk hs)
  | @breaks b bs s out hb hbs hs h ih =>
      by_cases hfeed : b = '\n'
      · subst hfeed
        have hmore : ∀ b ∈ '\n' :: bs, IsOwnBreak b := List.forall_mem_cons.2 ⟨hb, hbs⟩
        have hread := ih.breaks hb hmore hindent (h.startsInk hs)
        simpa [breakGroup, folded, Points.ofText] using hread
      · have hread := ih.breaks hb hbs hindent (h.startsInk hs)
        simpa [breakGroup, folded, hfeed, Points.ofText] using hread

/-- A form has the characters of its text, quotes, and those of line breaks and indentations. -/
theorem SingleForm.mem (h : SingleForm indent s out) :
    ∀ c ∈ out, c ∈ s ∨ c = '\'' ∨ c = '\n' ∨ c = ' ' := by
  induction h with
  | nil => simp
  | char _ _ _ _ ih =>
      intro d hd
      rcases List.mem_cons.1 hd with rfl | hd
      · simp
      · rcases ih d hd with hd | hd <;> simp [hd]
  | quote _ ih =>
      intro d hd
      simp only [List.mem_cons] at hd
      rcases hd with rfl | rfl | hd
      · simp
      · simp
      · rcases ih d hd with hd | hd <;> simp [hd]
  | blank _ _ ih =>
      intro d hd
      rcases List.mem_cons.1 hd with rfl | hd
      · simp
      · rcases ih d hd with hd | hd <;> simp [hd]
  | fold _ _ ih =>
      intro d hd
      rcases List.mem_append.1 hd with hd | hd
      · rcases List.mem_cons.1 hd with rfl | hd
        · simp
        · simp [List.eq_of_mem_replicate hd]
      · rcases ih d hd with hd | hd <;> simp [hd]
  | @breaks b bs s out hb hbs hs h ih =>
      intro d hd
      simp only [breakGroup, List.mem_append, List.mem_cons] at hd
      rcases hd with (hd | rfl | hd) | hd | hd
      · right; right; left
        split at hd
        · simpa using hd
        · exact absurd hd List.not_mem_nil
      · simp
      · simp [hd]
      · simp [List.eq_of_mem_replicate hd]
      · rcases ih d hd with hd | hd <;> simp [hd]

/-! ## Writing -/

/-- What follows a character of a text that is written in single quotes: behind a line break, the
    breaks that belong to its group come first. -/
inductive SingleTail (indent : Nat) (before : Option Char) : Text → Text → Prop
  | form {s out : Text} (hline : before = some ' ' → StaysOnLine out)
      (hgroup : ∀ b ∈ before, Style.breaksLine b = true → ∀ c ∈ s.head?, Style.breaksLine c = false)
      (h : SingleForm indent s out) : SingleTail indent before s out
  | breaks {b : Char} {bs s out : Text} (hbefore : before = some b) (hb : Style.breaksLine b = true)
      (hne : bs ≠ []) (hbs : ∀ b ∈ bs, IsOwnBreak b) (hs : StartsInk s) (h : SingleForm indent s out) :
      SingleTail indent before (bs ++ s) (bs ++ (List.replicate indent ' ' ++ out))

/-- Whether the rest of a text can be written between single quotes and is read back. -/
structure GoesSingle (before : Option Char) (s : Text) : Prop where
  chars : ∀ c ∈ s, Style.isSpecial c = false ∧ c ≠ '\x85'
  blankBeforeBreak : Style.blankBeforeBreak (before.toList ++ s) = false
  blankAfterBreak : Style.blankAfterBreak (before.toList ++ s) = false

theorem hasPair_tail {p : Char → Char → Bool} (h : Style.hasPair p (before.toList ++ c :: s) = false) :
    Style.hasPair p (c :: s) = false := by
  cases before with
  | none => exact h
  | some b =>
      simp only [Option.toList, List.cons_append, List.nil_append, Style.hasPair,
        Bool.or_eq_false_iff] at h
      exact h.2

theorem GoesSingle.tail (h : GoesSingle before (c :: s)) : GoesSingle (some c) s where
  chars := (List.forall_mem_cons.1 h.chars).2
  blankBeforeBreak := hasPair_tail h.blankBeforeBreak
  blankAfterBreak := hasPair_tail h.blankAfterBreak

theorem isOwnBreak_of_breaksLine (hbreak : Style.breaksLine b = true) (hb : b ≠ '\x85') :
    IsOwnBreak b := by
  simpa [Style.breaksLine, hb, IsOwnBreak, or_assoc] using hbreak

/-- A character without an escape breaks a line where it is read if it does where it is written. -/
theorem isBreak_eq_breaksLine (h : Style.isSpecial c = false) : isBreak c = Style.breaksLine c := by
  have hreturn : c ≠ '\r' := by
    rintro rfl
    exact absurd h (by decide)
  simp [isBreak, Style.breaksLine, hreturn]

theorem isSpacing_eq_false (h : Style.isSpecial c = false) (hblank : c ≠ ' ') :
    isSpacing c = false := by
  have htab : c ≠ '\t' := by
    rintro rfl
    exact absurd h (by decide)
  simp [isSpacing, hblank, htab]

/-- Behind a blank there is no line break. -/
theorem GoesSingle.not_break_of_blank (h : GoesSingle (some ' ') s) :
    ∀ c ∈ s.head?, Style.breaksLine c = false := by
  intro c hc
  have := h.blankBeforeBreak
  cases s with
  | nil => exact absurd hc (Option.not_mem_none _)
  | cons d s =>
      obtain rfl : d = c := Option.some.inj hc
      simp only [Style.blankBeforeBreak, Option.toList, List.cons_append, List.nil_append,
        Style.hasPair, Bool.or_eq_false_iff] at this
      simpa using this.1

/-- Behind a line break there is no blank. -/
theorem GoesSingle.not_blank_of_break (h : GoesSingle (some b) s) (hb : Style.breaksLine b = true) :
    s.head? ≠ some ' ' := by
  intro hs
  have := h.blankAfterBreak
  cases s with
  | nil => exact absurd hs (Option.some_ne_none _).symm
  | cons d s =>
      obtain rfl : d = ' ' := Option.some.inj hs
      simp [Style.blankAfterBreak, Style.hasPair, hb] at this

theorem GoesSingle.startsInk (h : GoesSingle before s) (hblank : s.head? ≠ some ' ')
    (hbreak : ∀ c ∈ s.head?, Style.breaksLine c = false) : StartsInk s := by
  intro c hc
  have hmem : c ∈ s := List.mem_of_mem_head? hc
  have hne : c ≠ ' ' := by
    rintro rfl
    exact hblank hc
  have hspecial := (h.chars c hmem).1
  exact ⟨isSpacing_eq_false hspecial hne, by rw [isBreak_eq_breaksLine hspecial, hbreak c hc]⟩

/-- Whether a pen that goes to an indentation breaks the line where the rest of a text may ask for
    it: behind a character of a word. -/
structure ReadyPen (indent : Nat) (before : Option Char) (s : Text) (pen : Pen) : Prop where
  reached : s.head?.any Style.breaksLine = true ∨ pen.fresh = false ∨ indent ≤ pen.column
  breaks : ∀ b ∈ before, b ≠ ' ' → Style.breaksLine b = false → pen.Breaks indent

theorem ReadyPen.put {pen : Pen} {t : Text} (h : ReadyPen indent before (c :: s) pen)
    (hbreak : Style.breaksLine c = false) (ht : t ≠ []) :
    ReadyPen indent (some c) s (pen.put t) := by
  have hlength := List.length_pos_iff.2 ht
  have hreached : pen.fresh = false ∨ indent ≤ pen.column := by
    rcases h.reached with h | h
    · simp [hbreak] at h
    · exact h
  refine ⟨Or.inr (hreached.imp id fun h => Nat.le_add_right_of_le h), fun _ _ _ _ => ?_⟩
  refine hreached.imp id fun h => ?_
  rw [Pen.column_put]
  omega

/-- A pen at the indentation of a new line. -/
theorem ReadyPen.of_lineStart {written : Text} (hc : c = ' ' ∨ Style.breaksLine c = true) :
    ReadyPen indent (some c) s ⟨indent, true, true, written⟩ := by
  refine ⟨Or.inr (Or.inr (Nat.le_refl _)), ?_⟩
  intro b hb hblank hbreak
  obtain rfl : c = b := Option.some.inj hb
  rcases hc with rfl | hc
  · exact absurd rfl hblank
  · exact absurd hc (by rw [hbreak]; decide)

/-- Behind a character that is neither a blank nor a break, the text goes on in its form. -/
theorem SingleTail.of_ink (h : SingleTail indent (some c) s out) (hbreak : Style.breaksLine c = false) :
    SingleForm indent s out := by
  cases h with
  | form _ _ h => exact h
  | breaks hbefore hb =>
      obtain rfl := Option.some.inj hbefore
      exact absurd (hb.symm.trans hbreak) (by decide)

/-- A form that starts with neither a blank nor a break follows any character. -/
theorem SingleTail.of_startsInk {d : Char} (hform : SingleForm indent (c :: s) (d :: out))
    (hc : Style.breaksLine c = false) (hd : isSpacing d = false ∧ isBreak d = false) :
    SingleTail indent before (c :: s) (d :: out) := by
  refine .form (fun _ => ?_) (fun _ _ _ e he => ?_) hform
  · intro e he
    rw [List.dropWhile_cons_of_neg (by rw [hd.1]; decide)] at he
    obtain rfl : d = e := Option.some.inj he
    exact hd.2
  · obtain rfl : c = e := Option.some.inj he
    exact hc

/-- The rest of a text is written in one of its forms by every pen that is ready for it. -/
def WritesSingle (indent : Nat) (split : Bool) (before : Option Char) (s : Text) : Prop :=
  ∀ pen : Pen, GoesSingle before s → ReadyPen indent before s pen →
    ∃ out, SingleTail indent before s out
      ∧ (singleBody indent split before s pen).written = out.reverse ++ pen.written

/-- A blank, as it is or as a line break. -/
theorem writesSingle_blank {split : Bool} (ih : WritesSingle indent split (some ' ') s) :
    WritesSingle indent split before (' ' :: s) := by
  intro pen h hpen
  have hbreak : Style.breaksLine ' ' = false := by decide
  have hhead : ∀ b ∈ before, Style.breaksLine b = true →
      ∀ c ∈ (' ' :: s).head?, Style.breaksLine c = false := by
    intro _ _ _ c hc
    obtain rfl : ' ' = c := Option.some.inj hc
    exact hbreak
  unfold singleBody
  by_cases hfold : (before.isSome && !s.isEmpty && folds split before s.head? pen) = true
  · -- the blank stands alone behind a character of a word, so that the line is broken
    obtain ⟨⟨hbefore, -⟩, ⟨⟨-, hbne⟩, hafter⟩⟩ : (before.isSome = true ∧ s.isEmpty = false)
        ∧ ((split = true ∧ lineWidth < pen.column) ∧ before ≠ some ' ') ∧ s.head? ≠ some ' ' := by
      simpa [folds] using hfold
    obtain ⟨b, rfl⟩ := Option.isSome_iff_exists.1 hbefore
    have hb : Style.breaksLine b = false :=
      Bool.eq_false_iff.2 fun hb => h.not_blank_of_break hb rfl
    have hbreaks := hpen.breaks b rfl (fun he => hbne (congrArg some he)) hb
    have hink := h.tail.startsInk hafter h.tail.not_break_of_blank
    have hindent := Pen.indentTo_of_breaks hbreaks
    have hready : ReadyPen indent (some ' ') s (pen.indentTo indent) :=
      hindent ▸ .of_lineStart (Or.inl rfl)
    obtain ⟨out, htail, hwritten⟩ := ih _ h.tail hready
    refine ⟨lineStart indent ++ out, .form (fun he => absurd he hbne) hhead
      (.fold hink (htail.of_ink hbreak)), ?_⟩
    simp only [hfold, if_true]
    rw [hwritten, hindent]
    simp
  · obtain ⟨out, htail, hwritten⟩ := ih _ h.tail (hpen.put (t := [' ']) hbreak (List.cons_ne_nil _ _))
    refine ⟨' ' :: out, ?_, by simpa [hfold] using hwritten⟩
    cases htail with
    | form hline _ hform => exact .form (fun _ => hline rfl) hhead (.blank (hline rfl) hform)
    | breaks hbefore hb =>
        obtain rfl := Option.some.inj hbefore
        exact absurd (hb.symm.trans hbreak) (by decide)

/-- A line break and what follows it: the rest of its group, and a form behind the indentation. -/
theorem exists_group {split : Bool} (pen : Pen) (hb : Style.breaksLine c = true)
    (h : GoesSingle (some c) s) (ih : WritesSingle indent split (some c) s) :
    ∃ bs t out, s = bs ++ t ∧ (∀ b ∈ bs, IsOwnBreak b) ∧ StartsInk t ∧ SingleForm indent t out
      ∧ (singleBody indent split (some c) s (if s.head?.any Style.breaksLine then pen.breakLine c
          else (pen.breakLine c).indentTo indent)).written
        = (c :: (bs ++ (List.replicate indent ' ' ++ out))).reverse ++ pen.written := by
  by_cases hnext : s.head?.any Style.breaksLine = true
  · have hready : ReadyPen indent (some c) s (pen.breakLine c) := by
      refine ⟨Or.inl hnext, ?_⟩
      intro b hmem _ hbreak
      obtain rfl : c = b := Option.some.inj hmem
      exact absurd (hb.symm.trans hbreak) (by decide)
    obtain ⟨out, htail, hwritten⟩ := ih _ h hready
    -- behind a break that another one follows, the group goes on
    cases htail with
    | form _ hgroup hform =>
        obtain ⟨d, hd, hbreak⟩ := (Option.any_eq_true _ _).1 hnext
        exact absurd (hbreak.symm.trans (hgroup c rfl hb d hd)) (by decide)
    | @breaks b bs t out _ _ _ hbs ht hform =>
        refine ⟨bs, t, out, rfl, hbs, ht, hform, ?_⟩
        rw [if_pos hnext, hwritten]
        simp [Pen.breakLine]
  · have hnobreak : ∀ d ∈ s.head?, Style.breaksLine d = false := by
      intro d hd
      rw [hd] at hnext
      simpa using hnext
    have hindent : (pen.breakLine c).indentTo indent
        = ⟨indent, true, true, List.replicate indent ' ' ++ (pen.breakLine c).written⟩ :=
      Pen.indentTo_of_column_eq_zero rfl rfl rfl
    have hready : ReadyPen indent (some c) s ((pen.breakLine c).indentTo indent) :=
      hindent ▸ .of_lineStart (Or.inr hb)
    obtain ⟨out, htail, hwritten⟩ := ih _ h hready
    -- the group ends here, with the indentation written
    have hink := h.startsInk (h.not_blank_of_break hb) hnobreak
    refine ⟨[], s, out, rfl, by simp, hink, ?_, ?_⟩
    · cases htail with
      | form _ _ hform => exact hform
      | @breaks b bs t out _ _ hne hbs _ _ =>
          obtain ⟨d, bs, rfl⟩ := List.exists_cons_of_ne_nil hne
          have hd := (hbs d List.mem_cons_self).isBreak
          exact absurd (hd.symm.trans (hink d rfl).2) (by decide)
    · rw [if_neg hnext, hwritten, hindent]
      simp [Pen.breakLine]

/-- A line break, which is written twice if it is the first of its group and a line feed. -/
theorem writesSingle_break {split : Bool} (hbreak : Style.breaksLine c = true)
    (ih : WritesSingle indent split (some c) s) : WritesSingle indent split before (c :: s) := by
  intro pen h hpen
  have hblank : c ≠ ' ' := by
    rintro rfl
    exact absurd hbreak (by decide)
  have hown := isOwnBreak_of_breaksLine hbreak (h.chars c List.mem_cons_self).2
  let start : Pen := if c = '\n' && !before.any Style.breaksLine then pen.breakLine '\n' else pen
  have hgroup := exists_group start hbreak h.tail ih
  obtain ⟨bs, t, out, rfl, hbs, ht, hform, hwritten⟩ := hgroup
  unfold singleBody
  simp only [hblank, hbreak, if_false, if_true]
  rw [hwritten]
  by_cases hbefore : before.any Style.breaksLine = true
  · obtain ⟨b, hb, hbbreak⟩ := (Option.any_eq_true _ _).1 hbefore
    have htail : SingleTail indent before ((c :: bs) ++ t)
        ((c :: bs) ++ (List.replicate indent ' ' ++ out)) :=
      .breaks hb hbbreak (List.cons_ne_nil _ _) (List.forall_mem_cons.2 ⟨hown, hbs⟩) ht hform
    refine ⟨_, htail, ?_⟩
    simp [start, hbefore]
  · refine ⟨breakGroup c bs ++ (List.replicate indent ' ' ++ out),
      .form ?_ ?_ (.breaks hown hbs ht hform), ?_⟩
    · rintro rfl
      exact absurd (hbreak.symm.trans (h.not_break_of_blank c rfl)) (by decide)
    · intro b hb hbbreak
      exact absurd ((Option.any_eq_true _ _).2 ⟨b, hb, hbbreak⟩) hbefore
    · by_cases hfeed : c = '\n' <;> simp [start, breakGroup, hbefore, hfeed, Pen.breakLine]

/-- A character of a word; a quote is written twice. -/
theorem writesSingle_ink {split : Bool} (hblank : c ≠ ' ') (hbreak : Style.breaksLine c = false)
    (ih : WritesSingle indent split (some c) s) : WritesSingle indent split before (c :: s) := by
  intro pen h hpen
  have hspecial := (h.chars c List.mem_cons_self).1
  have hink : isSpacing c = false ∧ isBreak c = false :=
    ⟨isSpacing_eq_false hspecial hblank, by rw [isBreak_eq_breaksLine hspecial, hbreak]⟩
  unfold singleBody
  by_cases hquote : c = '\''
  · subst hquote
    obtain ⟨out, htail, hwritten⟩ :=
      ih _ h.tail (hpen.put (t := ['\'', '\'']) hbreak (List.cons_ne_nil _ _))
    refine ⟨'\'' :: '\'' :: out, .of_startsInk (htail.of_ink hbreak).quote hbreak hink, ?_⟩
    simpa [hbreak] using hwritten
  · obtain ⟨out, htail, hwritten⟩ := ih _ h.tail (hpen.put (t := [c]) hbreak (List.cons_ne_nil _ _))
    refine ⟨c :: out, .of_startsInk (.char hink.1 hink.2 hquote (htail.of_ink hbreak)) hbreak hink, ?_⟩
    simpa [hblank, hbreak, hquote] using hwritten

/-- **The rest of a text is written between single quotes in one of its forms.** -/
theorem writesSingle (indent : Nat) (split : Bool) (before : Option Char) (s : Text) :
    WritesSingle indent split before s := by
  induction s generalizing before with
  | nil => exact fun pen _ _ => ⟨[], .form (by simp [StaysOnLine]) (by simp) .nil, rfl⟩
  | cons c s ih =>
      by_cases hblank : c = ' '
      · subst hblank
        exact writesSingle_blank (ih _)
      · by_cases hbreak : Style.breaksLine c = true
        · exact writesSingle_break hbreak (ih _)
        · exact writesSingle_ink hblank (Bool.eq_false_iff.2 hbreak) (ih _)

/-- **A text that may be written in single quotes is written in one of its forms there**, unless it
    holds a next-line character. -/
theorem exists_putSingle (split : Bool) (pen : Pen) (h : Style.allowsSingle s = true)
    (hnext : '\x85' ∉ s) :
    ∃ body, SingleForm indent s body
      ∧ (putSingle indent split s pen).written
        = (if pen.spaced then '\'' :: (body ++ ['\'']) else ' ' :: '\'' :: (body ++ ['\''])).reverse
          ++ pen.written
      ∧ (putSingle indent split s pen).fresh = false
      ∧ (putSingle indent split s pen).spaced = false := by
  obtain ⟨⟨hbefore, hafter⟩, hspecial⟩ : (Style.blankBeforeBreak s = false
      ∧ Style.blankAfterBreak s = false) ∧ s.any Style.isSpecial = false := by
    simpa only [Style.allowsSingle, Bool.not_eq_true', Bool.or_eq_false_iff] using h
  have hgoes : GoesSingle none s := by
    refine ⟨fun c hc => ⟨Bool.eq_false_iff.2 (List.any_eq_false.1 hspecial c hc), ?_⟩, hbefore, hafter⟩
    rintro rfl
    exact hnext hc
  have hready : ReadyPen indent none s (pen.mark ['\''] true) :=
    ⟨Or.inr (Or.inl rfl), fun b hb => absurd hb (Option.not_mem_none b)⟩
  obtain ⟨body, htail, hwritten⟩ := writesSingle indent split none s _ hgoes hready
  have hform : SingleForm indent s body := by
    cases htail with
    | form _ _ hform => exact hform
    | breaks hnone => cases hnone
  refine ⟨body, hform, ?_, rfl, rfl⟩
  rw [putSingle, Pen.written_mark, hwritten, Pen.written_mark]
  cases pen.spaced <;> simp

/-! ## Texts on one line -/

/-- What stands between single quotes where no line is broken. -/
def singleText (s : Text) : Text := s.flatMap fun c => if c = '\'' then ['\'', '\''] else [c]

theorem singleBody_of_not_split {pen : Pen} (hlines : Style.isMultiline s = false) :
    singleBody indent false before s pen = pen.put (singleText s) := by
  induction s generalizing before pen with
  | nil => rfl
  | cons c s ih =>
      obtain ⟨hbreak, hlines⟩ : Style.breaksLine c = false ∧ Style.isMultiline s = false := by
        simpa [Style.isMultiline] using hlines
      have hcons : singleText (c :: s) = (if c = '\'' then ['\'', '\''] else [c]) ++ singleText s :=
        List.flatMap_cons
      rw [singleBody, hcons]
      simp only [folds, Bool.false_and, Bool.and_false, hbreak]
      rw [ih hlines]
      by_cases hblank : c = ' '
      · simp [hblank, Pen.put_put]
      · by_cases hquote : c = '\'' <;> simp [hblank, hquote, Pen.put_put]

theorem length_singleText_le (s : Text) : (singleText s).length ≤ 2 * s.length := by
  induction s with
  | nil => exact Nat.le_refl 0
  | cons c s ih =>
      rw [singleText, List.flatMap_cons, List.length_append, ← singleText, List.length_cons]
      by_cases hquote : c = '\'' <;> simp [hquote] <;> omega

theorem mem_of_mem_singleText (h : c ∈ singleText s) : c ∈ s := by
  obtain ⟨d, hd, hc⟩ := List.mem_flatMap.1 h
  by_cases hquote : d = '\''
  · subst hquote
    obtain rfl : c = '\'' := by simpa using hc
    exact hd
  · rw [if_neg hquote, List.mem_singleton] at hc
    exact hc ▸ hd

end ApiScan.Yaml
