import ApiScan.Proofs.Model.Declaration

set_option autoImplicit false

/-! # Tags in blocks of fields

A tag is a word with a colon and a value behind it. The tags of a block of fields are those of its
fields in shorthand, and the `type` tags of the explicit ones. What looks for a tag in the text of
fields looks at them one after the other. -/

namespace ApiScan.DocumentSchema

open Text Source

variable {α : Type} {found : Option Char → Text → Option α} {named : Text → Bool}
  {value : Text → Option α} {fields : Declared} {sep s w t : Text} {tail : Tail} {c : Char}

/-! ## The end of a value -/

/-- A comma or a closing brace comes next. -/
def Closes (s : Text) : Prop :=
  ∃ gap c more, AllBlank gap ∧ (c = ',' ∨ c = '}') ∧ s = gap ++ c :: more

theorem closes_comma (s : Text) : Closes (',' :: s) :=
  ⟨[], ',', s, by decide, Or.inl rfl, rfl⟩

theorem closes_brace (s : Text) : Closes (' ' :: '}' :: s) :=
  ⟨[' '], '}', s, by decide, Or.inr rfl, rfl⟩

theorem closes_tail (tail : Tail) (s : Text) : Closes (tail.text ++ '}' :: s) := by
  obtain ⟨text, plain⟩ := tail
  induction text with
  | nil => exact ⟨[], '}', s, by decide, Or.inr rfl, rfl⟩
  | cons c text ih =>
      obtain ⟨hc, hplain⟩ := List.forall_mem_cons.1 plain
      rcases hc with rfl | hblank
      · exact closes_comma _
      · obtain ⟨gap, d, more, hgap, hd, he⟩ := ih hplain
        refine ⟨c :: gap, d, more, List.forall_mem_cons.2 ⟨hblank, hgap⟩, hd, ?_⟩
        exact congrArg (c :: ·) he

theorem Closes.stripStart_eq (h : Closes s) :
    ∃ c more, stripStart s = c :: more ∧ (c = ',' ∨ c = '}') := by
  obtain ⟨gap, c, more, hgap, hc, rfl⟩ := h
  refine ⟨c, more, ?_, hc⟩
  rw [stripStart_of_blank hgap, stripStart_cons]
  rcases hc with rfl | rfl <;> rfl

theorem Closes.eq_cons (h : Closes s) :
    ∃ c more, s = c :: more ∧ (c = ',' ∨ c = '}' ∨ isBlank c = true) := by
  obtain ⟨gap, c, more, hgap, hc, rfl⟩ := h
  cases gap with
  | nil => exact ⟨c, more, rfl, hc.imp id Or.inl⟩
  | cons d gap => exact ⟨d, gap ++ c :: more, rfl, Or.inr (Or.inr (hgap d List.mem_cons_self))⟩

theorem isTypeChar_eq_false (h : c = ',' ∨ c = '}' ∨ isBlank c = true) : isTypeChar c = false := by
  rcases h with rfl | rfl | hblank
  · decide
  · decide
  · have hdot : c ≠ '.' := by
      rintro rfl
      revert hblank
      decide
    have hdollar : c ≠ '$' := by
      rintro rfl
      revert hblank
      decide
    simp [isTypeChar, isWord_eq_false_of_isBlank hblank, hdot, hdollar]

theorem isWord_eq_false_of_isTypeChar (h : isTypeChar c = false) : isWord c = false := by
  unfold isTypeChar at h
  simp only [Bool.or_eq_false_iff] at h
  exact h.1.1

/-! ## What recognises tags -/

/-- A recogniser that wants a mark which starts with a word character, and no word in front of it. -/
theorem startsWithWord_of_mark {m : Char} {mark : Text} {k : Text → Option α}
    (hm : isWord m = true)
    (h : ∀ before s, found before s = (after? (m :: mark) s).bind fun rest =>
      if before.any isWord then none else k rest) : StartsWithWord found where
  inside := by
    intro c s hc
    rw [h]
    cases after? (m :: mark) s with
    | none => rfl
    | some rest => simp [hc]
  outside := by
    intro before c s hc
    have hne : m ≠ c := by
      rintro rfl
      exact nomatch hm.symm.trans hc
    have hnone : after? (m :: mark) (c :: s) = none := if_neg hne
    rw [h, hnone]
    rfl
  last := fun before => h before []
  start := by
    intro c s hc
    rw [h, h]
    cases after? (m :: mark) s with
    | none => rfl
    | some rest => simp [hc]

/-- A recogniser of tags with certain names, given what it makes of a value that is a word. -/
structure Tags (found : Option Char → Text → Option α) (named : Text → Bool)
    (value : Text → Option α) : Prop extends StartsWithWord found where
  other : ∀ w c s, AllWord w → isWord c = false → named w = false → found none (w ++ c :: s) = none
  closed : ∀ w s, AllWord w → Closes s → found none (w ++ s) = none
  group : ∀ w s, AllWord w → found none (w ++ ':' :: ' ' :: '{' :: s) = none
  tag : ∀ w t s, named w = true → AllWord t → t ≠ [] → Closes s →
    found none (w ++ ':' :: ' ' :: (t ++ s)) = value t

/-- What a declaration has for a recogniser of tags. -/
def Declaration.tag? (named : Text → Bool) (value : Text → Option α) : Declaration → Option α
  | shorthand name type => if named name.text then value type.text else none
  | explicit _ type => if named "type".toList then value type.text else none

namespace Tags

/-- A word at the end of a value is passed over. -/
theorem first?_closed (h : Tags found named value) (hw : AllWord w) (hs : Closes s) :
    first? found none (w ++ s) = first? found none s := by
  obtain ⟨c, more, rfl, hc⟩ := hs.eq_cons
  rw [h.first?_word hw (isWord_eq_false_of_isTypeChar (isTypeChar_eq_false hc)), h.closed w _ hw hs]
  rfl

theorem first?_tag (h : Tags found named value) (hw : AllWord w) (ht : AllWord t) (hne : t ≠ [])
    (hs : Closes s) :
    first? found none (w ++ ':' :: ' ' :: (t ++ s))
      = (if named w then value t else none).or (first? found none s) := by
  have hpass : first? found none (':' :: ' ' :: (t ++ s)) = first? found none s := by
    rw [← h.first?_closed ht hs]
    exact h.first?_noWord (show NoWord [':', ' '] by decide) _
  rw [h.first?_word hw (by decide), hpass]
  cases hnamed : named w with
  | true => rw [if_pos rfl, h.tag w t s hnamed ht hne hs]
  | false =>
      rw [if_neg Bool.false_ne_true, h.other w ':' _ hw (by decide) hnamed]

theorem first?_declaration (h : Tags found named value) {gap : Gap} {declaration : Declaration}
    (hsep : sep = [] ∨ sep = [',']) (hs : declaration.isExplicit = true ∨ Closes s) :
    first? found none (sep ++ gap.text ++ declaration.text ++ s)
      = (declaration.tag? named value).or (first? found none s) := by
  have hlead : NoWord (sep ++ gap.text) := by
    refine noWord_append ?_ (noWord_of_blank gap.blank)
    rcases hsep with rfl | rfl <;> decide
  rw [List.append_assoc (sep ++ gap.text), h.first?_noWord hlead]
  cases declaration with
  | shorthand name type =>
      rw [Declaration.text, List.append_assoc]
      exact h.first?_tag name.allWord type.allWord type.ne_nil (hs.resolve_left Bool.false_ne_true)
  | explicit name type =>
      have htype : AllWord "type".toList := by decide
      have hgroup : first? found none (' ' :: '}' :: s) = first? found none s :=
        h.first?_noWord (show NoWord [' ', '}'] by decide) s
      have hpass (rest : Text) :
          first? found none (':' :: ' ' :: '{' :: ' ' :: rest) = first? found none rest :=
        h.first?_noWord (show NoWord [':', ' ', '{', ' '] by decide) rest
      have htext : (Declaration.explicit name type).text ++ s
          = name.text ++ ':' :: ' ' :: '{' :: ' ' ::
            ("type".toList ++ ':' :: ' ' :: (type.text ++ ' ' :: '}' :: s)) := by
        simp [Declaration.text, Declaration.name, Declaration.body]
      rw [htext, h.first?_word name.allWord (by decide), h.group _ _ name.allWord, Option.none_or,
        hpass, h.first?_tag htype type.allWord type.ne_nil (closes_brace s), hgroup]
      rfl

/-- **Fields are looked at one after the other.** -/
theorem first?_sequence (h : Tags found named value) (hsep : sep = [] ∨ sep = [','])
    (hs : Closes s) :
    first? found none (sequence sep fields ++ s)
      = (fields.findSome? fun field => field.2.tag? named value).or (first? found none s) := by
  induction fields generalizing sep with
  | nil => rfl
  | cons field fields ih =>
      obtain ⟨gap, declaration⟩ := field
      have hnext : Closes (sequence [','] fields ++ s) := by
        cases fields with
        | nil => exact hs
        | cons => exact closes_comma _
      rw [sequence, List.append_assoc, h.first?_declaration hsep (Or.inr hnext), ih (Or.inr rfl),
        List.findSome?_cons]
      cases declaration.tag? named value <;> rfl

end Tags

/-! ## Type tags -/

theorem startsWithWord_typeToken? : StartsWithWord typeToken? :=
  startsWithWord_of_mark (m := 't') rfl fun _ _ => rfl

/-- A type token has a colon behind its name. -/
theorem typeToken?_eq_none {before : Option Char}
    (h : ∀ rest, after? "type".toList s = some rest → ∀ more, stripStart rest ≠ ':' :: more) :
    typeToken? before s = none := by
  unfold typeToken?
  cases hafter : after? "type".toList s with
  | none => rfl
  | some rest =>
      have hcolon := h rest hafter
      simp only [Option.bind_eq_bind, Option.bind_some]
      split <;> rfl

theorem stripStart_ne_colon {more : Text} (hc : isWord c = true) : stripStart (c :: s) ≠ ':' :: more := by
  rw [stripStart_cons (isBlank_eq_false_of_isWord hc)]
  intro he
  obtain ⟨rfl, -⟩ := List.cons.inj he
  revert hc
  decide

/-- The word in front of a type token is `type`. -/
theorem typeToken?_other (hw : AllWord w) (hc : isWord c = false) (hne : w ≠ "type".toList) :
    typeToken? none (w ++ c :: s) = none := by
  have hmark : AllWord "type".toList := by decide
  refine typeToken?_eq_none fun rest hrest more he => ?_
  obtain ⟨tail, rfl, rfl⟩ := eq_append_of_after? hmark hc hrest
  cases tail with
  | nil => exact hne (List.append_nil _)
  | cons d tail => exact stripStart_ne_colon (hw d (by simp)) he

/-- **Type tags**: the values of a tag `type`. -/
theorem tags_typeToken? : Tags typeToken? (fun w => decide (w = "type".toList)) some where
  toStartsWithWord := startsWithWord_typeToken?
  other := fun w c s hw hc hne => typeToken?_other hw hc (of_decide_eq_false hne)
  closed := by
    intro w s hw hs
    obtain ⟨d, more, hstrip, hd⟩ := hs.stripStart_eq
    obtain ⟨c, rest, rfl, hc⟩ := hs.eq_cons
    have hnone : isWord c = false := isWord_eq_false_of_isTypeChar (isTypeChar_eq_false hc)
    by_cases hname : w = "type".toList
    · subst hname
      refine typeToken?_eq_none fun rest' hrest more' he => ?_
      rw [after?_eq_some_iff] at hrest
      obtain rfl := List.append_cancel_left hrest
      rw [hstrip] at he
      obtain ⟨rfl, -⟩ := List.cons.inj he
      rcases hd with hd | hd <;> exact absurd hd (by decide)
    · exact typeToken?_other hw hnone hname
  group := by
    intro w s hw
    by_cases hname : w = "type".toList
    · subst hname
      rfl
    · exact typeToken?_other hw (by decide) hname
  tag := by
    intro w t s hname ht hne hs
    obtain rfl : w = "type".toList := of_decide_eq_true hname
    obtain ⟨c, more, rfl, hc⟩ := hs.eq_cons
    have htype : ∀ d ∈ t, isTypeChar d = true := fun d hd => by simp [isTypeChar, ht d hd]
    obtain ⟨htake, hdrop⟩ := takeWhile_append_cons htype (isTypeChar_eq_false hc) more
    have hafter : after? "type".toList ("type".toList ++ ':' :: ' ' :: (t ++ c :: more))
        = some (':' :: ' ' :: (t ++ c :: more)) := after?_eq_some_iff.2 rfl
    have hcolon : stripStart (':' :: ' ' :: (t ++ c :: more)) = ':' :: ' ' :: (t ++ c :: more) :=
      stripStart_cons rfl
    have hblank : stripStart (' ' :: (t ++ c :: more)) = t ++ c :: more :=
      stripStart_append_of_allWord ht hne
    have hend : (c = ',' || c = '}' || isBlank c) = true := by
      simpa [or_assoc] using hc
    rw [typeToken?, hafter]
    simp only [Option.bind_eq_bind, Option.bind_some, hcolon, hblank, htake, hdrop, hend]
    simp [hne]

/-! ## Time stamp tags -/

/-- Whether tags with a name switch time stamps on. -/
def isStampName (w : Text) : Bool := w = "timestamp".toList || w = "timestamps".toList

theorem startsWithWord_timestampsOn? : StartsWithWord timestampsOn? :=
  startsWithWord_of_mark (m := 't') rfl fun _ _ => rfl

/-- Time stamps are switched on behind a colon only. -/
theorem timestampsOn?_eq_none {before : Option Char}
    (h : ∀ rest, after? "timestamp".toList s = some rest →
      ∀ more, stripStart ((after? ['s'] rest).getD rest) ≠ ':' :: more) :
    timestampsOn? before s = none := by
  unfold timestampsOn?
  cases hafter : after? "timestamp".toList s with
  | none => rfl
  | some rest =>
      have hcolon := h rest hafter
      simp only [Option.bind_eq_bind, Option.bind_some]
      split <;> rfl

/-- The word in front of the colon is one of the names. -/
theorem timestampsOn?_other (hw : AllWord w) (hc : isWord c = false) (hne : isStampName w = false) :
    timestampsOn? none (w ++ c :: s) = none := by
  have hmark : AllWord "timestamp".toList := by decide
  refine timestampsOn?_eq_none fun rest hrest more he => ?_
  obtain ⟨tail, rfl, rfl⟩ := eq_append_of_after? hmark hc hrest
  cases tail with
  | nil => exact absurd hne (by simp [isStampName])
  | cons d tail =>
      by_cases hd : d = 's'
      · subst hd
        cases tail with
        | nil => exact absurd hne (by simp [isStampName])
        | cons e tail => exact stripStart_ne_colon (hw e (by simp)) he
      · have hnone : after? ['s'] ((d :: tail) ++ c :: s) = none := if_neg (Ne.symm hd)
        rw [hnone] at he
        exact stripStart_ne_colon (hw d (by simp)) he

theorem after?_stampName (hw : isStampName w = true) (hc : isWord c = false) :
    ∃ rest, after? "timestamp".toList (w ++ c :: s) = some rest
      ∧ (after? ['s'] rest).getD rest = c :: s := by
  have hne : 's' ≠ c := by
    rintro rfl
    revert hc
    decide
  simp only [isStampName, Bool.or_eq_true, decide_eq_true_eq] at hw
  rcases hw with rfl | rfl
  · exact ⟨c :: s, after?_eq_some_iff.2 rfl, by simp [after?, hne]⟩
  · exact ⟨'s' :: c :: s, after?_eq_some_iff.2 rfl, by simp [after?]⟩

/-- What a time stamp tag has to say. -/
def stampValue (t : Text) : Option Unit := if t = "true".toList then some () else none

/-- **Time stamp tags**: the tags with the value `true`. -/
theorem tags_timestampsOn? : Tags timestampsOn? isStampName stampValue where
  toStartsWithWord := startsWithWord_timestampsOn?
  other := fun w c s hw hc hne => timestampsOn?_other hw hc hne
  closed := by
    intro w s hw hs
    obtain ⟨d, more, hstrip, hd⟩ := hs.stripStart_eq
    obtain ⟨c, rest, rfl, hc⟩ := hs.eq_cons
    have hnone : isWord c = false := isWord_eq_false_of_isTypeChar (isTypeChar_eq_false hc)
    cases hname : isStampName w with
    | false => exact timestampsOn?_other hw hnone hname
    | true =>
        obtain ⟨behind, hafter, hbehind⟩ := after?_stampName (s := rest) hname hnone
        refine timestampsOn?_eq_none fun rest' hrest more' he => ?_
        obtain rfl := Option.some.inj (hafter.symm.trans hrest)
        rw [hbehind, hstrip] at he
        obtain ⟨rfl, -⟩ := List.cons.inj he
        rcases hd with hd | hd <;> exact absurd hd (by decide)
  group := by
    intro w s hw
    cases hname : isStampName w with
    | false => exact timestampsOn?_other hw (by decide) hname
    | true =>
        obtain ⟨behind, hafter, hbehind⟩ := after?_stampName (s := ' ' :: '{' :: s) hname
          (show isWord ':' = false by decide)
        rw [timestampsOn?, hafter]
        simp only [Option.bind_eq_bind, Option.bind_some, hbehind]
        rfl
  tag := by
    intro w t s hname ht hne hs
    obtain ⟨c, more, rfl, hc⟩ := hs.eq_cons
    have hword : isWord c = false := isWord_eq_false_of_isTypeChar (isTypeChar_eq_false hc)
    obtain ⟨behind, hafter, hbehind⟩ := after?_stampName (s := ' ' :: (t ++ c :: more)) hname
      (show isWord ':' = false by decide)
    have hcolon : stripStart (':' :: ' ' :: (t ++ c :: more)) = ':' :: ' ' :: (t ++ c :: more) :=
      stripStart_cons rfl
    have hblank : stripStart (' ' :: (t ++ c :: more)) = t ++ c :: more :=
      stripStart_append_of_allWord ht hne
    rw [timestampsOn?, hafter]
    simp only [Option.bind_eq_bind, Option.bind_some, hbehind, hcolon, hblank]
    cases htrue : after? "true".toList (t ++ c :: more) with
    | none =>
        have hother : t ≠ "true".toList := by
          rintro rfl
          exact nomatch htrue.symm.trans (after?_eq_some_iff.2 rfl)
        rw [stampValue, if_neg hother]
        rfl
    | some rest =>
        have hmark : AllWord "true".toList := by decide
        obtain ⟨tail, rfl, rfl⟩ := eq_append_of_after? hmark hword htrue
        cases tail with
        | nil => simp [stampValue, hword]
        | cons d tail =>
            have hd : isWord d = true := ht d (by simp)
            simp [stampValue, hd]

/-- No colon comes first where none is in front of the end of a value. -/
theorem stripStart_ne_colon_of_closes (ht : ':' ∉ t) (hs : Closes s) (more : Text) :
    stripStart (t ++ s) ≠ ':' :: more := by
  intro he
  rw [stripStart, List.dropWhile_append] at he
  split at he
  · obtain ⟨c, rest, hstrip, hc⟩ := hs.stripStart_eq
    obtain ⟨rfl, -⟩ := List.cons.inj (hstrip.symm.trans he)
    rcases hc with hc | hc <;> exact absurd hc (by decide)
  · next hne =>
      obtain ⟨c, rest, hdrop⟩ := List.exists_cons_of_ne_nil
        (show t.dropWhile isBlank ≠ [] by simpa using hne)
      rw [hdrop] at he
      obtain ⟨rfl, -⟩ := List.cons.inj he
      exact ht ((List.dropWhile_sublist _).mem (hdrop ▸ List.mem_cons_self))

/-- A text without a colon in front of the end of a value is passed over. -/
theorem first?_timestampsOn?_of_not_mem {before : Option Char} (ht : ':' ∉ t) (hs : Closes s) :
    first? timestampsOn? before (t ++ s) = first? timestampsOn? none s := by
  obtain ⟨c, more, rfl, hc⟩ := hs.eq_cons
  have hword : isWord c = false := isWord_eq_false_of_isTypeChar (isTypeChar_eq_false hc)
  induction t generalizing before with
  | nil =>
      rw [List.nil_append, first?, first?, startsWithWord_timestampsOn?.outside before c _ hword,
        startsWithWord_timestampsOn?.outside none c _ hword]
  | cons d t ih =>
      have hmark : AllWord "timestamp".toList := by decide
      have hnone : timestampsOn? before (d :: (t ++ c :: more)) = none := by
        refine timestampsOn?_eq_none fun rest hrest later he => ?_
        obtain ⟨tail, htail, rfl⟩ := eq_append_of_after? (w := d :: t) hmark hword hrest
        have hcolon : ':' ∉ tail := fun hm => ht (by rw [htail]; exact List.mem_append_right _ hm)
        -- the name of the tag may end with one more character
        have hrest : ∃ tail', (after? ['s'] (tail ++ c :: more)).getD (tail ++ c :: more)
            = tail' ++ c :: more ∧ ':' ∉ tail' := by
          cases hafter : after? ['s'] (tail ++ c :: more) with
          | none => exact ⟨tail, rfl, hcolon⟩
          | some found =>
              obtain ⟨tail', rfl, rfl⟩ := eq_append_of_after? (by decide) hword hafter
              exact ⟨tail', rfl, fun hm => hcolon (List.mem_append_right _ hm)⟩
        obtain ⟨tail', htail', hcolon'⟩ := hrest
        rw [htail'] at he
        exact stripStart_ne_colon_of_closes hcolon' hs later he
      rw [List.cons_append, first?, hnone]
      exact ih fun hm => ht (List.mem_cons_of_mem d hm)

end ApiScan.DocumentSchema
