import ApiScan.Proofs.Model.Layout
import ApiScan.Proofs.Model.Tags

set_option autoImplicit false

/-! # The field of a line

A line of a laid out block gives at most one field. Its name is what the line starts with and its
type is the value of the first `type` tag of the line, once a reference is dropped together with
everything in front of it. -/

namespace ApiScan.DocumentSchema

open Text Source

variable {fields : Declared} {sep s w mark rest front : Text} {tail : Tail} {c : Char}

/-! ## References -/

theorem eq_of_afterLast? (h : afterLast? mark s = some rest) : ∃ front, s = front ++ mark ++ rest := by
  induction s with
  | nil => exact ⟨[], after?_eq_some_iff.1 h⟩
  | cons c s ih =>
      rw [afterLast?] at h
      cases hlater : afterLast? mark s with
      | some later =>
          simp only [hlater] at h
          obtain ⟨front, hs⟩ := ih (hlater.trans h)
          exact ⟨c :: front, congrArg (c :: ·) hs⟩
      | none =>
          simp only [hlater] at h
          exact ⟨[], after?_eq_some_iff.1 h⟩

/-- Nothing comes after the last occurrence that does not come after each one. -/
theorem exists_afterLast? (h : s = front ++ mark ++ rest) :
    ∃ last, afterLast? mark s = some last ∧ last <:+ rest := by
  induction s generalizing front with
  | nil =>
      have hafter : after? mark [] = some rest := by
        rw [after?_eq_some_iff]
        cases front with
        | nil => exact h
        | cons => exact nomatch h
      exact ⟨rest, hafter, List.suffix_rfl⟩
  | cons c s ih =>
      rw [afterLast?]
      cases front with
      | nil =>
          cases hlater : afterLast? mark s with
          | none => exact ⟨rest, after?_eq_some_iff.2 h, List.suffix_rfl⟩
          | some later =>
              refine ⟨later, rfl, ?_⟩
              obtain ⟨before, hs⟩ := eq_of_afterLast? hlater
              have hlength : later.length ≤ rest.length := by
                have := congrArg List.length h
                rw [hs] at this
                simp only [List.length_cons, List.length_append, List.nil_append] at this
                omega
              have hlater' : later <:+ c :: s := ⟨c :: (before ++ mark), by rw [hs]; rfl⟩
              have hrest : rest <:+ c :: s := ⟨[] ++ mark, h.symm⟩
              exact List.suffix_of_suffix_length_le hlater' hrest hlength
      | cons d front =>
          obtain ⟨last, hlast, hsuffix⟩ := ih (List.cons.inj h).2
          rw [hlast]
          exact ⟨last, rfl, hsuffix⟩

theorem afterLast?_eq_none (h : ¬ mark <:+: s) : afterLast? mark s = none := by
  cases hlast : afterLast? mark s with
  | none => rfl
  | some rest =>
      obtain ⟨front, hs⟩ := eq_of_afterLast? hlast
      exact absurd ⟨front, rest, hs.symm⟩ h

/-- A line without a reference and what stands in front of it. -/
theorem dropReference_of_line (h : '\n' ∉ s) :
    dropReference s = (afterLast? "ObjectId".toList s).getD s := by
  rw [dropReference, lines_of_not_mem h, dropReferenceLine]
  cases afterLast? "ObjectId".toList s with
  | none => rfl
  | some rest => rfl

/-! ## Bare lines -/

/-- The field that a text gives which holds no reference. -/
def fieldOf (s : Text) : Option Field := do
  let token ← first? typeToken? none s
  let name := trimToWord (s.takeWhile (· ≠ ':'))
  if name.isEmpty then none else some ⟨name, Field.lowerType token⟩

theorem fieldOf_eq_none (h : first? typeToken? none s = none) : fieldOf s = none := by
  rw [fieldOf, h]
  rfl

theorem trimToWord_append (hgap : NoWord front) : trimToWord (front ++ s) = trimToWord s := by
  rw [trimToWord, List.dropWhile_append_of_pos fun c hc => by simp [hgap c hc]]
  rfl

theorem trimToWord_of_allWord (hw : AllWord w) : trimToWord w = w := by
  have hkeep : ∀ c ∈ w, (!isWord c) = false := fun c hc => by simp [hw c hc]
  rw [trimToWord, dropWhile_of_forall hkeep, dropEndWhile_of_forall hkeep]

theorem trimToWord_ne_nil (hc : c ∈ s) (hword : isWord c = true) : trimToWord s ≠ [] := by
  intro h
  rw [trimToWord, dropEndWhile, List.reverse_eq_nil_iff, List.dropWhile_eq_nil_iff] at h
  have hall : ∀ d ∈ s.dropWhile (fun d => !isWord d), isWord d = false := fun d hd => by
    simpa using h d (List.mem_reverse.2 hd)
  rw [← List.takeWhile_append_dropWhile (p := fun d => !isWord d) (l := s)] at hc
  rcases List.mem_append.1 hc with hc | hc
  · have := List.mem_takeWhile_imp hc
    simp [hword] at this
  · exact Bool.noConfusion (hword.symm.trans (hall c hc))

/-- What stands in front of the first word of a line and is no colon does not matter. -/
theorem fieldOf_append (hgap : NoWord front) (hcolon : ':' ∉ front) :
    fieldOf (front ++ s) = fieldOf s := by
  have hall : ∀ c ∈ front, decide (c ≠ ':') = true := fun c hc =>
    decide_eq_true fun he => hcolon (he ▸ hc)
  rw [fieldOf, fieldOf, startsWithWord_typeToken?.first?_noWord hgap,
    List.takeWhile_append_of_pos hall, trimToWord_append hgap]

/-- What is dropped at the start of a text that ends with another character. -/
theorem exists_dropWhile_append {p : Char → Bool} (hp : p c = false) (s : Text) :
    ∃ lead front, s = lead ++ front ∧ (s ++ [c]).dropWhile p = front ++ [c]
      ∧ ∀ d ∈ lead, p d = true := by
  refine ⟨s.takeWhile p, s.dropWhile p, List.takeWhile_append_dropWhile.symm, ?_,
    fun d => List.mem_takeWhile_imp⟩
  rw [List.dropWhile_append]
  split
  · next h =>
      rw [List.isEmpty_iff.1 h]
      exact List.dropWhile_cons_of_neg (by simp [hp])
  · rfl

/-- A line that ends with a brace ends with it without the references, too. -/
theorem exists_getD_afterLast? (s : Text) :
    ∃ front, (afterLast? "ObjectId".toList (s ++ ['}'])).getD (s ++ ['}']) = front ++ ['}'] := by
  cases hlast : afterLast? "ObjectId".toList (s ++ ['}']) with
  | none => exact ⟨s, rfl⟩
  | some rest =>
      obtain ⟨front, hs⟩ := eq_of_afterLast? hlast
      rcases List.eq_nil_or_concat rest with rfl | ⟨rest, c, rfl⟩
      · -- the mark does not end with a brace
        have hmark : front ++ "ObjectId".toList ++ [] = (front ++ "ObjectI".toList) ++ ['d'] := by simp
        rw [hmark] at hs
        exact absurd (List.append_inj' hs rfl).2 (by decide)
      · rw [List.concat_eq_append, ← List.append_assoc] at hs
        obtain ⟨-, hc⟩ := List.append_inj' hs rfl
        exact ⟨rest, by rw [List.concat_eq_append, hc]; rfl⟩

/-- **The field of a line** that ends with a brace. -/
theorem parseField?_of_line (h : '\n' ∉ s) (hend : s = front ++ ['}']) :
    parseField? s = fieldOf ((afterLast? "ObjectId".toList s).getD s) := by
  obtain ⟨front, hrest⟩ : ∃ front, (afterLast? "ObjectId".toList s).getD s = front ++ ['}'] := by
    rw [hend]
    exact exists_getD_afterLast? front
  rw [hrest]
  have hblank {s : Text} : ∃ lead front, s = lead ++ front ∧ strip (s ++ ['}']) = front ++ ['}']
      ∧ ∀ d ∈ lead, isBlank d = true := by
    rw [strip_append_singleton (by decide)]
    exact exists_dropWhile_append (by decide) s
  have hlead {s : Text} {p : Char → Bool} (hs : ∀ d ∈ s, p d = true) (hcolon : p ':' = false)
      (hp : ∀ d, p d = true → isWord d = false) : NoWord s ∧ ':' ∉ s :=
    ⟨fun d hd => hp d (hs d hd), fun hd => nomatch hcolon.symm.trans (hs ':' hd)⟩
  obtain ⟨lead, front, rfl, hfirst, hb⟩ := hblank (s := front)
  obtain ⟨commas, front, rfl, hsecond, hc⟩ :=
    exists_dropWhile_append (c := '}') (p := (decide <| · = ',')) (by decide) front
  obtain ⟨lead', front, rfl, hthird, hb'⟩ := hblank (s := front)
  have hcomma (d : Char) (hd : decide (d = ',') = true) : isWord d = false := by
    rw [of_decide_eq_true hd]
    decide
  obtain ⟨hno, hnot⟩ := hlead hb (by decide) fun d => isWord_eq_false_of_isBlank
  obtain ⟨hno', hnot'⟩ := hlead hc (by decide) hcomma
  obtain ⟨hno'', hnot''⟩ := hlead hb' (by decide) fun d => isWord_eq_false_of_isBlank
  have hparse : parseField? s = fieldOf (front ++ ['}']) := by
    rw [parseField?, dropReference_of_line h, hrest, hfirst, hsecond, hthird]
    rfl
  rw [hparse, List.append_assoc, fieldOf_append hno hnot, List.append_assoc,
    fieldOf_append hno' hnot', List.append_assoc, fieldOf_append hno'' hnot'']

/-! ## References in lines -/

/-- Whether a word holds the mark of a reference. -/
def Word.isReference (word : Word) : Bool := holds "ObjectId".toList word.text

theorem Word.isReference_iff {word : Word} :
    word.isReference = true ↔ "ObjectId".toList <:+: word.text := holds_iff

theorem allWord_mark : AllWord "ObjectId".toList := by decide

theorem noWord_lead {gap : Gap} (hsep : sep = [] ∨ sep = [',']) : NoWord (sep ++ gap.text) := by
  refine noWord_append ?_ (noWord_of_blank gap.blank)
  rcases hsep with rfl | rfl <;> decide

/-- A reference in front of a word's end is in the word or behind it. -/
theorem reference_at {word : Word} (hc : isWord c = false)
    (h : word.text ++ c :: s = front ++ "ObjectId".toList ++ rest) :
    (word.isReference = true ∧ ∃ w, AllWord w ∧ rest = w ++ c :: s)
      ∨ ∃ more, s = more ++ "ObjectId".toList ++ rest := by
  rcases split_at_of_allWord allWord_mark hc h with ⟨w, hword, hrest⟩ | hmore
  · refine Or.inl ⟨Word.isReference_iff.2 ⟨front, w, hword.symm⟩, w, fun d hd => ?_, hrest⟩
    exact word.allWord d (by simp [hword, hd])
  · exact Or.inr hmore

/-- A reference among fields in shorthand is in the type of one of them. -/
theorem reference_cases {fin : Text} (hsep : sep = [] ∨ sep = [',']) (hs : Closes fin)
    (hfin : ¬ "ObjectId".toList <:+: fin)
    (hplain : ∀ field ∈ fields, field.2.isExplicit = false ∧ field.2.name.isReference = false)
    (h : sequence sep fields ++ fin = front ++ "ObjectId".toList ++ rest) :
    ∃ w before field later, fields = before ++ field :: later
      ∧ field.2.type.isReference = true ∧ AllWord w ∧ rest = w ++ (sequence [','] later ++ fin) := by
  induction fields generalizing sep front with
  | nil => exact absurd ⟨front, rest, h.symm⟩ hfin
  | cons field fields ih =>
      obtain ⟨gap, declaration⟩ := field
      obtain ⟨⟨hshort, hname⟩, hfields⟩ := List.forall_mem_cons.1 hplain
      cases declaration with
      | explicit name type => exact Bool.noConfusion hshort
      | shorthand name type =>
          have hnext : Closes (sequence [','] fields ++ fin) := by
            cases fields with
            | nil => exact hs
            | cons => exact closes_comma _
          obtain ⟨c, more, hmore, hc⟩ := hnext.eq_cons
          have hend := isWord_eq_false_of_isTypeChar (isTypeChar_eq_false hc)
          have htext : sequence sep ((gap, .shorthand name type) :: fields) ++ fin
              = (sep ++ gap.text) ++ (name.text ++ ':' :: ([' '] ++ (type.text ++ c :: more))) := by
            rw [← hmore]
            simp [sequence, Declaration.text, Declaration.name, Declaration.body]
          rw [htext] at h
          obtain ⟨front', h⟩ := split_of_noWord allWord_mark (by decide) (noWord_lead hsep) h
          rcases reference_at (by decide) h with ⟨hreference, -⟩ | ⟨front', h⟩
          · exact Bool.noConfusion (hname.symm.trans hreference)
          obtain ⟨front', h⟩ := split_of_noWord allWord_mark (by decide) (by decide) h
          rcases reference_at hend h with ⟨hreference, w, hw, hrest⟩ | ⟨front', h⟩
          · exact ⟨w, [], _, fields, rfl, hreference, hw, by rw [hmore]; exact hrest⟩
          have hlater : sequence [','] fields ++ fin = (c :: front') ++ "ObjectId".toList ++ rest := by
            rw [hmore, h]
            rfl
          obtain ⟨w, before, field, later, hfields, hreference, hw, hrest⟩ :=
            ih (Or.inr rfl) hfields hlater
          exact ⟨w, (gap, .shorthand name type) :: before, field, later,
            congrArg (_ :: ·) hfields, hreference, hw, hrest⟩

/-- A reference in an explicit field is in its name or in its type. -/
theorem not_reference_explicit {gap : Gap} {name type : Word} (hsep : sep = [] ∨ sep = [','])
    (hname : name.isReference = false) (htype : type.isReference = false) :
    ¬ "ObjectId".toList <:+: sep ++ gap.text ++ (Declaration.explicit name type).text := by
  rintro ⟨front, rest, h⟩
  have htext : (Declaration.explicit name type).text
      = name.text ++ ':' :: ([' ', '{', ' '] ++ ("type".toList ++ ':' :: ([' '] ++
        (type.text ++ ' ' :: ['}'])))) := by
    simp [Declaration.text, Declaration.name, Declaration.body]
  rw [htext] at h
  obtain ⟨front, h⟩ := split_of_noWord allWord_mark (by decide) (noWord_lead hsep) h.symm
  rcases reference_at (by decide) h with ⟨hreference, -⟩ | ⟨front, h⟩
  · exact Bool.noConfusion (hname.symm.trans hreference)
  obtain ⟨front, h⟩ := split_of_noWord allWord_mark (by decide) (by decide) h
  rcases split_at_of_allWord allWord_mark (by decide) h with ⟨tail, htag, -⟩ | ⟨front, h⟩
  · -- the mark is longer than the name of the tag
    have hlength := congrArg List.length htag
    rw [List.length_append, List.length_append] at hlength
    have hmark : "ObjectId".toList.length = 8 := rfl
    have htag : "type".toList.length = 4 := rfl
    omega
  obtain ⟨front, h⟩ := split_of_noWord allWord_mark (by decide) (by decide) h
  rcases reference_at (by decide) h with ⟨hreference, -⟩ | ⟨front, h⟩
  · exact Bool.noConfusion (htype.symm.trans hreference)
  obtain ⟨front, h⟩ := split_of_noWord (s := []) allWord_mark (by decide)
    (show NoWord ['}'] by decide) h
  exact absurd h (by simp)

/-- What is left of a line whose fields in shorthand have plain names. -/
theorem exists_bare {fin : Text} (hsep : sep = [] ∨ sep = [','])
    (hplain : ∀ field ∈ fields, field.2.isExplicit = false ∧ field.2.name.isReference = false)
    (hs : fields ≠ [] → Closes fin) (hfin : ¬ "ObjectId".toList <:+: fin) :
    ∃ w sep' later,
      (afterLast? "ObjectId".toList (sequence sep fields ++ fin)).getD (sequence sep fields ++ fin)
        = w ++ (sequence sep' later ++ fin)
      ∧ AllWord w ∧ (sep' = [] ∨ sep' = [',']) ∧ later <:+ fields
      ∧ nextSep sep' later = nextSep sep fields ∧ (w = [] ∨ fields ≠ [] ∧ sep' = [',']) := by
  cases hlast : afterLast? "ObjectId".toList (sequence sep fields ++ fin) with
  | none =>
      exact ⟨[], sep, fields, rfl, by simp [AllWord], hsep, List.suffix_rfl, rfl, Or.inl rfl⟩
  | some rest =>
      obtain ⟨front, h⟩ := eq_of_afterLast? hlast
      have hne : fields ≠ [] := by
        rintro rfl
        exact hfin ⟨front, rest, h.symm⟩
      obtain ⟨w, before, field, later, rfl, -, hw, hrest⟩ :=
        reference_cases hsep (hs hne) hfin hplain h
      have hnext (fields : Declared) : nextSep [','] fields = [','] := by cases fields <;> rfl
      refine ⟨w, [','], later, hrest, hw, Or.inr rfl, ⟨before ++ [field], by simp⟩, ?_,
        Or.inr ⟨hne, rfl⟩⟩
      rw [hnext]
      cases before <;> rfl

/-! ## What a line gives -/

/-- A field in shorthand that is not named like a tag or a reference. -/
def Declaration.isPlain (declaration : Declaration) : Bool :=
  !declaration.isExplicit && declaration.name.text ≠ "type".toList && !declaration.name.isReference

/-- What a line of declarations gives. -/
structure LineYields (line : List Declaration) (found : Option Field) : Prop where
  /-- A reference gives nothing. -/
  reference : ∀ front name type, line = front ++ [.explicit name type] →
    type.isReference = true → found = none
  /-- An explicit field gives a field with its type. It has the name of the explicit field if no
      other one is on the line. -/
  explicit : ∀ front name type, line = front ++ [.explicit name type] →
    (∀ declaration ∈ front, declaration.isPlain = true) → name.isReference = false →
    type.isReference = false →
    ∃ given, found = some ⟨given, Field.lowerType type.text⟩ ∧ (front = [] → given = name.text)
  /-- Fields in shorthand give nothing. -/
  shorthand : (∀ declaration ∈ line, declaration.isPlain = true) → found = none
  /-- A field in shorthand that is named like the tag gives a field. -/
  typeName : ∀ name type, line = [.shorthand name type] → name.text = "type".toList →
    found = if type.isReference then none else some ⟨name.text, Field.lowerType type.text⟩

theorem isPlain_iff {declaration : Declaration} :
    declaration.isPlain = true ↔ declaration.isExplicit = false
      ∧ declaration.name.text ≠ "type".toList ∧ declaration.name.isReference = false := by
  simp [Declaration.isPlain, and_assoc]

/-- Plain fields have no type tag. -/
theorem findSome?_plain (h : ∀ field ∈ fields, field.2.isPlain = true) :
    (fields.findSome? fun field =>
      field.2.tag? (fun w => decide (w = "type".toList)) some) = none := by
  refine List.findSome?_eq_none_iff.2 fun field hf => ?_
  obtain ⟨gap, declaration⟩ := field
  obtain ⟨hshort, hname, -⟩ := isPlain_iff.1 (h _ hf)
  cases declaration with
  | explicit name type => exact Bool.noConfusion hshort
  | shorthand name type =>
      have hother : name.text ≠ "type".toList := hname
      exact if_neg (by simpa using hother)

/-- What is left of the plain fields of a line is passed over. -/
theorem first?_bare {fin : Text} (hw : AllWord w) (hsep : sep = [] ∨ sep = [','])
    (hplain : ∀ field ∈ fields, field.2.isPlain = true) (hs : fields ≠ [] → Closes fin)
    (hend : w = [] ∨ Closes fin ∧ sep = [',']) :
    first? typeToken? none (w ++ (sequence sep fields ++ fin)) = first? typeToken? none fin := by
  have hfields : first? typeToken? none (sequence sep fields ++ fin) = first? typeToken? none fin := by
    by_cases hne : fields = []
    · subst hne
      rfl
    · rw [tags_typeToken?.first?_sequence hsep (hs hne), findSome?_plain hplain, Option.none_or]
  rcases hend with rfl | ⟨hfin, rfl⟩
  · exact hfields
  · have hnext : Closes (sequence [','] fields ++ fin) := by
      cases fields with
      | nil => exact hfin
      | cons => exact closes_comma _
    rw [tags_typeToken?.first?_closed hw hnext, hfields]

theorem first?_typeToken?_eq_none (h : ':' ∉ s) : first? typeToken? none s = none := by
  refine first?_eq_none_iff.2 fun front rest hs => typeToken?_eq_none fun after hafter more he => h ?_
  have hcolon : ':' ∈ stripStart after := by simp [he]
  have hmem : ':' ∈ rest := by
    rw [after?_eq_some_iff.1 hafter]
    exact List.mem_append_right _ ((List.dropWhile_sublist _).mem hcolon)
  simp [hs, hmem]

/-- A line whose last type is a reference gives nothing. -/
theorem fieldOf_reference {type : Word} {fin : Text} (htype : type.isReference = true)
    (hfin : ':' ∉ fin) (hs : s = front ++ (type.text ++ fin)) :
    fieldOf ((afterLast? "ObjectId".toList s).getD s) = none := by
  obtain ⟨before, after, hword⟩ := Word.isReference_iff.1 htype
  have hsplit : s = (front ++ before) ++ "ObjectId".toList ++ (after ++ fin) := by
    rw [hs, ← hword]
    simp only [List.append_assoc]
  obtain ⟨last, hlast, hsuffix⟩ := exists_afterLast? hsplit
  rw [hlast, Option.getD_some]
  refine fieldOf_eq_none (first?_typeToken?_eq_none fun hcolon => ?_)
  rcases List.mem_append.1 (hsuffix.mem hcolon) with hc | hc
  · have hall : isWord ':' = true := type.allWord ':' (by simp [← hword, hc])
    exact absurd hall (by decide)
  · exact hfin hc

/-- What stands in front of the first colon of fields. -/
theorem takeWhile_sequence {gap : Gap} {declaration : Declaration} (hw : AllWord w)
    (hsep : sep = [] ∨ sep = [',']) :
    (w ++ (sequence sep ((gap, declaration) :: fields) ++ s)).takeWhile (· ≠ ':')
      = w ++ (sep ++ gap.text) ++ declaration.name.text := by
  have hbody : ∃ rest, declaration.body = ':' :: rest := by cases declaration <;> exact ⟨_, rfl⟩
  obtain ⟨rest, hrest⟩ := hbody
  have hword {w : Text} (hw : AllWord w) : ∀ c ∈ w, c ≠ ':' := by
    rintro c hc rfl
    exact absurd (hw ':' hc) (by decide)
  have hsep' : ∀ c ∈ sep, c ≠ ':' := by rcases hsep with rfl | rfl <;> simp
  have hgap : ∀ c ∈ gap.text, c ≠ ':' := by
    rintro c hc rfl
    exact absurd (gap.blank ':' hc) (by decide)
  have hall : ∀ c ∈ w ++ (sep ++ gap.text) ++ declaration.name.text, decide (c ≠ ':') = true := by
    simp only [List.mem_append, decide_eq_true_eq]
    rintro c ((hc | hc | hc) | hc)
    · exact hword hw c hc
    · exact hsep' c hc
    · exact hgap c hc
    · exact hword declaration.name.allWord c hc
  have htext : w ++ (sequence sep ((gap, declaration) :: fields) ++ s)
      = (w ++ (sep ++ gap.text) ++ declaration.name.text) ++ ':' :: (rest ++ sequence [','] fields ++ s) := by
    rw [sequence, Declaration.text, hrest]
    simp only [List.append_assoc, List.cons_append]
  rw [htext, List.takeWhile_append_of_pos hall, List.takeWhile_cons_of_neg (by simp), List.append_nil]

/-- The name of a field is what its line starts with. -/
theorem fieldOf_sequence {gap : Gap} {declaration : Declaration} {token : Text} (hw : AllWord w)
    (hsep : sep = [] ∨ sep = [','])
    (htoken : first? typeToken? none (w ++ (sequence sep ((gap, declaration) :: fields) ++ s))
      = some token) :
    fieldOf (w ++ (sequence sep ((gap, declaration) :: fields) ++ s))
      = some ⟨trimToWord (w ++ (sep ++ gap.text) ++ declaration.name.text), Field.lowerType token⟩ := by
  obtain ⟨c, text, hc⟩ := List.exists_cons_of_ne_nil declaration.name.ne_nil
  have hne : trimToWord (w ++ (sep ++ gap.text) ++ declaration.name.text) ≠ [] :=
    trimToWord_ne_nil (c := c) (by simp [hc]) (declaration.name.allWord c (by simp [hc]))
  rw [fieldOf, htoken]
  simp only [Option.bind_eq_bind, Option.bind_some, takeWhile_sequence hw hsep]
  exact if_neg (by simpa using hne)

theorem trimToWord_name {gap : Gap} {name : Word} (hsep : sep = [] ∨ sep = [',']) :
    trimToWord ([] ++ (sep ++ gap.text) ++ name.text) = name.text := by
  rw [List.nil_append, trimToWord_append (noWord_lead hsep), trimToWord_of_allWord name.allWord]

theorem isReference_of_isPlain (h : ∀ field ∈ fields, field.2.isPlain = true) :
    ∀ field ∈ fields, field.2.isExplicit = false ∧ field.2.name.isReference = false := by
  intro field hf
  obtain ⟨hshort, -, hname⟩ := isPlain_iff.1 (h field hf)
  exact ⟨hshort, hname⟩

theorem noWord_tail (tail : Tail) : NoWord (tail.text ++ ['}']) := by
  refine noWord_append (fun c hc => ?_) (by decide)
  rcases tail.plain c hc with rfl | hblank
  · decide
  · exact isWord_eq_false_of_isBlank hblank

/-- The last line of a block. -/
theorem lineYields_last (hsep : sep = [] ∨ sep = [','])
    (hfields : ∀ field ∈ fields, field.2.isExplicit = false)
    (hline : '\n' ∉ sequence sep fields ++ (tail.text ++ ['}'])) :
    LineYields (fields.map Prod.snd) (parseField? (sequence sep fields ++ (tail.text ++ ['}']))) := by
  have hnoWord := noWord_tail tail
  have hnone : first? typeToken? none (tail.text ++ ['}']) = none :=
    startsWithWord_typeToken?.first?_eq_none hnoWord
  have hfin : ¬ "ObjectId".toList <:+: tail.text ++ ['}'] := by
    rintro ⟨front, rest, h⟩
    have hO : isWord 'O' = false := hnoWord 'O' (by simp [← h])
    exact absurd hO (by decide)
  have hcolon : ':' ∉ tail.text ++ ['}'] := by
    intro hc
    rcases List.mem_append.1 hc with hc | hc
    · rcases tail.plain ':' hc with h | h <;> exact absurd h (by decide)
    · exact absurd hc (by decide)
  have hcloses : Closes (tail.text ++ ['}']) := closes_tail tail []
  have hexplicit {front : List Declaration} {name type : Word}
      (h : fields.map Prod.snd = front ++ [.explicit name type]) : False := by
    have hmem : Declaration.explicit name type ∈ fields.map Prod.snd := by simp [h]
    obtain ⟨field, hf, he⟩ := List.mem_map.1 hmem
    have hshort := hfields field hf
    rw [he] at hshort
    exact Bool.noConfusion hshort
  rw [parseField?_of_line hline (List.append_assoc _ _ _).symm]
  refine ⟨fun _ _ _ h => (hexplicit h).elim, fun _ _ _ h => (hexplicit h).elim, ?_, ?_⟩
  · intro hplain
    have hplain' : ∀ field ∈ fields, field.2.isPlain = true := fun field hf =>
      hplain field.2 (List.mem_map_of_mem hf)
    obtain ⟨w, sep', later, hrest, hw, hsep', hlater, -, hor⟩ :=
      exists_bare hsep (isReference_of_isPlain hplain') (fun _ => hcloses) hfin
    rw [hrest]
    refine fieldOf_eq_none ?_
    rw [first?_bare hw hsep' (fun field hf => hplain' field (hlater.mem hf)) (fun _ => hcloses)
      (hor.imp id fun h => ⟨hcloses, h.2⟩), hnone]
  · intro name type hone hname
    obtain ⟨⟨gap, declaration⟩, rfl, hfield⟩ := List.map_eq_singleton_iff.1 hone
    obtain rfl : declaration = .shorthand name type := hfield
    cases htype : type.isReference with
    | true =>
        have htext : sequence sep [(gap, .shorthand name type)] ++ (tail.text ++ ['}'])
            = (sep ++ gap.text ++ name.text ++ ": ".toList) ++ (type.text ++ (tail.text ++ ['}'])) := by
          simp [sequence, Declaration.text, Declaration.name, Declaration.body]
        exact fieldOf_reference htype hcolon htext
    | false =>
        have hlast : afterLast? "ObjectId".toList
            (sequence sep [(gap, .shorthand name type)] ++ (tail.text ++ ['}'])) = none := by
          refine afterLast?_eq_none ?_
          rintro ⟨front, rest, h⟩
          have hnotRef : name.isReference = false := by
            rw [Word.isReference, hname]
            rfl
          obtain ⟨w, before, field, later, hfield, href, -⟩ :=
            reference_cases hsep hcloses hfin (by simp [Declaration.isExplicit,
              Declaration.name, hnotRef]) h.symm
          have hmem : field ∈ [(gap, Declaration.shorthand name type)] := by simp [hfield]
          obtain rfl := List.mem_singleton.1 hmem
          exact Bool.noConfusion (htype.symm.trans href)
        rw [hlast, Option.getD_none]
        have htoken : first? typeToken? none
            (sequence sep [(gap, .shorthand name type)] ++ (tail.text ++ ['}'])) = some type.text := by
          rw [tags_typeToken?.first?_sequence hsep hcloses]
          simp [Declaration.tag?, hname]
        have hfield := fieldOf_sequence (w := []) (by simp [AllWord]) hsep htoken
        rw [trimToWord_name hsep] at hfield
        exact hfield

/-- A line up to an explicit field. -/
theorem lineYields_explicit {gap : Gap} {name type : Word} (hsep : sep = [] ∨ sep = [','])
    (hline : '\n' ∉ sequence sep (fields ++ [(gap, .explicit name type)])) :
    LineYields ((fields ++ [(gap, Declaration.explicit name type)]).map Prod.snd)
      (parseField? (sequence sep (fields ++ [(gap, .explicit name type)]))) := by
  have hfin (sep : Text) (fields : Declared) :
      sequence sep (fields ++ [(gap, .explicit name type)]) = sequence sep fields
        ++ (nextSep sep fields ++ gap.text ++ (Declaration.explicit name type).text) := by
    rw [sequence_append, sequence, sequence, List.append_nil]
  have hbrace : sequence sep (fields ++ [(gap, .explicit name type)])
      = (sequence sep fields ++ (nextSep sep fields ++ gap.text) ++ name.text
        ++ ": \x7b type: ".toList ++ type.text ++ [' ']) ++ ['}'] := by
    rw [hfin]
    simp [Declaration.text, Declaration.name, Declaration.body]
  have hlast {front : List Declaration} {name' type' : Word}
      (h : (fields ++ [(gap, Declaration.explicit name type)]).map Prod.snd
        = front ++ [.explicit name' type']) :
      fields.map Prod.snd = front ∧ name' = name ∧ type' = type := by
    rw [List.map_append] at h
    obtain ⟨hfront, he⟩ := List.append_inj' h rfl
    obtain ⟨rfl, rfl⟩ := Declaration.explicit.inj (List.cons.inj he).1
    exact ⟨hfront, rfl, rfl⟩
  rw [parseField?_of_line hline hbrace]
  refine ⟨?_, ?_, ?_, ?_⟩
  · intro front name' type' h htype
    obtain ⟨-, rfl, rfl⟩ := hlast h
    have htext : sequence sep (fields ++ [(gap, .explicit name' type')])
        = (sequence sep fields ++ (nextSep sep fields ++ gap.text) ++ name'.text
          ++ ": \x7b type: ".toList) ++ (type'.text ++ [' ', '}']) := by
      rw [hbrace]
      simp only [List.append_assoc]
      rfl
    exact fieldOf_reference htype (by decide) htext
  · intro front name' type' h hplain hname htype
    obtain ⟨rfl, rfl, rfl⟩ := hlast h
    have hplain' : ∀ field ∈ fields, field.2.isPlain = true := fun field hf =>
      hplain field.2 (List.mem_map_of_mem hf)
    have hnext := nextSep_cases hsep fields
    have hcloses : fields ≠ [] →
        Closes (nextSep sep fields ++ gap.text ++ (Declaration.explicit name' type').text) := by
      intro hne
      cases fields with
      | nil => exact absurd rfl hne
      | cons => exact closes_comma _
    obtain ⟨w, sep', later, hrest, hw, hsep', hlater, hsame, hor⟩ :=
      exists_bare hsep (isReference_of_isPlain hplain') hcloses
        (not_reference_explicit hnext hname htype)
    have hlater' : later ≠ [] → fields ≠ [] := by
      rintro hne rfl
      exact hne (List.suffix_nil.1 hlater)
    have htoken : first? typeToken? none
        (nextSep sep fields ++ gap.text ++ (Declaration.explicit name' type').text)
        = some type'.text := by
      have hscan : first? typeToken? none
          (nextSep sep fields ++ gap.text ++ (Declaration.explicit name' type').text ++ []) = _ :=
        tags_typeToken?.first?_declaration hnext (Or.inl rfl)
      rw [List.append_nil] at hscan
      rw [hscan]
      rfl
    have hscan := first?_bare hw hsep' (fun field hf => hplain' field (hlater.mem hf))
      (fun hne => hcloses (hlater' hne)) (hor.imp id fun h => ⟨hcloses h.1, h.2⟩)
    obtain ⟨first, more, hfirst⟩ : ∃ first more, later ++ [(gap, .explicit name' type')] = first :: more :=
      List.exists_cons_of_ne_nil (by simp)
    have htext : sequence sep' later
        ++ (nextSep sep fields ++ gap.text ++ (Declaration.explicit name' type').text)
        = sequence sep' (first :: more) ++ [] := by
      rw [← hfirst, ← hsame, hfin sep' later, List.append_nil]
    refine ⟨trimToWord (w ++ (sep' ++ first.1.text) ++ first.2.name.text), ?_, ?_⟩
    · rw [hfin, hrest, htext]
      refine fieldOf_sequence hw hsep' ?_
      rw [← htext, hscan, htoken]
    · intro hnil
      obtain rfl := List.map_eq_nil_iff.1 hnil
      obtain rfl := List.suffix_nil.1 hlater
      obtain rfl : w = [] := hor.resolve_right fun h => h.1 rfl
      obtain ⟨rfl, -⟩ := List.cons.inj hfirst
      exact trimToWord_name hsep'
  · intro hplain
    have hshort := (isPlain_iff.1 (hplain (.explicit name type) (by simp))).1
    exact Bool.noConfusion hshort
  · intro name' type' hone
    have hmem : Declaration.explicit name type ∈ [Declaration.shorthand name' type'] := by
      simp [← hone]
    cases List.mem_singleton.1 hmem

/-- **What a line gives.** -/
theorem lineYields_parseField? {line : Declared} (h : LineText tail line s) (hline : '\n' ∉ s) :
    LineYields (line.map Prod.snd) (parseField? s) := by
  cases h with
  | explicit hsep hfront => exact lineYields_explicit hsep hline
  | last hsep hfront => exact lineYields_last hsep hfront hline

end ApiScan.DocumentSchema
