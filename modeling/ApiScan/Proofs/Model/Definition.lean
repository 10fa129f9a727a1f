import ApiScan.Proofs.Model.DocumentSchema
import ApiScan.Proofs.Model.Layout

set_option autoImplicit false

/-! # Fields as they are defined

A schema is defined by fields with types, with lists of types, and with references. A block of such
fields gives back the typed ones: the line of each other field gives nothing, and no field is taken
for an option that switches time stamps on. -/

namespace ApiScan.DocumentSchema

open Text Source

variable {P : Text → Prop} {s t w rest front : Text} {sep : Text} {tail : Tail} {c : Char}

/-! ## Fields as they are written -/

/-- The mark of a reference to other documents. -/
abbrev referenceMark : Text := "ObjectId".toList

/-- A word that does not hold the mark of a reference. -/
structure PlainWord extends Word where
  plain : ¬ referenceMark <:+: text

/-- A type as it is written: words with dots between them. -/
structure TypeName where
  text : Text
  ne_nil : text ≠ []
  chars : ∀ c ∈ text, isWord c = true ∨ c = '.'
  plain : ¬ referenceMark <:+: text

theorem TypeName.colon_not_mem (type : TypeName) : ':' ∉ type.text := by
  intro hc
  rcases type.chars ':' hc with hword | hdot
  · exact absurd hword (by decide)
  · exact absurd hdot (by decide)

/-- A further setting of a field with a type, such as `required: true`; it sets no time stamps. -/
structure Setting where
  key : PlainWord
  value : PlainWord
  isStampName_key : isStampName key.text = false

/-- A field as it is defined. -/
inductive Definition where
  /-- As in `name: { type: String, required: true }`. -/
  | typed (name : PlainWord) (type : TypeName) (settings : List Setting)
  /-- As in `tags: { type: [String] }`. -/
  | array (name : PlainWord) (type : TypeName)
  /-- As in `owner: { type: mongoose.Schema.Types.ObjectId, ref: 'User' }`. -/
  | reference (name : PlainWord) (target : Word)

/-- The settings behind a type. -/
def settingsText (settings : List Setting) : Text :=
  settings.flatMap fun setting => ", ".toList ++ setting.key.text ++ ": ".toList ++ setting.value.text

namespace Definition

def name : Definition → PlainWord
  | typed name .. | array name _ | reference name _ => name

/-- What stands behind the `type` tag of a field. -/
def given : Definition → Text
  | typed _ type settings => type.text ++ settingsText settings
  | array _ type => '[' :: (type.text ++ [']'])
  | reference _ target => "mongoose.Schema.Types.".toList ++ referenceMark
      ++ (',' :: ' ' :: "ref".toList ++ ':' :: ' ' :: '\'' :: (target.text ++ ['\'']))

/-- What stands between the braces of a field. -/
def value (definition : Definition) : Text :=
  ' ' :: ("type".toList ++ ':' :: ' ' :: (definition.given ++ [' ']))

/-- The text of a field. -/
def text (definition : Definition) : Text :=
  definition.name.text ++ ':' :: ' ' :: '{' :: (definition.value ++ ['}'])

/-- The field that a definition gives: one with a type of its own. -/
def field? : Definition → Option Field
  | typed name type _ => some ⟨name.text, Field.lowerType type.text⟩
  | array .. | reference .. => none

end Definition

/-- A block of fields. -/
def definedBlock (fields : List (Gap × Definition)) (tail : Tail) : Text :=
  '{' :: (listed Definition.text [] fields ++ tail.text ++ ['}'])

/-! ## Characters -/

/-- The characters around the words of a field. -/
def definitionMarks : Text := [' ', ',', ':', '.', '[', ']']

/-- What stands between the braces of a field is made of word characters, of a few others and of
    quoted words. -/
theorem Definition.value_of_append (hnil : P []) (happend : ∀ s t, P s → P t → P (s ++ t))
    (hchar : ∀ c, isWord c = true ∨ c ∈ definitionMarks → P [c])
    (hquoted : ∀ w, AllWord w → P ('\'' :: (w ++ ['\'']))) (definition : Definition) :
    P definition.value := by
  have hall {s : Text} (h : Spelled definitionMarks s) : P s :=
    of_append_of_chars hnil happend fun c hc => hchar c (h c hc)
  have hword {w : Text} (hw : AllWord w) : P w := hall fun c hc => Or.inl (hw c hc)
  have htype (type : TypeName) : P type.text := by
    refine hall fun c hc => ?_
    rcases type.chars c hc with hword | rfl
    · exact Or.inl hword
    · exact Or.inr (by decide)
  have htag {s : Text} (hs : P s) : P (' ' :: ("type".toList ++ ':' :: ' ' :: (s ++ [' ']))) :=
    happend ([' '] ++ "type".toList ++ [':', ' ']) _ (hall (by decide))
      (happend _ _ hs (hall (by decide)))
  refine htag ?_
  cases definition with
  | typed name type settings =>
      have hsettings : P (settingsText settings) := by
        induction settings with
        | nil => exact hnil
        | cons setting settings ih =>
            refine happend _ _ (happend _ _ (happend _ _ (happend _ _ ?_ ?_) ?_) ?_) ih
            · exact hall (by decide)
            · exact hword setting.key.allWord
            · exact hall (by decide)
            · exact hword setting.value.allWord
      exact happend _ _ (htype type) hsettings
  | array name type =>
      exact happend ['['] _ (hall (by decide)) (happend _ _ (htype type) (hall (by decide)))
  | reference name target =>
      refine happend _ _ (happend _ _ (hall (by decide)) (hall (by decide))) ?_
      exact happend _ _ (hall (by decide)) (happend [':', ' '] _ (hall (by decide))
        (hquoted _ target.allWord))

/-- What the parts of a field have, the field has. -/
theorem Definition.text_of_append (hnil : P []) (happend : ∀ s t, P s → P t → P (s ++ t))
    (hchar : ∀ c, isWord c = true ∨ c ∈ definitionMarks → P [c])
    (hquoted : ∀ w, AllWord w → P ('\'' :: (w ++ ['\'']))) (hbraces : P ['{'] ∧ P ['}'])
    (definition : Definition) : P definition.text := by
  have hname : P definition.name.text :=
    of_append_of_chars hnil happend fun c hc => hchar c (Or.inl (definition.name.allWord c hc))
  have hopen : P ([':'] ++ [' '] ++ ['{']) :=
    happend _ _ (happend _ _ (hchar ':' (by decide)) (hchar ' ' (by decide))) hbraces.1
  have hvalue := happend _ _ (definition.value_of_append hnil happend hchar hquoted) hbraces.2
  exact happend _ _ hname (happend _ _ hopen hvalue)

theorem noBrace_value (definition : Definition) : NoBrace definition.value := by
  refine definition.value_of_append (by decide) (fun _ _ => noBrace_append) ?_ fun w hw => ?_
  · rintro c (hc | hc)
    · exact noBrace_of_allWord (by simpa [AllWord] using hc)
    · exact List.forall_mem_singleton.2 ((show NoBrace definitionMarks by decide) c hc)
  · exact noBrace_append (s := ['\'']) (by decide) (noBrace_append (noBrace_of_allWord hw) (by decide))

theorem balanced_definition (definition : Definition) : Balanced definition.text := by
  have hname : NoBrace (definition.name.text ++ [':', ' ']) :=
    noBrace_append (noBrace_of_allWord definition.name.allWord) (by decide)
  have hgroup := hname.balanced.append (noBrace_value definition).balanced.braces
  have htext : definition.text
      = definition.name.text ++ [':', ' '] ++ '{' :: (definition.value ++ ['}']) := by
    simp [Definition.text]
  rwa [htext]

theorem noBreak_definition (definition : Definition) : NoBreak definition.text := by
  refine definition.text_of_append (by decide) (fun _ _ => noBreak_append) ?_ (fun w hw => ?_)
    (by decide)
  · rintro c (hc | hc)
    · exact noBreak_of_allWord (by simpa [AllWord] using hc)
    · exact List.forall_mem_singleton.2 ((show NoBreak definitionMarks by decide) c hc)
  · exact noBreak_append (s := ['\'']) (by decide) (noBreak_append (noBreak_of_allWord hw) (by decide))

theorem kept_definition (definition : Definition) : Kept definition.text := by
  refine definition.text_of_append kept_nil (fun _ _ => Kept.append) ?_ (fun w => kept_quoted rfl)
    ⟨NoMark.kept (by decide), NoMark.kept (by decide)⟩
  rintro c (hc | hc)
  · exact (noMark_of_allWord (by simpa [AllWord] using hc)).kept
  · exact NoMark.kept (List.forall_mem_singleton.2 ((show NoMark definitionMarks by decide) c hc))

/-- A block of fields is put on one line by its white space. -/
theorem flatten_definedBlock (fields : List (Gap × Definition)) (tail : Tail) :
    flatten (definedBlock fields tail) = definedBlock (fields.map smoothItem) tail.smooth := by
  have hfields : Kept (listed Definition.text [] fields) :=
    listed_of_append (Or.inl rfl) kept_nil (fun _ _ => Kept.append) (NoMark.kept (by decide))
      (fun _ hs => (noMark_of_allBlank hs).kept) fun item _ => kept_definition item.2
  have hblock : Kept (definedBlock fields tail) :=
    (NoMark.kept (s := ['{']) (by decide)).append
      ((hfields.append (noMark_tail tail).kept).append (NoMark.kept (by decide)))
  rw [flatten, hblock.stripComments_eq]
  show smooth (['{'] ++ (listed Definition.text [] fields ++ tail.text ++ ['}'])) = _
  rw [smooth_append, smooth_append, smooth_append, smooth_listed (Or.inl rfl) noBreak_definition]
  rfl

/-! ## References -/

theorem not_reference_append_cons (hc : isWord c = false) (hs : ¬ referenceMark <:+: s)
    (ht : ¬ referenceMark <:+: t) : ¬ referenceMark <:+: s ++ c :: t := by
  rintro ⟨front, rest, h⟩
  rcases split_at_of_allWord allWord_mark hc h.symm with ⟨tail, hs', -⟩ | ⟨more, ht'⟩
  · exact hs ⟨front, tail, hs'.symm⟩
  · exact ht ⟨more, rest, ht'.symm⟩

theorem not_reference_noWord_append (hs : NoWord s) (ht : ¬ referenceMark <:+: t) :
    ¬ referenceMark <:+: s ++ t := by
  rintro ⟨front, rest, h⟩
  obtain ⟨more, ht'⟩ := split_of_noWord allWord_mark (by decide) hs h.symm
  exact ht ⟨more, rest, ht'.symm⟩

theorem not_reference_settings (settings : List Setting) (hs : ¬ referenceMark <:+: s)
    (ht : NoWord t) : ¬ referenceMark <:+: s ++ (settingsText settings ++ (' ' :: t)) := by
  induction settings generalizing s with
  | nil =>
      refine not_reference_append_cons (by decide) hs ?_
      rw [← List.append_nil t]
      exact not_reference_noWord_append ht (by decide)
  | cons setting settings ih =>
      have htext : s ++ (settingsText (setting :: settings) ++ ' ' :: t)
          = s ++ ',' :: ([' '] ++ (setting.key.text ++ ':' :: ([' ']
            ++ (setting.value.text ++ (settingsText settings ++ ' ' :: t))))) := by
        simp [settingsText]
      rw [htext]
      refine not_reference_append_cons (by decide) hs (not_reference_noWord_append (by decide) ?_)
      refine not_reference_append_cons (by decide) setting.key.plain ?_
      exact not_reference_noWord_append (by decide) (ih setting.value.plain)

/-- What a text with its only colon in front of each `t` leaves at its end gives no type. -/
theorem first?_typeToken?_of_suffix {after : Text} (hs : s <:+ front ++ ':' :: after)
    (hfront : 't' ∉ front) (hafter : ':' ∉ after) : first? typeToken? none s = none := by
  refine first?_eq_none_iff.2 fun before place hplace => typeToken?_eq_none fun rest hrest more he => ?_
  have hcolon : ':' ∈ rest := (List.dropWhile_sublist _).mem
    (show ':' ∈ stripStart rest by rw [he]; exact List.mem_cons_self)
  have htag : place = 't' :: ("ype".toList ++ rest) := after?_eq_some_iff.1 hrest
  have hmem : ':' ∈ place := by
    rw [htag]
    exact List.mem_cons_of_mem _ (List.mem_append_right _ hcolon)
  obtain ⟨lead, hlead⟩ := hs
  rw [hplace, ← List.append_assoc] at hlead
  rcases List.append_eq_append_iff.1 hlead with ⟨more, hfront', hplace'⟩ | ⟨more, -, hafter'⟩
  · -- the tag starts in front of the colon
    cases more with
    | nil => exact absurd (htag.symm.trans hplace') (by simp)
    | cons d more =>
        obtain ⟨rfl, -⟩ := List.cons.inj (htag.symm.trans hplace')
        exact hfront (by simp [hfront'])
  · -- the colon of the tag comes behind the only one
    cases more with
    | nil => exact absurd (hafter'.trans htag) (by simp)
    | cons d more =>
        obtain ⟨-, rfl⟩ := List.cons.inj hafter'
        exact hafter (List.mem_append_right _ hmem)

/-! ## The field of a line -/

/-- The name of a field is what stands in front of its group. -/
theorem fieldOf_named (name : Word) (rest : Text) :
    fieldOf (name.text ++ ':' :: ' ' :: '{' :: rest)
      = (first? typeToken? none rest).map fun token => ⟨name.text, Field.lowerType token⟩ := by
  have hpass : first? typeToken? none (name.text ++ ':' :: ' ' :: '{' :: rest)
      = first? typeToken? none rest := by
    rw [startsWithWord_typeToken?.first?_word name.allWord (by decide),
      tags_typeToken?.group _ _ name.allWord, Option.none_or]
    exact startsWithWord_typeToken?.first?_noWord (show NoWord [':', ' ', '{'] by decide) rest
  have hname : (name.text ++ ':' :: ' ' :: '{' :: rest).takeWhile (· ≠ ':') = name.text :=
    takeWhile_ne_append_cons (fun hc => absurd (name.allWord ':' hc) (by decide)) _
  rw [fieldOf, hpass, hname, trimToWord_of_allWord name.allWord]
  cases first? typeToken? none rest with
  | none => rfl
  | some token => simp [name.ne_nil]

/-- What closes a field with a type: its settings, or its end. -/
theorem closes_settings (settings : List Setting) (rest : Text) :
    Closes (settingsText settings ++ ' ' :: '}' :: rest) := by
  cases settings with
  | nil => exact closes_brace rest
  | cons setting settings => exact closes_comma _

/-- A type with dots in it is one token. -/
theorem typeToken?_typeName (type : TypeName) (hs : Closes s) :
    typeToken? none ("type".toList ++ ':' :: ' ' :: (type.text ++ s)) = some type.text := by
  obtain ⟨c, more, rfl, hc⟩ := hs.eq_cons
  have hall : ∀ d ∈ type.text, isTypeChar d = true := by
    intro d hd
    rcases type.chars d hd with hword | rfl
    · simp [isTypeChar, hword]
    · rfl
  have hend : isTypeChar c = false := isTypeChar_eq_false hc
  have htake : (type.text ++ c :: more).takeWhile isTypeChar = type.text := by
    rw [List.takeWhile_append_of_pos hall, List.takeWhile_cons_of_neg (by simp [hend]), List.append_nil]
  have hdrop : (type.text ++ c :: more).dropWhile isTypeChar = c :: more := by
    rw [List.dropWhile_append_of_pos hall, List.dropWhile_cons_of_neg (by simp [hend])]
  have hblank : stripStart (' ' :: (type.text ++ c :: more)) = type.text ++ c :: more := by
    obtain ⟨d, text, htext⟩ := List.exists_cons_of_ne_nil type.ne_nil
    have hd : isBlank d = false := by
      rcases type.chars d (by simp [htext]) with hword | rfl
      · exact isBlank_eq_false_of_isWord hword
      · decide
    rw [show ' ' :: (type.text ++ c :: more) = [' '] ++ (type.text ++ c :: more) from rfl,
      stripStart_of_blank (by decide), htext]
    exact stripStart_cons hd
  have hafter : after? "type".toList ("type".toList ++ ':' :: ' ' :: (type.text ++ c :: more))
      = some (':' :: ' ' :: (type.text ++ c :: more)) := after?_eq_some_iff.2 rfl
  have hcolon : stripStart (':' :: ' ' :: (type.text ++ c :: more))
      = ':' :: ' ' :: (type.text ++ c :: more) := stripStart_cons rfl
  have hclose : (c = ',' || c = '}' || isBlank c) = true := by simpa [or_assoc] using hc
  rw [typeToken?, hafter]
  simp only [Option.bind_eq_bind, Option.bind_some, hcolon, hblank, htake, hdrop, hclose]
  simp [type.ne_nil]

/-- What stands in front of a definition holds no word and no colon. -/
theorem noWord_sep_gap (gap : Gap) (hsep : sep = [] ∨ sep = [',']) :
    NoWord (sep ++ gap.text) ∧ ':' ∉ sep ++ gap.text := by
  refine ⟨noWord_lead hsep, fun hc => ?_⟩
  rcases List.mem_append.1 hc with hc | hc
  · rcases hsep with rfl | rfl <;> exact absurd hc (by decide)
  · exact absurd (gap.blank ':' hc) (by decide)

theorem Definition.value_append (definition : Definition) : definition.value ++ ['}']
    = [' '] ++ ("type".toList ++ ':' :: ([' '] ++ (definition.given ++ [' ', '}']))) := by
  simp [Definition.value]

/-- The mark of a reference stands behind the `type` tag, if it stands anywhere on a line. -/
theorem not_reference_definition (hsep : sep = [] ∨ sep = [',']) (gap : Gap) {definition : Definition}
    (h : ¬ referenceMark <:+: definition.given ++ [' ', '}']) :
    ¬ referenceMark <:+: sep ++ gap.text ++ definition.text := by
  have hgroup : ¬ referenceMark <:+: definition.value ++ ['}'] := by
    rw [Definition.value_append]
    refine not_reference_noWord_append (by decide) (not_reference_append_cons (by decide) ?_ ?_)
    · decide
    · exact not_reference_noWord_append (by decide) h
  refine not_reference_noWord_append (noWord_sep_gap gap hsep).1 ?_
  refine not_reference_append_cons (by decide) definition.name.plain ?_
  exact not_reference_noWord_append (s := [' ', '{']) (by decide) hgroup

/-- A line without a reference gives the first type on it. -/
theorem fieldOf_definition (hsep : sep = [] ∨ sep = [',']) (gap : Gap) {definition : Definition}
    (h : ¬ referenceMark <:+: definition.given ++ [' ', '}']) :
    fieldOf ((afterLast? referenceMark (sep ++ gap.text ++ definition.text)).getD
        (sep ++ gap.text ++ definition.text))
      = (first? typeToken? none
          ("type".toList ++ ':' :: ' ' :: (definition.given ++ [' ', '}']))).map
            fun token => ⟨definition.name.text, Field.lowerType token⟩ := by
  obtain ⟨hlead, hcolon⟩ := noWord_sep_gap gap hsep
  rw [afterLast?_eq_none (not_reference_definition hsep gap h), Option.getD_none,
    fieldOf_append hlead hcolon, Definition.text, fieldOf_named, Definition.value_append,
    startsWithWord_typeToken?.first?_noWord (by decide)]
  rfl

/-- A type is read up to its settings. -/
theorem first?_typeToken?_typed (type : TypeName) (settings : List Setting) :
    first? typeToken? none ("type".toList ++ ':' :: ' ' :: (type.text
      ++ (settingsText settings ++ ' ' :: ['}']))) = some type.text := by
  rw [startsWithWord_typeToken?.first?_word (by decide) (by decide),
    typeToken?_typeName type (closes_settings settings [])]
  rfl

/-- A list of types is no type. -/
theorem first?_typeToken?_array (type : TypeName) :
    first? typeToken? none ("type".toList ++ ':' :: ' ' :: '[' :: (type.text ++ ']' :: [' ', '}']))
      = none := by
  have hcolon : ':' ∉ ' ' :: '[' :: (type.text ++ ']' :: [' ', '}']) := by
    simp [type.colon_not_mem]
  have hnone : typeToken? none ("type".toList ++ ':' :: ' ' :: '[' :: (type.text ++ ']' :: [' ', '}']))
      = none := rfl
  have hpass (s : Text) : first? typeToken? none (':' :: s) = first? typeToken? none s :=
    startsWithWord_typeToken?.first?_noWord (show NoWord [':'] by decide) s
  rw [startsWithWord_typeToken?.first?_word (by decide) (by decide), hnone, hpass,
    first?_typeToken?_eq_none hcolon]
  rfl

/-- What stands behind the mark of a reference holds no type. -/
theorem fieldOf_reference_definition (gap : Gap) (name : PlainWord) (target : Word) :
    fieldOf ((afterLast? referenceMark (sep ++ gap.text ++ (Definition.reference name target).text)).getD
      (sep ++ gap.text ++ (Definition.reference name target).text)) = none := by
  have hgiven : (Definition.reference name target).given = "mongoose.Schema.Types.".toList
      ++ referenceMark ++ (',' :: ' ' :: "ref".toList ++ ':' :: ' ' :: '\'' :: (target.text ++ ['\''])) := rfl
  have hline : sep ++ gap.text ++ (Definition.reference name target).text
      = (sep ++ gap.text ++ name.text ++ (':' :: ' ' :: '{' :: ' ' :: ("type".toList
          ++ ':' :: ' ' :: "mongoose.Schema.Types.".toList))) ++ referenceMark
        ++ (',' :: ' ' :: "ref".toList ++ ':' :: (' ' :: '\'' :: (target.text ++ '\'' :: [' ', '}']))) := by
    rw [Definition.text, Definition.value_append, hgiven]
    generalize "mongoose.Schema.Types.".toList = path, referenceMark = mark
    simp only [Definition.name, List.append_assoc, List.cons_append, List.nil_append]
  obtain ⟨last, hlast, hsuffix⟩ := exists_afterLast? hline
  have hcolon : ':' ∉ ' ' :: '\'' :: (target.text ++ '\'' :: [' ', '}']) := by
    intro hc
    have hmem : ':' ∈ target.text := by simpa using hc
    exact absurd (target.allWord ':' hmem) (by decide)
  rw [hlast, Option.getD_some]
  exact fieldOf_eq_none (first?_typeToken?_of_suffix hsuffix (by decide) hcolon)

/-- A definition stands on one line, if the white space in front of it does. -/
theorem not_mem_line {gap : Gap} (hsep : sep = [] ∨ sep = [',']) (hgap : '\n' ∉ gap.text)
    (definition : Definition) : '\n' ∉ sep ++ gap.text ++ definition.text := by
  have hdefinition : '\n' ∉ definition.text := fun hc => (noBreak_definition definition '\n' hc).2 rfl
  have hno : '\n' ∉ sep := by
    rcases hsep with rfl | rfl
    · decide
    · decide
  simp [hno, hgap, hdefinition]

/-- **The field of the line of a definition.** -/
theorem parseField?_definition {gap : Gap} (hsep : sep = [] ∨ sep = [',']) (hgap : '\n' ∉ gap.text)
    (definition : Definition) :
    parseField? (sep ++ gap.text ++ definition.text) = definition.field? := by
  have hline := not_mem_line hsep hgap definition
  have hend : sep ++ gap.text ++ definition.text = (sep ++ gap.text ++ definition.name.text
      ++ [':', ' ', '{'] ++ definition.value) ++ ['}'] := by
    simp [Definition.text]
  rw [parseField?_of_line hline hend]
  cases definition with
  | typed name type settings =>
      have hgiven : (Definition.typed name type settings).given ++ [' ', '}']
          = type.text ++ (settingsText settings ++ ' ' :: ['}']) := List.append_assoc _ _ _
      have hplain : ¬ referenceMark <:+: (Definition.typed name type settings).given ++ [' ', '}'] := by
        rw [hgiven]
        exact not_reference_settings settings type.plain (by decide)
      rw [fieldOf_definition hsep gap hplain, hgiven, first?_typeToken?_typed]
      rfl
  | array name type =>
      have hgiven : (Definition.array name type).given ++ [' ', '}']
          = '[' :: (type.text ++ ']' :: [' ', '}']) :=
        congrArg ('[' :: ·) (List.append_assoc _ _ _)
      have hplain : ¬ referenceMark <:+: (Definition.array name type).given ++ [' ', '}'] := by
        rw [hgiven]
        exact not_reference_noWord_append (s := ['[']) (by decide)
          (not_reference_append_cons (by decide) type.plain (by decide))
      rw [fieldOf_definition hsep gap hplain, hgiven, first?_typeToken?_array]
      rfl
  | reference name target => exact fieldOf_reference_definition gap name target

/-! ## The fields of a block -/

theorem breakGroups_definition {gap : Gap} (hsep : sep = [] ∨ sep = [',']) (definition : Definition)
    (rest : Text) :
    breakGroups 0 (sep ++ gap.text ++ definition.text ++ rest)
      = sep ++ gap.text ++ definition.text ++ '\n' :: breakGroups 0 rest := by
  have hfront : NoBrace (sep ++ gap.text ++ definition.name.text ++ [':', ' ']) :=
    noBrace_append (noBrace_append (noBrace_append (noBrace_sep hsep) (noBrace_of_allBlank gap.blank))
      (noBrace_of_allWord definition.name.allWord)) (by decide)
  have htext (rest : Text) : sep ++ gap.text ++ definition.text ++ rest
      = (sep ++ gap.text ++ definition.name.text ++ [':', ' '])
        ++ '{' :: (definition.value ++ '}' :: rest) := by
    simp [Definition.text]
  rw [htext, breakGroups_group hfront (noBrace_value definition), ← htext]

/-- The end of a block gives no field. -/
theorem parseField?_tail (hline : '\n' ∉ tail.text) : parseField? (tail.text ++ ['}']) = none := by
  have hflat : '\n' ∉ sequence [] [] ++ (tail.text ++ ['}']) := by simpa [sequence] using hline
  exact (lineYields_last (Or.inl rfl) (by simp) hflat).shorthand (by simp)

/-- Each line of a laid out block gives the field of its definition. -/
theorem filterMap_lines_definitions {fields : List (Gap × Definition)} (hsep : sep = [] ∨ sep = [','])
    (hfields : ∀ field ∈ fields, '\n' ∉ field.1.text) (htail : '\n' ∉ tail.text) :
    (Text.lines (breakGroups 0 (listed Definition.text sep fields ++ (tail.text ++ ['}'])))).filterMap
        parseField?
      = fields.filterMap fun field => field.2.field? := by
  induction fields generalizing sep with
  | nil =>
      have hlast : breakGroups 0 (tail.text ++ ['}']) = tail.text ++ ['}'] :=
        breakGroups_of_noBrace (noBrace_tail tail) _
      rw [listed, List.nil_append, hlast, lines_of_not_mem (by simpa using htail),
        List.filterMap_cons_none (parseField?_tail htail)]
      rfl
  | cons field fields ih =>
      obtain ⟨gap, definition⟩ := field
      obtain ⟨hgap, hfields⟩ := List.forall_mem_cons.1 hfields
      have hline := not_mem_line hsep hgap definition
      have hfirst := parseField?_definition hsep hgap definition
      rw [listed, List.append_assoc, breakGroups_definition hsep, lines_append_cons hline]
      simp only [List.filterMap_cons, hfirst, ih (Or.inr rfl) hfields]

/-- **The fields of a block of definitions** are those that give one. -/
theorem fieldsOf_definedBlock (fields : List (Gap × Definition)) (tail : Tail) :
    fieldsOf (flatten (definedBlock fields tail)) = fields.filterMap fun field => field.2.field? := by
  have hopen : parseField? ['{'] = none := by decide +kernel
  have hreflow : Text.lines (reflow (definedBlock (fields.map smoothItem) tail.smooth))
      = ['{'] :: Text.lines (breakGroups 0
        (listed Definition.text [] (fields.map smoothItem) ++ (tail.smooth.text ++ ['}']))) := by
    rw [definedBlock, List.append_assoc]
    exact lines_append_cons (s := ['{']) (by decide) _
  have hgaps : ∀ field ∈ fields.map smoothItem, '\n' ∉ field.1.text := by
    intro field hf
    obtain ⟨field, -, rfl⟩ := List.mem_map.1 hf
    exact not_mem_smooth_gap field.1
  have htail : '\n' ∉ tail.smooth.text := fun h => (mem_smooth h).2 rfl
  rw [fieldsOf, flatten_definedBlock, hreflow, List.filterMap_cons_none hopen,
    filterMap_lines_definitions (Or.inl rfl) hgaps htail, List.filterMap_map]
  rfl

/-! ## Time stamps -/

/-- The settings of a field switch no time stamps on. -/
theorem first?_timestampsOn?_settings (settings : List Setting) (rest : Text) :
    first? timestampsOn? none (settingsText settings ++ ' ' :: '}' :: rest)
      = first? timestampsOn? none rest := by
  induction settings with
  | nil => exact startsWithWord_timestampsOn?.first?_noWord (show NoWord [' ', '}'] by decide) rest
  | cons setting settings ih =>
      have htext : settingsText (setting :: settings) ++ ' ' :: '}' :: rest
          = [',', ' '] ++ (setting.key.text ++ ':' :: ' ' :: (setting.value.text
            ++ (settingsText settings ++ ' ' :: '}' :: rest))) := by simp [settingsText]
      rw [htext, startsWithWord_timestampsOn?.first?_noWord (by decide),
        tags_timestampsOn?.first?_tag setting.key.allWord setting.value.allWord setting.value.ne_nil
          (closes_settings settings rest), setting.isStampName_key, ih]
      rfl

/-- A field switches no time stamps on. -/
theorem first?_timestampsOn?_definition (definition : Definition) (rest : Text) :
    first? timestampsOn? none (definition.text ++ rest) = first? timestampsOn? none rest := by
  have hnoWord {s : Text} (hs : NoWord s) (t : Text) :
      first? timestampsOn? none (s ++ t) = first? timestampsOn? none t :=
    startsWithWord_timestampsOn?.first?_noWord hs t
  have hclose : first? timestampsOn? none (' ' :: '}' :: rest) = first? timestampsOn? none rest :=
    hnoWord (show NoWord [' ', '}'] by decide) rest
  have htag (s : Text) :
      first? timestampsOn? none ("type".toList ++ ':' :: s) = first? timestampsOn? none s := by
    rw [startsWithWord_timestampsOn?.first?_word (by decide) (by decide),
      tags_timestampsOn?.other _ _ _ (by decide) (by decide) (by decide)]
    exact hnoWord (show NoWord [':'] by decide) s
  have hgiven : first? timestampsOn? none (definition.text ++ rest)
      = first? timestampsOn? none (' ' :: (definition.given ++ ' ' :: '}' :: rest)) := by
    have htext : definition.text ++ rest = definition.name.text ++ ':' :: ' ' :: '{' ::
        ([' '] ++ ("type".toList ++ ':' :: ' ' :: (definition.given ++ ' ' :: '}' :: rest))) := by
      simp [Definition.text, Definition.value]
    rw [htext, startsWithWord_timestampsOn?.first?_word definition.name.allWord (by decide),
      tags_timestampsOn?.group _ _ definition.name.allWord, Option.none_or]
    exact (hnoWord (show NoWord [':', ' ', '{', ' '] by decide) _).trans (htag _)
  rw [hgiven]
  cases definition with
  | typed name type settings =>
      have hcolon : ':' ∉ ' ' :: type.text := by simp [type.colon_not_mem]
      have htext : ' ' :: ((Definition.typed name type settings).given ++ ' ' :: '}' :: rest)
          = (' ' :: type.text) ++ (settingsText settings ++ ' ' :: '}' :: rest) :=
        congrArg (' ' :: ·) (List.append_assoc _ _ _)
      rw [htext, first?_timestampsOn?_of_not_mem hcolon (closes_settings settings rest),
        first?_timestampsOn?_settings]
  | array name type =>
      have hcolon : ':' ∉ ' ' :: '[' :: (type.text ++ [']']) := by simp [type.colon_not_mem]
      exact (first?_timestampsOn?_of_not_mem hcolon (closes_brace rest)).trans hclose
  | reference name target =>
      have hpath : ':' ∉ ' ' :: ("mongoose.Schema.Types.".toList ++ referenceMark) := by decide
      have htarget : ':' ∉ ' ' :: '\'' :: (target.text ++ ['\'']) := by
        intro hc
        exact absurd (target.allWord ':' (by simpa using hc)) (by decide)
      have hother : isStampName "ref".toList = false := by decide
      have hrest : first? timestampsOn? none (' ' :: '\'' :: (target.text ++ ['\'']) ++ ' ' :: '}' :: rest)
          = first? timestampsOn? none (' ' :: '}' :: rest) :=
        first?_timestampsOn?_of_not_mem htarget (closes_brace rest)
      have href : first? timestampsOn? none ([',', ' '] ++ ("ref".toList ++ ':' :: (' ' :: '\'' ::
          (target.text ++ ['\'']) ++ ' ' :: '}' :: rest))) = first? timestampsOn? none rest := by
        rw [hnoWord (by decide), startsWithWord_timestampsOn?.first?_word (by decide) (by decide),
          tags_timestampsOn?.other _ _ _ (by decide) (by decide) hother, Option.none_or]
        exact (hnoWord (show NoWord [':'] by decide) _).trans (hrest.trans hclose)
      have htext : ' ' :: ((Definition.reference name target).given ++ ' ' :: '}' :: rest)
          = (' ' :: ("mongoose.Schema.Types.".toList ++ referenceMark))
            ++ ([',', ' '] ++ ("ref".toList ++ ':' :: (' ' :: '\'' ::
              (target.text ++ ['\'']) ++ ' ' :: '}' :: rest))) :=
        congrArg (' ' :: ·) (List.append_assoc _ _ _)
      rw [htext]
      exact (first?_timestampsOn?_of_not_mem hpath (closes_comma _)).trans href

/-- **A block of definitions switches no time stamps on.** -/
theorem enablesTimestamps_definedBlock (fields : List (Gap × Definition)) (tail : Tail) :
    enablesTimestamps (definedBlock fields tail) = false := by
  have hfields {sep : Text} (hsep : sep = [] ∨ sep = [',']) (rest : Text) :
      first? timestampsOn? none (listed Definition.text sep fields ++ rest)
        = first? timestampsOn? none rest := by
    induction fields generalizing sep with
    | nil => rfl
    | cons field fields ih =>
        obtain ⟨gap, definition⟩ := field
        rw [listed, List.append_assoc, List.append_assoc,
          startsWithWord_timestampsOn?.first?_noWord (noWord_lead hsep),
          first?_timestampsOn?_definition, ih (Or.inr rfl)]
  have hopen : first? timestampsOn? none (definedBlock fields tail)
      = first? timestampsOn? none (listed Definition.text [] fields ++ (tail.text ++ ['}'])) := by
    rw [← List.append_assoc]
    exact startsWithWord_timestampsOn?.first?_noWord (show NoWord ['{'] by decide) _
  rw [enablesTimestamps, hopen, hfields (Or.inl rfl),
    startsWithWord_timestampsOn?.first?_eq_none (noWord_tail tail)]
  rfl

end ApiScan.DocumentSchema
