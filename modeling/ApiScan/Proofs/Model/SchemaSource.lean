import ApiScan.Proofs.Model.Definition

set_option autoImplicit false

/-! # Files that define a schema

A file that defines a schema by a block of fields, perhaps with options, and registers it gives one
model: its name is that of the registration, and its fields are the typed ones and those of time
stamps, if the options switch them on. -/

namespace ApiScan.DocumentSchema

open Text Source

variable {s t w rest front : Text}

/-- What a file defines: a schema by a block of fields, perhaps with options that switch time stamps
    on or off, which is registered under a name. White space stands around the parts as it may. -/
structure SchemaSource where
  name : Word
  fields : List (Gap × Definition)
  tail : Tail
  /-- The options, with the white space in front of them. -/
  stamps : Option (Gap × Bool)
  opening : Gap
  closing : Gap
  between : Gap

/-- A block of options. -/
def optionsText (on : Bool) : Text :=
  '{' :: (" timestamps: ".toList ++ (if on then "true".toList else "false".toList) ++ [' ', '}'])

namespace SchemaSource

/-- The text behind the block of fields up to the argument of the registration. -/
def afterBlock (source : SchemaSource) : Text :=
  (match source.stamps with
    | none => []
    | some (gap, on) => ',' :: (gap.text ++ optionsText on)) ++ source.closing.text
    ++ ");".toList ++ source.between.text ++ "module.exports = mongoose.".toList

/-- The registration. -/
def registrationText (source : SchemaSource) : Text :=
  "model(".toList ++ ('\'' :: (source.name.text ++ '\'' :: ',' :: " s);".toList))

/-- The text of a file. -/
def text (source : SchemaSource) : Text :=
  "new mongoose.Schema(".toList ++ (source.opening.text
    ++ (definedBlock source.fields source.tail ++ (source.afterBlock ++ source.registrationText)))

/-- Whether the options switch time stamps on. -/
def stamped (source : SchemaSource) : Bool := source.stamps.any Prod.snd

end SchemaSource

/-- The mark of a schema definition comes first. -/
theorem firstMark?_schema (rest : Text) :
    firstMark? marks ("new mongoose.Schema(".toList ++ rest) = some ".Schema(".toList := by
  have hfirst : indexOf? ".Schema(".toList ("new mongoose.Schema(".toList ++ rest) = some 12 := rfl
  -- the other mark is not in front of it
  have hsecond : indexOf? "new Schema(".toList ("new mongoose.Schema(".toList ++ rest)
      = (indexOf? "new Schema(".toList rest).map (· + 20) := by
    simp [indexOf?, cut?, after?, Function.comp_def]
  simp only [firstMark?, marks, List.foldl_cons, List.foldl_nil, hfirst, hsecond]
  cases indexOf? "new Schema(".toList rest with
  | none => rfl
  | some i =>
      have hlater : ¬ i + 20 < 12 := by omega
      simp only [Option.map_some, hlater, if_false]

theorem not_mem_parenthesis_definedBlock (fields : List (Gap × Definition)) (tail : Tail) :
    '(' ∉ definedBlock fields tail := by
  have happend (s t : Text) (hs : '(' ∉ s) (ht : '(' ∉ t) : '(' ∉ s ++ t := by
    simp [hs, ht]
  have hword {w : Text} (hw : AllWord w) : '(' ∉ w := not_mem_of_allWord hw (by decide)
  have hblank (s : Text) (hs : AllBlank s) : '(' ∉ s := not_mem_of_allBlank hs (by decide)
  have hdefinition (definition : Definition) : '(' ∉ definition.text := by
    refine definition.text_of_append (P := fun s => '(' ∉ s) (by decide) happend ?_
      (fun w hw => ?_) (by decide)
    · rintro c (hc | hc)
      · exact hword (by simpa [AllWord] using hc)
      · rw [List.mem_singleton]
        rintro rfl
        exact absurd hc (by decide)
    · exact happend ['\''] _ (by decide) (happend _ _ (hword hw) (by decide))
  have hfields : '(' ∉ listed Definition.text [] fields :=
    listed_of_append (P := fun s => '(' ∉ s) (Or.inl rfl) (by decide) happend (by decide) hblank
      fun item _ => hdefinition item.2
  have htail : '(' ∉ tail.text := by
    intro hc
    rcases tail.plain '(' hc with h | h <;> exact absurd h (by decide)
  exact happend ['{'] _ (by decide) (happend _ _ (happend _ _ hfields htail) (by decide))

/-- A block behind a comma is the block of options. -/
theorem options?_braces {body : Text} (gap : Gap) (hbody : Balanced body) (after : Text) :
    options? (',' :: (gap.text ++ '{' :: (body ++ '}' :: after))) = some ('{' :: (body ++ ['}'])) := by
  have hfront : '{' ∉ ',' :: gap.text := by
    rw [List.mem_cons, not_or]
    exact ⟨by decide, fun hc => absurd (gap.blank '{' hc) (by decide)⟩
  have hblock : block? ['{'] (',' :: (gap.text ++ '{' :: (body ++ '}' :: after)))
      = some ('{' :: (body ++ ['}'])) := by
    rw [block?, blockAfter?, ← List.cons_append, cut?_char hfront]
    exact congrArg (Option.map Prod.fst) (blockFrom?_braces hbody after)
  have hcomma : stripStart (',' :: (gap.text ++ '{' :: (body ++ '}' :: after)))
      = ',' :: (gap.text ++ '{' :: (body ++ '}' :: after)) := stripStart_cons rfl
  have hopen : stripStart (gap.text ++ '{' :: (body ++ '}' :: after)) = '{' :: (body ++ '}' :: after) := by
    rw [stripStart_of_blank gap.blank]
    exact stripStart_cons rfl
  rw [options?, hcomma]
  simp only [hopen, hblock]

/-- What stands between the braces of the options. -/
def optionsBody (on : Bool) : Text :=
  " timestamps: ".toList ++ (if on then "true".toList else "false".toList) ++ [' ']

/-- The options of a file are those behind its block. -/
theorem options?_afterBlock (source : SchemaSource) (rest : Text) :
    options? (source.afterBlock ++ rest) = source.stamps.map fun stamps => optionsText stamps.2 := by
  obtain ⟨name, fields, tail, stamps, opening, closing, between⟩ := source
  unfold SchemaSource.afterBlock
  simp only [List.append_assoc]
  generalize between.text ++ ("module.exports = mongoose.".toList ++ rest) = more
  cases stamps with
  | none =>
      have hstrip : stripStart (closing.text ++ (");".toList ++ more)) = ')' :: ';' :: more := by
        rw [stripStart_of_blank closing.blank]
        exact stripStart_cons rfl
      rw [List.nil_append, options?, hstrip]
      rfl
  | some stamps =>
      obtain ⟨gap, on⟩ := stamps
      generalize closing.text ++ (");".toList ++ more) = after
      have hbody : Balanced (optionsBody on) := NoBrace.balanced (by cases on <;> decide)
      have hoptions : optionsText on = '{' :: (optionsBody on ++ ['}']) := by
        unfold optionsText optionsBody
        generalize " timestamps: ".toList ++ (if on then "true".toList else "false".toList) = front
        simp
      have htext : ',' :: (gap.text ++ optionsText on) ++ after
          = ',' :: (gap.text ++ '{' :: (optionsBody on ++ '}' :: after)) := by
        rw [hoptions]
        simp
      rw [htext, options?_braces gap hbody after, Option.map_some, hoptions]

/-- The block of a file is found behind the mark. -/
theorem blockAfter?_schemaSource (source : SchemaSource) :
    blockAfter? ".Schema(".toList source.text
      = some (definedBlock source.fields source.tail,
        source.afterBlock ++ source.registrationText) := by
  have hbody : Balanced (listed Definition.text [] source.fields ++ source.tail.text) := by
    refine Balanced.append ?_ (noBrace_tail source.tail).balanced
    exact listed_of_append (Or.inl rfl) balanced_nil (fun _ _ => Balanced.append)
      (NoBrace.balanced (by decide)) (fun _ hs => (noBrace_of_allBlank hs).balanced)
      fun item _ => balanced_definition item.2
  have hcut : cut? ".Schema(".toList source.text = some ("new mongoose".toList, source.opening.text
      ++ (definedBlock source.fields source.tail
        ++ (source.afterBlock ++ source.registrationText))) := rfl
  rw [definedBlock, List.cons_append, List.append_assoc, List.singleton_append] at hcut
  exact blockAfter?_braces (by decide) (noBrace_of_allBlank source.opening.blank) hbody hcut

theorem not_mem_parenthesis_afterBlock (source : SchemaSource) : '(' ∉ source.afterBlock := by
  have hblank {s : Text} (hs : AllBlank s) : '(' ∉ s := not_mem_of_allBlank hs (by decide)
  have hoptions (on : Bool) : '(' ∉ optionsText on := by cases on <;> decide
  have hend : '(' ∉ ");".toList ∧ '(' ∉ "module.exports = mongoose.".toList := by decide
  unfold SchemaSource.afterBlock
  simp only [List.mem_append, not_or]
  refine ⟨⟨⟨⟨?_, hblank source.closing.blank⟩, hend.1⟩, hblank source.between.blank⟩, hend.2⟩
  split
  · exact List.not_mem_nil
  · next gap on _ =>
      rw [List.mem_cons, List.mem_append, not_or, not_or]
      exact ⟨by decide, hblank gap.blank, hoptions on⟩

/-- The name of a file is that of its registration. -/
theorem modelName_schemaSource (source : SchemaSource) : modelName source.text = source.name.text := by
  have hskip (rest : Text) : cut? "model(".toList ("new mongoose.Schema(".toList ++ rest)
      = (cut? "model(".toList rest).map fun found =>
        ("new mongoose.Schema(".toList ++ found.1, found.2) := by
    simp [cut?, after?, Function.comp_def]
  have hfront : '(' ∉ source.opening.text ++ (definedBlock source.fields source.tail
      ++ source.afterBlock) := by
    simp only [List.mem_append, not_or]
    exact ⟨fun hc => absurd (source.opening.blank '(' hc) (by decide),
      not_mem_parenthesis_definedBlock _ _, not_mem_parenthesis_afterBlock source⟩
  have hcut : cut? "model(".toList (source.opening.text ++ (definedBlock source.fields source.tail
      ++ source.afterBlock) ++ source.registrationText)
      = some (_, '\'' :: (source.name.text ++ '\'' :: ',' :: " s);".toList)) :=
    cut?_of_not_mem (m := "model".toList) (x := '(') (by decide) hfront
  rw [List.append_assoc, List.append_assoc] at hcut
  have hregistration := hskip (source.opening.text
    ++ (definedBlock source.fields source.tail ++ (source.afterBlock ++ source.registrationText)))
  rw [hcut] at hregistration
  exact modelName_eq isQuote_single hregistration

/-- **A file gives back what it defines**: one model with the name of the registration, with a field
    for each definition that has a type of its own, in the order of the definitions, and with those
    of time stamps if the options switch them on. -/
theorem extract_schemaSource (file : Text) (source : SchemaSource) :
    extract file source.text = ⟨[⟨source.name.text, stripExtension file,
      (source.fields.filterMap fun field => field.2.field?)
        ++ if source.stamped then timestampFields else []⟩], []⟩ := by
  have hstamps : (enablesTimestamps (flatten (definedBlock source.fields source.tail))
      || (options? (source.afterBlock ++ source.registrationText)).any fun options =>
        enablesTimestamps (stripComments options)) = source.stamped := by
    have hoptions : ∀ on, enablesTimestamps (stripComments (optionsText on)) = on := by decide +kernel
    rw [flatten_definedBlock, enablesTimestamps_definedBlock, options?_afterBlock,
      SchemaSource.stamped]
    cases source.stamps with
    | none => rfl
    | some stamps => exact hoptions stamps.2
  have hne : source.name.text.isEmpty = false := by simpa using source.name.ne_nil
  rw [extract, show firstMark? marks source.text = _ from firstMark?_schema _]
  simp only [blockAfter?_schemaSource, modelName_schemaSource, hne, hstamps, fieldsOf_definedBlock]
  rfl

/-- A file on one line. -/
example : ∃ source : SchemaSource, source.stamped = true ∧ source.text
    = "new mongoose.Schema(\x7b name: \x7b type: String, required: true \x7d, ".toList
      ++ "team: \x7b type: mongoose.Schema.Types.ObjectId, ref: 'Team' \x7d \x7d, ".toList
      ++ "\x7b timestamps: true \x7d); module.exports = mongoose.model('User', s);".toList := by
  refine ⟨{
    name := ⟨"User".toList, by decide, by decide⟩
    fields := [
      (blank, .typed ⟨⟨"name".toList, by decide, by decide⟩, by decide⟩
        ⟨"String".toList, by decide,
          fun c hc => Or.inl ((show AllWord "String".toList by decide) c hc), by decide⟩
        [⟨⟨⟨"required".toList, by decide, by decide⟩, by decide⟩,
          ⟨⟨"true".toList, by decide, by decide⟩, by decide⟩, by decide⟩]),
      (blank, .reference ⟨⟨"team".toList, by decide, by decide⟩, by decide⟩
        ⟨"Team".toList, by decide, by decide⟩)]
    tail := blankTail
    stamps := some (blank, true)
    opening := ⟨[], by decide⟩
    closing := ⟨[], by decide⟩
    between := blank }, by decide, by decide +kernel⟩

end ApiScan.DocumentSchema
