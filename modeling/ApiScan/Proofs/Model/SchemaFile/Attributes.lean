import ApiScan.Proofs.Model.SchemaFile.Models

set_option autoImplicit false

/-! # Block attributes of a model

A model may hold lines such as `@@index([a, b])` that declare no field. Such a line is no line of a
name and a type, but it is told from one by its number of words alone: where its white space cuts it
into exactly two words, these are taken for a name and a type. -/

namespace ApiScan.SchemaFile

open Text Source

variable {line : Text} {field : Field}

/-! ## Lines that are read for fields -/

/-- The lines of a chunk that are read for fields, given the name found so far: all but those with the
    brace behind the name and those with a closing brace. -/
def fieldLines (table : Text) : List Text → List Text
  | [] => []
  | line :: more =>
    if table.isEmpty && line.contains '{' then fieldLines (strip (line.takeWhile (· ≠ '{'))) more
    else if line.contains '}' then fieldLines table more
    else line :: fieldLines table more

/-- **The fields of a chunk are those of its lines**, each of them read for itself. -/
theorem parseLines_fields (table : Text) (lines : List Text) :
    (parseLines table lines).2 = (fieldLines table lines).filterMap fieldOf? := by
  induction lines generalizing table with
  | nil => rfl
  | cons line lines ih =>
      rw [parseLines, fieldLines]
      by_cases hopen : (table.isEmpty && line.contains '{') = true
      · rw [if_pos hopen, if_pos hopen, ih]
      · rw [if_neg hopen, if_neg hopen]
        by_cases hclose : line.contains '}' = true
        · rw [if_pos hclose, if_pos hclose, ih]
        · rw [if_neg hclose, if_neg hclose, List.filterMap_cons, fieldOf?]
          rcases words line with - | ⟨name, - | ⟨type, - | ⟨word, more⟩⟩⟩
          · exact ih table
          · exact ih table
          · exact congrArg (⟨name, Field.lowerType type⟩ :: ·) (ih table)
          · exact ih table

theorem fieldOf?_eq_some_iff :
    fieldOf? line = some field
      ↔ ∃ type, words line = [field.name, type] ∧ field.type = Field.lowerType type := by
  unfold fieldOf?
  constructor
  · intro h
    split at h
    · next name type hwords =>
        obtain rfl := Option.some.inj h
        exact ⟨type, hwords, rfl⟩
    · exact nomatch h
  · rintro ⟨type, hwords, htype⟩
    rw [hwords]
    exact congrArg (fun type => some (⟨field.name, type⟩ : Field)) htype.symm

/-! ## Attributes -/

/-- What the first token of a block attribute starts with. -/
def attributeMark : Text := ['@', '@']

/-- Whether a line is a block attribute, whatever its arguments and its white space. -/
def isAttribute (line : Text) : Bool := (words line).head?.any (startsWith attributeMark)

/-- Whether a field is named as only a block attribute can be. -/
def isAttributeField (field : Field) : Bool := startsWith attributeMark field.name

/-- The field of a line tells whether the line is an attribute. -/
theorem isAttributeField_of_fieldOf? (h : fieldOf? line = some field) :
    isAttributeField field = isAttribute line := by
  obtain ⟨type, hwords, -⟩ := fieldOf?_eq_some_iff.1 h
  rw [isAttribute, hwords]
  rfl

/-- The fields that attributes give are those of the lines that are attributes. -/
theorem filter_filterMap_fieldOf? (rows : List Text) :
    (rows.filterMap fieldOf?).filter isAttributeField
      = (rows.filter isAttribute).filterMap fieldOf? := by
  induction rows with
  | nil => rfl
  | cons row rows ih =>
      rw [List.filterMap_cons, List.filter_cons]
      cases hfield : fieldOf? row with
      | none =>
          dsimp only
          split
          · rw [List.filterMap_cons, hfield, ih]
          · exact ih
      | some field =>
          dsimp only
          rw [List.filter_cons, isAttributeField_of_fieldOf? hfield, ih]
          split
          · rw [List.filterMap_cons, hfield]
          · rfl

/-- A line gives a field if it has two words. -/
theorem isSome_fieldOf?_iff : (fieldOf? line).isSome = true ↔ (words line).length = 2 := by
  unfold fieldOf?
  match words line with
  | [] => simp
  | [_] => simp
  | [_, _] => simp
  | _ :: _ :: _ :: _ => simp

/-- **A block attribute gives a field exactly if it has two words.** The fields of a model are those of
    the lines of two words of its chunk; of these, the fields of block attributes are the ones named
    as attributes, and there is none exactly if no attribute has two words. -/
theorem attributes_of_extract (file text : Text) :
    ∀ model ∈ (extract file text).found, ∃ chunk ∈ chunks (strip (stripComments text)),
      model.table = (parseLines [] (lines chunk)).1
        ∧ model.fields = (fieldLines [] (lines chunk)).filterMap fieldOf?
        ∧ model.fields.filter isAttributeField
            = ((fieldLines [] (lines chunk)).filter isAttribute).filterMap fieldOf?
        ∧ ((∀ field ∈ model.fields, isAttributeField field = false)
            ↔ ∀ row ∈ fieldLines [] (lines chunk), isAttribute row = true → (words row).length ≠ 2) := by
  intro model hmodel
  obtain ⟨part, hpart, hmodel⟩ := List.mem_flatMap.1 hmodel
  obtain ⟨chunk, hchunk, rfl⟩ := List.mem_map.1 hpart
  have hmodel : model = ⟨(parseLines [] (lines chunk)).1, stripExtension file,
      (parseLines [] (lines chunk)).2⟩ := by
    unfold parseChunk at hmodel
    simp only at hmodel
    split at hmodel
    · exact absurd hmodel List.not_mem_nil
    · split at hmodel
      · exact List.mem_singleton.1 hmodel
      · exact absurd hmodel List.not_mem_nil
  have hfields : model.fields = (fieldLines [] (lines chunk)).filterMap fieldOf? := by
    rw [hmodel, parseLines_fields]
  refine ⟨chunk, (List.mem_filter.1 hchunk).1, by rw [hmodel], hfields, ?_, ?_⟩
  · rw [hfields, filter_filterMap_fieldOf?]
  · rw [hfields]
    constructor
    · intro hnone row hrow hattribute htwo
      obtain ⟨field, hfield⟩ := Option.isSome_iff_exists.1 (isSome_fieldOf?_iff.2 htwo)
      have hfalse := hnone field (List.mem_filterMap.2 ⟨row, hrow, hfield⟩)
      rw [isAttributeField_of_fieldOf? hfield, hattribute] at hfalse
      exact absurd hfalse (by decide)
    · intro hnone field hfield
      obtain ⟨row, hrow, hrowField⟩ := List.mem_filterMap.1 hfield
      rw [isAttributeField_of_fieldOf? hrowField]
      cases hattribute : isAttribute row with
      | false => rfl
      | true =>
          have hsome : (fieldOf? row).isSome = true := by rw [hrowField]; rfl
          exact absurd (isSome_fieldOf?_iff.1 hsome) (hnone row hrow hattribute)

/-- A model with an index over two columns, and with one over a single column. -/
def indexedModel : Text :=
  "model Post \x7b\n  title String\n  @@index([a, b])\n  @@unique([a])\n\x7d\n".toList

theorem attributes_of_indexedModel :
    let post : Model := ⟨"Post".toList, "s".toList,
      [⟨"title".toList, "string".toList⟩, ⟨"@@index([a,".toList, "b])".toList⟩]⟩
    post ∈ (extract "s.prisma".toList indexedModel).found
      ∧ post.fields.filter isAttributeField = [⟨"@@index([a,".toList, "b])".toList⟩]
      ∧ ∃ chunk ∈ chunks (strip (stripComments indexedModel)),
          ∃ row ∈ fieldLines [] (lines chunk), isAttribute row = true ∧ (words row).length = 2 := by
  intro post
  have hpost : post ∈ (extract "s.prisma".toList indexedModel).found := by decide +kernel
  have hfields : post.fields.filter isAttributeField = [⟨"@@index([a,".toList, "b])".toList⟩] := by
    decide +kernel
  obtain ⟨chunk, hchunk, -, -, -, hiff⟩ := attributes_of_extract "s.prisma".toList indexedModel post hpost
  refine ⟨hpost, hfields, chunk, hchunk, ?_⟩
  by_contra hnone
  have hall := hiff.2 fun row hrow hattribute htwo => hnone ⟨row, hrow, hattribute, htwo⟩
  have hindex : isAttributeField ⟨"@@index([a,".toList, "b])".toList⟩ = true := by decide +kernel
  have hmem : ⟨"@@index([a,".toList, "b])".toList⟩ ∈ post.fields :=
    List.mem_of_mem_filter (hfields ▸ List.mem_singleton_self _)
  exact absurd (hindex.symm.trans (hall _ hmem)) (by decide)

end ApiScan.SchemaFile
