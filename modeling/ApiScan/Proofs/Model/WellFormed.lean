import ApiScan.Proofs.Model.SchemaFile.Models
import ApiScan.Proofs.Project.Routes
import ApiScan.Proofs.Text.Case

set_option autoImplicit false

/-! # Models that are well formed

Whatever a source text holds, a model that is read from it has a name without white space at its ends,
and fields with names and types. A type is in the form in which types are kept, so that bringing it
into this form again changes nothing. -/

namespace ApiScan

open Text

variable {s name token mark file text line : Text} {field : Field} {model : Model}

namespace Field

/-! ## Fields -/

/-- A field has a name, and a type in the form in which types are kept. -/
structure WellFormed (field : Field) : Prop where
  name_ne_nil : field.name ≠ []
  type_ne_nil : field.type ≠ []
  lowerType_type : lowerType field.type = field.type

/-- The characters of the type that a token gives. -/
theorem of_mem_lowerType (htoken : IsToken token) {c : Char} (hc : c ∈ lowerType token) :
    IsLower c ∧ isBlank c = false := by
  rw [lowerType, strip_of_forall htoken.2] at hc
  obtain ⟨hlower, hmem⟩ := of_mem_lower hc
  refine ⟨hlower, ?_⟩
  cases hblank : isBlank c with
  | false => rfl
  | true => exact hblank.symm.trans (htoken.2 c (hmem (Or.inl hblank)))

/-- **A token gives a type that is kept as it is**, with a mark behind it or without. -/
theorem wellFormed_marked (hname : name ≠ []) (htoken : IsToken token)
    (hmark : ∀ c ∈ mark, IsLower c ∧ isBlank c = false) :
    WellFormed ⟨name, lowerType token ++ mark⟩ := by
  have hall : ∀ c ∈ lowerType token ++ mark, IsLower c ∧ isBlank c = false :=
    List.forall_mem_append.2 ⟨fun _ => of_mem_lowerType htoken, hmark⟩
  have hne : lowerType token ≠ [] := by
    rw [lowerType, strip_of_forall htoken.2]
    exact lower_ne_nil htoken.1
  refine ⟨hname, List.append_ne_nil_of_left_ne_nil hne _, ?_⟩
  dsimp only
  rw [lowerType, strip_of_forall fun c hc => (hall c hc).2, lower_eq_self fun c hc => (hall c hc).1]

theorem wellFormed_lowerType (hname : name ≠ []) (htoken : IsToken token) :
    WellFormed ⟨name, lowerType token⟩ := by
  have hmarked : WellFormed ⟨name, lowerType token ++ []⟩ :=
    wellFormed_marked hname htoken (by simp)
  rwa [List.append_nil] at hmarked

end Field

/-! ## Models -/

/-- A model of a file has a trimmed name and fields with names and types, and is named for the
    file. -/
structure Model.WellFormed (file : Text) (model : Model) : Prop where
  table_ne_nil : model.table ≠ []
  strip_table : strip model.table = model.table
  source_eq : model.source = Source.stripExtension file
  fields : ∀ field ∈ model.fields, field.WellFormed

namespace DocumentSchema

theorem isToken_of_typeToken? {before : Option Char} (h : typeToken? before s = some token) :
    IsToken token := by
  have hmarks : isBlank '.' = false ∧ isBlank '$' = false := by decide
  have hchar {c : Char} (hc : isTypeChar c = true) : isBlank c = false := by
    simp only [isTypeChar, Bool.or_eq_true, decide_eq_true_eq] at hc
    rcases hc with (hword | rfl) | rfl
    · exact isBlank_eq_false_of_isWord hword
    · exact hmarks.1
    · exact hmarks.2
  have hrun (rest : Text) (hne : (rest.takeWhile isTypeChar).isEmpty = false) :
      IsToken (rest.takeWhile isTypeChar) :=
    ⟨by simpa using hne, fun c hc => hchar (List.mem_takeWhile_imp hc)⟩
  unfold typeToken? at h
  simp only [Option.bind_eq_bind, Option.bind_eq_some_iff] at h
  obtain ⟨rest, -, h⟩ := h
  split at h
  · exact nomatch h
  · split at h
    · next rest _ =>
        split at h
        · exact nomatch h
        · next hne =>
            rw [Bool.not_eq_true] at hne
            split at h
            · exact Option.some.inj h ▸ hrun _ hne
            · split at h
              · exact Option.some.inj h ▸ hrun _ hne
              · exact nomatch h
    · exact nomatch h

theorem wellFormed_of_parseField? (h : parseField? line = some field) : field.WellFormed := by
  unfold parseField? at h
  simp only [Option.bind_eq_bind, Option.bind_eq_some_iff] at h
  obtain ⟨token, htoken, hfield⟩ := h
  obtain ⟨front, rest, -, hfound, -⟩ := first?_eq_some_iff.1 htoken
  split at hfield
  · exact nomatch hfield
  · next hname =>
      obtain rfl := Option.some.inj hfield
      exact Field.wellFormed_lowerType (by simpa using hname) (isToken_of_typeToken? hfound)

theorem wellFormed_timestampFields : ∀ field ∈ timestampFields, field.WellFormed := by
  have hdate : Field.lowerType "date".toList = "date".toList := by decide +kernel
  intro field hfield
  rcases List.mem_cons.1 hfield with rfl | hfield
  · exact ⟨by decide, by decide, hdate⟩
  · rw [List.mem_singleton.1 hfield]
    exact ⟨by decide, by decide, hdate⟩

theorem strip_modelName (s : Text) : strip (modelName s) = modelName s := by
  unfold modelName
  split
  · exact strip_strip _
  · rfl

theorem wellFormed_of_mem_extract (h : model ∈ (extract file text).found) : model.WellFormed file := by
  obtain ⟨hname, block, stamped, rfl⟩ := eq_of_mem_extract h
  refine ⟨hname, strip_modelName text, rfl, fun field hfield => ?_⟩
  rcases List.mem_append.1 hfield with hfield | hfield
  · obtain ⟨line, -, hline⟩ := List.mem_filterMap.1 hfield
    exact wellFormed_of_parseField? hline
  · split at hfield
    · exact wellFormed_timestampFields field hfield
    · exact absurd hfield List.not_mem_nil

theorem length_extract_le_one (file text : Text) : (extract file text).found.length ≤ 1 := by
  unfold extract
  split
  · exact Nat.zero_le 1
  · split
    · exact Nat.zero_le 1
    · dsimp only
      split <;> simp [Findings.skipped]

end DocumentSchema

namespace ColumnTable

theorem wellFormed_of_parseColumn? (h : parseColumn? line = some field) : field.WellFormed := by
  have hrun {s : Text} (hne : (s.takeWhile isWord).isEmpty = false) : IsToken (s.takeWhile isWord) :=
    isToken_of_allWord (fun c hc => List.mem_takeWhile_imp hc) (by simpa using hne)
  unfold parseColumn? at h
  simp only at h
  split at h
  · next rest _ =>
      split at h
      · exact nomatch h
      · next hne =>
          rw [Bool.or_eq_true, not_or, Bool.not_eq_true, Bool.not_eq_true] at hne
          obtain rfl := Option.some.inj h
          refine Field.wellFormed_marked (by simpa using hne.1) (hrun hne.2) ?_
          have hmark : ∀ c ∈ Field.arrayMark, IsLower c ∧ isBlank c = false := by decide +kernel
          split
          · exact hmark
          · exact fun c hc => absurd hc List.not_mem_nil
  · exact nomatch h

theorem strip_tableName (s mark : Text) : strip (tableName s mark) = tableName s mark := by
  unfold tableName
  split
  · exact strip_strip _
  · rfl

theorem wellFormed_of_mem_extract (h : model ∈ (extract file text).found) : model.WellFormed file := by
  obtain ⟨mark, block, hname, rfl⟩ := eq_of_mem_extract h
  refine ⟨hname, strip_tableName text mark, rfl, fun field hfield => ?_⟩
  obtain ⟨line, -, hline⟩ := List.mem_filterMap.1 hfield
  exact wellFormed_of_parseColumn? hline

theorem length_extract_le_one (file text : Text) : (extract file text).found.length ≤ 1 := by
  unfold extract
  split
  · exact Nat.zero_le 1
  · dsimp only
    split
    · exact Nat.zero_le 1
    · split <;> simp [Findings.skipped]

end ColumnTable

namespace SchemaFile

/-- Every line of two words gives a well-formed field. -/
theorem wellFormed_of_mem_parseLines {table : Text} {lines : List Text}
    (h : field ∈ (parseLines table lines).2) : field.WellFormed := by
  induction lines generalizing table with
  | nil => exact absurd h List.not_mem_nil
  | cons line lines ih =>
      rw [parseLines] at h
      split at h
      · exact ih h
      · split at h
        · exact ih h
        · split at h
          · next name type hwords =>
              have hword {w : Text} (hw : w ∈ [name, type]) : IsToken w :=
                isToken_of_mem_words (hwords ▸ hw)
              rcases List.mem_cons.1 h with rfl | h
              · exact Field.wellFormed_lowerType (hword (by simp)).1 (hword (by simp))
              · exact ih h
          · exact ih h

theorem wellFormed_of_mem_extract (h : model ∈ (extract file text).found) : model.WellFormed file := by
  obtain ⟨part, hpart, hmodel⟩ := List.mem_flatMap.1 h
  obtain ⟨chunk, -, rfl⟩ := List.mem_map.1 hpart
  unfold parseChunk at hmodel
  simp only at hmodel
  split at hmodel
  · exact absurd hmodel List.not_mem_nil
  · next hname =>
      split at hmodel
      · next hword =>
          obtain rfl := List.mem_singleton.1 hmodel
          have hall : AllWord (parseLines [] (lines chunk)).1 := List.all_eq_true.1 hword
          exact ⟨by simpa using hname, strip_of_allWord hall, rfl, fun _ => wellFormed_of_mem_parseLines⟩
      · exact absurd hmodel List.not_mem_nil

end SchemaFile

/-! ## What the three dialects yield -/

/-- **Every model that is read from a source text is well formed**, whatever the text holds, and a
    document schema or a column table is the only one of its file. -/
theorem wellFormed_of_extract (file text : Text) :
    (∀ model ∈ (DocumentSchema.extract file text).found, model.WellFormed file)
      ∧ (∀ model ∈ (ColumnTable.extract file text).found, model.WellFormed file)
      ∧ (∀ model ∈ (SchemaFile.extract file text).found, model.WellFormed file)
      ∧ (DocumentSchema.extract file text).found.length ≤ 1
      ∧ (ColumnTable.extract file text).found.length ≤ 1 :=
  ⟨fun _ => DocumentSchema.wellFormed_of_mem_extract, fun _ => ColumnTable.wellFormed_of_mem_extract,
    fun _ => SchemaFile.wellFormed_of_mem_extract, DocumentSchema.length_extract_le_one file text,
    ColumnTable.length_extract_le_one file text⟩

/-- A text that is read in each of the three dialects. -/
def mixedSource : Text :=
  ("pgTable(\"users\", \x7bα: ΣΟΣ().array()\x7d)\n"
    ++ "model('User', new Schema(\x7ba: \x7btype: B\x7d\x7d))\n"
    ++ "model Post \x7b\na B?\n\x7d\n").toList

theorem wellFormed_of_mixedSource :
    let document : Model := ⟨"User".toList, "all".toList, [⟨"a".toList, "b".toList⟩]⟩
    let table : Model := ⟨"users".toList, "all".toList, [⟨"α".toList, "σος[]".toList⟩]⟩
    let schema : Model := ⟨"Post".toList, "all".toList, [⟨"a".toList, "b?".toList⟩]⟩
    document ∈ (DocumentSchema.extract "all.ts".toList mixedSource).found
      ∧ table ∈ (ColumnTable.extract "all.ts".toList mixedSource).found
      ∧ schema ∈ (SchemaFile.extract "all.ts".toList mixedSource).found
      ∧ ∀ model ∈ [document, table, schema], model.WellFormed "all.ts".toList := by
  intro document table schema
  have hdocument : document ∈ (DocumentSchema.extract "all.ts".toList mixedSource).found := by
    decide +kernel
  have htable : table ∈ (ColumnTable.extract "all.ts".toList mixedSource).found := by decide +kernel
  have hschema : schema ∈ (SchemaFile.extract "all.ts".toList mixedSource).found := by decide +kernel
  obtain ⟨hdocuments, htables, hschemas, -⟩ := wellFormed_of_extract "all.ts".toList mixedSource
  refine ⟨hdocument, htable, hschema, ?_⟩
  rw [List.forall_mem_cons, List.forall_mem_cons, List.forall_mem_singleton]
  exact ⟨hdocuments document hdocument, htables table htable, hschemas schema hschema⟩

end ApiScan
