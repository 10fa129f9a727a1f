import ApiScan.Proofs.Model.FieldLine
import ApiScan.Proofs.Model.Registration
import Mathlib.Data.List.Forall2
import Mathlib.Data.List.ReduceOption

set_option autoImplicit false

/-! # The model of a document schema

A file that defines a schema by a block of fields and registers it gives one model. The fields of
the model are those of the lines of the laid out block, and those of time stamps. -/

namespace ApiScan.DocumentSchema

open Text Source

variable {fields : Declared} {tail : Tail} {file text after : Text} {name : Word}

/-! ## The model name -/

/-- The model name is what stands in quotes in the registration. -/
theorem modelName_eq {front rest : Text} {quote : Char} (hquote : isQuote quote = true)
    (h : cut? "model(".toList text = some (front, quote :: (name.text ++ quote :: ',' :: rest))) :
    modelName text = name.text := by
  have hplain : ∀ c ∈ name.text, isQuote c = false := fun c hc =>
    isQuote_eq_false (Or.inl (name.allWord c hc))
  have hargument {c : Char} (hc : isQuote c = true ∨ isWord c = true) : c ≠ ',' ∧ c ≠ '\n' := by
    constructor <;> rintro rfl <;> exact absurd hc (by decide)
  have hregisters : Registers text front (quote :: (name.text ++ [quote])) := by
    refine registers_cons_iff.2 ⟨isWord_eq_false_of_isQuote hquote, fun c hc => hargument ?_, rest, ?_⟩
    · rcases List.mem_append.1 hc with hm | hm
      · exact Or.inr (name.allWord c hm)
      · exact Or.inl (by rwa [List.mem_singleton.1 hm])
    · rw [eq_of_cut?_eq_some h]
      simp
  have hnamed : NamedBy text front (quote :: (name.text ++ [quote])) :=
    ⟨hregisters, fun front' argument' ⟨⟨rest', hstands⟩, _⟩ =>
      length_le_of_cut? h ⟨argument' ++ ',' :: rest', by rw [hstands, List.append_assoc]⟩⟩
  rw [modelName_of_namedBy hnamed, registeredName, List.tail_cons, List.filter_append,
    filter_isQuote_of_plain hplain, List.filter_cons_of_neg (by simp [hquote]), List.filter_nil,
    List.append_nil, strip_of_allWord name.allWord]

/-! ## The fields of a block -/

/-- Whether a field in shorthand switches time stamps on. -/
def Declaration.stamps : Declaration → Bool
  | shorthand name type => isStampName name.text && decide (type.text = "true".toList)
  | explicit .. => false

/-- A block switches time stamps on exactly when one of its fields does. -/
theorem enablesTimestamps_block (fields : Declared) (tail : Tail) :
    enablesTimestamps (block fields tail) = fields.any fun field => field.2.stamps := by
  have hstart : first? timestampsOn? none (block fields tail)
      = first? timestampsOn? none (sequence [] fields ++ (tail.text ++ ['}'])) :=
    startsWithWord_timestampsOn?.first?_noWord (show NoWord ['{'] by decide) _
  have hstamps (declaration : Declaration) :
      (declaration.tag? isStampName stampValue).isSome = declaration.stamps := by
    cases declaration with
    | explicit name type => rfl
    | shorthand name type =>
        cases hname : isStampName name.text with
        | false => simp [Declaration.tag?, Declaration.stamps, hname]
        | true =>
            by_cases htype : type.text = "true".toList
            · simp [Declaration.tag?, Declaration.stamps, stampValue, hname, htype]
            · rw [Declaration.tag?, Declaration.stamps, stampValue, if_neg htype,
                decide_eq_false htype, Bool.and_false]
              split <;> rfl
  rw [enablesTimestamps, hstart, tags_timestampsOn?.first?_sequence (Or.inl rfl) (closes_tail tail []),
    startsWithWord_timestampsOn?.first?_eq_none (noWord_tail tail), Option.or_none]
  rw [Bool.eq_iff_iff, List.findSome?_isSome_iff, List.any_eq_true]
  simp only [hstamps]

/-- **The fields of a block** are those of its lines. -/
theorem exists_fieldsOf_block (fields : Declared) (tail : Tail) :
    ∃ found, List.Forall₂ LineYields
        (groupsAfter Declaration.isExplicit [] (fields.map Prod.snd)) found
      ∧ fieldsOf (flatten (block fields tail)) = found.reduceOption := by
  have hline : OnOneLine ([] ++ fields.map smoothField) tail.smooth := by
    refine ⟨fun field hf hbreak => ?_, fun hbreak => (mem_smooth hbreak).2 rfl⟩
    obtain ⟨field, -, rfl⟩ := List.mem_map.1 hf
    exact (mem_smooth hbreak).2 rfl
  have hlines := lines_breakGroups (Or.inl (Eq.refl [])) (by simp) hline
  have hgroups : groupsAfter Declaration.isExplicit [] (fields.map Prod.snd)
      = (groupsAfter (fun field => field.2.isExplicit) [] (fields.map smoothField)).map
        (List.map Prod.snd) := by
    rw [← groupsAfter_map Prod.snd Declaration.isExplicit [] (fields.map smoothField), List.map_map]
    rfl
  have hreflow : Text.lines (reflow (block (fields.map smoothField) tail.smooth))
      = ['{'] :: Text.lines (breakGroups 0
        (sequence [] (fields.map smoothField) ++ (tail.smooth.text ++ ['}']))) :=
    lines_append_cons (s := ['{']) (by decide) _
  refine ⟨(Text.lines (breakGroups 0
    (sequence [] (fields.map smoothField) ++ (tail.smooth.text ++ ['}'])))).map parseField?, ?_, ?_⟩
  · rw [hgroups, List.forall₂_map_left_iff, List.forall₂_map_right_iff]
    exact hlines.imp fun line text h => lineYields_parseField? h.1 h.2
  · have hopen : parseField? ['{'] = none := by decide +kernel
    rw [fieldsOf, flatten_block, hreflow, List.filterMap_cons, hopen, List.reduceOption,
      List.filterMap_map]
    rfl

/-! ## The model of a file -/

/-- A fold that takes items or keeps what it has ends with one of the items, if it starts with
    none. -/
theorem mem_of_foldl_eq_some {α β : Type} {step : Option (α × β) → β → Option (α × β)}
    (hstep : ∀ best item found, step best item = some found → found.2 = item ∨ best = some found)
    {items : List β} {found : α × β} (h : items.foldl step none = some found) : found.2 ∈ items := by
  have hall (items : List β) (best : Option (α × β)) (h : items.foldl step best = some found) :
      found.2 ∈ items ∨ best = some found := by
    induction items generalizing best with
    | nil => exact Or.inr h
    | cons item items ih =>
        rcases ih _ h with hmem | hbest
        · exact Or.inl (List.mem_cons_of_mem item hmem)
        · rcases hstep _ _ _ hbest with hitem | hbest
          · rw [hitem]
            exact Or.inl List.mem_cons_self
          · exact Or.inr hbest
  exact (hall items none h).resolve_right (Option.some_ne_none _).symm

theorem mem_of_firstMark? {marks : List Text} {mark : Text}
    (h : firstMark? marks text = some mark) : mark ∈ marks := by
  obtain ⟨found, hfirst, rfl⟩ := Option.map_eq_some_iff.1 h
  refine mem_of_foldl_eq_some (fun best item found hfound => ?_) hfirst
  split at hfound
  · split at hfound
    · exact Or.inl (congrArg Prod.snd (Option.some.inj hfound)).symm
    · exact Or.inr hfound
  · exact Or.inl (congrArg Prod.snd (Option.some.inj hfound)).symm
  · exact Or.inr hfound

/-- A file defines a schema by a block of fields, with `after` behind the block, and registers it
    under a name. -/
structure Defines (text : Text) (fields : Declared) (tail : Tail) (after : Text) (name : Word) :
    Prop where
  schema : ∃ mark front, ∃ gap : Gap, firstMark? marks text = some mark
    ∧ cut? mark text = some (front, gap.text ++ (block fields tail ++ after))
  registration : ∃ front quote rest, isQuote quote = true
    ∧ cut? "model(".toList text = some (front, quote :: (name.text ++ quote :: ',' :: rest))

/-- **A file gives one model.** It has the fields of the lines of the block in their order, each
    line up to an explicit field, and those of time stamps if a field or an option switches them
    on. -/
theorem extract_of_defines (file : Text) (h : Defines text fields tail after name) :
    ∃ found, List.Forall₂ LineYields
        (groupsAfter Declaration.isExplicit [] (fields.map Prod.snd)) found
      ∧ extract file text = ⟨[⟨name.text, stripExtension file, found.reduceOption ++
          if fields.any (fun field => field.2.stamps)
            || (options? after).any (fun options => enablesTimestamps (stripComments options))
          then timestampFields else []⟩], []⟩ := by
  obtain ⟨mark, front, gap, hmark, hcut⟩ := h.schema
  obtain ⟨before, quote, rest, hquote, hregistration⟩ := h.registration
  have hplain : ∀ mark ∈ marks, NoBrace mark := by decide
  have hblock : blockAfter? mark text = some (block fields tail, after) :=
    blockAfter?_block (hplain mark (mem_of_firstMark? hmark)) gap.blank hcut
  have hstamps : (fields.map smoothField).any (fun field => field.2.stamps)
      = fields.any fun field => field.2.stamps := by
    rw [List.any_map]
    rfl
  obtain ⟨found, hfound, hfields⟩ := exists_fieldsOf_block fields tail
  refine ⟨found, hfound, ?_⟩
  have hname : name.text.isEmpty = false := by simpa using name.ne_nil
  rw [extract, hmark]
  simp only [hblock, modelName_eq hquote hregistration, hname, Bool.false_eq_true, if_false, hfields]
  rw [flatten_block, enablesTimestamps_block, hstamps]

/-! ### Two files -/

def userFields : Declared :=
  [(blank, .explicit ⟨"name".toList, by decide, by decide⟩ ⟨"String".toList, by decide, by decide⟩),
   (blank, .explicit ⟨"owner".toList, by decide, by decide⟩ ⟨"ObjectId".toList, by decide, by decide⟩),
   (blank, .explicit ⟨"age".toList, by decide, by decide⟩ ⟨"Number".toList, by decide, by decide⟩),
   (blank, .shorthand ⟨"timestamps".toList, by decide, by decide⟩ ⟨"true".toList, by decide, by decide⟩)]

/-- The end of a block behind a blank. -/
def blankTail : Tail := ⟨[' '], by simp [isBlank]⟩

/-- A registration, as it may stand behind a block. -/
def registering (name : Text) : Text :=
  ");\nmongoose.model('".toList ++ name ++ "', schema);\n".toList

/-- A file with a block of fields. -/
def fileOf (fields : Declared) (name : Text) : Text :=
  "const schema = new mongoose.Schema(".toList ++ block fields blankTail ++ registering name

/-- A reference gives no field and time stamps give two. -/
theorem user_model_of_fields :
    Defines (fileOf userFields "User".toList) userFields blankTail (registering "User".toList)
        ⟨"User".toList, by decide, by decide⟩
      ∧ (extract "user.js".toList (fileOf userFields "User".toList)).found
        = [⟨"User".toList, "user".toList, [⟨"name".toList, "string".toList⟩,
            ⟨"age".toList, "number".toList⟩, ⟨"createdAt".toList, "date".toList⟩,
            ⟨"updatedAt".toList, "date".toList⟩]⟩] := by
  have hdefines : Defines (fileOf userFields "User".toList) userFields blankTail
      (registering "User".toList) ⟨"User".toList, by decide, by decide⟩ := by
    refine ⟨⟨".Schema(".toList, "const schema = new mongoose".toList, ⟨[], by decide⟩, ?_, ?_⟩,
      ⟨"const schema = new mongoose.Schema(".toList ++ block userFields blankTail
        ++ ");\nmongoose.".toList, '\'', " schema);\n".toList, rfl, ?_⟩⟩
    all_goals decide +kernel
  refine ⟨hdefines, ?_⟩
  obtain ⟨found, hfound, hextract⟩ := extract_of_defines "user.js".toList hdefines
  have hnone : ∀ declaration ∈ ([] : List Declaration), declaration.isPlain = true := by simp
  -- the block has a line for each field
  change List.Forall₂ LineYields [[_], [_], [_], [_]] found at hfound
  obtain _ | ⟨hname, _ | ⟨howner, _ | ⟨hage, _ | ⟨hstamps, _ | _⟩⟩⟩⟩ := hfound
  obtain ⟨_, rfl, hgiven⟩ := hname.explicit [] _ _ rfl hnone (by decide) (by decide)
  obtain rfl := howner.reference [] _ _ rfl (by decide)
  obtain ⟨_, rfl, hgiven'⟩ := hage.explicit [] _ _ rfl hnone (by decide) (by decide)
  obtain rfl := hstamps.shorthand (by decide)
  rw [hextract, hgiven rfl, hgiven' rfl]
  decide +kernel

/-- The explicit fields of a block as they are declared. -/
def explicitFields (fields : Declared) : List Field :=
  fields.filterMap fun field => match field.2 with
    | .shorthand _ _ => none
    | .explicit name type => some ⟨name.text, Field.lowerType type.text⟩

def bookFields : Declared :=
  [(blank, .explicit ⟨"owner".toList, by decide, by decide⟩ ⟨"ObjectId".toList, by decide, by decide⟩),
   (blank, .shorthand ⟨"timestamps".toList, by decide, by decide⟩ ⟨"true".toList, by decide, by decide⟩),
   (blank, .explicit ⟨"pages".toList, by decide, by decide⟩ ⟨"Number".toList, by decide, by decide⟩),
   (blank, .shorthand ⟨"type".toList, by decide, by decide⟩ ⟨"Date".toList, by decide, by decide⟩)]

/-- The fields of a model need not be the explicit fields of its block: a reference gives none, a
    field in shorthand gives its name to the explicit field behind it, one that is named `type` gives
    a field, and one that switches time stamps on gives two. -/
theorem book_model_of_fields :
    Defines (fileOf bookFields "Book".toList) bookFields blankTail (registering "Book".toList)
        ⟨"Book".toList, by decide, by decide⟩
      ∧ explicitFields bookFields
        = [⟨"owner".toList, "objectid".toList⟩, ⟨"pages".toList, "number".toList⟩]
      ∧ (extract "book.js".toList (fileOf bookFields "Book".toList)).found
        = [⟨"Book".toList, "book".toList, [⟨"timestamps".toList, "number".toList⟩,
            ⟨"type".toList, "date".toList⟩, ⟨"createdAt".toList, "date".toList⟩,
            ⟨"updatedAt".toList, "date".toList⟩]⟩] := by
  refine ⟨⟨⟨".Schema(".toList, "const schema = new mongoose".toList, ⟨[], by decide⟩, ?_, ?_⟩,
      ⟨"const schema = new mongoose.Schema(".toList ++ block bookFields blankTail
        ++ ");\nmongoose.".toList, '\'', " schema);\n".toList, rfl, ?_⟩⟩, ?_, ?_⟩
  all_goals decide +kernel

end ApiScan.DocumentSchema
