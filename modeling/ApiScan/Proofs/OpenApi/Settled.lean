import ApiScan.OpenApi.Document
import ApiScan.Proofs.Json.Settled

set_option autoImplicit false

/-! # The parts of a document read back

Path documents and schema documents are put together from texts of characters, one field at a time,
and read back as they were written. So do path documents that are merged. -/

namespace ApiScan.OpenApi

open Json

theorem settled_record {fields : List (String × Json)} (hnodup : (fields.map Prod.fst).Nodup)
    (h : ∀ field ∈ fields, Settled field.2) : Settled (.record fields) :=
  settled_object (settledFields_named hnodup h)

/-! ## Paths -/

theorem settled_responses : Settled responses := by
  have hanswer (s : String) : Settled (.record [("description", .ofString s)]) :=
    settled_record (by simp) fun field hf => by
      rw [List.mem_singleton.1 hf]
      exact settled_ofString s
  refine settled_record (by simp) fun field hf => ?_
  simp only [List.mem_cons, List.not_mem_nil, or_false] at hf
  rcases hf with rfl | rfl | rfl <;> exact hanswer _

theorem settled_securityRequirement (authorization : Authorization) :
    ∀ doc ∈ securityRequirement authorization, Settled doc := by
  have hscheme (name : Text) : Settled (.object [(Points.ofText name, .list [])]) :=
    settled_object (settledFields_nil.put name (settled_list fun _ h => absurd h List.not_mem_nil))
  intro doc hdoc
  cases authorization with
  | bearer => exact List.mem_singleton.1 hdoc ▸ hscheme _
  | basic => exact List.mem_singleton.1 hdoc ▸ hscheme _
  | none => exact absurd hdoc List.not_mem_nil

theorem settledFields_operation (tag : Text) (authorization : Authorization) :
    SettledFields (operation tag authorization) := by
  have htexts (items : List Json) (h : ∀ item ∈ items, ∃ s : Text, item = .str s) :
      Settled (.list items) :=
    settled_list fun item hi => by
      obtain ⟨s, rfl⟩ := h item hi
      exact settled_str s
  refine settledFields_named ?_ fun field hf => ?_
  · cases authorization <;> simp [securityRequirement, securityScheme?]
  · simp only [List.mem_append, List.mem_cons, List.not_mem_nil, or_false] at hf
    rcases hf with ((rfl | rfl | rfl) | hs) | rfl
    · exact settled_ofString _
    · exact htexts _ fun item hi => ⟨_, List.mem_singleton.1 hi⟩
    · exact htexts _ fun item hi => ⟨_, List.mem_singleton.1 hi⟩
    · split at hs
      · exact absurd hs List.not_mem_nil
      · rw [List.mem_singleton.1 hs]
        exact settled_list (settled_securityRequirement authorization)
    · exact settled_responses

theorem settled_operation (tag : Text) (authorization : Authorization) :
    Settled (.object (operation tag authorization)) :=
  settled_object (settledFields_operation tag authorization)

/-! ## Schemas -/

theorem settled_fieldSchema (field : Field) : Settled (.object (fieldSchema field)) := by
  unfold fieldSchema
  split
  · refine settled_record (by simp) fun entry he => ?_
    simp only [List.mem_cons, List.not_mem_nil, or_false] at he
    rcases he with rfl | rfl <;> exact settled_ofString _
  · refine settled_record (by simp) fun entry he => ?_
    rw [List.mem_singleton.1 he]
    exact settled_str _

theorem settledFields_properties (fields : List Field) : SettledFields (properties fields) := by
  have hall (more : List Field) (entries : Json.Fields) (h : SettledFields entries) :
      SettledFields (Assoc.update entries
        (more.map fun field => (Points.ofText field.name, .object (fieldSchema field)))) := by
    induction more generalizing entries with
    | nil => exact h
    | cons field more ih => exact ih _ (h.put field.name (settled_fieldSchema field))
  exact hall fields [] settledFields_nil

theorem settledFields_schemaDocument (model : Model) : SettledFields (schemaDocument model) := by
  have hschema : Settled (.record [("type", .ofString "object"),
      ("properties", .object (properties model.fields))]) := by
    refine settled_record (by simp) fun entry he => ?_
    simp only [List.mem_cons, List.not_mem_nil, or_false] at he
    rcases he with rfl | rfl
    · exact settled_ofString _
    · exact settled_object (settledFields_properties model.fields)
  exact settledFields_nil.put model.table hschema

/-! ## Merged paths -/

theorem settled_mergeItem {new : Json} (hnew : Settled new) {old : Json} (hold : Settled old) :
    Settled (mergeItem new (some old)) := by
  unfold mergeItem
  split
  · next before he =>
      obtain rfl := Option.some.inj he
      split
      · exact settled_object ((settled_object_iff.1 hold).update (settled_object_iff.1 hnew))
      · exact hnew
  · exact hnew

theorem settledFields_mergePaths {target incoming : Json.Fields} (htarget : SettledFields target)
    (hincoming : SettledFields incoming) : SettledFields (mergePaths target incoming) := by
  induction incoming generalizing target with
  | nil => exact htarget
  | cons entry more ih =>
      have hitem := hincoming.settled entry List.mem_cons_self
      have hname := hincoming.joined_name entry List.mem_cons_self
      exact ih (htarget.alter_of_joined hname hitem fun _ => settled_mergeItem hitem) hincoming.tail

end ApiScan.OpenApi

/-! ## What the whole document is made of

The document of a project is put together from its schemas, its paths and texts, by lists and by
objects of fixed names. What holds of those parts and is kept by putting them together therefore
holds of the document. -/

namespace ApiScan.OpenApi

open Json

variable {good : Json → Prop}

/-- The texts of a configuration that stand in the document are made of whole characters. -/
structure WholeConfig (config : Config) : Prop where
  name : IsWholeText config.name
  version : IsWholeText config.version
  description : IsWholeText config.description
  baseurl : IsWholeText config.baseurl

/-- What holds of texts of whole characters, and is kept by lists and by objects of fixed names. -/
structure OfRecords (good : Json → Prop) : Prop where
  str : ∀ s, IsWholeText s → good (.str s)
  list : ∀ items, (∀ item ∈ items, good item) → good (.list items)
  record : ∀ fields : List (String × Json), (fields.map Prod.fst).Nodup →
    (∀ field ∈ fields, good field.2) → good (.record fields)

namespace OfRecords

theorem text (h : OfRecords good) (s : Text) : good (.str s) := h.str _ ⟨s, rfl⟩

theorem entry (h : OfRecords good) (name : String) {value : Json} (hvalue : good value) :
    good (.record [(name, value)]) :=
  h.record _ (List.nodup_singleton name) (List.forall_mem_singleton.2 hvalue)

theorem scheme (h : OfRecords good) {authorization : Authorization} {name : Text} {scheme : Json}
    (hscheme : securityScheme? authorization = some (name, scheme)) :
    good (.object [(name, scheme)]) ∧ good (.object [(name, .list [])]) := by
  have hnone : good (.list []) := h.list [] (List.forall_mem_nil _)
  cases authorization with
  | bearer =>
      obtain ⟨rfl, rfl⟩ := Prod.mk.inj (Option.some.inj hscheme)
      refine ⟨h.entry "bearerAuth" (h.record _ (by simp) fun field hf => ?_), h.entry "bearerAuth" hnone⟩
      simp only [List.mem_cons, List.not_mem_nil, or_false] at hf
      rcases hf with rfl | rfl | rfl | rfl <;> exact h.text _
  | basic =>
      obtain ⟨rfl, rfl⟩ := Prod.mk.inj (Option.some.inj hscheme)
      refine ⟨h.entry "basicAuth" (h.record _ (by simp) fun field hf => ?_), h.entry "basicAuth" hnone⟩
      simp only [List.mem_cons, List.not_mem_nil, or_false] at hf
      rcases hf with rfl | rfl | rfl <;> exact h.text _
  | none => cases hscheme

/-- **What holds of the schemas and the paths holds of the document.** -/
theorem document (h : OfRecords good) {config : Config} (hconfig : WholeConfig config)
    {schemas paths : Json.Fields} (hschemas : good (.object schemas)) (hpaths : good (.object paths)) :
    good (.object (document config schemas paths)) := by
  have hinfo : good (.record [("title", .str config.name), ("version", .str config.version),
      ("description", .str config.description)]) := by
    refine h.record _ (by simp) fun field hf => ?_
    simp only [List.mem_cons, List.not_mem_nil, or_false] at hf
    rcases hf with rfl | rfl | rfl
    · exact h.str _ hconfig.name
    · exact h.str _ hconfig.version
    · exact h.str _ hconfig.description
  have hservers : good (.list [.record [("url", .str config.baseurl)]]) :=
    h.list _ (List.forall_mem_singleton.2 (h.entry "url" (h.str _ hconfig.baseurl)))
  unfold OpenApi.document
  cases hscheme : securityScheme? config.authorization with
  | none =>
      refine h.record _ (by simp) fun field hf => ?_
      simp only [List.append_nil, List.mem_cons, List.not_mem_nil, or_false] at hf
      rcases hf with rfl | rfl | rfl | rfl | rfl
      · exact h.text _
      · exact hinfo
      · exact hservers
      · exact h.entry "schemas" hschemas
      · exact hpaths
  | some found =>
      obtain ⟨name, scheme⟩ := found
      obtain ⟨hdefined, hrequired⟩ := h.scheme hscheme
      have hcomponents : good (.record [("schemas", .object schemas),
          ("securitySchemes", .object [(name, scheme)])]) := by
        refine h.record _ (by simp) fun field hf => ?_
        simp only [List.mem_cons, List.not_mem_nil, or_false] at hf
        rcases hf with rfl | rfl
        · exact hschemas
        · exact hdefined
      refine h.record _ (by simp) fun field hf => ?_
      simp only [List.mem_append, List.mem_cons, List.not_mem_nil, or_false] at hf
      rcases hf with (rfl | rfl | rfl | rfl | rfl) | rfl
      · exact h.text _
      · exact hinfo
      · exact hservers
      · exact hcomponents
      · exact hpaths
      · exact h.list _ (List.forall_mem_singleton.2 hrequired)

end OfRecords

/-! ## Documents that read back -/

theorem ofRecords_settled : OfRecords Settled where
  str := by
    rintro _ ⟨s, rfl⟩
    exact settled_str s
  list _ := settled_list
  record _ := settled_record

theorem settledFields_document {config : Config} (hconfig : WholeConfig config)
    {schemas paths : Json.Fields} (hschemas : SettledFields schemas) (hpaths : SettledFields paths) :
    SettledFields (document config schemas paths) :=
  settled_object_iff.1
    (ofRecords_settled.document hconfig (settled_object hschemas) (settled_object hpaths))

/-! ## Whole documents -/

theorem ofRecords_whole : OfRecords Whole where
  str _ := id
  list _ := wholeItems_iff.2
  record fields _ h := by
    refine wholeFields_iff.2 fun field hf => ?_
    obtain ⟨given, hgiven, rfl⟩ := List.mem_map.1 hf
    exact ⟨⟨_, rfl⟩, h given hgiven⟩

theorem wholeFields_document {config : Config} (hconfig : WholeConfig config)
    {schemas paths : Json.Fields} (hschemas : WholeFields schemas) (hpaths : WholeFields paths) :
    WholeFields (document config schemas paths) :=
  ofRecords_whole.document hconfig hschemas hpaths

end ApiScan.OpenApi
