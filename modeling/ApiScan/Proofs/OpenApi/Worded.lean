import ApiScan.OpenApi.Document
import ApiScan.Proofs.Assoc
import ApiScan.Proofs.DocComment.Written

set_option autoImplicit false

/-! # The texts of a document

Path documents and schema documents hold texts, and the only empty containers in them stand under
fixed names. -/

namespace ApiScan.OpenApi

open Json

/-! ## Paths -/

theorem filled_responses : Filled responses := by
  have hanswer (s : String) : Filled (.record [("description", .ofString s)]) :=
    filled_record (List.cons_ne_nil _ _) fun field hf => by
      rw [List.mem_singleton.1 hf]
      exact filled_str _
  refine filled_record (List.cons_ne_nil _ _) fun field hf => ?_
  simp only [List.mem_cons, List.not_mem_nil, or_false] at hf
  rcases hf with rfl | rfl | rfl <;> exact hanswer _

theorem worded_securityRequirement (authorization : Authorization) :
    ∀ doc ∈ securityRequirement authorization, Worded doc := by
  have hscheme {name : Text} (hname : '*' ∉ quoted (Points.ofText name)) :
      Worded (.object [(Points.ofText name, .list [])]) :=
    .object (List.forall_mem_singleton.2 (.list fun _ h => absurd h List.not_mem_nil))
      (List.forall_mem_singleton.2 fun _ => hname)
  intro doc hdoc
  cases authorization with
  | bearer => exact List.mem_singleton.1 hdoc ▸ hscheme (by decide)
  | basic => exact List.mem_singleton.1 hdoc ▸ hscheme (by decide)
  | none => exact absurd hdoc List.not_mem_nil

theorem filled_operation (tag : Text) (authorization : Authorization) :
    Filled (.object (operation tag authorization)) := by
  have htext (s : Points) : Filled (.list [.str s]) :=
    filled_list (List.forall_mem_singleton.2 (.str s))
  refine filled_record (by simp) fun field hf => ?_
  simp only [List.mem_append, List.mem_cons, List.not_mem_nil, or_false] at hf
  rcases hf with ((rfl | rfl | rfl) | hs) | rfl
  · exact filled_str _
  · exact htext _
  · exact htext _
  · have hwords := worded_securityRequirement authorization
    cases hrequirement : securityRequirement authorization with
    | nil =>
        rw [hrequirement] at hs
        exact absurd hs List.not_mem_nil
    | cons doc more =>
        rw [hrequirement] at hs hwords
        rw [List.mem_singleton.1 hs]
        exact filled_list hwords
  · exact filled_responses

/-- A path item with operations. -/
def IsFilledItem (item : Json) : Prop :=
  ∃ fields, item = .object fields ∧ fields ≠ [] ∧ ∀ field ∈ fields, Filled field.2

theorem isFilledItem_put {fields : Json.Fields} (h : ∀ field ∈ fields, Filled field.2)
    (name : Points) {operation : Json} (hoperation : Filled operation) :
    IsFilledItem (.object (Assoc.put name operation fields)) := by
  refine ⟨_, rfl, fun hnil => ?_, fun field hf => ?_⟩
  · have hkey : name ∈ Assoc.keys (Assoc.put name operation fields) := Assoc.mem_keys_alter.2 (Or.inl rfl)
    rw [hnil] at hkey
    exact absurd hkey List.not_mem_nil
  · rcases Assoc.mem_alter hf with hm | rfl
    · exact h field hm
    · exact hoperation

theorem worded_pathsDocument (group : RouteGroup) (authorization : Authorization) :
    Worded (.object (pathsDocument group authorization)) := by
  have hoperation := filled_operation group.tag authorization
  have hstep {paths : Json.Fields} (h : ∀ field ∈ paths, IsFilledItem field.2) (path : Text)
      (method : Method) : ∀ field ∈ putOperation path method
        (.object (operation group.tag authorization)) paths, IsFilledItem field.2 := by
    intro field hf
    rcases Assoc.mem_alter hf with hm | rfl
    · exact h field hm
    · cases hg : Assoc.get? (Points.ofText path) paths with
      | none => exact isFilledItem_put (fun _ h => absurd h List.not_mem_nil) _ hoperation
      | some item =>
          obtain ⟨fields, rfl, -, hfields⟩ := h _ (Assoc.mem_of_get?_eq_some hg)
          exact isFilledItem_put hfields _ hoperation
  have hall (entries : List RouteEntry) {paths : Json.Fields}
      (h : ∀ field ∈ paths, IsFilledItem field.2) :
      ∀ field ∈ entries.foldl (fun paths entry =>
        putOperation (joinRoute group.base entry.path) entry.method
          (.object (operation group.tag authorization)) paths) paths, IsFilledItem field.2 := by
    induction entries generalizing paths with
    | nil => exact h
    | cons entry more ih => exact ih (hstep h _ _)
  refine worded_object fun field hf => ?_
  obtain ⟨fields, hitem, hne, hfields⟩ :=
    hall group.entries (fun _ h => absurd h List.not_mem_nil) field hf
  rw [hitem]
  exact filled_object hne hfields

/-! ## Schemas -/

theorem filled_fieldSchema (field : Field) : Filled (.object (fieldSchema field)) := by
  unfold fieldSchema
  split
  · refine filled_record (List.cons_ne_nil _ _) fun entry he => ?_
    simp only [List.mem_cons, List.not_mem_nil, or_false] at he
    rcases he with rfl | rfl <;> exact filled_str _
  · refine filled_record (List.cons_ne_nil _ _) fun entry he => ?_
    rw [List.mem_singleton.1 he]
    exact filled_str _

theorem worded_properties (fields : List Field) : Worded (.object (properties fields)) := by
  have hall (more : List Field) {entries : Json.Fields} (h : ∀ entry ∈ entries, Filled entry.2) :
      ∀ entry ∈ Assoc.update entries (more.map fun field =>
        (Points.ofText field.name, .object (fieldSchema field))), Filled entry.2 := by
    induction more generalizing entries with
    | nil => exact h
    | cons field more ih =>
        refine ih fun entry he => ?_
        rcases Assoc.mem_alter he with hm | rfl
        · exact h entry hm
        · exact filled_fieldSchema field
  exact worded_object (hall fields fun _ h => absurd h List.not_mem_nil)

/-- The properties of a model may be none, and stand under a name of their own. -/
theorem filled_of_mem_schemaDocument (model : Model) :
    ∀ entry ∈ schemaDocument model, Filled entry.2 := by
  refine List.forall_mem_singleton.2 ⟨.object ?_ ?_, by simp [record, named]⟩
  · intro entry he
    simp only [named, List.map_cons, List.map_nil, List.mem_cons, List.not_mem_nil, or_false] at he
    rcases he with rfl | rfl
    · exact .str _
    · exact worded_properties model.fields
  · intro entry he hbare
    simp only [named, List.map_cons, List.map_nil, List.mem_cons, List.not_mem_nil, or_false] at he
    rcases he with rfl | rfl
    · exact absurd hbare (filled_str _).not_bare
    · exact (show '*' ∉ quoted (Points.ofText "properties".toList) by decide)

end ApiScan.OpenApi
