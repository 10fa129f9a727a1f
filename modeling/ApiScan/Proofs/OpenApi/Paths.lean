import ApiScan.Proofs.OpenApi.Settled

set_option autoImplicit false

/-! # Path items and their operations

A path document maps paths to path items, and a path item maps methods to operations. Scanned
documents hold nothing else. Merging such a document into others keeps every operation that stood
in one of them, which is what makes the order of the documents matter for nothing but the content of
an operation. -/

namespace ApiScan.OpenApi

open Json

/-! ## Documents of path items -/

/-- An object of operations that reads back as it is written. -/
def IsPathItem (item : Json) : Prop :=
  ∃ fields, item = .object fields ∧ SettledFields fields
    ∧ ∀ field ∈ fields, ∃ operation, field.2 = .object operation

/-- Path items under paths, each path once. -/
structure PathItems (paths : Json.Fields) : Prop where
  nodup : (Assoc.keys paths).Nodup
  joined_name : ∀ field ∈ paths, Points.joined field.1 = field.1
  isPathItem : ∀ field ∈ paths, IsPathItem field.2

theorem IsPathItem.settled {item : Json} (h : IsPathItem item) : Settled item := by
  obtain ⟨fields, rfl, hfields, -⟩ := h
  exact settled_object hfields

theorem PathItems.settledFields {paths : Json.Fields} (h : PathItems paths) :
    SettledFields paths :=
  ⟨h.nodup, h.joined_name, fun field hf => (h.isPathItem field hf).settled⟩

theorem isPathItem_put {fields : Json.Fields} (h : SettledFields fields)
    (hoperations : ∀ field ∈ fields, ∃ operation, field.2 = .object operation) (method : Method)
    {operation : Json.Fields} (hoperation : Settled (.object operation)) :
    IsPathItem (.object (Assoc.put (Points.ofText method.key) (.object operation) fields)) := by
  refine ⟨_, rfl, h.put method.key hoperation, fun field hf => ?_⟩
  rcases Assoc.mem_alter hf with hm | rfl
  · exact hoperations field hm
  · exact ⟨operation, rfl⟩

theorem PathItems.putOperation {paths : Json.Fields} (h : PathItems paths) (path : Text)
    (method : Method) {operation : Json.Fields} (hoperation : Settled (.object operation)) :
    PathItems (putOperation path method (.object operation) paths) := by
  refine ⟨Assoc.nodup_keys_alter h.nodup, fun field hf => ?_, fun field hf => ?_⟩
  · rcases Assoc.mem_alter hf with hm | rfl
    · exact h.joined_name field hm
    · exact Points.joined_ofText path
  · rcases Assoc.mem_alter hf with hm | rfl
    · exact h.isPathItem field hm
    · cases hg : Assoc.get? (Points.ofText path) paths with
      | none =>
          exact isPathItem_put settledFields_nil (fun _ h => absurd h List.not_mem_nil) method
            hoperation
      | some item =>
          obtain ⟨fields, rfl, hfields, hops⟩ := h.isPathItem _ (Assoc.mem_of_get?_eq_some hg)
          exact isPathItem_put hfields hops method hoperation

theorem pathItems_pathsDocument (group : RouteGroup) (authorization : Authorization) :
    PathItems (pathsDocument group authorization) := by
  have hall (entries : List RouteEntry) (paths : Json.Fields) (h : PathItems paths) :
      PathItems (entries.foldl (fun paths entry =>
        OpenApi.putOperation (joinRoute group.base entry.path) entry.method
          (.object (operation group.tag authorization)) paths) paths) := by
    induction entries generalizing paths with
    | nil => exact h
    | cons entry more ih =>
        exact ih _ (h.putOperation _ _ (settled_operation group.tag authorization))
  exact hall group.entries []
    ⟨List.nodup_nil, fun _ h => absurd h List.not_mem_nil, fun _ h => absurd h List.not_mem_nil⟩

/-! ## Documented operations -/

/-- A path item, if there is one, has an operation for the method. -/
def HasOperation (item : Option Json) (method : Method) : Prop :=
  ∃ fields operation, item = some (.object fields)
    ∧ Assoc.get? (Points.ofText method.key) fields = some (.object operation)

/-- The method has an operation at the path. -/
def Documented (paths : Json.Fields) (path : Text) (method : Method) : Prop :=
  HasOperation (Assoc.get? (Points.ofText path) paths) method

theorem method_key_inj {m n : Method} : Points.ofText m.key = Points.ofText n.key ↔ m = n := by
  rw [Points.ofText_inj]
  constructor
  · intro h
    cases m <;> cases n <;> first | rfl | exact absurd h (by decide)
  · rintro rfl
    rfl

theorem hasOperation_object {fields : Json.Fields} {method : Method} :
    HasOperation (some (.object fields)) method ↔
      ∃ operation, Assoc.get? (Points.ofText method.key) fields = some (.object operation) := by
  constructor
  · rintro ⟨_, operation, he, h⟩
    obtain rfl := Json.object.inj (Option.some.inj he)
    exact ⟨operation, h⟩
  · rintro ⟨operation, h⟩
    exact ⟨fields, operation, rfl, h⟩

theorem not_hasOperation_none (method : Method) : ¬ HasOperation none method := by
  rintro ⟨_, _, he, _⟩
  exact nomatch he

theorem not_documented_nil (path : Text) (method : Method) : ¬ Documented [] path method :=
  not_hasOperation_none method

theorem hasOperation_fields {item : Option Json} {method : Method} :
    HasOperation (some (.object (item.getD (.object [])).fields)) method ↔
      HasOperation item method := by
  rcases item with _ | item
  · rw [hasOperation_object]
    exact ⟨fun ⟨_, h⟩ => (nomatch h), fun h => absurd h (not_hasOperation_none method)⟩
  · cases item with
    | object fields => exact Iff.rfl
    | _ =>
        rw [hasOperation_object]
        exact ⟨fun ⟨_, h⟩ => (nomatch h), fun ⟨_, _, he, _⟩ => (nomatch he)⟩

theorem hasOperation_put {fields operation : Json.Fields} {method method' : Method} :
    HasOperation (some (.object (Assoc.put (Points.ofText method.key) (.object operation) fields)))
        method' ↔
      method = method' ∨ HasOperation (some (.object fields)) method' := by
  rw [hasOperation_object, hasOperation_object, Assoc.get?_put]
  by_cases hm : method = method'
  · rw [if_pos (by simpa [method_key_inj] using hm)]
    exact ⟨fun _ => Or.inl hm, fun _ => ⟨operation, rfl⟩⟩
  · rw [if_neg (by simpa [method_key_inj] using hm)]
    exact ⟨Or.inr, fun h => h.resolve_left hm⟩

/-- An operation that is put somewhere is documented there, and nothing else changes. -/
theorem documented_putOperation {paths operation : Json.Fields} {path path' : Text}
    {method method' : Method} :
    Documented (putOperation path method (.object operation) paths) path' method' ↔
      (path = path' ∧ method = method') ∨ Documented paths path' method' := by
  unfold Documented putOperation
  rw [Assoc.get?_alter]
  by_cases hp : path = path'
  · subst hp
    rw [if_pos (beq_self_eq_true _), hasOperation_put, hasOperation_fields]
    exact or_congr_left (and_iff_right rfl).symm
  · rw [if_neg (by simpa [Points.ofText_inj] using hp)]
    exact ⟨Or.inr, fun h => h.resolve_left fun ⟨he, _⟩ => hp he⟩

/-- A group documents the operations of its entries. -/
theorem documented_pathsDocument {group : RouteGroup} {authorization : Authorization} {path : Text}
    {method : Method} :
    Documented (pathsDocument group authorization) path method ↔
      ∃ entry ∈ group.entries,
        joinRoute group.base entry.path = path ∧ entry.method = method := by
  have hall (entries : List RouteEntry) (paths : Json.Fields) :
      Documented (entries.foldl (fun paths entry =>
          putOperation (joinRoute group.base entry.path) entry.method
            (.object (operation group.tag authorization)) paths) paths) path method ↔
        (∃ entry ∈ entries, joinRoute group.base entry.path = path ∧ entry.method = method)
          ∨ Documented paths path method := by
    induction entries generalizing paths with
    | nil => simp
    | cons entry more ih =>
        rw [List.foldl_cons, ih, documented_putOperation, List.exists_mem_cons_iff, ← or_assoc]
        exact or_congr_left or_comm
  exact (hall group.entries []).trans (or_iff_left (not_documented_nil path method))

/-! ## Merging -/

theorem hasOperation_mergeItem {new : Json} (h : IsPathItem new) (old : Option Json)
    (method : Method) :
    HasOperation (some (mergeItem new old)) method ↔
      HasOperation (some new) method ∨ HasOperation old method := by
  obtain ⟨fields, rfl, hfields, hoperations⟩ := h
  rcases old with _ | old
  · exact (or_iff_left (not_hasOperation_none method)).symm
  · cases old with
    | object old =>
        show HasOperation (some (.object (Assoc.update old fields))) method ↔ _
        rw [hasOperation_object, hasOperation_object, hasOperation_object,
          Assoc.get?_update hfields.nodup]
        cases hg : Assoc.get? (Points.ofText method.key) fields with
        | none => exact ⟨Or.inr, fun h => h.resolve_left fun ⟨_, h⟩ => nomatch h⟩
        | some value =>
            obtain ⟨operation, rfl⟩ := hoperations _ (Assoc.mem_of_get?_eq_some hg)
            exact ⟨fun _ => Or.inl ⟨operation, rfl⟩, fun _ => ⟨operation, rfl⟩⟩
    | _ => exact (or_iff_left fun ⟨_, _, he, _⟩ => nomatch he).symm

/-- Merging path items loses no operation and makes up none. -/
theorem documented_mergePaths {target incoming : Json.Fields} (h : PathItems incoming)
    {path : Text} {method : Method} :
    Documented (mergePaths target incoming) path method ↔
      Documented target path method ∨ Documented incoming path method := by
  have hall (items : Json.Fields) (hitems : ∀ field ∈ items, IsPathItem field.2)
      (paths : Json.Fields) :
      Documented (mergePaths paths items) path method ↔
        Documented paths path method
          ∨ ∃ item, (Points.ofText path, item) ∈ items ∧ HasOperation (some item) method := by
    induction items generalizing paths with
    | nil => simp [mergePaths]
    | cons field more ih =>
        obtain ⟨name, item⟩ := field
        have hitem := hitems (name, item) List.mem_cons_self
        show Documented (mergePaths (Assoc.alter name (mergeItem item) paths) more) path method ↔ _
        rw [ih fun field hf => hitems field (List.mem_cons_of_mem _ hf), Documented,
          Assoc.get?_alter]
        by_cases hp : name = Points.ofText path
        · subst hp
          rw [if_pos (beq_self_eq_true _), hasOperation_mergeItem hitem, Documented]
          simp only [List.mem_cons, Prod.mk.injEq, true_and, or_and_right, exists_or,
            exists_eq_left]
          rw [or_comm (a := HasOperation (some item) method), or_assoc]
        · rw [if_neg (by simpa using hp), Documented]
          simp only [List.mem_cons, Prod.mk.injEq, Ne.symm hp, false_and, false_or]
  rw [hall incoming h.isPathItem]
  refine or_congr_right ⟨?_, ?_⟩
  · rintro ⟨item, hm, hi⟩
    rw [Documented, (Assoc.get?_eq_some_iff_mem h.nodup).2 hm]
    exact hi
  · rintro ⟨fields, operation, he, ho⟩
    exact ⟨_, Assoc.mem_of_get?_eq_some he, fields, operation, rfl, ho⟩

/-- Of documents merged in order, every operation of each is kept. -/
theorem documented_foldl_mergePaths {documents : List Json.Fields}
    (h : ∀ document ∈ documents, PathItems document) {path : Text} {method : Method} :
    Documented (documents.foldl mergePaths []) path method ↔
      ∃ document ∈ documents, Documented document path method := by
  have hall (target : Json.Fields) :
      Documented (documents.foldl mergePaths target) path method ↔
        Documented target path method ∨ ∃ document ∈ documents, Documented document path method := by
    induction documents generalizing target with
    | nil => simp
    | cons document more ih =>
        rw [List.foldl_cons, ih fun d hd => h d (List.mem_cons_of_mem _ hd),
          documented_mergePaths (h document List.mem_cons_self), List.exists_mem_cons_iff, or_assoc]
  exact (hall []).trans (or_iff_right (not_documented_nil path method))

end ApiScan.OpenApi
