import ApiScan.OpenApi.Document
import ApiScan.Proofs.Assoc

set_option autoImplicit false

/-! # Merged path items

Path items are merged document by document and method by method. Under each path and method stands
what the last document says that has the two, and paths stand in the order in which they first came
in. -/

namespace ApiScan.OpenApi

variable {target incoming : Json.Fields} {documents : List Json.Fields} {path method : Points}

/-- What path items hold under a path and a method. -/
def operationAt? (path method : Points) (paths : Json.Fields) : Option Json :=
  (Assoc.get? path paths).bind fun item => Assoc.get? method item.fields

/-- Path items that are objects. -/
def Items (paths : Json.Fields) : Prop := ∀ entry ∈ paths, entry.2.isObject = true

/-- Path items that are objects, with each path once and each method once. -/
structure DistinctItems (paths : Json.Fields) : Prop where
  items : Items paths
  nodup : (Assoc.keys paths).Nodup
  nodup_methods : ∀ entry ∈ paths, (Assoc.keys entry.2.fields).Nodup

theorem items_nil : Items [] := fun _ h => absurd h List.not_mem_nil

theorem exists_fields {item : Json} (h : item.isObject = true) : ∃ fields, item = .object fields := by
  cases item with
  | object fields => exact ⟨fields, rfl⟩
  | _ => exact nomatch h

/-! ## Two documents -/

theorem mergePaths_eq (target incoming : Json.Fields) :
    mergePaths target incoming
      = incoming.foldl (fun paths entry => Assoc.alter entry.1 (mergeItem entry.2) paths) target :=
  rfl

theorem isObject_mergeItem {item : Json} (h : item.isObject = true) (old : Option Json) :
    (mergeItem item old).isObject = true := by
  obtain ⟨fields, rfl⟩ := exists_fields h
  unfold mergeItem
  split <;> rfl

theorem Items.mergePaths (htarget : Items target) (hincoming : Items incoming) :
    Items (mergePaths target incoming) := by
  induction incoming generalizing target with
  | nil => exact htarget
  | cons entry more ih =>
      rw [Items, List.forall_mem_cons] at hincoming
      refine ih (fun changed hm => ?_) hincoming.2
      rcases Assoc.mem_alter hm with hm | rfl
      · exact htarget changed hm
      · exact isObject_mergeItem hincoming.1 _

/-- The item of a path is merged into the one that stands there. -/
theorem get?_mergePaths (h : (Assoc.keys incoming).Nodup) :
    Assoc.get? path (mergePaths target incoming)
      = match Assoc.get? path incoming with
        | some item => some (mergeItem item (Assoc.get? path target))
        | none => Assoc.get? path target := by
  rw [mergePaths_eq, Assoc.get?_foldl_alter, Assoc.filter_key_eq_get? h]
  cases Assoc.get? path incoming <;> rfl

/-- What comes in stands where it came in, and everything else stays. -/
theorem operationAt?_mergePaths (htarget : Items target) (h : DistinctItems incoming) :
    operationAt? path method (mergePaths target incoming)
      = (operationAt? path method incoming).or (operationAt? path method target) := by
  unfold operationAt?
  rw [get?_mergePaths h.nodup]
  cases hnew : Assoc.get? path incoming with
  | none => rfl
  | some item =>
      have hmem := Assoc.mem_of_get?_eq_some hnew
      obtain ⟨fields, rfl⟩ := exists_fields (h.items _ hmem)
      cases hold : Assoc.get? path target with
      | none => exact (Option.or_none).symm
      | some old =>
          obtain ⟨before, rfl⟩ := exists_fields (htarget _ (Assoc.mem_of_get?_eq_some hold))
          exact Assoc.get?_update (h.nodup_methods _ hmem)

/-! ## Many documents -/

theorem foldl_mergePaths (target : Json.Fields) :
    documents.foldl mergePaths target
      = documents.flatten.foldl (fun paths entry => Assoc.alter entry.1 (mergeItem entry.2) paths)
          target := by
  rw [List.foldl_flatten]
  rfl

/-- **Under a path and a method stands what the last document says that has the two.** -/
theorem operationAt?_foldl_mergePaths (h : ∀ document ∈ documents, DistinctItems document) :
    operationAt? path method (documents.foldl mergePaths [])
      = documents.reverse.findSome? (operationAt? path method) := by
  have hall (target : Json.Fields) (htarget : Items target) :
      operationAt? path method (documents.foldl mergePaths target)
        = (documents.reverse.findSome? (operationAt? path method)).or
            (operationAt? path method target) := by
    induction documents generalizing target with
    | nil => rfl
    | cons document more ih =>
        rw [List.forall_mem_cons] at h
        rw [List.foldl_cons, ih h.2 _ (htarget.mergePaths h.1.items),
          operationAt?_mergePaths htarget h.1, List.reverse_cons, List.findSome?_append,
          Option.or_assoc]
        congr 1
        rw [List.findSome?_singleton]
  rw [hall [] items_nil]
  exact Option.or_none

/-- The paths of merged documents stand in the order in which they first came in. -/
theorem keys_foldl_mergePaths :
    Assoc.keys (documents.foldl mergePaths []) = (documents.flatMap Assoc.keys).eraseDups := by
  have hnil : (Assoc.keys ([] : Json.Fields)).Nodup := List.nodup_nil
  rw [foldl_mergePaths, Assoc.keys_foldl_alter _ hnil, List.map_flatten, List.flatMap_def]
  rfl

end ApiScan.OpenApi
