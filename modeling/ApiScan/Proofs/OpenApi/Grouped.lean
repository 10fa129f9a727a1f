import ApiScan.Proofs.OpenApi.Merged
import ApiScan.Text.Letter

set_option autoImplicit false

/-! # The operations of a group

The entries of a group are put into a document one after another, and several of them may be served
at one path. The document has one path item for each path and, in it, one operation for each method
that is served there, both in the order in which they first came in; every operation is the one of
the group, which requires the scheme that the whole document declares. -/

namespace ApiScan.OpenApi

variable {group : RouteGroup} {authorization : Authorization} {path method : Points}

/-! ## Entries under their paths -/

/-- The path item that some entries at one path give. -/
def itemFields (operation : Json) (entries : List RouteEntry) : Json.Fields :=
  entries.foldl (fun fields entry => Assoc.put (Points.ofText entry.method.key) operation fields) []

/-- The entries of a group that are served at a path. -/
def servedAt (group : RouteGroup) (path : Points) : List RouteEntry :=
  group.entries.filter fun entry => Points.ofText (joinRoute group.base entry.path) == path

theorem mem_servedAt {entry : RouteEntry} :
    entry ∈ servedAt group path ↔
      entry ∈ group.entries ∧ Points.ofText (joinRoute group.base entry.path) = path := by
  rw [servedAt, List.mem_filter, beq_iff_eq]

theorem keys_pathsDocument (group : RouteGroup) (authorization : Authorization) :
    Assoc.keys (pathsDocument group authorization)
      = (group.entries.map fun entry => Points.ofText (joinRoute group.base entry.path)).eraseDups := by
  have hnil : (Assoc.keys ([] : Json.Fields)).Nodup := List.nodup_nil
  exact Assoc.keys_foldl_alter group.entries hnil

theorem nodup_keys_pathsDocument (group : RouteGroup) (authorization : Authorization) :
    (Assoc.keys (pathsDocument group authorization)).Nodup :=
  Assoc.nodup_keys_foldl_alter group.entries

/-- What entries at one path add to the item that stands there. -/
theorem foldl_putMethod (operation : Json) (entries : List RouteEntry) (fields : Json.Fields) :
    entries.foldl (fun (old : Option Json) entry => some (.object (Assoc.put
        (Points.ofText entry.method.key) operation (old.getD (.object [])).fields)))
        (some (.object fields))
      = some (.object (entries.foldl (fun fields entry =>
          Assoc.put (Points.ofText entry.method.key) operation fields) fields)) := by
  induction entries generalizing fields with
  | nil => rfl
  | cons entry entries ih => exact ih _

/-- A path at which something is served has the item of the entries that are served there. -/
theorem get?_pathsDocument (group : RouteGroup) (authorization : Authorization) (path : Points) :
    Assoc.get? path (pathsDocument group authorization)
      = if servedAt group path = [] then none
        else some (.object (itemFields (.object (operation group.tag authorization))
          (servedAt group path))) := by
  have hfold : Assoc.get? path (pathsDocument group authorization)
      = (servedAt group path).foldl (fun (old : Option Json) entry => some (.object (Assoc.put
          (Points.ofText entry.method.key) (.object (operation group.tag authorization))
          (old.getD (.object [])).fields))) none := Assoc.get?_foldl_alter
  rw [hfold]
  cases servedAt group path with
  | nil => rfl
  | cons entry entries => exact foldl_putMethod _ entries _

/-! ## Operations -/

theorem keys_itemFields (operation : Json) (entries : List RouteEntry) :
    Assoc.keys (itemFields operation entries)
      = (entries.map fun entry => Points.ofText entry.method.key).eraseDups := by
  have hnil : (Assoc.keys ([] : Json.Fields)).Nodup := List.nodup_nil
  exact Assoc.keys_foldl_alter entries hnil

theorem nodup_keys_itemFields (operation : Json) (entries : List RouteEntry) :
    (Assoc.keys (itemFields operation entries)).Nodup :=
  Assoc.nodup_keys_foldl_alter entries

theorem get?_itemFields {operation value : Json} {entries : List RouteEntry} :
    Assoc.get? method (itemFields operation entries) = some value ↔
      value = operation ∧ ∃ entry ∈ entries, Points.ofText entry.method.key = method := by
  by_cases h : ∃ entry ∈ entries, Points.ofText entry.method.key = method
  · rw [itemFields, Assoc.get?_foldl_put_of_exists h, Option.some_inj, eq_comm]
    exact (and_iff_left h).symm
  · have hne : ∀ entry ∈ entries, Points.ofText entry.method.key ≠ method :=
      fun entry hentry he => h ⟨entry, hentry, he⟩
    rw [itemFields, Assoc.get?_foldl_put_of_forall_ne hne]
    exact iff_of_false nofun fun hvalue => h hvalue.2

/-- The key of a method is its name in lower case. -/
theorem key_eq_lower_name (method : Method) : method.key = Text.lower method.name := by
  cases method <;> rfl

theorem operationAt?_pathsDocument {op : Json} :
    operationAt? path method (pathsDocument group authorization) = some op ↔
      op = .object (operation group.tag authorization)
        ∧ ∃ entry ∈ group.entries, Points.ofText (joinRoute group.base entry.path) = path
          ∧ Points.ofText entry.method.key = method := by
  have hitem : operationAt? path method (pathsDocument group authorization)
      = Assoc.get? method (itemFields (.object (operation group.tag authorization))
          (servedAt group path)) := by
    unfold operationAt?
    rw [get?_pathsDocument]
    split
    · next h =>
        rw [h]
        rfl
    · rfl
  rw [hitem, get?_itemFields]
  simp only [mem_servedAt, and_assoc]

/-! ## What an operation requires -/

/-- The security schemes that a document declares. -/
def declaredSchemes? (doc : Json.Fields) : Option Json :=
  ((Json.object doc).field? "components".toList).bind (Json.field? "securitySchemes".toList)

theorem tags_operation (tag : Text) (authorization : Authorization) :
    (Json.object (operation tag authorization)).field? "tags".toList = some (.list [.str tag]) := by
  cases authorization <;> rfl

theorem requires_operation_iff (tag : Text) (authorization : Authorization) :
    ((Json.object (operation tag authorization)).field? "security".toList).isSome = true ↔
      authorization = .bearer ∨ authorization = .basic := by
  cases authorization with
  | bearer => exact iff_of_true rfl (Or.inl rfl)
  | basic => exact iff_of_true rfl (Or.inr rfl)
  | none => exact iff_of_false (Bool.false_ne_true) (by decide)

/-- An operation requires the one scheme that the whole document declares. -/
theorem required_of_operation {tag : Text} {requirement : Json}
    (h : (Json.object (operation tag authorization)).field? "security".toList = some requirement)
    {config : Config} (hconfig : config.authorization = authorization) (schemas paths : Json.Fields) :
    ∃ name scheme, declaredSchemes? (document config schemas paths) = some (.object [(name, scheme)])
      ∧ requirement = .list [.object [(name, .list [])]] := by
  subst hconfig
  unfold document
  cases hauthorization : config.authorization with
  | none =>
      rw [hauthorization] at h
      exact nomatch h
  | bearer =>
      rw [hauthorization] at h
      exact ⟨_, _, rfl, (Option.some.inj h).symm⟩
  | basic =>
      rw [hauthorization] at h
      exact ⟨_, _, rfl, (Option.some.inj h).symm⟩

/-! ## The document of a group -/

/-- **The document of a group has an operation for each of its entries and no others.** Paths and,
    at each path, methods stand in the order in which they first came in, each once; every operation
    has the tag of the group, and requires a scheme exactly if requests are authorized, which is the
    scheme that the whole document declares. -/
theorem operations_of_pathsDocument (group : RouteGroup) (authorization : Authorization) :
    (∀ path method, (operationAt? path method (pathsDocument group authorization)).isSome = true ↔
      ∃ entry ∈ group.entries, Points.ofText (joinRoute group.base entry.path) = path
        ∧ Points.ofText (Text.lower entry.method.name) = method)
    ∧ Assoc.keys (pathsDocument group authorization)
      = (group.entries.map fun entry => Points.ofText (joinRoute group.base entry.path)).eraseDups
    ∧ (Assoc.keys (pathsDocument group authorization)).Nodup
    ∧ (∀ path item, (path, item) ∈ pathsDocument group authorization →
      item.isObject = true
        ∧ Assoc.keys item.fields
          = ((group.entries.filter fun entry =>
              Points.ofText (joinRoute group.base entry.path) == path).map fun entry =>
                Points.ofText (Text.lower entry.method.name)).eraseDups
        ∧ (Assoc.keys item.fields).Nodup)
    ∧ ∀ path method op, operationAt? path method (pathsDocument group authorization) = some op →
      op = .object (operation group.tag authorization)
        ∧ op.field? "tags".toList = some (.list [.str group.tag])
        ∧ ((op.field? "security".toList).isSome = true ↔
          authorization = .bearer ∨ authorization = .basic)
        ∧ ∀ requirement, op.field? "security".toList = some requirement →
          ∀ config : Config, config.authorization = authorization → ∀ schemas paths,
            ∃ name scheme,
              declaredSchemes? (document config schemas paths) = some (.object [(name, scheme)])
                ∧ requirement = .list [.object [(name, .list [])]] := by
  refine ⟨fun path method => ?_, keys_pathsDocument group authorization,
    nodup_keys_pathsDocument group authorization, fun path item hitem => ?_,
    fun path method op hop => ?_⟩
  · rw [Option.isSome_iff_exists]
    simp only [operationAt?_pathsDocument, exists_eq_left, key_eq_lower_name]
  · have hget := (Assoc.get?_eq_some_iff_mem (nodup_keys_pathsDocument group authorization)).2 hitem
    rw [get?_pathsDocument] at hget
    split at hget
    · exact nomatch hget
    · obtain rfl := Option.some.inj hget
      simp only [← key_eq_lower_name]
      exact ⟨rfl, keys_itemFields _ (servedAt group path), nodup_keys_itemFields _ _⟩
  · obtain ⟨rfl, -⟩ := operationAt?_pathsDocument.1 hop
    exact ⟨rfl, tags_operation _ _, requires_operation_iff _ _,
      fun requirement h config hconfig => required_of_operation h hconfig⟩

/-- Routes of which the first, the third and the last are served at one path. -/
def articles : RouteGroup where
  tag := "ARTICLES".toList
  source := "articles".toList
  base := "/articles/".toList
  entries := [⟨.get, "/latest".toList⟩, ⟨.delete, "/".toList⟩, ⟨.post, " latest".toList⟩,
    ⟨.get, "//latest ".toList⟩]

/-- What the entries at one path give is listed once, under the tag and the scheme of the group. -/
theorem articles_grouped :
    Assoc.keys (pathsDocument articles .bearer)
        = [Points.ofText "/articles/latest".toList, Points.ofText "/articles".toList]
      ∧ ∃ item, (Points.ofText "/articles/latest".toList, item) ∈ pathsDocument articles .bearer
        ∧ Assoc.keys item.fields = [Points.ofText "get".toList, Points.ofText "post".toList]
        ∧ ∃ op, Assoc.get? (Points.ofText "post".toList) item.fields = some op
          ∧ op.field? "tags".toList = some (.list [.ofString "ARTICLES"])
          ∧ ∀ config : Config, config.authorization = .bearer →
            ∃ scheme, declaredSchemes? (document config [] (pathsDocument articles .bearer))
                = some (.object [(Points.ofText "bearerAuth".toList, scheme)])
              ∧ op.field? "security".toList
                = some (.list [.object [(Points.ofText "bearerAuth".toList, .list [])]]) := by
  obtain ⟨-, hpaths, -, hitems, hoperations⟩ := operations_of_pathsDocument articles .bearer
  have hmem : (Points.ofText "/articles/latest".toList, _) ∈ pathsDocument articles .bearer :=
    List.mem_cons_self
  obtain ⟨-, hmethods, -⟩ := hitems _ _ hmem
  obtain ⟨-, htags, -, hrequired⟩ := hoperations (Points.ofText "/articles/latest".toList)
    (Points.ofText "post".toList) _ rfl
  refine ⟨hpaths, _, hmem, hmethods, _, rfl, htags, fun config hconfig => ?_⟩
  obtain ⟨name, scheme, hdeclared, hrequirement⟩ := hrequired _ rfl config hconfig [] _
  have hname := (List.cons.inj (Json.object.inj (List.cons.inj (Json.list.inj hrequirement)).1)).1
  obtain rfl := (Prod.mk.inj hname).1
  exact ⟨scheme, hdeclared, rfl⟩

end ApiScan.OpenApi
