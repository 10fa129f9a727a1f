import ApiScan.Proofs.Assoc
import ApiScan.Route.FileRoute

set_option autoImplicit false

/-! # Groups of file routes

A file that has a tag and handles requests gives five entries. The entries are collected under the
tags while the files are gone through, so that the files of a tag may stand anywhere among the
others: there is one group for each tag, at the place of the first of its files, and it holds the
entries of all of them and no others. -/

namespace ApiScan.FileRoute

variable {files : List Text} {lookup : Text → Option Text}

/-! ## Files that give entries -/

/-- Whether a file gives entries: it has a tag, and its text is there and handles requests. -/
def qualifies (lookup : Text → Option Text) (file : Text) : Bool :=
  !(tag file).isEmpty && (lookup file).any isHandler

/-- The entries of a file that gives some. -/
def served (file : Text) : List RouteEntry :=
  [.get, .post, .put, .patch, .delete].map fun method => ⟨method, path file⟩

theorem found_entriesOf (lookup : Text → Option Text) (file : Text) :
    (entriesOf lookup file).found = if qualifies lookup file then [(tag file, served file)] else [] := by
  unfold entriesOf qualifies
  cases (tag file).isEmpty with
  | true => rfl
  | false =>
      cases lookup file with
      | none => rfl
      | some text => cases hhandler : isHandler text <;> simp [hhandler, served, methods]

theorem found_join_entriesOf (files : List Text) (lookup : Text → Option Text) :
    (Findings.join (files.map (entriesOf lookup))).found
      = (files.filter (qualifies lookup)).map fun file => (tag file, served file) := by
  show (files.map (entriesOf lookup)).flatMap Findings.found = _
  induction files with
  | nil => rfl
  | cons file files ih =>
      rw [List.map_cons, List.flatMap_cons, ih, found_entriesOf, List.filter_cons]
      cases qualifies lookup file <;> rfl

/-! ## Entries under their tags -/

variable {parts groups : List (Text × List RouteEntry)}

theorem keys_grouped (parts : List (Text × List RouteEntry)) :
    Assoc.keys (grouped parts) = (parts.map Prod.fst).eraseDups := by
  have hnil : (Assoc.keys ([] : List (Text × List RouteEntry))).Nodup := List.nodup_nil
  exact Assoc.keys_foldl_alter parts hnil

theorem nodup_keys_grouped (parts : List (Text × List RouteEntry)) :
    (Assoc.keys (grouped parts)).Nodup :=
  Assoc.nodup_keys_foldl_alter parts

/-- What is collected under a tag is one list after another. -/
theorem getD_foldl_append (parts : List (Text × List RouteEntry)) (old : Option (List RouteEntry)) :
    (parts.foldl (fun old part => some (old.getD [] ++ part.2)) old).getD []
      = old.getD [] ++ parts.flatMap Prod.snd := by
  induction parts generalizing old with
  | nil => exact (List.append_nil _).symm
  | cons part parts ih =>
      rw [List.foldl_cons, ih, List.flatMap_cons, ← List.append_assoc]
      rfl

/-- **A tag has the entries that came in under it**, in their order. -/
theorem entries_of_mem_grouped {group : Text × List RouteEntry} (h : group ∈ grouped parts) :
    group.2 = (parts.filter fun part => part.1 = group.1).flatMap Prod.snd := by
  have hget := (Assoc.get?_eq_some_iff_mem (nodup_keys_grouped parts)).2 h
  unfold grouped at hget
  rw [Assoc.get?_foldl_alter] at hget
  have hentries := getD_foldl_append (parts.filter fun part => part.1 == group.1) none
  have hnone : Assoc.get? group.1 ([] : List (Text × List RouteEntry)) = none := rfl
  rw [hnone] at hget
  simp only [hget, Option.getD_some, Option.getD_none, List.nil_append] at hentries
  rw [hentries]
  exact congrArg (List.flatMap Prod.snd) (List.filter_congr fun part _ => beq_eq_decide _ _)

theorem grouped_eq (parts : List (Text × List RouteEntry)) :
    grouped parts = (parts.map Prod.fst).eraseDups.map fun tag =>
      (tag, (parts.filter fun part => part.1 = tag).flatMap Prod.snd) := by
  rw [← keys_grouped, Assoc.keys, List.map_map]
  refine (List.map_id _).symm.trans (List.map_congr_left fun group hgroup => ?_)
  exact Prod.ext rfl (entries_of_mem_grouped hgroup)

/-! ## How many entries there are -/

/-- How many entries some groups have. -/
def entryCount (groups : List (Text × List RouteEntry)) : Nat :=
  (groups.flatMap Prod.snd).length

theorem entryCount_cons (group : Text × List RouteEntry) (groups : List (Text × List RouteEntry)) :
    entryCount (group :: groups) = group.2.length + entryCount groups := by
  rw [entryCount, List.flatMap_cons, List.length_append, entryCount]

/-- Entries that come in are added to those that are there. -/
theorem entryCount_alter (tag : Text) (entries : List RouteEntry)
    (groups : List (Text × List RouteEntry)) :
    entryCount (Assoc.alter tag (fun old => old.getD [] ++ entries) groups)
      = entryCount groups + entries.length := by
  induction groups with
  | nil => simp [Assoc.alter, entryCount]
  | cons group groups ih =>
      obtain ⟨key, old⟩ := group
      rw [Assoc.alter]
      split
      · simp only [entryCount_cons, Option.getD_some, List.length_append]
        omega
      · simp only [entryCount_cons, ih]
        omega

/-- **No entry is lost or doubled.** -/
theorem entryCount_grouped (parts : List (Text × List RouteEntry)) :
    entryCount (grouped parts) = entryCount parts := by
  have hall (groups : List (Text × List RouteEntry)) :
      entryCount (parts.foldl (fun groups part =>
        Assoc.alter part.1 (fun old => old.getD [] ++ part.2) groups) groups)
      = entryCount groups + entryCount parts := by
    induction parts generalizing groups with
    | nil => rfl
    | cons part parts ih =>
        rw [List.foldl_cons, ih, entryCount_alter, Nat.add_assoc, ← entryCount_cons]
  exact (hall []).trans (Nat.zero_add _)

/-! ## Groups of files -/

theorem found_extract (files : List Text) (lookup : Text → Option Text) :
    (extract files lookup).found
      = ((files.filter (qualifies lookup)).map tag).eraseDups.map fun name =>
          ⟨name, name, [],
            ((files.filter (qualifies lookup)).filter fun file => tag file = name).flatMap served⟩ := by
  show (grouped (Findings.join (files.map (entriesOf lookup))).found).map _ = _
  rw [found_join_entriesOf, grouped_eq, List.map_map, List.map_map]
  refine List.map_congr_left fun name _ => ?_
  rw [Function.comp_apply, List.filter_map, List.flatMap_map]
  rfl

theorem tags_extract (files : List Text) (lookup : Text → Option Text) :
    (extract files lookup).found.map RouteGroup.tag
      = ((files.filter (qualifies lookup)).map tag).eraseDups := by
  rw [found_extract, List.map_map]
  exact List.map_id _

theorem nodup_tags_extract (files : List Text) (lookup : Text → Option Text) :
    ((extract files lookup).found.map RouteGroup.tag).Nodup := by
  have hkeys := nodup_keys_grouped (Findings.join (files.map (entriesOf lookup))).found
  rw [Assoc.keys, ← List.map_id (List.map Prod.fst _)] at hkeys
  show ((grouped _).map _ |>.map RouteGroup.tag).Nodup
  rw [List.map_map]
  rwa [List.map_map] at hkeys

theorem length_entries_extract (files : List Text) (lookup : Text → Option Text) :
    ((extract files lookup).found.flatMap RouteGroup.entries).length
      = 5 * (files.filter (qualifies lookup)).length := by
  have hcount : ((extract files lookup).found.flatMap RouteGroup.entries).length
      = entryCount (grouped (Findings.join (files.map (entriesOf lookup))).found) := by
    unfold extract entryCount
    rw [List.flatMap_map]
  rw [hcount, entryCount_grouped, found_join_entriesOf]
  induction files.filter (qualifies lookup) with
  | nil => rfl
  | cons file files ih =>
      rw [List.map_cons, entryCount_cons, ih, List.length_cons, Nat.mul_succ, Nat.add_comm]
      rfl

/-- Where the files of each tag are the same, in the same order, the groups are. -/
theorem perm_extract {other : List Text}
    (h : ∀ name, (other.filter fun file => tag file = name) = files.filter fun file => tag file = name) :
    (extract other lookup).found.Perm (extract files lookup).found := by
  -- the files of a tag stay the same when those that give no entries are left out
  have hsame (name : Text) :
      ((other.filter (qualifies lookup)).filter fun file => tag file = name)
        = (files.filter (qualifies lookup)).filter fun file => tag file = name := by
    rw [List.filter_comm, h name, List.filter_comm]
  have hmem (name : Text) : name ∈ (other.filter (qualifies lookup)).map tag
      ↔ name ∈ (files.filter (qualifies lookup)).map tag := by
    have hiff (list : List Text) :
        name ∈ list.map tag ↔ (list.filter fun file => tag file = name) ≠ [] := by
      rw [List.mem_map, Ne, List.filter_eq_nil_iff]
      simp
    rw [hiff, hiff, hsame]
  have htags : ((other.filter (qualifies lookup)).map tag).eraseDups.Perm
      ((files.filter (qualifies lookup)).map tag).eraseDups := by
    refine (List.perm_ext_iff_of_nodup ?_ ?_).2 fun name => ?_
    · exact tags_extract other lookup ▸ nodup_tags_extract other lookup
    · exact tags_extract files lookup ▸ nodup_tags_extract files lookup
    · rw [List.mem_eraseDups, List.mem_eraseDups]
      exact hmem name
  rw [found_extract, found_extract]
  simp only [hsame]
  exact htags.map _

/-- Neighbours of different tags may change places. -/
theorem filter_tag_swap {first second : Text} (h : tag first ≠ tag second) (before rest : List Text)
    (name : Text) :
    ((before ++ second :: first :: rest).filter fun file => tag file = name)
      = (before ++ first :: second :: rest).filter fun file => tag file = name := by
  rw [List.filter_append, List.filter_append]
  by_cases hname : tag first = name
  · have hother : ¬ tag second = name := fun he => h (hname.trans he.symm)
    simp [hname, hother]
  · simp [List.filter_cons, hname]

/-- **File routes are grouped by their tags.** There is one group for each tag, in the order of the
    first files that give entries, and it holds the entries of all files of its tag, in their order.
    Each file that qualifies gives five entries and no other file gives any. Files that have
    different tags may change places: the same groups come out, in another order at most. -/
theorem extract_groups_by_tag (files : List Text) (lookup : Text → Option Text) :
    ((extract files lookup).found.map RouteGroup.tag).Nodup
      ∧ (extract files lookup).found
        = ((files.filter (qualifies lookup)).map tag).eraseDups.map (fun name =>
            ⟨name, name, [],
              ((files.filter (qualifies lookup)).filter fun file => tag file = name).flatMap served⟩)
      ∧ ((extract files lookup).found.flatMap RouteGroup.entries).length
        = 5 * (files.filter (qualifies lookup)).length
      ∧ ∀ other : List Text,
          (∀ name, (other.filter fun file => tag file = name)
            = files.filter fun file => tag file = name) →
          (extract other lookup).found.Perm (extract files lookup).found :=
  ⟨nodup_tags_extract files lookup, found_extract files lookup,
    length_entries_extract files lookup, fun _ h => perm_extract h⟩

/-- The texts of three files of two tags, and of one that handles nothing. -/
def shopTexts : List (Text × Text) :=
  [("users/index.ts", "export default (req, res) => res.json([])"),
    ("posts\\[...slug].js", "module.exports = (req, res) => res.send('')"),
    ("users/db.ts", "export const db = connect()"),
    ("./users/[id].ts", "export default (req, res) => res.status(404)")].map
    fun (file, text) => (file.toList, text.toList)

/-- The files of a tag may stand apart, and a file of another tag may come first. -/
theorem extract_shopTexts_perm :
    (extract (shopTexts.map Prod.fst) (Assoc.get? · shopTexts)).found.map
        (fun group => (group.tag, group.entries.length))
      = [("users".toList, 10), ("posts".toList, 5)]
      ∧ (extract (["posts\\[...slug].js", "users/index.ts", "users/db.ts", "./users/[id].ts"].map
          String.toList) (Assoc.get? · shopTexts)).found.Perm
        (extract (shopTexts.map Prod.fst) (Assoc.get? · shopTexts)).found := by
  obtain ⟨-, hfound, -, hperm⟩ :=
    extract_groups_by_tag (shopTexts.map Prod.fst) (Assoc.get? · shopTexts)
  refine ⟨by rw [hfound]; decide +kernel, hperm _ fun name => ?_⟩
  exact filter_tag_swap (by decide +kernel) [] _ name

end ApiScan.FileRoute
