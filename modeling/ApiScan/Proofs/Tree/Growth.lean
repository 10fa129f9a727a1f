import ApiScan.Proofs.Assoc
import ApiScan.Proofs.Tree.Access

set_option autoImplicit false

/-! # Trees that grow

Work that writes new files and makes new folders lets a tree grow: nothing goes away, and what comes
in stands at places of a known kind. What a tree grows by is seen in listings as names at their
ends. -/

namespace ApiScan.Tree

variable {tree tree' tree'' : Tree} {place folder : Place} {entry : Entry}
  {kind kind' : Place → Entry → Prop}

/-- An entry can be put at a place: nothing is there yet, or a file takes the place of a file. -/
def Takes (tree : Tree) (place : Place) (entry : Entry) : Prop :=
  tree.entry? place = none
    ∨ ∃ old content, tree.entry? place = some (.file old) ∧ entry = .file content

/-- One tree becomes another by entries of a kind that are put one after another. -/
inductive Grows (kind : Place → Entry → Prop) (tree : Tree) : Tree → Prop
  | refl : Grows kind tree tree
  | put {tree' : Tree} {place : Place} {entry : Entry} (h : Grows kind tree tree')
      (hne : place ≠ []) (hkind : kind place entry) (htakes : Takes tree' place entry) :
      Grows kind tree (tree'.put place entry)

theorem takes_file (content : Bytes) (h : tree.entry? place ≠ some .folder) :
    Takes tree place (.file content) := by
  cases he : tree.entry? place with
  | none => exact Or.inl he
  | some old =>
      cases old with
      | folder => exact absurd he h
      | file old => exact Or.inr ⟨old, content, he, rfl⟩

theorem grows_put (hne : place ≠ []) (hkind : kind place entry) (htakes : Takes tree place entry) :
    Grows kind tree (tree.put place entry) := Grows.refl.put hne hkind htakes

theorem Grows.trans (h : Grows kind tree tree') (h' : Grows kind tree' tree'') :
    Grows kind tree tree'' := by
  induction h' with
  | refl => exact h
  | put _ hne hkind htakes ih => exact ih.put hne hkind htakes

theorem Grows.mono (h : Grows kind tree tree') (hkind : ∀ place entry, kind place entry →
    kind' place entry) : Grows kind' tree tree' := by
  induction h with
  | refl => exact Grows.refl
  | put _ hne hplace htakes ih => exact ih.put hne (hkind _ _ hplace) htakes

/-! ## Entries -/

theorem Grows.keepsFolders (h : Grows kind tree tree') : KeepsFolders tree tree' := by
  induction h with
  | refl => exact fun _ hp => hp
  | put _ hne _ htakes ih =>
      refine ih.trans (keepsFolders_put hne (fun hfolder => ?_) _)
      rcases htakes with hnone | ⟨old, content, hold, -⟩
      · exact nomatch hnone.symm.trans hfolder
      · exact nomatch hold.symm.trans hfolder

/-- What stands in a grown tree stood there before or is of the kind. -/
theorem Grows.entry?_cases (h : Grows kind tree tree') (he : tree'.entry? place = some entry) :
    tree.entry? place = some entry ∨ kind place entry := by
  induction h with
  | refl => exact Or.inl he
  | put _ hne hkind _ ih =>
      rw [entry?_put hne] at he
      split at he
      · next hplace =>
          subst hplace
          exact Or.inr (Option.some.inj he ▸ hkind)
      · exact ih he

theorem Grows.entry?_eq (h : Grows kind tree tree') (hnot : ∀ entry, ¬ kind place entry) :
    tree'.entry? place = tree.entry? place := by
  induction h with
  | refl => rfl
  | put _ hne hkind _ ih =>
      rw [entry?_put hne, if_neg, ih]
      rintro rfl
      exact hnot _ hkind

/-- Nothing goes away. -/
theorem Grows.isSome_entry? (h : Grows kind tree tree') (hp : (tree.entry? place).isSome) :
    (tree'.entry? place).isSome := by
  induction h with
  | refl => exact hp
  | put _ hne _ _ ih =>
      rw [entry?_put hne]
      split
      · rfl
      · exact ih

theorem Grows.entry?_eq_none (h : Grows kind tree tree') (hp : tree'.entry? place = none) :
    tree.entry? place = none := by
  rw [← Option.not_isSome_iff_eq_none] at hp ⊢
  exact fun hsome => hp (h.isSome_entry? hsome)

/-- What is there stays, except that a file may take the place of a file. -/
theorem Grows.entry?_of_some (h : Grows kind tree tree') (he : tree.entry? place = some entry) :
    tree'.entry? place = some entry
      ∨ ∃ content, tree'.entry? place = some (.file content) ∧ kind place (.file content) := by
  induction h with
  | refl => exact Or.inl he
  | @put tree' place' entry' _ hne hkind htakes ih =>
      rw [entry?_put hne]
      by_cases hplace : place = place'
      · subst hplace
        rw [if_pos rfl]
        rcases htakes with hnone | ⟨old, content, hold, rfl⟩
        · rcases ih with hsome | ⟨content, hsome, -⟩
          · exact nomatch hnone.symm.trans hsome
          · exact nomatch hnone.symm.trans hsome
        · exact Or.inr ⟨content, rfl, hkind⟩
      · rw [if_neg hplace]
        exact ih

/-! ## Listings -/

/-- The names in a folder grow by names at the end. -/
theorem Grows.children_eq (h : Grows kind tree tree') (folder : Place) :
    ∃ added, tree'.children folder = tree.children folder ++ added
      ∧ ∀ name ∈ added, tree.entry? (folder ++ [name]) = none
        ∧ ∃ entry, kind (folder ++ [name]) entry := by
  induction h with
  | refl => exact ⟨[], (List.append_nil _).symm, fun _ h => absurd h List.not_mem_nil⟩
  | @put tree' place entry h hne hkind htakes ih =>
      obtain ⟨added, hadded, hall⟩ := ih
      rcases htakes with hnone | ⟨old, content, hold, -⟩
      · refine ⟨added ++ (childName? folder place).toList, ?_, fun name hn => ?_⟩
        · rw [children_put_of_none hne hnone, hadded, List.append_assoc]
        · rcases List.mem_append.1 hn with hn | hn
          · exact hall name hn
          · rw [Option.mem_toList, childName?_eq_some] at hn
            exact ⟨hn ▸ h.entry?_eq_none hnone, entry, hn ▸ hkind⟩
      · refine ⟨added, ?_, hall⟩
        rw [children_put_of_isSome hne (by rw [hold]; rfl), hadded]

/-- The steps from a folder to a file below it. -/
def stepsBelow? (folder : Place) (place : Place) : Entry → Option (List Text)
  | .file _ => if folder.isPrefixOf place then some (place.drop folder.length) else none
  | .folder => none

theorem filesBelow_eq (folder : Place) (tree : Tree) :
    tree.filesBelow folder
      = tree.entries.filterMap fun (place, entry) => stepsBelow? folder place entry := by
  unfold filesBelow
  refine List.filterMap_congr fun (place, entry) _ => ?_
  cases entry <;> rfl

theorem stepsBelow?_eq_some {steps : List Text} :
    stepsBelow? folder place entry = some steps ↔
      (∃ content, entry = .file content) ∧ place = folder ++ steps := by
  cases entry with
  | folder => simp [stepsBelow?]
  | file content =>
      simp only [stepsBelow?, Option.ite_none_right_eq_some, List.isPrefixOf_iff_prefix,
        Option.some.injEq]
      constructor
      · rintro ⟨⟨rest, rfl⟩, rfl⟩
        exact ⟨⟨content, rfl⟩, by rw [List.drop_left]⟩
      · rintro ⟨-, rfl⟩
        exact ⟨List.prefix_append _ _, List.drop_left⟩

/-- A file that takes the place of a file changes no listing. -/
theorem filesBelow_put_of_file {old content : Bytes} (hne : place ≠ [])
    (he : tree.entry? place = some (.file old)) :
    (tree.put place (.file content)).filesBelow folder = tree.filesBelow folder := by
  rw [entry?_of_ne_nil _ hne] at he
  rw [filesBelow_eq, filesBelow_eq]
  show (Assoc.alter place (fun _ => Entry.file content) tree.entries).filterMap _ = _
  generalize tree.entries = entries at he
  induction entries with
  | nil => exact nomatch he
  | cons first more ih =>
      obtain ⟨p, e⟩ := first
      rw [Assoc.get?] at he
      rw [Assoc.alter]
      split
      · next hp =>
          rw [if_pos hp] at he
          rw [Option.some.inj he]
          rfl
      · next hp =>
          rw [if_neg hp] at he
          rw [List.filterMap_cons, List.filterMap_cons, ih he]

theorem filesBelow_put_of_none (hne : place ≠ []) (he : tree.entry? place = none) :
    (tree.put place entry).filesBelow folder
      = tree.filesBelow folder ++ (stepsBelow? folder place entry).toList := by
  have hkey : place ∉ Assoc.keys tree.entries := by
    rw [entry?_of_ne_nil _ hne] at he
    exact Assoc.get?_eq_none_iff.1 he
  rw [filesBelow_eq, filesBelow_eq, put, Assoc.put, Assoc.alter_of_not_mem hkey,
    List.filterMap_append]
  cases hs : stepsBelow? folder place entry <;> simp [hs]

/-- The files below a folder grow by files at the end. -/
theorem Grows.filesBelow_eq (h : Grows kind tree tree') (folder : Place) :
    ∃ added, tree'.filesBelow folder = tree.filesBelow folder ++ added
      ∧ ∀ steps ∈ added, tree.entry? (folder ++ steps) = none
        ∧ ∃ content, kind (folder ++ steps) (.file content) := by
  induction h with
  | refl => exact ⟨[], (List.append_nil _).symm, fun _ h => absurd h List.not_mem_nil⟩
  | @put tree' place entry h hne hkind htakes ih =>
      obtain ⟨added, hadded, hall⟩ := ih
      rcases htakes with hnone | ⟨old, content, hold, rfl⟩
      · refine ⟨added ++ (stepsBelow? folder place entry).toList, ?_, fun steps hs => ?_⟩
        · rw [filesBelow_put_of_none hne hnone, hadded, List.append_assoc]
        · rcases List.mem_append.1 hs with hs | hs
          · exact hall steps hs
          · rw [Option.mem_toList, stepsBelow?_eq_some] at hs
            obtain ⟨⟨content, rfl⟩, rfl⟩ := hs
            exact ⟨h.entry?_eq_none hnone, content, hkind⟩
      · exact ⟨added, by rw [filesBelow_put_of_file hne hold, hadded], hall⟩

/-! ## Files in one folder -/

/-- One tree becomes another by files that are written right inside one folder. -/
abbrev GrowsIn (folder : Place) : Tree → Tree → Prop :=
  Grows fun place entry => (∃ name, place = folder ++ [name]) ∧ ∃ content, entry = .file content

theorem growsIn_put {name : Text} (h : tree.entry? (folder ++ [name]) ≠ some .folder)
    (content : Bytes) : GrowsIn folder tree (tree.put (folder ++ [name]) (.file content)) :=
  grows_put (append_singleton_ne_nil folder name) ⟨⟨name, rfl⟩, content, rfl⟩ (takes_file content h)

theorem GrowsIn.entry?_eq (h : GrowsIn folder tree tree')
    (hplace : ∀ name, place ≠ folder ++ [name]) : tree'.entry? place = tree.entry? place :=
  Grows.entry?_eq h fun _ ⟨⟨name, he⟩, _⟩ => hplace name he

/-- What is right inside another folder stays. -/
theorem GrowsIn.entry?_child {other : Place} (h : GrowsIn folder tree tree') (ho : other ≠ folder)
    (name : Text) : tree'.entry? (other ++ [name]) = tree.entry? (other ++ [name]) :=
  GrowsIn.entry?_eq h fun _ he => ho (List.append_inj_left' he rfl)

theorem GrowsIn.children_eq {other : Place} (h : GrowsIn folder tree tree') (ho : other ≠ folder) :
    tree'.children other = tree.children other := by
  obtain ⟨added, hadded, hall⟩ := Grows.children_eq h other
  cases added with
  | nil => rw [hadded, List.append_nil]
  | cons name more =>
      obtain ⟨-, _, ⟨_, he⟩, -⟩ := hall name List.mem_cons_self
      exact absurd (List.append_inj_left' he rfl) ho

end ApiScan.Tree

/-! ## Files put into a folder

Files are put into a folder one after another, and of those of one name the last one stays. Files
that stand in the folder already leave the tree as it is. -/

namespace ApiScan.Tree

variable {tree tree' : Tree} {path : Path} {folder place : Place} {files : List (Text × Bytes)}
  {names : List Text} {name : Text}

/-- The tree with files put right inside a folder, one after another. -/
def putIn (folder : Place) (files : List (Text × Bytes)) (tree : Tree) : Tree :=
  files.foldl (fun tree file => tree.put (folder ++ [file.1]) (.file file.2)) tree

theorem putIn_nil : tree.putIn folder [] = tree := rfl

theorem putIn_cons (file : Text × Bytes) :
    tree.putIn folder (file :: files)
      = (tree.put (folder ++ [file.1]) (.file file.2)).putIn folder files := rfl

theorem putIn_append (more : List (Text × Bytes)) :
    tree.putIn folder (files ++ more) = (tree.putIn folder files).putIn folder more :=
  List.foldl_append

theorem entries_putIn (folder : Place) (files : List (Text × Bytes)) (tree : Tree) :
    (tree.putIn folder files).entries
      = Assoc.update tree.entries (files.map fun file => (folder ++ [file.1], .file file.2)) := by
  induction files generalizing tree with
  | nil => rfl
  | cons file more ih => exact ih _

/-! ## Entries -/

theorem singleton_append_inj {name other : Text} (h : folder ++ [name] = folder ++ [other]) :
    name = other := List.singleton_inj.1 (List.append_cancel_left h)

/-- In the folder stands the last file of a name. -/
theorem entry?_putIn (tree : Tree) (folder : Place) (files : List (Text × Bytes)) (name : Text) :
    entry? (tree.putIn folder files) (folder ++ [name])
      = ((Assoc.get? name (Assoc.ofPairs files)).map .file).or (tree.entry? (folder ++ [name])) := by
  have hne := append_singleton_ne_nil folder name
  rw [entry?_of_ne_nil _ hne, entry?_of_ne_nil _ hne, entries_putIn, Assoc.get?_update_pairs,
    Assoc.ofPairs_map (fun _ _ => singleton_append_inj),
    Assoc.get?_map (fun _ _ => singleton_append_inj)]

/-- What is not right inside the folder stays. -/
theorem entry?_putIn_of_ne (h : ∀ name ∈ files.map Prod.fst, place ≠ folder ++ [name]) :
    entry? (tree.putIn folder files) place = tree.entry? place := by
  induction files generalizing tree with
  | nil => rfl
  | cons file more ih =>
      obtain ⟨hfile, hmore⟩ := List.forall_mem_cons.1 h
      rw [putIn_cons, ih hmore, entry?_put (append_singleton_ne_nil folder _), if_neg hfile]

/-! ## Files that stand already -/

/-- In the folder stand the files, of those of one name the last one. -/
def Holds (tree : Tree) (folder : Place) (files : List (Text × Bytes)) : Prop :=
  ∀ name content, Assoc.get? name (Assoc.ofPairs files) = some content →
    tree.entry? (folder ++ [name]) = some (.file content)

/-- Files that stand already leave the tree as it is. -/
theorem Holds.putIn_eq (h : Holds tree folder files) : tree.putIn folder files = tree := by
  have hentries : (tree.putIn folder files).entries = tree.entries := by
    rw [entries_putIn]
    refine Assoc.update_eq_self fun place entry hentry => ?_
    rw [Assoc.ofPairs_map fun _ _ => singleton_append_inj] at hentry
    obtain ⟨⟨name, content⟩, hfile, he⟩ := List.mem_map.1 (Assoc.mem_of_get?_eq_some hentry)
    obtain ⟨rfl, rfl⟩ := Prod.mk.inj he
    rw [← entry?_of_ne_nil _ (append_singleton_ne_nil folder name)]
    exact h name content ((Assoc.get?_eq_some_iff_mem (Assoc.nodup_keys_ofPairs files)).2 hfile)
  exact congrArg Tree.mk hentries

theorem holds_putIn (tree : Tree) (folder : Place) (files : List (Text × Bytes)) :
    Holds (tree.putIn folder files) folder files := by
  intro name content hg
  rw [entry?_putIn, hg]
  rfl

theorem Holds.exists_file (h : Holds tree folder files) (hname : name ∈ files.map Prod.fst) :
    ∃ content, tree.entry? (folder ++ [name]) = some (.file content) := by
  have hkey : Assoc.has name (Assoc.ofPairs files) = true :=
    Assoc.has_iff_mem_keys.2 (Assoc.mem_keys_ofPairs.2 hname)
  obtain ⟨content, hg⟩ := Option.isSome_iff_exists.1 hkey
  exact ⟨content, h name content hg⟩

/-- Files stay when others are put at other places. -/
theorem Holds.putIn {other : Place} {others : List (Text × Bytes)} (h : Holds tree folder files)
    (hne : ∀ name ∈ files.map Prod.fst, ∀ later ∈ others.map Prod.fst,
      folder ++ [name] ≠ other ++ [later]) : Holds (tree.putIn other others) folder files := by
  intro name content hg
  have hname : name ∈ files.map Prod.fst :=
    Assoc.mem_keys_ofPairs.1 (List.mem_map_of_mem (Assoc.mem_of_get?_eq_some hg))
  rw [entry?_putIn_of_ne (hne name hname)]
  exact h name content hg

/-! ## Putting through a path -/

/-- Files of these names can be put into the folder that a path leads to. -/
def TakesIn (tree : Tree) (path : Path) (folder : Place) (names : List Text) : Prop :=
  ∀ name ∈ names, FitsIn path name ∧ tree.entry? (folder ++ [name]) ≠ some .folder

/-- The files are put in as files. -/
def IsPut (folder : Place) (files : List (Text × Bytes)) (place : Place) (entry : Entry) : Prop :=
  ∃ file ∈ files, place = folder ++ [file.1] ∧ entry = .file file.2

theorem entry?_putIn_ne_folder (h : tree.entry? place ≠ some .folder) :
    entry? (tree.putIn folder files) place ≠ some .folder := by
  induction files generalizing tree with
  | nil => exact h
  | cons file more ih =>
      refine ih ?_
      rw [entry?_put (append_singleton_ne_nil folder _)]
      split
      · nofun
      · exact h

/-- The tree grows by the files. -/
theorem grows_putIn (h : TakesIn tree path folder (files.map Prod.fst)) :
    Grows (IsPut folder files) tree (tree.putIn folder files) := by
  induction files generalizing tree with
  | nil => exact Grows.refl
  | cons file more ih =>
      obtain ⟨hfile, hmore⟩ := List.forall_mem_cons.1 h
      have hput : Grows (IsPut folder (file :: more)) tree
          (tree.put (folder ++ [file.1]) (.file file.2)) :=
        grows_put (append_singleton_ne_nil folder _) ⟨file, List.mem_cons_self, rfl, rfl⟩
          (takes_file _ hfile.2)
      refine hput.trans ((ih fun name hname => ?_).mono ?_)
      · refine ⟨(hmore name hname).1, ?_⟩
        rw [entry?_put (append_singleton_ne_nil folder _)]
        split
        · nofun
        · exact (hmore name hname).2
      · rintro place entry ⟨file, hm, hplace⟩
        exact ⟨file, List.mem_cons_of_mem _ hm, hplace⟩

theorem growsIn_putIn (h : TakesIn tree path folder (files.map Prod.fst)) :
    GrowsIn folder tree (tree.putIn folder files) :=
  (grows_putIn h).mono fun _ _ ⟨file, _, hplace, hentry⟩ => ⟨⟨file.1, hplace⟩, _, hentry⟩

theorem leadsTo_putIn (hleads : LeadsTo tree path folder)
    (h : TakesIn tree path folder (files.map Prod.fst)) :
    LeadsTo (tree.putIn folder files) path folder :=
  hleads.of_keepsFolders (grows_putIn h).keepsFolders

theorem takesIn_putIn {other : Place} (h : TakesIn tree path folder names) :
    TakesIn (tree.putIn other files) path folder names :=
  fun name hname => ⟨(h name hname).1, entry?_putIn_ne_folder (h name hname).2⟩

theorem takesIn_of_putIn {other : Place} {path' : Path}
    (hfiles : TakesIn tree path' other (files.map Prod.fst))
    (h : TakesIn (tree.putIn other files) path folder names) : TakesIn tree path folder names :=
  fun name hname => ⟨(h name hname).1, fun hfolder =>
    (h name hname).2 ((grows_putIn hfiles).keepsFolders _ hfolder)⟩

theorem takesIn_putIn_iff {other : Place} {path' : Path}
    (hfiles : TakesIn tree path' other (files.map Prod.fst)) :
    TakesIn (tree.putIn other files) path folder names ↔ TakesIn tree path folder names :=
  ⟨takesIn_of_putIn hfiles, takesIn_putIn⟩

/-- Files that stand in the folder can be put there once more. -/
theorem Holds.takesIn (h : Holds tree folder files)
    (hfits : ∀ name ∈ files.map Prod.fst, FitsIn path name) :
    TakesIn tree path folder (files.map Prod.fst) := fun name hname => by
  obtain ⟨content, he⟩ := h.exists_file hname
  exact ⟨hfits name hname, by rw [he]; nofun⟩

/-- New names stand at the end of the folder. -/
theorem children_putIn (hnodup : (files.map Prod.fst).Nodup)
    (hnone : ∀ name ∈ files.map Prod.fst, tree.entry? (folder ++ [name]) = none) :
    (tree.putIn folder files).children folder = tree.children folder ++ files.map Prod.fst := by
  induction files generalizing tree with
  | nil => exact (List.append_nil _).symm
  | cons file more ih =>
      obtain ⟨hfile, hmore⟩ := List.nodup_cons.1 hnodup
      obtain ⟨hfirst, hrest⟩ := List.forall_mem_cons.1 hnone
      have hne := append_singleton_ne_nil folder file.1
      rw [putIn_cons, ih hmore fun name hname => ?_, children_put_of_none hne hfirst,
        childName?_eq_some.2 rfl, List.append_assoc]
      · rfl
      · have hother : name ≠ file.1 := fun he => hfile (he ▸ hname)
        rw [entry?_put hne, if_neg fun he => hother (singleton_append_inj he)]
        exact hrest name hname

end ApiScan.Tree
