import ApiScan.Proofs.Text.Order
import ApiScan.Proofs.Tree.Access
import ApiScan.Proofs.Tree.Growth
import ApiScan.Proofs.Tree.Removed
import ApiScan.Proofs.Tree.WellFormed

set_option autoImplicit false

/-! # Trees that extend others

A tree extends another one if it has all its folders and files, and files beyond these only at
places that stand apart. Files that do not stand apart are found and read the same in both trees. -/

namespace ApiScan.Tree

variable {tree tree' : Tree} {place folder here : Place} {name : Text} {steps : List Text}
  {content : Bytes} {path : Path} {apart : Place → Prop} {kind : Place → Entry → Prop}

/-! ## Places that are listed once -/

/-- Every place is listed once. -/
def ListedOnce (tree : Tree) : Prop := (Assoc.keys tree.entries).Nodup

instance (tree : Tree) : Decidable tree.ListedOnce := inferInstanceAs (Decidable (List.Nodup _))

theorem ListedOnce.put (h : tree.ListedOnce) (place : Place) (entry : Entry) :
    ListedOnce (tree.put place entry) :=
  Assoc.nodup_keys_alter h

theorem ListedOnce.pairwise (h : tree.ListedOnce) :
    tree.entries.Pairwise fun first later => first.1 ≠ later.1 := by
  unfold ListedOnce Assoc.keys at h
  exact List.pairwise_map.1 h

theorem ListedOnce.nodup_children (h : tree.ListedOnce) (folder : Place) :
    (tree.children folder).Nodup := by
  unfold ListedOnce at h
  refine h.filterMap fun first later name hname hother => ?_
  rw [childName?_eq_some.1 hname, childName?_eq_some.1 hother]

theorem ListedOnce.nodup_filesBelow (h : tree.ListedOnce) (folder : Place) :
    (tree.filesBelow folder).Nodup := by
  rw [filesBelow_eq]
  unfold List.Nodup
  refine h.pairwise.filterMap _ fun first later hne steps hsteps other hother he => hne ?_
  rw [(stepsBelow?_eq_some.1 hsteps).2, (stepsBelow?_eq_some.1 hother).2, he]

/-- The files below a folder are those that stand at steps from it. -/
theorem ListedOnce.mem_filesBelow (h : tree.ListedOnce) (hsteps : folder ++ steps ≠ []) :
    steps ∈ tree.filesBelow folder ↔
      ∃ content, tree.entry? (folder ++ steps) = some (.file content) := by
  rw [filesBelow_eq, List.mem_filterMap, entry?_of_ne_nil _ hsteps]
  simp only [Assoc.get?_eq_some_iff_mem h]
  constructor
  · rintro ⟨⟨place, entry⟩, hmem, he⟩
    obtain ⟨⟨content, rfl⟩, rfl⟩ := stepsBelow?_eq_some.1 he
    exact ⟨content, hmem⟩
  · rintro ⟨content, hmem⟩
    exact ⟨_, hmem, stepsBelow?_eq_some.2 ⟨⟨content, rfl⟩, rfl⟩⟩

/-- Two lists that hold the same texts, each of them once, are sorted to the same list. -/
theorem Text.sort_eq_of_mem_iff {texts texts' : List Text} (h : texts.Nodup) (h' : texts'.Nodup)
    (hmem : ∀ text, text ∈ texts ↔ text ∈ texts') : Text.sort texts = Text.sort texts' :=
  Text.sort_congr ((List.perm_ext_iff_of_nodup h h').2 hmem)

/-- A folder in which the same stands has the same names, whatever the order of the entries. -/
theorem ListedOnce.names_eq (h : tree.ListedOnce) (h' : tree'.ListedOnce)
    (hsame : ∀ name, tree'.entry? (folder ++ [name]) = tree.entry? (folder ++ [name])) :
    tree'.names folder = tree.names folder := by
  rw [Tree.names_eq, Tree.names_eq]
  refine Text.sort_eq_of_mem_iff (h'.nodup_children folder) (h.nodup_children folder) fun name => ?_
  rw [mem_children, mem_children, hsame]

/-! ## Names -/

/-- All steps of places where something stands are names. -/
def Named (tree : Tree) : Prop :=
  ∀ place, (tree.entry? place).isSome → ∀ name ∈ place, IsName name

theorem WellFormed.named (h : tree.WellFormed) : tree.Named := by
  intro place hsome name hname
  obtain ⟨entry, he⟩ := Option.isSome_iff_exists.1 hsome
  exact h.isName place (mem_keys_of_standing (List.ne_nil_of_mem hname) he) name hname

theorem Named.isName_of_mem_children (h : tree.Named) (hname : name ∈ tree.children folder) :
    IsName name :=
  h _ (mem_children.1 hname) name (List.mem_append_right _ List.mem_cons_self)

theorem Named.up_not_mem_children (h : tree.Named) (folder : Place) :
    Path.up ∉ tree.children folder :=
  fun hup => (h.isName_of_mem_children hup).2.2.2 rfl

/-- Where the steps from a folder lead, as far as the path tells. -/
theorem normalize_append (h : LeadsTo tree path folder) (hup : Path.up ∉ steps) :
    (Path.normalize { path with steps := path.steps ++ steps }).steps = folder ++ steps := by
  rw [Path.normalize_append path hup, Path.normalize, ← place_of_follow h]

theorem normalize_step (h : LeadsTo tree path folder) (hup : name ≠ Path.up) :
    (path.step name).normalize.steps = folder ++ [name] :=
  normalize_append h (by simpa using Ne.symm hup)

/-! ## Extensions -/

/-- The tree `tree'` has the folders and files of `tree`, and files beyond these only at places that
    stand apart. Only a file that stands apart may have another content. -/
structure Extends (apart : Place → Prop) (tree tree' : Tree) : Prop where
  listedOnce : tree.ListedOnce
  listedOnce' : tree'.ListedOnce
  named : tree'.Named
  keepsFolders : KeepsFolders tree tree'
  keepsFiles : ∀ place content, tree.entry? place = some (.file content) →
    ∃ content', tree'.entry? place = some (.file content') ∧ (apart place ∨ content' = content)
  addsApart : ∀ place content, tree'.entry? place = some (.file content) →
    apart place ∨ (tree.entry? place).isSome

namespace Extends

theorem isSome_entry? (h : Extends apart tree tree') (hsome : (tree.entry? place).isSome) :
    (tree'.entry? place).isSome := by
  obtain ⟨entry, he⟩ := Option.isSome_iff_exists.1 hsome
  cases entry with
  | folder => rw [h.keepsFolders place he]; rfl
  | file content =>
      obtain ⟨content', he', -⟩ := h.keepsFiles place content he
      rw [he']
      rfl

theorem named_left (h : Extends apart tree tree') : tree.Named :=
  fun place hsome => h.named place (h.isSome_entry? hsome)

/-- A file that does not stand apart is the same in both trees. -/
theorem entry?_file_iff (h : Extends apart tree tree') (hplace : ¬ apart place) :
    tree'.entry? place = some (.file content) ↔ tree.entry? place = some (.file content) := by
  constructor
  · intro he'
    obtain ⟨entry, he⟩ :=
      Option.isSome_iff_exists.1 ((h.addsApart place content he').resolve_left hplace)
    cases entry with
    | folder => exact nomatch (h.keepsFolders place he).symm.trans he'
    | file old =>
        obtain ⟨content', hfile, hsame⟩ := h.keepsFiles place old he
        obtain rfl := hsame.resolve_left hplace
        rw [he, ← he', hfile]
  · intro he
    obtain ⟨content', hfile, hsame⟩ := h.keepsFiles place content he
    rw [hfile, hsame.resolve_left hplace]

/-- A path to a file leads to a file in the tree that extends, too. -/
theorem follow_file (h : Extends apart tree tree')
    (hfollow : follow tree here steps = .ok (.present place (.file content))) :
    ∃ content', follow tree' here steps = .ok (.present place (.file content')) := by
  obtain ⟨content', he', -⟩ := h.keepsFiles _ _ (entry?_of_follow hfollow)
  exact ⟨content', follow_file_of_keepsFolders h.keepsFolders hfollow he'⟩

/-- **A file that does not stand apart reads the same in both trees**, if it can be read in the
    first one at all. -/
theorem toOption_read (h : Extends apart tree tree') (hplace : ¬ apart path.normalize.steps)
    (hread : (tree'.read path).toOption.isSome → (tree.read path).toOption.isSome) :
    (tree'.read path).toOption = (tree.read path).toOption := by
  cases hold : tree.read path with
  | ok content =>
      obtain ⟨place, hlocate⟩ := read_eq_ok_iff.1 hold
      obtain ⟨hfits, hfollow⟩ := locate_eq_ok.1 hlocate
      obtain ⟨content', hfollow'⟩ := h.follow_file hfollow
      obtain rfl : place = path.normalize.steps := place_of_follow hfollow
      have he := (h.entry?_file_iff hplace).2 (entry?_of_follow hfollow)
      obtain rfl := Entry.file.inj (Option.some.inj (he.symm.trans (entry?_of_follow hfollow')))
      rw [read_eq_ok_iff.2 ⟨_, locate_eq_ok.2 ⟨hfits, hfollow'⟩⟩]
  | error fault =>
      rw [hold] at hread
      cases hnew : tree'.read path with
      | error fault => rfl
      | ok content =>
          rw [hnew] at hread
          exact nomatch hread rfl

theorem sourceText?_eq (h : Extends apart tree tree') (hplace : ¬ apart path.normalize.steps)
    (hread : (tree'.sourceText? path).isSome → (tree.sourceText? path).isSome) :
    tree'.sourceText? path = tree.sourceText? path := by
  unfold sourceText? at hread ⊢
  rw [Option.isSome_map, Option.isSome_map] at hread
  rw [h.toOption_read hplace hread]

/-- What can be read can be read in the tree that extends, too. -/
theorem isSome_sourceText? (h : Extends apart tree tree') (hsome : (tree.sourceText? path).isSome) :
    (tree'.sourceText? path).isSome := by
  unfold sourceText? at hsome ⊢
  rw [Option.isSome_map] at hsome ⊢
  cases hread : tree.read path with
  | error fault =>
      rw [hread] at hsome
      exact nomatch hsome
  | ok content =>
      obtain ⟨place, hlocate⟩ := read_eq_ok_iff.1 hread
      obtain ⟨hfits, hfollow⟩ := locate_eq_ok.1 hlocate
      obtain ⟨content', hfollow'⟩ := h.follow_file hfollow
      rw [read_eq_ok_iff.2 ⟨place, locate_eq_ok.2 ⟨hfits, hfollow'⟩⟩]
      rfl

end Extends

/-! ## Growth -/

theorem Grows.listedOnce (h : Grows kind tree tree') (hlisted : tree.ListedOnce) :
    tree'.ListedOnce := by
  induction h with
  | refl => exact hlisted
  | put _ _ _ _ ih => exact ih.put _ _

/-- A tree that grows by files that stand apart, and by folders, extends what it was. -/
theorem Grows.extends (h : Grows kind tree tree') (hlisted : tree.ListedOnce)
    (hnamed : tree'.Named)
    (hkind : ∀ place content, kind place (.file content) → apart place) :
    Extends apart tree tree' where
  listedOnce := hlisted
  listedOnce' := h.listedOnce hlisted
  named := hnamed
  keepsFolders := h.keepsFolders
  keepsFiles := fun place content he => by
    rcases h.entry?_of_some he with he' | ⟨content', he', hplace⟩
    · exact ⟨content, he', Or.inr rfl⟩
    · exact ⟨content', he', Or.inl (hkind place content' hplace)⟩
  addsApart := fun place content he => by
    rcases h.entry?_cases he with hold | hplace
    · exact Or.inr (by rw [hold]; rfl)
    · exact Or.inl (hkind place content hplace)

theorem Grows.named (h : Grows kind tree tree') (hnamed : tree.Named)
    (hkind : ∀ place entry, kind place entry → ∀ name ∈ place, IsName name) : tree'.Named := by
  intro place hsome
  obtain ⟨entry, he⟩ := Option.isSome_iff_exists.1 hsome
  rcases h.entry?_cases he with hold | hplace
  · exact hnamed place (by rw [hold]; rfl)
  · exact hkind place entry hplace

end ApiScan.Tree

/-! ## Trees that lose files

A tree that has lost some files has all folders and all other files. What is put into both trees is
not lost afterwards. -/

namespace ApiScan.Tree

variable {tree tree' tree'' : Tree} {path : Path} {folder place : Place} {names : List Text}
  {files : List (Text × Bytes)} {lost lost' : Place → Prop}

/-- Files that may be lost are gone; every folder and every other file is kept. -/
structure LosesFiles (lost : Place → Prop) (tree tree' : Tree) : Prop where
  listedOnce : tree.ListedOnce
  listedOnce' : tree'.ListedOnce
  named : tree.Named
  losesOnly : LosesOnly lost tree tree'
  keepsFolders : KeepsFolders tree tree'

theorem LosesFiles.entry?_eq (h : LosesFiles lost tree tree') (hplace : ¬ lost place) :
    tree'.entry? place = tree.entry? place :=
  (h.losesOnly place).resolve_right fun hlost => hplace hlost.1

/-- What is there was there before. -/
theorem LosesFiles.entry?_of_some (h : LosesFiles lost tree tree') {entry : Entry}
    (he : tree'.entry? place = some entry) : tree.entry? place = some entry := by
  rcases h.losesOnly place with hkept | ⟨-, hgone⟩
  · exact hkept ▸ he
  · exact nomatch hgone.symm.trans he

theorem LosesFiles.keepsFolders' (h : LosesFiles lost tree tree') : KeepsFolders tree' tree :=
  fun _ he => h.entry?_of_some he

/-- The tree before the loss extends the one after it. -/
theorem LosesFiles.extends (h : LosesFiles lost tree tree') : Extends lost tree' tree where
  listedOnce := h.listedOnce'
  listedOnce' := h.listedOnce
  named := h.named
  keepsFolders := h.keepsFolders'
  keepsFiles := fun _ content he => ⟨content, h.entry?_of_some he, Or.inr rfl⟩
  addsApart := fun place content he => by
    rcases h.losesOnly place with hkept | ⟨hplace, -⟩
    · exact Or.inr (by rw [hkept, he]; rfl)
    · exact Or.inl hplace

theorem LosesFiles.takesIn_iff (h : LosesFiles lost tree tree') :
    TakesIn tree' path folder names ↔ TakesIn tree path folder names :=
  forall₂_congr fun _ _ => and_congr_right fun _ =>
    not_congr ⟨h.entry?_of_some, h.keepsFolders _⟩

/-- It is enough to know the places where something is gone. -/
theorem LosesFiles.mono (h : LosesFiles lost tree tree')
    (hlost : ∀ place, lost place → (tree.entry? place).isSome → tree'.entry? place = none →
      lost' place) : LosesFiles lost' tree tree' where
  listedOnce := h.listedOnce
  listedOnce' := h.listedOnce'
  named := h.named
  losesOnly := fun place => by
    rcases h.losesOnly place with hkept | ⟨hplace, hgone⟩
    · exact Or.inl hkept
    · cases he : tree.entry? place with
      | none => exact Or.inl hgone
      | some entry => exact Or.inr ⟨hlost place hplace (by rw [he]; rfl) hgone, hgone⟩
  keepsFolders := h.keepsFolders

theorem LosesFiles.trans (h : LosesFiles lost tree tree') (h' : LosesFiles lost' tree' tree'') :
    LosesFiles (fun place => lost place ∨ lost' place) tree tree'' where
  listedOnce := h.listedOnce
  listedOnce' := h'.listedOnce'
  named := h.named
  losesOnly := (h.losesOnly.mono fun _ => Or.inl).trans (h'.losesOnly.mono fun _ => Or.inr)
  keepsFolders := h.keepsFolders.trans h'.keepsFolders

/-- A file that is not lost can be read as before. -/
theorem LosesFiles.isSome_sourceText? (h : LosesFiles lost tree tree')
    (hplace : ¬ lost path.normalize.steps) (hsome : (tree.sourceText? path).isSome) :
    (tree'.sourceText? path).isSome := by
  unfold sourceText? at hsome ⊢
  rw [Option.isSome_map] at hsome ⊢
  cases hread : tree.read path with
  | error fault =>
      rw [hread] at hsome
      exact nomatch hsome
  | ok content =>
      obtain ⟨place, hlocate⟩ := read_eq_ok_iff.1 hread
      obtain ⟨hfits, hfollow⟩ := locate_eq_ok.1 hlocate
      obtain rfl : place = path.normalize.steps := place_of_follow hfollow
      have he := (h.entry?_eq hplace).trans (entry?_of_follow hfollow)
      have hfollow' := follow_file_of_keepsFolders h.keepsFolders hfollow he
      rw [read_eq_ok_iff.2 ⟨_, locate_eq_ok.2 ⟨hfits, hfollow'⟩⟩]
      rfl

/-- Files that are put into both trees are not lost. -/
theorem LosesFiles.putIn (h : LosesFiles lost tree tree') (hfolder : tree.entry? folder = some .folder)
    (htakes : TakesIn tree path folder (files.map Prod.fst))
    (hnames : ∀ name ∈ files.map Prod.fst, IsName name) :
    LosesFiles (fun place => lost place ∧ ∀ name ∈ files.map Prod.fst, place ≠ folder ++ [name])
      (tree.putIn folder files) (tree'.putIn folder files) where
  listedOnce := (grows_putIn htakes).listedOnce h.listedOnce
  listedOnce' := (grows_putIn (h.takesIn_iff.2 htakes)).listedOnce h.listedOnce'
  named := by
    refine (grows_putIn htakes).named h.named ?_
    rintro _ _ ⟨file, hfile, rfl, -⟩
    exact List.forall_mem_append.2 ⟨h.named folder (by rw [hfolder]; rfl),
      List.forall_mem_singleton.2 (hnames _ (List.mem_map_of_mem hfile))⟩
  losesOnly := fun place => by
    by_cases hput : ∀ name ∈ files.map Prod.fst, place ≠ folder ++ [name]
    · rw [entry?_putIn_of_ne hput, entry?_putIn_of_ne hput]
      exact (h.losesOnly place).imp_right fun hlost => ⟨⟨hlost.1, hput⟩, hlost.2⟩
    · -- the same file stands there in both trees
      simp only [not_forall, not_not] at hput
      obtain ⟨name, hname, rfl⟩ := hput
      have hkey : Assoc.has name (Assoc.ofPairs files) = true :=
        Assoc.has_iff_mem_keys.2 (Assoc.mem_keys_ofPairs.2 hname)
      obtain ⟨content, hg⟩ := Option.isSome_iff_exists.1 hkey
      exact Or.inl ((holds_putIn _ _ _ name content hg).trans
        (holds_putIn _ _ _ name content hg).symm)
  keepsFolders := fun place he => by
    have hold : tree.entry? place = some .folder := by
      by_contra hne
      exact entry?_putIn_ne_folder hne he
    exact (grows_putIn (h.takesIn_iff.2 htakes)).keepsFolders _ (h.keepsFolders _ hold)

/-! ## Folders that are emptied -/

theorem ListedOnce.eraseBelow (h : tree.ListedOnce) (folder : Place) :
    ListedOnce (tree.eraseBelow folder) :=
  List.Sublist.nodup (List.Sublist.map _ List.filter_sublist) h

/-- A folder in which only files stand loses these when it is emptied. -/
theorem losesFiles_eraseBelow (htree : tree.WellFormed) (hlisted : tree.ListedOnce)
    (hfiles : ∀ name, tree.entry? (folder ++ [name]) ≠ some .folder) :
    LosesFiles (folder <+: ·) tree (tree.eraseBelow folder) where
  listedOnce := hlisted
  listedOnce' := hlisted.eraseBelow folder
  named := htree.named
  losesOnly := losesOnly_eraseBelow tree folder
  keepsFolders := fun place he => by
    by_cases hempty : place = []
    · rw [hempty, entry?_nil]
    · rw [entry?_eraseBelow tree hempty, if_neg]
      · exact he
      · rintro ⟨⟨steps, rfl⟩, hne⟩
        cases steps with
        | nil => exact hne (List.append_nil _)
        | cons name more =>
            cases more with
            | nil => exact hfiles name he
            | cons next last =>
                refine hfiles name ?_
                rw [← List.singleton_append, ← List.append_assoc] at he
                exact htree.entry?_above (List.cons_ne_nil next last) he

theorem WellFormed.of_losesFiles (htree : tree.WellFormed) (h : LosesFiles lost tree tree')
    (hkeys : ∀ place ∈ Assoc.keys tree'.entries, place ∈ Assoc.keys tree.entries) :
    tree'.WellFormed where
  isName := fun place hplace => htree.isName place (hkeys place hplace)
  parent := fun place hplace => h.keepsFolders _ (htree.parent place (hkeys place hplace))

end ApiScan.Tree
