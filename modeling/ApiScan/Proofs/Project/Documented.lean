import ApiScan.Proofs.DocComment
import ApiScan.Proofs.Project.Comments

set_option autoImplicit false

/-! # Documented paths of several files

The comments of a project are read file by file, and the items of the files are put one after
another: the last file that documents a path gives its item, as a whole. Inside one file the items
of a path are merged, method by method. -/

namespace ApiScan.Project

open DocComment

variable {tree : Tree} {root path : Path} {config : Config} {kind : Option Kind}
  {files : List Path} {names : List Text} {entries : Entries} {fault : Yaml.Fault}

/-! ## One file -/

/-- The text of a source file; the empty one if the file cannot be read. -/
def sourceAt (tree : Tree) (path : Path) : Text := (tree.sourceText? path).getD []

/-- A path that a survey can look at the file of: no character in it is a NUL. -/
def Readable (tree : Tree) (path : Path) : Prop := tree.read path ≠ .error .nulInPath

theorem scanDocFile_eq (h : Readable tree path) :
    (scanDocFile path tree).2 = (load (sourceAt tree path)).2.mapError .badDocs := by
  unfold scanDocFile Survey.sourceText? sourceAt Tree.sourceText?
  cases hread : tree.read path with
  | ok content =>
      show Prod.snd (if Text.holds mark (Text.ofSource content) = true then _ else _) = _
      cases hmark : Text.holds mark (Text.ofSource content) with
      | true => rfl
      | false =>
          show Except.ok [] = (load (Text.ofSource content)).2.mapError Failure.badDocs
          rw [load, blocks_of_not_holds hmark]
          rfl
  | error fault =>
      cases fault
      case nulInPath => exact absurd hread h
      all_goals rfl

theorem scanDocFile_of_not_readable (h : ¬ Readable tree path) :
    (scanDocFile path tree).2 = .error (.file .nulInPath path) := by
  unfold scanDocFile Survey.sourceText?
  rw [Classical.not_not.1 h]

/-- A file that ends no scan: it can be read, and so can each of its blocks. -/
def Harmless (tree : Tree) (path : Path) : Prop :=
  Readable tree path ∧ ∀ block ∈ blocks (sourceAt tree path), ∀ fault, ¬ Fatal block fault

theorem finds_scanDocFile :
    (scanDocFile path).Finds tree entries ↔
      Harmless tree path ∧ itemsOf (sourceAt tree path) = entries := by
  unfold Survey.Finds Harmless
  by_cases h : Readable tree path
  · rw [scanDocFile_eq h, and_assoc, ← load_eq_ok_iff]
    cases (load (sourceAt tree path)).2 <;> simp [Except.mapError, h]
  · rw [scanDocFile_of_not_readable h]
    simp [h]

/-! ## All files -/

theorem finds_mapM_scanDocFile {found : List Entries} :
    (files.mapM scanDocFile).Finds tree found ↔
      (∀ file ∈ files, Harmless tree file)
        ∧ (files.map fun file => itemsOf (sourceAt tree file)) = found := by
  simp only [Survey.finds_mapM, finds_scanDocFile, List.forall₂_and_left]
  rw [← List.forall₂_map_left_iff, List.forall₂_eq_eq_eq]

/-- What a project documents is what its files document, one after another. -/
theorem finds_scanDocs (hfiles : (documentedFiles root config kind).Finds tree files) :
    (scanDocs root config kind).Finds tree entries ↔
      (∀ file ∈ files, Harmless tree file)
        ∧ (files.map fun file => itemsOf (sourceAt tree file)).foldl Assoc.update [] = entries := by
  unfold scanDocs
  rw [Survey.finds_bind]
  simp only [Survey.finds_bind, Survey.finds_pure, finds_mapM_scanDocFile]
  constructor
  · rintro ⟨files', hfiles', _, ⟨hall, rfl⟩, rfl⟩
    obtain rfl := hfiles.unique hfiles'
    exact ⟨hall, rfl⟩
  · rintro ⟨hall, rfl⟩
    exact ⟨files, hfiles, _, ⟨hall, rfl⟩, rfl⟩

/-! ## Router files -/

/-- A file that is there can be read. -/
theorem readable_of_isFile (h : (Survey.isFile path).answer tree = true) : Readable tree path := by
  unfold Survey.answer Survey.isFile Survey.ask Tree.isFile Tree.status at h
  unfold Readable Tree.read
  cases hlocate : tree.locate path with
  | error fault =>
      rw [hlocate] at h
      cases fault <;> exact nomatch h
  | ok target =>
      cases target with
      | vacant place => exact nofun
      | present place entry => cases entry <;> exact nofun

theorem readable_of_finds_routerFiles
    (h : (routerFiles root config.routes.inPath).Finds tree names) {name : Text} (hname : name ∈ names) :
    Readable tree ((root.under config.routes.inPath).step name) := by
  obtain ⟨listed, hlisted, hpure⟩ := Survey.finds_bind.1 h
  obtain rfl := Survey.finds_pure.1 hpure
  obtain ⟨_, -, hin⟩ := finds_filesOf hlisted
  obtain ⟨file, hfile, rfl⟩ := List.mem_map.1 hname
  obtain ⟨_, -, name, -, rfl⟩ := Survey.mem_of_finds_filesIn hin hfile
  obtain ⟨_, -, hfilter⟩ := Survey.finds_bind.1 hin
  rw [(Survey.finds_filterM.1 hfilter).2] at hfile
  rw [Path.name_step]
  exact readable_of_isFile (List.mem_filter.1 hfile).2

/-- A block that is a mapping does not end the reading. -/
theorem not_fatal_of_mapping {block : Text} {items : Entries} (h : mapping? block = some items)
    (fault : Yaml.Fault) : ¬ Fatal block fault := by
  rintro ⟨hread, -⟩
  rw [mapping?, hread] at h
  exact nomatch h

/-- **Documented paths of several router files.** If every block of the files is a mapping of paths
    to mappings, the comments of the project are read. They document a value for a method of a path
    exactly if the last file that documents the path at all does. -/
theorem documented_iff_last_file_of_path
    (hnames : (routerFiles root config.routes.inPath).Finds tree names)
    (hblocks : ∀ name ∈ names,
      ∀ block ∈ blocks (sourceAt tree ((root.under config.routes.inPath).step name)),
        ∃ items, mapping? block = some items ∧ ∀ item ∈ items, (item.2.entries?).isSome) :
    ∃ entries, (scanDocs root config (some .express)).Finds tree entries
      ∧ ∀ path method value, documented? entries path method = some value ↔
        ∃ before name after, names = before ++ name :: after
          ∧ documented? (itemsOf (sourceAt tree ((root.under config.routes.inPath).step name)))
              path method = some value
          ∧ ∀ other ∈ after,
              Assoc.get? path (itemsOf (sourceAt tree ((root.under config.routes.inPath).step other)))
                = none := by
  let items (name : Text) : Entries :=
    itemsOf (sourceAt tree ((root.under config.routes.inPath).step name))
  have hfiles : (documentedFiles root config (some .express)).Finds tree
      (names.map (root.under config.routes.inPath).step) := Survey.finds_bind.2 ⟨names, hnames, rfl⟩
  have hscan : (scanDocs root config (some .express)).Finds tree
      ((names.map items).foldl Assoc.update []) := by
    refine (finds_scanDocs hfiles).2 ⟨fun file hfile => ?_, by rw [List.map_map]; rfl⟩
    obtain ⟨name, hname, rfl⟩ := List.mem_map.1 hfile
    refine ⟨readable_of_finds_routerFiles hnames hname, fun block hblock fault => ?_⟩
    obtain ⟨_, hmapping, -⟩ := hblocks name hname block hblock
    exact not_fatal_of_mapping hmapping fault
  refine ⟨_, hscan, fun path method value => ?_⟩
  -- the item of a path comes whole from the last file that documents the path
  have hlast (item : Yaml.Value) :
      Assoc.get? path ((names.map items).foldl Assoc.update []) = some item ↔
        ∃ before name after, names = before ++ name :: after
          ∧ Assoc.get? path (items name) = some item
          ∧ ∀ other ∈ after, Assoc.get? path (items other) = none := by
    rw [Assoc.get?_foldl_update_eq_some_iff fun list hlist => ?_]
    · constructor
      · rintro ⟨before, list, after, he, hitem, hafter⟩
        obtain ⟨front, rest, rfl, rfl, hrest⟩ := List.map_eq_append_iff.1 he
        obtain ⟨name, back, rfl, rfl, rfl⟩ := List.map_eq_cons_iff.1 hrest
        exact ⟨front, name, back, rfl, hitem, fun other ho => hafter _ (List.mem_map_of_mem ho)⟩
      · rintro ⟨before, name, after, rfl, hitem, hafter⟩
        refine ⟨before.map items, items name, after.map items, by simp, hitem, fun list hlist => ?_⟩
        obtain ⟨other, ho, rfl⟩ := List.mem_map.1 hlist
        exact hafter other ho
    · obtain ⟨name, -, rfl⟩ := List.mem_map.1 hlist
      exact distinct_itemsOf _
  unfold documented?
  simp only [Option.bind_eq_some_iff, hlast]
  constructor
  · rintro ⟨item, ⟨before, name, after, hsplit, hitem, hafter⟩, hvalue⟩
    exact ⟨before, name, after, hsplit, ⟨item, hitem, hvalue⟩, hafter⟩
  · rintro ⟨before, name, after, hsplit, ⟨item, hitem, hvalue⟩, hafter⟩
    exact ⟨item, ⟨before, name, after, hsplit, hitem, hafter⟩, hvalue⟩

/-- The text of a router file whose only comment documents a method of the users. -/
def usersDocumented (method : String) : Text :=
  "/**\n * @swagger\n * /users:\n *   ".toList ++ method.toList
    ++ ":\n *     summary: users\n */\n".toList

/-- An application in which two router files document one path. -/
def twoDocumentedFiles : Tree where
  entries := [
    (["routes"].map String.toList, .folder),
    (["routes", "a.js"].map String.toList, .file (Text.toBytes (usersDocumented "get"))),
    (["routes", "b.js"].map String.toList, .file (Text.toBytes (usersDocumented "post")))]

/-- The place of a router file. -/
def routerFile (name : String) : Path := (Path.under {} ({} : Config).routes.inPath).step name.toList

/-- What entries document for a method of the users. -/
def usersMethod? (entries : Entries) (method : String) : Option Yaml.Value :=
  documented? entries (.str (Points.ofText "/users".toList)) (.str (Points.ofText method.toList))

/-- Of two files that document a path, the first one loses its method. -/
theorem post_of_second_file_documented :
    (usersMethod? (itemsOf (sourceAt twoDocumentedFiles (routerFile "a.js"))) "get").isSome
      ∧ ∃ entries, (scanDocs {} {} (some .express)).Finds twoDocumentedFiles entries
        ∧ usersMethod? entries "get" = none ∧ (usersMethod? entries "post").isSome := by
  have hnames : (routerFiles {} ({} : Config).routes.inPath).Finds twoDocumentedFiles
      ["a.js".toList, "b.js".toList] := by
    unfold Survey.Finds
    decide +kernel
  have hmappings : ∀ name ∈ ["a.js".toList, "b.js".toList],
      ∀ block ∈ blocks (sourceAt twoDocumentedFiles
        ((Path.under {} ({} : Config).routes.inPath).step name)),
        ((mapping? block).any fun items => items.all fun item => (item.2.entries?).isSome) = true := by
    decide +kernel
  obtain ⟨entries, hscan, hlast⟩ := documented_iff_last_file_of_path hnames
    fun name hname block hblock => by
      obtain ⟨items, hitems, hall⟩ := (Option.any_eq_true _ _).1 (hmappings name hname block hblock)
      exact ⟨items, hitems, List.all_eq_true.1 hall⟩
  refine ⟨by decide +kernel, entries, hscan, ?_, ?_⟩
  · refine Option.eq_none_iff_forall_ne_some.2 fun value hvalue => ?_
    obtain ⟨before, name, after, hsplit, hfound, hafter⟩ := (hlast _ _ value).1 hvalue
    match before, hsplit with
    | [], hsplit =>
        -- the file that documents the method is not the last one with the path
        obtain ⟨-, rfl⟩ := List.cons.inj hsplit
        have hpath : (Assoc.get? (Yaml.Value.str (Points.ofText "/users".toList))
            (itemsOf (sourceAt twoDocumentedFiles (routerFile "b.js")))).isSome := by decide +kernel
        exact nomatch (congrArg Option.isSome (hafter _ List.mem_cons_self)).symm.trans hpath
    | [_], hsplit =>
        obtain ⟨rfl, -⟩ := List.cons.inj (List.cons.inj hsplit).2
        have hnone : (usersMethod? (itemsOf (sourceAt twoDocumentedFiles (routerFile "b.js")))
            "get").isSome = false := by decide +kernel
        exact nomatch hnone.symm.trans (congrArg Option.isSome hfound)
    | _ :: _ :: before, hsplit => simp at hsplit
  · have hpost : (usersMethod? (itemsOf (sourceAt twoDocumentedFiles (routerFile "b.js")))
        "post").isSome := by decide +kernel
    obtain ⟨value, hvalue⟩ := Option.isSome_iff_exists.1 hpost
    refine Option.isSome_iff_exists.2 ⟨value, (hlast _ _ value).2 ?_⟩
    exact ⟨["a.js".toList], "b.js".toList, [], rfl, hvalue, fun _ h => absurd h List.not_mem_nil⟩

end ApiScan.Project
