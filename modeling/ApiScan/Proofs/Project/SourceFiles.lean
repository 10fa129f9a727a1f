import ApiScan.Proofs.Project.Files

set_option autoImplicit false

/-! # The source files of a project

Which files a scan of models takes, as listings of a single folder. A tree that extends another one
has the same source files, if none of them stands apart, and they can be listed in one tree if they
can be listed in the other and the names beyond can be asked about. -/

namespace ApiScan.Project

open ApiScan.Tree

variable {tree tree' : Tree} {root path : Path} {folder : Place} {name : Text}
  {wanted : Text → Bool} {files files' : List Path} {apart : Place → Prop} {purpose : String}
  {database : Database} {schema : Text} {config : Config}

/-! ## Folders of files -/

theorem finds_expectFolder {done : Unit} : (expectFolder purpose path).Finds tree done ↔
    ∃ folder, tree.folder? path = .ok (some folder) := by
  unfold expectFolder
  rw [Survey.finds_bind]
  constructor
  · rintro ⟨found, hfound, hrest⟩
    cases found with
    | false => exact absurd hrest Survey.not_finds_fail
    | true =>
        obtain ⟨place?, hplace, hsome⟩ := Survey.finds_isFolder.1 hfound
        obtain ⟨folder, rfl⟩ := Option.isSome_iff_exists.1 hsome
        exact ⟨folder, hplace⟩
  · rintro ⟨folder, hfolder⟩
    exact ⟨true, Survey.finds_isFolder.2 ⟨_, hfolder, rfl⟩, rfl⟩

theorem finds_filesOf_iff (hnamed : tree.Named) :
    (filesOf purpose path wanted).Finds tree files ↔
      ∃ folder, tree.folder? path = .ok (some folder)
        ∧ (∀ name ∈ tree.children folder, wanted name = true → CanAsk path name)
        ∧ files = filesHere tree path folder wanted := by
  unfold filesOf
  rw [Survey.finds_bind]
  simp only [finds_expectFolder, exists_const]
  constructor
  · rintro ⟨⟨folder, hfolder⟩, hfiles⟩
    obtain ⟨hfits, hleads⟩ := folder?_eq_some.1 hfolder
    exact ⟨folder, hfolder, (finds_filesIn_iff hfits hleads (hnamed.up_not_mem_children _)).1 hfiles⟩
  · rintro ⟨folder, hfolder, hfiles⟩
    obtain ⟨hfits, hleads⟩ := folder?_eq_some.1 hfolder
    exact ⟨⟨folder, hfolder⟩,
      (finds_filesIn_iff hfits hleads (hnamed.up_not_mem_children _)).2 hfiles⟩

/-- The files that are found in a folder of schema files. -/
def schemaFolder (folder : Path) : Survey (List Path) := do
  expectFolder "schema" folder
  let entries := (← Survey.names folder).filter (· ≠ migrationsFolder)
  return (← (entries.map folder.step).mapM schemaFilesAt).flatten

/-- The schema files that the entries of a folder stand for. -/
def schemaFolderFiles (tree : Tree) (path : Path) (folder : Place) : List Path :=
  ((tree.names folder).filter (· ≠ migrationsFolder)).flatMap (schemaFilesHere tree path folder)

theorem finds_schemaFolder_iff (hnamed : tree.Named) :
    (schemaFolder path).Finds tree files ↔
      ∃ folder, tree.folder? path = .ok (some folder)
        ∧ (∀ name ∈ tree.children folder, name ≠ migrationsFolder →
            CanAskSchema tree path folder name)
        ∧ files = schemaFolderFiles tree path folder := by
  have hlist (folder : Place) (hfolder : tree.folder? path = .ok (some folder)) :
      (do
        let entries := (← Survey.names path).filter (· ≠ migrationsFolder)
        return (← (entries.map path.step).mapM schemaFilesAt).flatten :
          Survey (List Path)).Finds tree files ↔
        (∀ name ∈ tree.children folder, name ≠ migrationsFolder →
            CanAskSchema tree path folder name)
          ∧ files = schemaFolderFiles tree path folder := by
    obtain ⟨hfits, hleads⟩ := folder?_eq_some.1 hfolder
    have hup {name : Text} (hname : name ∈ tree.children folder) : name ≠ Path.up := fun he =>
      hnamed.up_not_mem_children folder (he ▸ hname)
    have hnames {names : List Text} : (Survey.names path).Finds tree names ↔
        names = Text.sort (tree.children folder) := by
      rw [Survey.names, Survey.finds_ask, namesAt_of_leadsTo hfits hleads, Except.ok.injEq, eq_comm]
    have hentries {parts : List (List Path)} :
        ((((Text.sort (tree.children folder)).filter (· ≠ migrationsFolder)).map
            path.step).mapM schemaFilesAt).Finds tree parts ↔
          (∀ name ∈ tree.children folder, name ≠ migrationsFolder →
              CanAskSchema tree path folder name)
            ∧ parts = ((Text.sort (tree.children folder)).filter (· ≠ migrationsFolder)).map
                (schemaFilesHere tree path folder) := by
      have hentry : ∀ name ∈ (Text.sort (tree.children folder)).filter (· ≠ migrationsFolder),
          ∀ files, ((schemaFilesAt ∘ path.step) name).Finds tree files ↔
            CanAskSchema tree path folder name ∧ files = schemaFilesHere tree path folder name :=
        fun name hname files => finds_schemaFilesAt_iff hnamed hfits hleads
          (hup (Text.mem_sort.1 (List.mem_filter.1 hname).1))
      rw [List.mapM_map, Survey.finds_mapM_iff_of_forall hentry]
      simp only [List.mem_filter, Text.mem_sort, decide_eq_true_eq, and_imp]
    rw [Survey.finds_bind]
    simp only [hnames, exists_eq_left, Survey.finds_bind, hentries, Survey.finds_pure, and_assoc,
      exists_and_left, schemaFolderFiles, names_eq, List.flatMap_def]
    exact and_congr_right fun _ => eq_comm
  unfold schemaFolder
  rw [Survey.finds_bind]
  simp only [finds_expectFolder, exists_const]
  constructor
  · rintro ⟨⟨folder, hfolder⟩, h⟩
    exact ⟨folder, hfolder, (hlist folder hfolder).1 h⟩
  · rintro ⟨folder, hfolder, h⟩
    exact ⟨⟨folder, hfolder⟩, (hlist folder hfolder).2 h⟩

/-! ## The files of models -/

/-- What the configuration says of the place of the models: the schema value, of which a library of
    column tables takes what stands before a star. -/
def modelsValue (database : Database) (schema : Text) : Text :=
  match database with
  | .drizzle =>
    match Text.cut? ['*'] schema with
    | some (folder, _) => folder
    | none => schema
  | _ => schema

/-- The files of models are none, or a single one, or those in a folder, or the schema files in a
    folder. -/
theorem modelFiles_cases (root : Path) (database : Database) (schema : Text) :
    modelFiles root database schema = pure []
      ∨ modelFiles root database schema = pure [root.under (modelsValue database schema)]
      ∨ (∃ wanted, modelFiles root database schema
          = filesOf "schema" (root.under (modelsValue database schema)) wanted)
      ∨ modelFiles root database schema
          = schemaFolder (root.under (modelsValue database schema)) := by
  unfold modelFiles
  split
  · exact Or.inl rfl
  · cases database with
    | unknown => exact Or.inl rfl
    | mongoose => exact Or.inr (Or.inr (Or.inl ⟨_, rfl⟩))
    | prisma =>
        dsimp only
        split
        · exact Or.inr (Or.inl rfl)
        · refine Or.inr (Or.inr (Or.inr ?_))
          show _ = schemaFolder (root.under schema)
          rw [schemaFolder]
    | drizzle =>
        unfold modelsValue
        cases hcut : Text.cut? ['*'] schema with
        | some parts => exact Or.inr (Or.inr (Or.inl ⟨_, rfl⟩))
        | none =>
            dsimp only
            split
            · exact Or.inr (Or.inl rfl)
            · exact Or.inr (Or.inr (Or.inl ⟨_, rfl⟩))

/-! ## Extensions -/

/-- The schema files of an entry are the same in a tree that extends another one, if none of them
    stands apart. -/
theorem schemaFilesHere_eq (h : Extends apart tree tree') (htree : tree.WellFormed)
    (hleads : LeadsTo tree path folder)
    (hapart : ∀ file ∈ schemaFilesHere tree' path folder name, ¬ apart file.normalize.steps) :
    schemaFilesHere tree' path folder name = schemaFilesHere tree path folder name := by
  unfold schemaFilesHere at hapart ⊢
  by_cases hname : FitsIn path name
  · rw [if_pos hname] at hapart
    rw [if_pos hname, if_pos hname]
    have hplace := normalize_step hleads hname.2.1
    have hleads' := hleads.of_keepsFolders h.keepsFolders
    rcases he : tree.entry? (folder ++ [name]) with _ | _ | content
    · rcases he' : tree'.entry? (folder ++ [name]) with _ | _ | content
      · rfl
      · -- a file in a new folder is new, and so it stands apart
        rw [he'] at hapart
        refine List.eq_nil_iff_forall_not_mem.2 fun file hfile => ?_
        have hsub := hapart file hfile
        obtain ⟨sub, -, hfits, ⟨content, hcontent⟩, rfl⟩ := mem_filesHere.1 hfile
        rw [normalize_step (leadsTo_step hleads' hname.2 he') hfits.2.1] at hsub
        exact nomatch he.symm.trans (htree.entry?_parent ((h.entry?_file_iff hsub).1 hcontent))
      · rw [he'] at hapart
        refine if_neg fun hschema => ?_
        have hnot := hapart (path.step name) (by rw [if_pos hschema]; exact List.mem_singleton_self _)
        rw [hplace] at hnot
        exact nomatch he.symm.trans ((h.entry?_file_iff hnot).1 he')
    · have he' := h.keepsFolders _ he
      rw [he'] at hapart ⊢
      exact filesHere_eq h (leadsTo_step hleads hname.2 he) hapart
    · obtain ⟨content', he', -⟩ := h.keepsFiles _ _ he
      rw [he']
  · rw [if_neg hname, if_neg hname]

theorem flatMap_filter_of_forall {α β : Type} {p : α → Bool} {f : α → List β} {items : List α}
    (h : ∀ a ∈ items, p a = false → f a = []) : (items.filter p).flatMap f = items.flatMap f := by
  induction items with
  | nil => rfl
  | cons a more ih =>
      rw [List.forall_mem_cons] at h
      cases hp : p a with
      | true => rw [List.filter_cons_of_pos hp, List.flatMap_cons, List.flatMap_cons, ih h.2]
      | false =>
          rw [List.filter_cons_of_neg (by simp [hp]), List.flatMap_cons, h.1 hp, ih h.2,
            List.nil_append]

theorem schemaFolderFiles_eq (h : Extends apart tree tree') (htree : tree.WellFormed)
    (hleads : LeadsTo tree path folder)
    (hapart : ∀ file ∈ schemaFolderFiles tree' path folder, ¬ apart file.normalize.steps) :
    schemaFolderFiles tree' path folder = schemaFolderFiles tree path folder := by
  unfold schemaFolderFiles at hapart ⊢
  rw [List.forall_mem_flatMap] at hapart
  have hnew : ∀ name ∈ (tree'.names folder).filter (· ≠ migrationsFolder),
      (tree.entry? (folder ++ [name])).isSome = false →
        schemaFilesHere tree path folder name = [] := by
    intro name _ hnone
    rw [Option.isSome_eq_false_iff, Option.isNone_iff_eq_none] at hnone
    rw [schemaFilesHere, hnone]
    exact ite_self []
  have hold : ((tree'.names folder).filter (· ≠ migrationsFolder)).filter
      (fun name => (tree.entry? (folder ++ [name])).isSome)
        = (tree.names folder).filter (· ≠ migrationsFolder) := by
    rw [names_eq, names_eq, List.filter_filter, Text.filter_sort, Text.filter_sort]
    refine Text.sort_eq_of_mem_iff ((h.listedOnce'.nodup_children folder).filter _)
      ((h.listedOnce.nodup_children folder).filter _) fun name => ?_
    simp only [List.mem_filter, mem_children, Bool.and_eq_true]
    exact ⟨fun ⟨_, hsome, hname⟩ => ⟨hsome, hname⟩,
      fun ⟨hsome, hname⟩ => ⟨h.isSome_entry? hsome, hsome, hname⟩⟩
  rw [← hold, flatMap_filter_of_forall hnew]
  exact List.flatMap_congr fun name hname => schemaFilesHere_eq h htree hleads (hapart name hname)

/-- **The files of models are the same in a tree that extends another one**, if none of them stands
    apart. -/
theorem modelFiles_eq (h : Extends apart tree tree') (htree : tree.WellFormed)
    (hfiles : (modelFiles root database schema).Finds tree files)
    (hfiles' : (modelFiles root database schema).Finds tree' files')
    (hapart : ∀ file ∈ files', ¬ apart file.normalize.steps) : files' = files := by
  rcases modelFiles_cases root database schema with he | he | ⟨wanted, he⟩ | he
  · rw [he] at hfiles hfiles'
    exact hfiles'.unique hfiles
  · rw [he] at hfiles hfiles'
    exact hfiles'.unique hfiles
  · rw [he] at hfiles hfiles'
    obtain ⟨folder, hfolder, -, rfl⟩ := (finds_filesOf_iff h.named_left).1 hfiles
    obtain ⟨folder', hfolder', -, rfl⟩ := (finds_filesOf_iff h.named).1 hfiles'
    obtain ⟨-, hleads⟩ := folder?_eq_some.1 hfolder
    obtain ⟨-, hleads'⟩ := folder?_eq_some.1 hfolder'
    obtain rfl := (hleads.of_keepsFolders h.keepsFolders).unique hleads'
    exact filesHere_eq h hleads hapart
  · rw [he] at hfiles hfiles'
    obtain ⟨folder, hfolder, -, rfl⟩ := (finds_schemaFolder_iff h.named_left).1 hfiles
    obtain ⟨folder', hfolder', -, rfl⟩ := (finds_schemaFolder_iff h.named).1 hfiles'
    obtain ⟨-, hleads⟩ := folder?_eq_some.1 hfolder
    obtain ⟨-, hleads'⟩ := folder?_eq_some.1 hfolder'
    obtain rfl := (hleads.of_keepsFolders h.keepsFolders).unique hleads'
    exact schemaFolderFiles_eq h htree hleads hapart

/-! ## The files of routes -/

/-- The files of routes, by their names or by their paths from the folder of routes. -/
def routeNames (root : Path) (config : Config) : Option Kind → Survey (List Text)
  | none => return []
  | some .nextjs => routeFilesBelow (routeRoot root config)
  | some .express => routerFiles root config.routes.inPath

/-- The path of a file of routes. -/
def routePath (root : Path) (config : Config) : Option Kind → Text → Path
  | some .nextjs => (routeRoot root config).join
  | _ => (root.under config.routes.inPath).step

theorem finds_documentedFiles {kind : Option Kind} :
    (documentedFiles root config kind).Finds tree files ↔
      ∃ names, (routeNames root config kind).Finds tree names
        ∧ files = names.map (routePath root config kind) := by
  match kind with
  | none =>
      refine ⟨fun h => ⟨[], rfl, (Survey.finds_pure.1 h).symm⟩, ?_⟩
      rintro ⟨names, hnames, rfl⟩
      obtain rfl := Survey.finds_pure.1 hnames
      rfl
  | some .nextjs =>
      show (routeFilesBelow _ >>= fun names => pure (names.map _)).Finds tree files ↔ _
      simp only [Survey.finds_bind, Survey.finds_pure, eq_comm]
      rfl
  | some .express =>
      show (routerFiles _ _ >>= fun names => pure (names.map _)).Finds tree files ↔ _
      simp only [Survey.finds_bind, Survey.finds_pure, eq_comm]
      rfl

theorem finds_routerFiles_iff (hnamed : tree.Named) {routes : Text} {names : List Text} :
    (routerFiles root routes).Finds tree names ↔
      ∃ folder, tree.folder? (root.under routes) = .ok (some folder)
        ∧ (∀ name ∈ tree.children folder, CanAsk (root.under routes) name)
        ∧ names = (filesHere tree (root.under routes) folder fun _ => true).map Path.name := by
  unfold routerFiles
  rw [Survey.finds_bind]
  simp only [finds_filesOf_iff hnamed, Survey.finds_pure, true_implies]
  constructor
  · rintro ⟨_, ⟨folder, hfolder, hask, rfl⟩, rfl⟩
    exact ⟨folder, hfolder, hask, rfl⟩
  · rintro ⟨folder, hfolder, hask, rfl⟩
    exact ⟨_, ⟨folder, hfolder, hask, rfl⟩, rfl⟩

/-- The listing of the files below a folder is the same in a tree that extends another one, if none
    of the files stands apart. -/
theorem listing_filesBelow_eq (h : Extends apart tree tree') (hleads : LeadsTo tree path folder)
    (hapart : ∀ text ∈ listing (tree'.filesBelow folder),
      ¬ apart (path.join text).normalize.steps) :
    listing (tree'.filesBelow folder) = listing (tree.filesBelow folder) := by
  refine Text.sort_congr (List.Perm.map _ ?_)
  refine (List.perm_ext_iff_of_nodup ((h.listedOnce'.nodup_filesBelow folder).filter _)
    ((h.listedOnce.nodup_filesBelow folder).filter _)).2 fun steps => ?_
  rw [List.mem_filter, List.mem_filter]
  refine and_congr_left fun hserved => ?_
  have hne : folder ++ steps ≠ [] := by
    rintro he
    rw [(List.append_eq_nil_iff.1 he).2] at hserved
    exact absurd hserved (by decide)
  rw [h.listedOnce'.mem_filesBelow hne, h.listedOnce.mem_filesBelow hne]
  constructor
  · rintro ⟨content, he'⟩
    have hnames : ∀ name ∈ steps, IsName name := fun name hname =>
      h.named _ (by rw [he']; rfl) name (List.mem_append_right _ hname)
    have htext : Text.joinWith ['/'] steps ∈ listing (tree'.filesBelow folder) :=
      Text.mem_sort.2 (List.mem_map_of_mem (List.mem_filter.2
        ⟨(h.listedOnce'.mem_filesBelow hne).2 ⟨content, he'⟩, hserved⟩))
    have hplace := hapart _ htext
    rw [join_joinWith_of_isName hnames,
      normalize_append hleads fun hup => (hnames _ hup).2.2.2 rfl] at hplace
    exact ⟨content, (h.entry?_file_iff hplace).1 he'⟩
  · rintro ⟨content, he⟩
    obtain ⟨content', he', -⟩ := h.keepsFiles _ _ he
    exact ⟨content', he'⟩

/-- The router files are the same in a tree that extends another one, if none of them stands
    apart. -/
theorem routerFiles_eq (h : Extends apart tree tree') {routes : Text} {names names' : List Text}
    (hnames : (routerFiles root routes).Finds tree names)
    (hnames' : (routerFiles root routes).Finds tree' names')
    (hapart : ∀ name ∈ names', ¬ apart ((root.under routes).step name).normalize.steps) :
    names' = names := by
  obtain ⟨folder, hfolder, -, rfl⟩ := (finds_routerFiles_iff h.named_left).1 hnames
  obtain ⟨folder', hfolder', -, rfl⟩ := (finds_routerFiles_iff h.named).1 hnames'
  obtain ⟨-, hleads⟩ := folder?_eq_some.1 hfolder
  obtain ⟨-, hleads'⟩ := folder?_eq_some.1 hfolder'
  obtain rfl := (hleads.of_keepsFolders h.keepsFolders).unique hleads'
  refine congrArg _ (filesHere_eq h hleads fun file hfile => ?_)
  have hplace := hapart _ (List.mem_map_of_mem hfile)
  obtain ⟨name, -, -, -, rfl⟩ := mem_filesHere.1 hfile
  rwa [Path.name_step] at hplace

/-- The files below the folder of file routes are the same in a tree that extends another one, if
    none of them stands apart. -/
theorem routeFilesBelow_eq (h : Extends apart tree tree') {names names' : List Text}
    (hnames : (routeFilesBelow path).Finds tree names)
    (hnames' : (routeFilesBelow path).Finds tree' names')
    (hapart : ∀ name ∈ names', ¬ apart (path.join name).normalize.steps) : names' = names := by
  obtain ⟨folder, hfolder, rfl⟩ := finds_routeFilesBelow.1 hnames
  obtain ⟨folder', hfolder', rfl⟩ := finds_routeFilesBelow.1 hnames'
  obtain ⟨-, hleads⟩ := folder?_eq_some.1 hfolder
  obtain ⟨-, hleads'⟩ := folder?_eq_some.1 hfolder'
  obtain rfl := (hleads.of_keepsFolders h.keepsFolders).unique hleads'
  exact listing_filesBelow_eq h hleads hapart

/-- **The files of routes are the same in a tree that extends another one**, if none of them stands
    apart. -/
theorem routeNames_eq (h : Extends apart tree tree') {kind : Option Kind} {names names' : List Text}
    (hnames : (routeNames root config kind).Finds tree names)
    (hnames' : (routeNames root config kind).Finds tree' names')
    (hapart : ∀ name ∈ names', ¬ apart (routePath root config kind name).normalize.steps) :
    names' = names := by
  cases kind with
  | none => exact hnames'.unique hnames
  | some kind =>
      cases kind with
      | nextjs =>
          simp only [routePath, routeNames] at hapart hnames hnames'
          exact routeFilesBelow_eq h hnames hnames' hapart
      | express =>
          simp only [routePath, routeNames] at hapart hnames hnames'
          exact routerFiles_eq h hnames hnames' hapart

end ApiScan.Project
