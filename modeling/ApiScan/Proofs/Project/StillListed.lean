import ApiScan.Proofs.Project.SameScan

set_option autoImplicit false

/-! # Listings that stay possible

Source files that can be listed in one tree can be listed in another one, if the folder of the
listing is there and names that are new in it can be asked about. -/

namespace ApiScan

open ApiScan.Tree

namespace Project

variable {tree tree' : Tree} {root path : Path} {wanted : Text → Bool} {purpose : String}
  {database : Database} {schema : Text} {config : Config} {kind : Option Kind}

/-- A path that leads to a folder of the first tree leads to the same folder of the second one. -/
def StaysFolder (tree tree' : Tree) (path : Path) : Prop :=
  ∀ folder, tree.folder? path = .ok (some folder) → tree'.folder? path = .ok (some folder)

theorem staysFolder_of_keepsFolders (h : KeepsFolders tree tree') (path : Path) :
    StaysFolder tree tree' path := by
  intro folder hfolder
  obtain ⟨hfits, hleads⟩ := folder?_eq_some.1 hfolder
  exact folder?_eq_some.2 ⟨hfits, hleads.of_keepsFolders h⟩

/-- The names that are new in the folder of a path can be asked about. -/
def AsksNew (tree tree' : Tree) (path : Path) : Prop :=
  ∀ folder name, LeadsTo tree' path folder → (tree'.entry? (folder ++ [name])).isSome →
    tree.entry? (folder ++ [name]) = none → CanAsk path name

theorem asksNew_of_forall (h : ∀ place, (tree'.entry? place).isSome → (tree.entry? place).isSome)
    (path : Path) : AsksNew tree tree' path := by
  intro folder name _ hsome hnone
  have hold := h _ hsome
  rw [hnone] at hold
  exact nomatch hold

theorem canAsk_of_asksNew {folder : Place} {name : Text} (hask : AsksNew tree tree' path)
    (hleads : LeadsTo tree' path folder) (hname : name ∈ tree'.children folder)
    (hold : name ∈ tree.children folder → CanAsk path name) : CanAsk path name := by
  rw [mem_children] at hname hold
  cases he : tree.entry? (folder ++ [name]) with
  | none => exact hask folder name hleads hname he
  | some entry => exact hold (by rw [he]; rfl)

/-! ## Folders of files -/

theorem exists_finds_filesOf (hnamed : tree.Named) (hnamed' : tree'.Named)
    (hfolder : StaysFolder tree tree' path) (hask : AsksNew tree tree' path)
    (h : ∃ files, (filesOf purpose path wanted).Finds tree files) :
    ∃ files, (filesOf purpose path wanted).Finds tree' files := by
  obtain ⟨_, hfiles⟩ := h
  obtain ⟨folder, hplace, hall, -⟩ := (finds_filesOf_iff hnamed).1 hfiles
  have hplace' := hfolder folder hplace
  refine ⟨_, (finds_filesOf_iff hnamed').2 ⟨folder, hplace', fun name hname hwanted => ?_, rfl⟩⟩
  exact canAsk_of_asksNew hask (folder?_eq_some.1 hplace').2 hname fun hold =>
    hall name hold hwanted

theorem exists_finds_schemaFolder (htree : tree.WellFormed) (hnamed' : tree'.Named)
    (hfolder : StaysFolder tree tree' path) (hask : AsksNew tree tree' path)
    (hasksub : ∀ name, name ≠ Path.up → AsksNew tree tree' (path.step name))
    (h : ∃ files, (schemaFolder path).Finds tree files) :
    ∃ files, (schemaFolder path).Finds tree' files := by
  obtain ⟨_, hfiles⟩ := h
  obtain ⟨folder, hplace, hall, -⟩ := (finds_schemaFolder_iff htree.named).1 hfiles
  have hplace' := hfolder folder hplace
  obtain ⟨-, hleads'⟩ := folder?_eq_some.1 hplace'
  refine ⟨_, (finds_schemaFolder_iff hnamed').2 ⟨folder, hplace', fun name hname hmigrations => ?_,
    rfl⟩⟩
  refine ⟨canAsk_of_asksNew hask hleads' hname fun hold => (hall name hold hmigrations).1,
    fun hfits he' sub hsub hschema => ?_⟩
  refine canAsk_of_asksNew (hasksub name hfits.2.1) (leadsTo_step hleads' hfits.2 he') hsub
    fun hold => ?_
  -- a folder with something in it was there before
  obtain ⟨entry, hentry⟩ := Option.isSome_iff_exists.1 (mem_children.1 hold)
  have he := htree.entry?_parent hentry
  exact (hall name (mem_children.2 (by rw [he]; rfl)) hmigrations).2 hfits he sub hold hschema

/-! ## Source files -/

theorem exists_finds_modelFiles (htree : tree.WellFormed) (hnamed' : tree'.Named)
    (hfolder : StaysFolder tree tree' (root.under (modelsValue database schema)))
    (hask : AsksNew tree tree' (root.under (modelsValue database schema)))
    (hasksub : ∀ name, name ≠ Path.up →
      AsksNew tree tree' ((root.under (modelsValue database schema)).step name))
    (h : ∃ files, (modelFiles root database schema).Finds tree files) :
    ∃ files, (modelFiles root database schema).Finds tree' files := by
  rcases modelFiles_cases root database schema with he | he | ⟨wanted, he⟩ | he
  · exact ⟨[], by rw [he]; rfl⟩
  · exact ⟨_, by rw [he]; rfl⟩
  · rw [he] at h ⊢
    exact exists_finds_filesOf htree.named hnamed' hfolder hask h
  · rw [he] at h ⊢
    exact exists_finds_schemaFolder htree hnamed' hfolder hask hasksub h

/-- The folder of the files of routes. -/
def routesPath (root : Path) (config : Config) : Option Kind → Path
  | some .nextjs => routeRoot root config
  | _ => root.under config.routes.inPath

theorem exists_finds_routeNames (hnamed : tree.Named) (hnamed' : tree'.Named)
    (hfolder : StaysFolder tree tree' (routesPath root config kind))
    (hask : AsksNew tree tree' (routesPath root config kind))
    (h : ∃ names, (routeNames root config kind).Finds tree names) :
    ∃ names, (routeNames root config kind).Finds tree' names := by
  obtain ⟨names, hnames⟩ := h
  cases kind with
  | none => exact ⟨[], rfl⟩
  | some kind =>
      cases kind with
      | nextjs =>
          obtain ⟨folder, hplace, -⟩ := finds_routeFilesBelow.1 hnames
          exact ⟨_, finds_routeFilesBelow.2 ⟨folder, hfolder folder hplace, rfl⟩⟩
      | express =>
          obtain ⟨listed, hlisted, -⟩ := Survey.finds_bind.1 hnames
          obtain ⟨listed', hlisted'⟩ :=
            exists_finds_filesOf hnamed hnamed' hfolder hask ⟨listed, hlisted⟩
          exact ⟨_, Survey.finds_bind.2 ⟨listed', hlisted', rfl⟩⟩

/-- The files of routes can be listed in a tree in whose folders there is nothing but what stands in
    one of two trees in which they can be listed. -/
theorem exists_finds_routeNames_of_either {tree'' : Tree} (hnamed : tree.Named)
    (hnamed' : tree'.Named) (hnamed'' : tree''.Named) (hkeeps : KeepsFolders tree tree'')
    (hkeeps' : KeepsFolders tree' tree'')
    (hnew : ∀ place, (tree''.entry? place).isSome →
      (tree.entry? place).isSome ∨ (tree'.entry? place).isSome)
    (h : ∃ names, (routeNames root config kind).Finds tree names)
    (h' : ∃ names, (routeNames root config kind).Finds tree' names) :
    ∃ names, (routeNames root config kind).Finds tree'' names := by
  obtain ⟨names, hnames⟩ := h
  obtain ⟨names', hnames'⟩ := h'
  cases kind with
  | none => exact ⟨[], rfl⟩
  | some kind =>
      cases kind with
      | nextjs =>
          obtain ⟨folder, hplace, -⟩ := finds_routeFilesBelow.1 hnames
          exact ⟨_, finds_routeFilesBelow.2
            ⟨folder, staysFolder_of_keepsFolders hkeeps _ folder hplace, rfl⟩⟩
      | express =>
          obtain ⟨folder, hplace, hall, -⟩ := (finds_routerFiles_iff hnamed).1 hnames
          obtain ⟨folder', hplace', hall', -⟩ := (finds_routerFiles_iff hnamed').1 hnames'
          have hplace'' := staysFolder_of_keepsFolders hkeeps _ folder hplace
          obtain rfl : folder = folder' := (folder?_eq_some.1 hplace'').2.unique
            (folder?_eq_some.1 (staysFolder_of_keepsFolders hkeeps' _ folder' hplace')).2
          refine ⟨_, (finds_routerFiles_iff hnamed'').2 ⟨folder, hplace'', fun name hname => ?_, rfl⟩⟩
          rcases hnew _ (mem_children.1 hname) with hold | hold
          · exact hall name (mem_children.2 hold)
          · exact hall' name (mem_children.2 hold)

/-- A file of routes that is listed in a tree is listed in an earlier one in which it stands. -/
theorem mem_routeNames_of_entry? (hnamed : tree.Named) (hlisted : tree.ListedOnce)
    (hnamed' : tree'.Named) (hlisted' : tree'.ListedOnce) (hkeeps : KeepsFolders tree tree')
    {names names' : List Text} (hnames : (routeNames root config kind).Finds tree names)
    (hnames' : (routeNames root config kind).Finds tree' names') {name : Text} (hname : name ∈ names')
    (hsame : tree'.entry? (routePath root config kind name).normalize.steps
      = tree.entry? (routePath root config kind name).normalize.steps) : name ∈ names := by
  cases kind with
  | none =>
      rw [← Survey.finds_pure.1 hnames'] at hname
      exact absurd hname List.not_mem_nil
  | some kind =>
      cases kind with
      | express =>
          simp only [routeNames, routePath] at hnames hnames' hsame
          obtain ⟨folder, hplace, -, rfl⟩ := (finds_routerFiles_iff hnamed).1 hnames
          obtain ⟨folder', hplace', -, rfl⟩ := (finds_routerFiles_iff hnamed').1 hnames'
          have hleads := (folder?_eq_some.1 hplace).2
          obtain rfl := (hleads.of_keepsFolders hkeeps).unique (folder?_eq_some.1 hplace').2
          obtain ⟨file, hfile, rfl⟩ := List.mem_map.1 hname
          obtain ⟨name, hwanted, hfits, hstands, rfl⟩ := mem_filesHere.1 hfile
          rw [Path.name_step, normalize_step hleads hfits.2.1] at hsame
          rw [hsame] at hstands
          exact List.mem_map_of_mem (mem_filesHere.2 ⟨name, hwanted, hfits, hstands, rfl⟩)
      | nextjs =>
          simp only [routeNames, routePath] at hnames hnames' hsame
          obtain ⟨folder, hplace, rfl⟩ := finds_routeFilesBelow.1 hnames
          obtain ⟨folder', hplace', rfl⟩ := finds_routeFilesBelow.1 hnames'
          have hleads := (folder?_eq_some.1 hplace).2
          obtain rfl := (hleads.of_keepsFolders hkeeps).unique (folder?_eq_some.1 hplace').2
          obtain ⟨steps, hsteps, rfl⟩ := List.mem_map.1 (Text.mem_sort.1 hname)
          obtain ⟨hbelow, hserved⟩ := List.mem_filter.1 hsteps
          have hne : folder ++ steps ≠ [] := by
            intro he
            rw [(List.append_eq_nil_iff.1 he).2] at hserved
            exact absurd hserved (by decide)
          obtain ⟨content, he⟩ := (hlisted'.mem_filesBelow hne).1 hbelow
          have hall : ∀ name ∈ steps, IsName name := fun name hname =>
            hnamed' _ (by rw [he]; rfl) name (List.mem_append_right _ hname)
          rw [join_joinWith_of_isName hall,
            normalize_append hleads fun hup => (hall _ hup).2.2.2 rfl] at hsame
          exact Text.mem_sort.2 (List.mem_map_of_mem (List.mem_filter.2
            ⟨(hlisted.mem_filesBelow hne).2 ⟨content, hsame ▸ he⟩, hserved⟩))

/-- Two trees of which each extends the other have the same files of routes with the same texts. -/
theorem sameRoutes_of_extends_both {apart : Place → Prop} (h : Extends apart tree tree')
    (h' : Extends apart tree' tree) {names' : List Text}
    (hnames' : (routeNames root config kind).Finds tree' names')
    (hapart : ∀ file ∈ mainFiles root config kind ++ names'.map (routePath root config kind),
      ¬ apart file.normalize.steps) : SameRoutes root config kind tree tree' := by
  obtain ⟨names, hnames⟩ := exists_finds_routeNames h.named h'.named
    (staysFolder_of_keepsFolders h'.keepsFolders _)
    (asksNew_of_forall (fun _ hsome => h.isSome_entry? hsome) _) ⟨names', hnames'⟩
  exact sameRoutes_of_extends h hnames hnames' hapart fun file _ hsome => h'.isSome_sourceText? hsome

/-! ## Paths from the root -/

/-- A path that goes on from the root without steps up. -/
def GoesDown (root path : Path) : Prop :=
  ∃ steps, Path.up ∉ steps ∧ path = { root with steps := root.steps ++ steps }

theorem GoesDown.append {more : List Text} (h : GoesDown root path) (hup : Path.up ∉ more) :
    GoesDown root { path with steps := path.steps ++ more } := by
  obtain ⟨steps, hsteps, rfl⟩ := h
  exact ⟨steps ++ more, by simp [hsteps, hup], by simp only [List.append_assoc]⟩

theorem GoesDown.step {name : Text} (h : GoesDown root path) (hup : name ≠ Path.up) :
    GoesDown root (path.step name) := h.append (by simpa using Ne.symm hup)

theorem goesDown_under {value : Text} (h : Path.up ∉ Path.stepsUnder value) :
    GoesDown root (root.under value) := ⟨_, h, Path.under_eq root value⟩

theorem goesDown_of_mem_filesHere {folder : Place} {file : Path} (h : GoesDown root path)
    (hfile : file ∈ filesHere tree path folder wanted) : GoesDown root file := by
  obtain ⟨name, -, hfits, -, rfl⟩ := mem_filesHere.1 hfile
  exact h.step hfits.2.1

/-- The files of models are below the folder that the configuration names. -/
theorem goesDown_of_modelFiles (hnamed : tree.Named)
    (hup : Path.up ∉ Path.stepsUnder (modelsValue database schema)) {files : List Path}
    (hfiles : (modelFiles root database schema).Finds tree files) :
    ∀ file ∈ files, GoesDown root file := by
  have hvalue : GoesDown root (root.under (modelsValue database schema)) := goesDown_under hup
  rcases modelFiles_cases root database schema with he | he | ⟨wanted, he⟩ | he
  · rw [he] at hfiles
    rw [← Survey.finds_pure.1 hfiles]
    exact fun _ h => absurd h List.not_mem_nil
  · rw [he] at hfiles
    rw [← Survey.finds_pure.1 hfiles]
    exact List.forall_mem_singleton.2 hvalue
  · rw [he] at hfiles
    obtain ⟨folder, -, -, rfl⟩ := (finds_filesOf_iff hnamed).1 hfiles
    exact fun file hfile => goesDown_of_mem_filesHere hvalue hfile
  · rw [he] at hfiles
    obtain ⟨folder, -, -, rfl⟩ := (finds_schemaFolder_iff hnamed).1 hfiles
    intro file hfile
    obtain ⟨name, -, hfile⟩ := List.mem_flatMap.1 hfile
    unfold schemaFilesHere at hfile
    split at hfile
    · next hfits =>
        split at hfile
        · split at hfile
          · rw [List.mem_singleton.1 hfile]
            exact hvalue.step hfits.2.1
          · exact absurd hfile List.not_mem_nil
        · exact goesDown_of_mem_filesHere (hvalue.step hfits.2.1) hfile
        · exact absurd hfile List.not_mem_nil
    · exact absurd hfile List.not_mem_nil

theorem goesDown_routesPath (h : Path.up ∉ Path.stepsUnder config.routes.inPath) :
    GoesDown root (routesPath root config kind) := by
  cases kind with
  | none => exact goesDown_under h
  | some kind =>
      cases kind with
      | express => exact goesDown_under h
      | nextjs =>
          refine goesDown_under ?_
          unfold orElse
          split
          · decide
          · exact h

/-- The files of routes are below the folder that the configuration names. -/
theorem goesDown_of_routeNames (hnamed : tree.Named) (hlisted : tree.ListedOnce)
    (hup : Path.up ∉ Path.stepsUnder config.routes.inPath) {names : List Text}
    (hnames : (routeNames root config kind).Finds tree names) :
    ∀ name ∈ names, GoesDown root (routePath root config kind name) := by
  cases kind with
  | none =>
      rw [← Survey.finds_pure.1 hnames]
      exact fun _ h => absurd h List.not_mem_nil
  | some kind =>
      cases kind with
      | express =>
          simp only [routeNames, routePath] at hnames ⊢
          obtain ⟨folder, -, -, rfl⟩ := (finds_routerFiles_iff hnamed).1 hnames
          intro name hname
          obtain ⟨file, hfile, rfl⟩ := List.mem_map.1 hname
          obtain ⟨name, -, hfits, -, rfl⟩ := mem_filesHere.1 hfile
          rw [Path.name_step]
          exact (goesDown_under hup).step hfits.2.1
      | nextjs =>
          simp only [routeNames, routePath] at hnames ⊢
          obtain ⟨folder, -, rfl⟩ := finds_routeFilesBelow.1 hnames
          intro text htext
          obtain ⟨steps, hsteps, rfl⟩ := mem_listing htext
          have hall : ∀ name ∈ steps, IsName name := by
            by_cases hne : folder ++ steps = []
            · rw [(List.append_eq_nil_iff.1 hne).2]
              exact fun _ h => absurd h List.not_mem_nil
            · obtain ⟨content, he⟩ := (hlisted.mem_filesBelow hne).1 hsteps
              exact fun name hname => hnamed _ (by rw [he]; rfl) name
                (List.mem_append_right _ hname)
          rw [join_joinWith_of_isName hall]
          have hroot : GoesDown root (routesPath root config (some .nextjs)) :=
            goesDown_routesPath hup
          exact hroot.append fun h => (hall _ h).2.2.2 rfl

end Project

end ApiScan
