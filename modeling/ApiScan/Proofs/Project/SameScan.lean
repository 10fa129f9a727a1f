import ApiScan.Proofs.Project.Documented
import ApiScan.Proofs.Project.SourceFiles

set_option autoImplicit false

/-! # Scans that find the same

What a scan finds comes from the source files that it takes and from their texts. Two trees with the
same source files, which have the same texts, are scanned alike. -/

namespace ApiScan

open ApiScan.Tree

variable {tree tree' : Tree} {root path : Path} {config : Config} {kind : Option Project.Kind}

/-! ## Texts of files -/

theorem FileRoute.extract_congr {files : List Text} {lookup lookup' : Text → Option Text}
    (h : ∀ file ∈ files, lookup' file = lookup file) : extract files lookup' = extract files lookup := by
  have hentries : files.map (entriesOf lookup') = files.map (entriesOf lookup) :=
    List.map_congr_left fun file hfile => by rw [entriesOf, entriesOf, h file hfile]
  rw [extract, extract, hentries]

theorem Router.extract_congr {mainText folder : Text} {files : List Text}
    {lookup lookup' : Text → Option Text} (h : ∀ file ∈ files, lookup' file = lookup file) :
    extract mainText folder files lookup' = extract mainText folder files lookup := by
  have hgroups (mounts : List (Text × Text)) :
      files.map (groupOf mounts lookup') = files.map (groupOf mounts lookup) :=
    List.map_congr_left fun file hfile => by rw [groupOf, groupOf, h file hfile]
  rw [extract, extract, hgroups]

namespace Project

theorem readable_congr : Readable tree' path ↔ Readable tree path := by
  rw [Readable, Readable, ne_eq, ne_eq, read_eq_nulInPath_iff, read_eq_nulInPath_iff]

theorem finds_sourceText?_iff {text? : Option Text} :
    (Survey.sourceText? path).Finds tree text? ↔
      Readable tree path ∧ tree.sourceText? path = text? := by
  unfold Survey.Finds Survey.sourceText? Readable Tree.sourceText?
  cases tree.read path with
  | ok content => simp [Except.toOption]
  | error fault => cases fault <;> simp [Except.toOption]

theorem finds_sourceText?_congr (h : tree'.sourceText? path = tree.sourceText? path)
    {text? : Option Text} (hfinds : (Survey.sourceText? path).Finds tree text?) :
    (Survey.sourceText? path).Finds tree' text? := by
  rw [finds_sourceText?_iff] at hfinds ⊢
  exact ⟨readable_congr.2 hfinds.1, h.trans hfinds.2⟩

/-! ## Models -/

theorem finds_scanModelFile_congr {extract : Text → Text → Findings Model}
    (h : tree'.sourceText? path = tree.sourceText? path) {models : List Model}
    (hfinds : (scanModelFile extract path).Finds tree models) :
    (scanModelFile extract path).Finds tree' models := by
  obtain ⟨text?, htext, hrest⟩ := Survey.finds_bind.1 hfinds
  refine Survey.finds_bind.2 ⟨text?, finds_sourceText?_congr h htext, ?_⟩
  cases text? with
  | none => exact hrest
  | some text =>
      obtain ⟨found, hfound, hlast⟩ := Survey.finds_bind.1 hrest
      refine Survey.finds_bind.2 ⟨found, hfound, ?_⟩
      cases found with
      | nil => exact hlast
      | cons model more => exact hlast

/-- Two trees have the same files of models, with the same texts. -/
def SameModels (root : Path) (config : Config) (tree tree' : Tree) : Prop :=
  ∃ files, (modelFiles root config.database config.schema.inPath).Finds tree files
    ∧ (modelFiles root config.database config.schema.inPath).Finds tree' files
    ∧ ∀ file ∈ files, tree'.sourceText? file = tree.sourceText? file

theorem SameModels.symm (h : SameModels root config tree tree') :
    SameModels root config tree' tree := by
  obtain ⟨files, hfiles, hfiles', htexts⟩ := h
  exact ⟨files, hfiles', hfiles, fun file hfile => (htexts file hfile).symm⟩

/-- **Models are scanned alike from files that are the same and have the same texts.** -/
theorem SameModels.finds_scanModels (hsame : SameModels root config tree tree') {models : List Model}
    (h : (scanModels root config).Finds tree models) :
    (scanModels root config).Finds tree' models := by
  obtain ⟨files, hfiles, hfiles', htexts⟩ := hsame
  unfold scanModels at h ⊢
  split at h
  · exact h
  · obtain ⟨listed, hlisted, hrest⟩ := Survey.finds_bind.1 h
    obtain rfl := hlisted.unique hfiles
    obtain ⟨found, hfound, hpure⟩ := Survey.finds_bind.1 hrest
    exact Survey.finds_bind.2 ⟨_, hfiles', Survey.finds_bind.2 ⟨found,
      Survey.finds_mapM_of_forall (fun file hfile _ => finds_scanModelFile_congr (htexts file hfile))
        hfound, hpure⟩⟩

theorem exists_modelFiles_of_scanModels {models : List Model}
    (h : (scanModels root config).Finds tree models) :
    ∃ files, (modelFiles root config.database config.schema.inPath).Finds tree files := by
  cases hdatabase : config.database with
  | unknown =>
      refine ⟨[], ?_⟩
      unfold modelFiles
      split <;> rfl
  | _ =>
      unfold scanModels at h
      simp only [hdatabase, modelsOf] at h
      obtain ⟨files, hfiles, -⟩ := Survey.finds_bind.1 h
      exact ⟨files, hfiles⟩

/-- A tree that extends another one has the same files of models with the same texts, if none of
    them stands apart and each that can be read could be read before. -/
theorem sameModels_of_extends {apart : Place → Prop} (h : Extends apart tree tree')
    (htree : tree.WellFormed) {files files' : List Path}
    (hfiles : (modelFiles root config.database config.schema.inPath).Finds tree files)
    (hfiles' : (modelFiles root config.database config.schema.inPath).Finds tree' files')
    (hapart : ∀ file ∈ files', ¬ apart file.normalize.steps)
    (hread : ∀ file ∈ files', (tree'.sourceText? file).isSome → (tree.sourceText? file).isSome) :
    SameModels root config tree tree' := by
  obtain rfl := modelFiles_eq h htree hfiles hfiles' hapart
  exact ⟨files', hfiles, hfiles', fun file hfile => h.sourceText?_eq (hapart file hfile)
    (hread file hfile)⟩

/-! ## Routes -/

/-- The main file of an application with routers. -/
def mainFiles (root : Path) (config : Config) : Option Kind → List Path
  | some .express => [root.under (orElse config.main.inPath defaultMainFile)]
  | _ => []

theorem finds_isFile_true_iff : (Survey.isFile path).Finds tree true ↔
    (tree.sourceText? path).isSome := by
  rw [Survey.isFile, Survey.finds_ask, Tree.isFile, status, Tree.sourceText?, Tree.read]
  cases tree.locate path with
  | error fault => cases fault <;> simp [Except.map, Except.toOption, bind, Except.bind]
  | ok target =>
      rcases target with ⟨place, _ | content⟩ | place <;>
        simp [Except.map, Except.toOption, bind, Except.bind, pure, Except.pure, throw, throwThe,
          MonadExceptOf.throw]

/-- What a scan of an application with a main file finds. -/
theorem finds_scanRoutes_express_iff {groups : List RouteGroup} :
    (scanRoutes root config (some .express)).Finds tree groups ↔
      (Survey.isFile (root.under (orElse config.main.inPath defaultMainFile))).Finds tree true
        ∧ ∃ text? files,
          (Survey.sourceText? (root.under (orElse config.main.inPath defaultMainFile))).Finds tree text?
            ∧ (routerFiles root config.routes.inPath).Finds tree files
            ∧ (Router.extract (text?.getD []) config.routes.inPath files fun file =>
                tree.sourceText? ((root.under config.routes.inPath).step file)).found = groups := by
  constructor
  · intro h
    obtain ⟨found, hfound, hrest⟩ := Survey.finds_bind.1 h
    cases found with
    | false =>
        obtain ⟨_, hfail, -⟩ := Survey.finds_bind.1 hrest
        exact absurd hfail Survey.not_finds_fail
    | true =>
        obtain ⟨text?, htext, hrest⟩ := Survey.finds_bind.1 hrest
        obtain ⟨files, hfiles, hrest⟩ := Survey.finds_bind.1 hrest
        obtain ⟨_, htree, hextract⟩ := Survey.finds_bind.1 hrest
        obtain rfl := Except.ok.inj htree
        exact ⟨hfound, text?, files, htext, hfiles, Except.ok.inj hextract⟩
  · rintro ⟨hfound, text?, files, htext, hfiles, rfl⟩
    exact Survey.finds_bind.2 ⟨true, hfound, Survey.finds_bind.2 ⟨text?, htext,
      Survey.finds_bind.2 ⟨files, hfiles, Survey.finds_bind.2 ⟨tree, rfl, rfl⟩⟩⟩⟩

/-- Two trees have the same main file and files of routes, with the same texts. -/
def SameRoutes (root : Path) (config : Config) (kind : Option Kind) (tree tree' : Tree) : Prop :=
  ∃ names, (routeNames root config kind).Finds tree names
    ∧ (routeNames root config kind).Finds tree' names
    ∧ ∀ file ∈ mainFiles root config kind ++ names.map (routePath root config kind),
        tree'.sourceText? file = tree.sourceText? file

theorem SameRoutes.symm (h : SameRoutes root config kind tree tree') :
    SameRoutes root config kind tree' tree := by
  obtain ⟨names, hnames, hnames', htexts⟩ := h
  exact ⟨names, hnames', hnames, fun file hfile => (htexts file hfile).symm⟩

theorem SameRoutes.trans {tree'' : Tree} (h : SameRoutes root config kind tree tree')
    (h' : SameRoutes root config kind tree' tree'') : SameRoutes root config kind tree tree'' := by
  obtain ⟨names, hnames, hnames', htexts⟩ := h
  obtain ⟨_, hother, hnames'', htexts'⟩ := h'
  obtain rfl := hnames'.unique hother
  exact ⟨names, hnames, hnames'', fun file hfile => (htexts' file hfile).trans (htexts file hfile)⟩

/-- **Routes are scanned alike from files that are the same and have the same texts.** -/
theorem SameRoutes.finds_scanRoutes (hsame : SameRoutes root config kind tree tree')
    {groups : List RouteGroup} (h : (scanRoutes root config kind).Finds tree groups) :
    (scanRoutes root config kind).Finds tree' groups := by
  obtain ⟨names, hnames, hnames', htexts⟩ := hsame
  rw [List.forall_mem_append, List.forall_mem_map] at htexts
  obtain ⟨hmain, htexts⟩ := htexts
  cases kind with
  | none => exact h
  | some kind =>
      cases kind with
      | nextjs =>
          obtain ⟨files, hfiles, hfound⟩ := finds_scanRoutes_nextjs h
          obtain rfl := hfiles.unique hnames
          have hextract : (FileRoute.extract files fun file =>
              tree'.sourceText? ((routeRoot root config).join file))
                = FileRoute.extract files fun file =>
                    tree.sourceText? ((routeRoot root config).join file) :=
            FileRoute.extract_congr htexts
          refine Survey.finds_bind.2 ⟨files, hnames', Survey.finds_bind.2 ⟨tree', rfl, ?_⟩⟩
          exact congrArg Except.ok ((congrArg Findings.found hextract).trans hfound)
      | express =>
          obtain ⟨hmainfile, text?, files, htext, hfiles, hfound⟩ := finds_scanRoutes_express_iff.1 h
          obtain rfl := hfiles.unique hnames
          have hsame := hmain _ List.mem_cons_self
          have hextract : (Router.extract (text?.getD []) config.routes.inPath files fun file =>
              tree'.sourceText? ((root.under config.routes.inPath).step file))
                = Router.extract (text?.getD []) config.routes.inPath files fun file =>
                    tree.sourceText? ((root.under config.routes.inPath).step file) :=
            Router.extract_congr htexts
          refine finds_scanRoutes_express_iff.2 ⟨?_, text?, files, finds_sourceText?_congr hsame htext,
            hnames', (congrArg Findings.found hextract).trans hfound⟩
          rw [finds_isFile_true_iff] at hmainfile ⊢
          rw [hsame]
          exact hmainfile

/-! ## Documented paths -/

/-- **Comments are scanned alike from files that are the same and have the same texts.** -/
theorem SameRoutes.finds_scanDocs (hsame : SameRoutes root config kind tree tree')
    {entries : DocComment.Entries} (h : (scanDocs root config kind).Finds tree entries) :
    (scanDocs root config kind).Finds tree' entries := by
  obtain ⟨names, hnames, hnames', htexts⟩ := hsame
  rw [List.forall_mem_append, List.forall_mem_map] at htexts
  obtain ⟨-, htexts⟩ := htexts
  have hsource : ∀ file ∈ names.map (routePath root config kind),
      sourceAt tree' file = sourceAt tree file :=
    List.forall_mem_map.2 fun name hname => congrArg (Option.getD · []) (htexts name hname)
  rw [Project.finds_scanDocs (finds_documentedFiles.2 ⟨names, hnames, rfl⟩)] at h
  rw [Project.finds_scanDocs (finds_documentedFiles.2 ⟨names, hnames', rfl⟩), List.map_congr_left fun file hfile =>
    congrArg DocComment.itemsOf (hsource file hfile)]
  refine ⟨fun file hfile => ?_, h.2⟩
  obtain ⟨hread, hblocks⟩ := h.1 file hfile
  refine ⟨readable_congr.2 hread, ?_⟩
  rwa [hsource file hfile]

/-! ## Trees that extend others -/

theorem exists_routeNames_of_scanDocs {entries : DocComment.Entries}
    (h : (scanDocs root config kind).Finds tree entries) :
    ∃ names, (routeNames root config kind).Finds tree names := by
  obtain ⟨files, hfiles, -⟩ := Survey.finds_bind.1 h
  obtain ⟨names, hnames, -⟩ := finds_documentedFiles.1 hfiles
  exact ⟨names, hnames⟩

/-- The files of routes that were scanned could be listed, and the main file could be read. -/
theorem exists_routeNames_of_scanRoutes {groups : List RouteGroup}
    (h : (scanRoutes root config kind).Finds tree groups) :
    (∃ names, (routeNames root config kind).Finds tree names)
      ∧ ∀ file ∈ mainFiles root config kind, (tree.sourceText? file).isSome := by
  cases kind with
  | none => exact ⟨⟨[], rfl⟩, fun _ hfile => absurd hfile List.not_mem_nil⟩
  | some kind =>
      cases kind with
      | nextjs =>
          obtain ⟨files, hfiles, -⟩ := finds_scanRoutes_nextjs h
          exact ⟨⟨files, hfiles⟩, fun _ hfile => absurd hfile List.not_mem_nil⟩
      | express =>
          obtain ⟨hmain, _, files, -, hfiles, -⟩ := finds_scanRoutes_express_iff.1 h
          exact ⟨⟨files, hfiles⟩, List.forall_mem_singleton.2 (finds_isFile_true_iff.1 hmain)⟩

/-- A tree that extends another one has the same main file and files of routes with the same texts,
    if none of them stands apart and each that can be read could be read before. -/
theorem sameRoutes_of_extends {apart : Place → Prop} (h : Extends apart tree tree')
    {names names' : List Text} (hnames : (routeNames root config kind).Finds tree names)
    (hnames' : (routeNames root config kind).Finds tree' names')
    (hapart : ∀ file ∈ mainFiles root config kind ++ names'.map (routePath root config kind),
      ¬ apart file.normalize.steps)
    (hread : ∀ file ∈ mainFiles root config kind ++ names'.map (routePath root config kind),
      (tree'.sourceText? file).isSome → (tree.sourceText? file).isSome) :
    SameRoutes root config kind tree tree' := by
  have hroutes := (List.forall_mem_append.1 hapart).2
  rw [List.forall_mem_map] at hroutes
  obtain rfl := routeNames_eq h hnames hnames' hroutes
  exact ⟨names', hnames, hnames', fun file hfile => h.sourceText?_eq (hapart file hfile)
    (hread file hfile)⟩

end Project

end ApiScan
