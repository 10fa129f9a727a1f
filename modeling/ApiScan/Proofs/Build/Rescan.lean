import ApiScan.Proofs.Build.Idempotent
import ApiScan.Proofs.Tree.Extends

set_option autoImplicit false

/-! # Builds over the documents of earlier ones

The two folders of documents may hold the files of earlier builds. A build writes the files of what
it scans over them and takes none away, so that it ends as it would without the files that it writes
again, and every other file stays a part of what the docs folder holds. -/

namespace ApiScan

open ApiScan.Tree Docs

variable {tree tree' tree₀ : Tree} {root docs path : Path} {config : Config}
  {kind : Option Project.Kind} {start place file : Place} {lost : Place → Prop}

/-! ## Documents -/

namespace Docs

/-- A place right inside one of the two folders of documents. -/
def InDocuments (place file : Place) : Prop :=
  ∃ sub ∈ [schemasName, routesName], ∃ name, file = place ++ [sub] ++ [name]

theorem inDocuments_iff : InDocuments place file ↔
    ∃ sub ∈ [schemasName, routesName], file ≠ [] ∧ file.dropLast = place ++ [sub] := by
  refine exists_congr fun sub => and_congr_right fun _ => ⟨?_, fun ⟨hne, hfolder⟩ => ?_⟩
  · rintro ⟨name, rfl⟩
    exact ⟨append_singleton_ne_nil _ _, List.dropLast_concat⟩
  · exact ⟨file.getLast hne, by rw [← hfolder, List.dropLast_append_getLast]⟩

instance (place file : Place) : Decidable (InDocuments place file) :=
  decidable_of_iff _ inDocuments_iff.symm

theorem InDocuments.ne_readme (h : InDocuments place file) : file ≠ place ++ [readmeName] := by
  obtain ⟨sub, -, name, rfl⟩ := h
  intro he
  have hlength := congrArg List.length he
  simp only [List.length_append, List.length_singleton] at hlength
  omega

/-- No file at the root is a document, unless the root is a folder of documents. -/
theorem InDocuments.ne_rootFile (h : InDocuments place file)
    (hroot : ∀ sub ∈ [schemasName, routesName], start ≠ place ++ [sub]) (name : Text) :
    file ≠ start ++ [name] := by
  obtain ⟨sub, hsub, other, rfl⟩ := h
  exact fun he => hroot sub hsub (List.append_inj_left' he rfl).symm

/-- A file is put into the folders of documents when the documents are written. -/
def IsPutIn (place : Place) (schemas routes : List (Text × Bytes)) (file : Place) : Prop :=
  (∃ name ∈ schemas.map Prod.fst, file = place ++ [schemasName] ++ [name])
    ∨ ∃ name ∈ routes.map Prod.fst, file = place ++ [routesName] ++ [name]

variable {schemas routes : List (Text × Bytes)}

theorem entry?_withDocs_of_not_isPutIn (h : InDocuments place file)
    (hput : ¬ IsPutIn place schemas routes file) :
    Tree.entry? (withDocs place schemas routes tree) file = tree.entry? file := by
  have hreadme : ∀ name ∈ readmeFiles.map Prod.fst, file ≠ place ++ [name] :=
    List.forall_mem_singleton.2 h.ne_readme
  unfold withDocs
  rw [entry?_putIn_of_ne fun name hname he => hput (Or.inr ⟨name, hname, he⟩),
    entry?_putIn_of_ne fun name hname he => hput (Or.inl ⟨name, hname, he⟩),
    entry?_putIn_of_ne hreadme]

/-- Of the files that a tree has lost, those that are put into the docs folder are there again. -/
theorem losesFiles_withDocs (h : LosesFiles lost tree tree₀) (hstands : Stands tree docs place)
    (htakes : TakesDocs tree docs place (schemas.map Prod.fst) (routes.map Prod.fst))
    (hschemas : ∀ name ∈ schemas.map Prod.fst, IsName name)
    (hroutes : ∀ name ∈ routes.map Prod.fst, IsName name) :
    LosesFiles (fun file => lost file ∧ ¬ IsPutIn place schemas routes file)
      (withDocs place schemas routes tree) (withDocs place schemas routes tree₀) := by
  have hkeeps := (grows_putIn htakes.readme).keepsFolders
  have hkeeps' := hkeeps.trans (grows_putIn htakes.takesIn_schemas).keepsFolders
  have hreadme := h.putIn hstands.folder.entry? htakes.readme (by decide)
  have hdocuments := (hreadme.putIn (hkeeps _ hstands.schemas.entry?) htakes.takesIn_schemas
    hschemas).putIn (hkeeps' _ hstands.routes.entry?) htakes.takesIn_routes hroutes
  refine hdocuments.mono fun file ⟨⟨⟨hlost, _⟩, hschema⟩, hroute⟩ _ _ => ⟨hlost, ?_⟩
  rintro (⟨name, hname, he⟩ | ⟨name, hname, he⟩)
  · exact hschema name hname he
  · exact hroute name hname he

theorem stands_of_folder? (h : tree.folder? docs = .ok (some place))
    (hschemas : tree.folder? (schemasFolder docs) = .ok (some (place ++ [schemasName])))
    (hroutes : tree.folder? (routesFolder docs) = .ok (some (place ++ [routesName]))) :
    Stands tree docs place where
  folder := (folder?_eq_some.1 h).2
  schemas := (folder?_eq_some.1 hschemas).2
  routes := (folder?_eq_some.1 hroutes).2
  fitsSchemas := (folder?_eq_some.1 hschemas).1
  fitsRoutes := (folder?_eq_some.1 hroutes).1

theorem takesDocs_congr (h : LosesFiles lost tree tree₀) {schemas routes : List Text} :
    TakesDocs tree₀ docs place schemas routes ↔ TakesDocs tree docs place schemas routes :=
  ⟨fun ht => ⟨h.takesIn_iff.1 ht.readme, h.takesIn_iff.1 ht.schemas, h.takesIn_iff.1 ht.routes⟩,
    fun ht => ⟨h.takesIn_iff.2 ht.readme, h.takesIn_iff.2 ht.schemas, h.takesIn_iff.2 ht.routes⟩⟩

/-! ## Emptied folders -/

/-- The tree with the two folders of documents emptied. -/
def emptied (place : Place) (tree : Tree) : Tree :=
  (tree.eraseBelow (place ++ [schemasName])).eraseBelow (place ++ [routesName])

/-- Emptying the folders of documents loses the files in them. -/
theorem losesFiles_emptied (htree : tree.WellFormed) (hlisted : tree.ListedOnce)
    (hstands : Stands tree docs place)
    (hfiles : ∀ file, InDocuments place file → tree.entry? file ≠ some .folder) :
    LosesFiles (fun file => InDocuments place file ∧ (tree.entry? file).isSome) tree
        (emptied place tree)
      ∧ (emptied place tree).WellFormed := by
  have hkeys (folder : Place) (tree : Tree) :
      ∀ file ∈ Assoc.keys (tree.eraseBelow folder).entries, file ∈ Assoc.keys tree.entries :=
    (List.Sublist.map _ List.filter_sublist).subset
  have hschemas : LosesFiles (place ++ [schemasName] <+: ·) tree
      (tree.eraseBelow (place ++ [schemasName])) :=
    losesFiles_eraseBelow htree hlisted fun name => hfiles _ ⟨_, by decide, name, rfl⟩
  have htree' := htree.of_losesFiles hschemas (hkeys _ _)
  have hroutes : LosesFiles (place ++ [routesName] <+: ·) (tree.eraseBelow (place ++ [schemasName]))
      (emptied place tree) :=
    losesFiles_eraseBelow htree' hschemas.listedOnce' fun name he =>
      hfiles _ ⟨_, by decide, name, rfl⟩ (hschemas.entry?_of_some he)
  have hboth := hschemas.trans hroutes
  refine ⟨hboth.mono fun file hfile hsome hgone => ⟨?_, hsome⟩,
    htree'.of_losesFiles hroutes (hkeys _ _)⟩
  obtain ⟨entry, he⟩ := Option.isSome_iff_exists.1 hsome
  have hinside (sub : Text) (hsub : sub ∈ [schemasName, routesName])
      (hfolder : tree.entry? (place ++ [sub]) = some .folder) (hbelow : place ++ [sub] <+: file) :
      InDocuments place file := by
    obtain ⟨steps, rfl⟩ := hbelow
    cases steps with
    | nil =>
        -- the folder itself is kept
        rw [List.append_nil] at hgone
        exact nomatch hgone.symm.trans (hboth.keepsFolders _ hfolder)
    | cons name more =>
        cases more with
        | nil => exact ⟨sub, hsub, name, rfl⟩
        | cons next last =>
            have habove : place ++ [sub] ++ name :: next :: last
                = place ++ [sub] ++ [name] ++ next :: last := List.append_cons _ _ _
            rw [habove] at he
            exact absurd (htree.entry?_above (List.cons_ne_nil next last) he)
              (hfiles _ ⟨sub, hsub, name, rfl⟩)
  rcases hfile with hbelow | hbelow
  · exact hinside _ (by decide) hstands.schemas.entry? hbelow
  · exact hinside _ (by decide) hstands.routes.entry? hbelow

end Docs

namespace Build

variable {options : Options} {result : Result} {comments ignored output : List (Text × Bytes)}

/-! ## Projects with documents -/

/-- A project whose docs folder stands with files and nothing else in its folders of documents, and
    with no source file among them. -/
structure Documented (tree : Tree) (root : Path) (config : Config) (kind : Option Project.Kind)
    (options : Options) (start place : Place) : Prop where
  rooted : Rooted tree root start
  stands : Stands tree (root.under config.docs.inPath) place
  /-- The project is not one of the folders of documents itself. -/
  apart : ∀ sub ∈ [schemasName, routesName], start ≠ place ++ [sub]
  files : ∀ file, InDocuments place file → tree.entry? file ≠ some .folder
  sources : ∃ files, (Build.sources root config kind options).Finds tree files
    ∧ ∀ file ∈ files, ¬ InDocuments place file.normalize.steps

/-- A build wrote the file at a place. -/
def Result.Writes (result : Result) (file : Place) : Prop :=
  ∃ path ∈ result.written, path.normalize.steps = file

instance (result : Result) (file : Place) : Decidable (result.Writes file) :=
  inferInstanceAs (Decidable (∃ path ∈ result.written, path.normalize.steps = file))

/-- The documents that are written are those that are put into their folders. -/
theorem Ran.writes_iff (hran : Ran root config kind options start place tree result comments ignored output)
    (hroot : LeadsTo tree root start)
    (hapart : ∀ sub ∈ [schemasName, routesName], start ≠ place ++ [sub])
    (hmodels : ∀ model ∈ result.models, '/' ∉ model.source)
    (hgroups : ∀ group ∈ result.groups, '/' ∉ group.source) (hfile : InDocuments place file) :
    result.Writes file ↔ IsPutIn place (schemaFiles options result.models)
      (routeFiles options config result.groups ++ comments) file := by
  have hschemas : ∀ name ∈ (schemaFiles options result.models).map Prod.fst,
      ((schemasFolder (root.under config.docs.inPath)).step name).normalize.steps
        = place ++ [schemasName] ++ [name] := fun name hname =>
    normalize_step hran.stands.schemas (isName_schemaFiles hmodels name hname).2.2.2
  have hroutes : ∀ name ∈ (routeFiles options config result.groups ++ comments).map Prod.fst,
      ((routesFolder (root.under config.docs.inPath)).step name).normalize.steps
        = place ++ [routesName] ++ [name] := fun name hname => by
    rw [List.map_append, List.mem_append] at hname
    refine normalize_step hran.stands.routes ?_
    rcases hname with hname | hname
    · exact (isName_routeFiles hgroups name hname).2.2.2
    · exact (hran.isName_comments name hname).2.2.2
  unfold Result.Writes IsPutIn
  rw [hran.written]
  unfold docsPaths
  constructor
  · rintro ⟨path, hpath, rfl⟩
    rcases List.mem_append.1 hpath with hpath | hpath
    · rcases List.mem_append.1 hpath with hpath | hpath
      · rcases List.mem_cons.1 hpath with rfl | hpath
        · exact absurd (normalize_step hran.stands.folder (by decide)) hfile.ne_readme
        · obtain ⟨written, hwritten, rfl⟩ := List.mem_map.1 hpath
          have hname := List.mem_map_of_mem (f := Prod.fst) hwritten
          exact Or.inl ⟨_, hname, hschemas _ hname⟩
      · obtain ⟨written, hwritten, rfl⟩ := List.mem_map.1 hpath
        have hname := List.mem_map_of_mem (f := Prod.fst) hwritten
        exact Or.inr ⟨_, hname, hroutes _ hname⟩
    · obtain ⟨written, hwritten, rfl⟩ := List.mem_map.1 hpath
      have hup : written.1 ≠ Path.up := by
        rcases mem_of_findsOutput hran.findsOutput (List.mem_map_of_mem hwritten) with he | he <;>
          rw [he] <;> decide
      exact absurd (normalize_step hroot hup) (hfile.ne_rootFile hapart _)
  · rintro (⟨name, hname, rfl⟩ | ⟨name, hname, rfl⟩)
    · obtain ⟨written, hwritten, rfl⟩ := List.mem_map.1 hname
      exact ⟨_, List.mem_append_left _ (List.mem_append_left _ (List.mem_cons_of_mem _
        (List.mem_map_of_mem hwritten))), hschemas _ hname⟩
    · obtain ⟨written, hwritten, rfl⟩ := List.mem_map.1 hname
      exact ⟨_, List.mem_append_left _ (List.mem_append_right _ (List.mem_map_of_mem hwritten)),
        hroutes _ hname⟩

/-! ## What is scanned -/

/-- The source files can be listed in a tree that has lost files. -/
theorem exists_sources_of_losesFiles (htree : tree.WellFormed) (h : LosesFiles lost tree tree₀)
    (hlisted : ∃ files, (sources root config kind options).Finds tree files) :
    ∃ files, (sources root config kind options).Finds tree₀ files := by
  have hnamed := h.extends.named_left
  have hstays (path : Path) := Project.staysFolder_of_keepsFolders h.keepsFolders path
  have hasks (path : Path) : Project.AsksNew tree tree₀ path :=
    Project.asksNew_of_forall (fun _ => h.extends.isSome_entry?) path
  obtain ⟨files, hfiles⟩ := hlisted
  obtain ⟨hmodels, hroutes⟩ := exists_sources_iff.1 ⟨files, hfiles, fun _ _ => trivial⟩
  have hsources : ∃ files, (sources root config kind options).Finds tree₀ files
      ∧ ∀ file ∈ files, True := by
    refine exists_sources_iff.2 ⟨fun hask => ?_, fun hask => ?_⟩
    · obtain ⟨files, hfiles, -⟩ := hmodels hask
      obtain ⟨files₀, hfiles₀⟩ := Project.exists_finds_modelFiles htree hnamed (hstays _) (hasks _)
        (fun _ _ => hasks _) ⟨files, hfiles⟩
      exact ⟨files₀, hfiles₀, fun _ _ => trivial⟩
    · obtain ⟨names, hnames, -⟩ := hroutes hask
      obtain ⟨names₀, hnames₀⟩ := Project.exists_finds_routeNames h.named hnamed (hstays _) (hasks _)
        ⟨names, hnames⟩
      exact ⟨names₀, hnames₀, fun _ _ => trivial⟩
  obtain ⟨files₀, hfiles₀, -⟩ := hsources
  exact ⟨files₀, hfiles₀⟩

/-- A scan finds the same after a loss of files that are no source files. -/
theorem finds_scan_iff_of_losesFiles (htree : tree.WellFormed) (htree₀ : tree₀.WellFormed)
    (h : LosesFiles lost tree tree₀)
    (hsources : ∃ files, (sources root config kind options).Finds tree files
      ∧ ∀ file ∈ files, ¬ lost file.normalize.steps) {found : List Model × List RouteGroup} :
    (scan root config kind options).Finds tree found ↔
      (scan root config kind options).Finds tree₀ found := by
  obtain ⟨files, hfiles, hapart⟩ := hsources
  have hsame : SameSources root config kind options tree₀ tree :=
    sameSources_of_extends h.extends htree₀ (exists_sources_of_losesFiles htree h ⟨files, hfiles⟩)
      ⟨files, hfiles, fun file hfile => ⟨hapart file hfile, h.isSome_sourceText? (hapart file hfile)⟩⟩
  exact ⟨hsame.symm.finds_scan, hsame.finds_scan⟩

theorem exists_routeNames_of_findsComments
    (h : FindsComments root config kind options tree comments)
    (hask : (options.scan && options.routes) = true) :
    ∃ names, (Project.routeNames root config kind).Finds tree names := by
  unfold FindsComments at h
  rw [if_pos hask] at h
  obtain ⟨entries, hentries, -⟩ := h
  exact Project.exists_routeNames_of_scanDocs hentries

/-- The comments are the same after a loss of documents that have not been written yet. -/
theorem findsComments_iff_of_losesFiles {scanned scanned₀ : Tree}
    (h : Documented tree root config kind options start place) (hkeeps : KeepsFolders tree scanned)
    (hloses : LosesFiles lost scanned scanned₀)
    (hlost : ∀ file, lost file →
      InDocuments place file ∧ scanned.entry? file = tree.entry? file) :
    FindsComments root config kind options scanned comments ↔
      FindsComments root config kind options scanned₀ comments := by
  have hextends := hloses.extends
  have hsame (hask : (options.scan && options.routes) = true)
      (hlisted : ∃ names, (Project.routeNames root config kind).Finds scanned names) :
      Project.SameRoutes root config kind scanned₀ scanned := by
    obtain ⟨files, hfiles, hall⟩ := h.sources
    obtain ⟨names, hnames, hapart⟩ := (exists_sources_iff.1 ⟨files, hfiles, hall⟩).2 hask
    obtain ⟨later, hlater⟩ := hlisted
    obtain ⟨fewer, hfewer⟩ := Project.exists_finds_routeNames hloses.named hextends.named_left
      (Project.staysFolder_of_keepsFolders hloses.keepsFolders _)
      (Project.asksNew_of_forall (fun _ => hextends.isSome_entry?) _) ⟨later, hlater⟩
    -- a file of routes that is lost would be one of the project
    have hkept : ∀ file ∈ Project.mainFiles root config kind
        ++ later.map (Project.routePath root config kind), ¬ lost file.normalize.steps := by
      rw [List.forall_mem_append, List.forall_mem_map] at hapart ⊢
      refine ⟨fun file hfile hl => hapart.1 file hfile (hlost _ hl).1, fun name hname hl => ?_⟩
      exact hapart.2 name (Project.mem_routeNames_of_entry? h.rooted.wellFormed.named
        h.rooted.listedOnce hloses.named hloses.listedOnce hkeeps hnames hlater hname
        (hlost _ hl).2) (hlost _ hl).1
    exact Project.sameRoutes_of_extends hextends hfewer hlater hkept fun file hfile =>
      hloses.isSome_sourceText? (hkept file hfile)
  constructor
  · intro hcomments
    exact hcomments.congr fun hask =>
      (hsame hask (exists_routeNames_of_findsComments hcomments hask)).symm
  · intro hcomments
    refine hcomments.congr fun hask => hsame hask ?_
    obtain ⟨files, hfiles, -⟩ := h.sources
    obtain ⟨names, hnames, -⟩ :=
      (exists_sources_iff.1 ⟨files, hfiles, fun _ _ => trivial⟩).2 hask
    -- what was lost stands in the project, whose files of routes can be listed
    refine Project.exists_finds_routeNames_of_either hextends.named_left
      h.rooted.wellFormed.named hloses.named hloses.keepsFolders' hkeeps (fun file hsome => ?_)
      (exists_routeNames_of_findsComments hcomments hask) ⟨names, hnames⟩
    rcases hloses.losesOnly file with hkept | ⟨hl, -⟩
    · exact Or.inl (hkept ▸ hsome)
    · exact Or.inr ((hlost file hl).2 ▸ hsome)

/-! ## What is written -/

/-- The docs folder loads the same from trees with the same entries. -/
theorem findsOutput_iff_of_losesFiles (h : LosesFiles lost tree tree₀) (hnone : ∀ file, ¬ lost file)
    (hstands : Stands tree (root.under config.docs.inPath) place) :
    FindsOutput root config options tree output ↔ FindsOutput root config options tree₀ output := by
  have hentry (file : Place) : tree₀.entry? file = tree.entry? file := h.entry?_eq (hnone file)
  have hstands₀ := hstands.of_keepsFolders h.keepsFolders
  have hnames (folder : Place) : tree₀.names folder = tree.names folder :=
    h.listedOnce.names_eq h.listedOnce' fun _ => hentry _
  have hload {contents : Contents} : (load (root.under config.docs.inPath)).Finds tree contents ↔
      (load (root.under config.docs.inPath)).Finds tree₀ contents :=
    ⟨finds_load_congr hstands.folder hstands₀.folder (fun _ _ => hentry _) (fun _ _ _ => hentry _)
      (fun _ _ => hnames _),
    finds_load_congr hstands₀.folder hstands.folder (fun _ _ => (hentry _).symm)
      (fun _ _ _ => (hentry _).symm) (fun _ _ => (hnames _).symm)⟩
  unfold FindsOutput
  split
  · exact exists_congr fun contents => and_congr_left' hload
  · exact Iff.rfl

theorem findsIgnore_iff_of_losesFiles (h : LosesFiles lost tree tree₀) (hnone : ∀ file, ¬ lost file)
    (hroot : LeadsTo tree root start) :
    FindsIgnore root config start tree ignored ↔ FindsIgnore root config start tree₀ ignored := by
  have hroot₀ := hroot.of_keepsFolders h.keepsFolders
  have hentry := h.entry?_eq (hnone (start ++ [ignoreFile]))
  unfold FindsIgnore
  split
  · exact ⟨fun hignore => hignore.congr hroot hroot₀ hentry,
      fun hignore => hignore.congr hroot₀ hroot hentry.symm⟩
  · exact Iff.rfl

/-- What is put at the root of trees with the same entries leaves the same entries. -/
theorem losesFiles_rootFiles {files : List (Text × Bytes)} (h : LosesFiles (fun _ => False) tree tree₀)
    (hroot : LeadsTo tree root start) (htakes : TakesIn tree root start (files.map Prod.fst))
    (hnames : ∀ name ∈ files.map Prod.fst, name ∈ outputNames) :
    LosesFiles (fun _ => False) (tree.putIn start files) (tree₀.putIn start files) := by
  have hall : ∀ name ∈ outputNames, IsName name := by decide
  exact (h.putIn hroot.entry? htakes fun name hname => hall name (hnames name hname)).mono
    fun _ hlost _ _ => hlost.1

/-- The docs folder takes the files of a build. -/
abbrev TakesResult (tree : Tree) (root : Path) (config : Config) (options : Options) (place : Place)
    (result : Result) (comments : List (Text × Bytes)) : Prop :=
  TakesDocs tree (root.under config.docs.inPath) place
    ((schemaFiles options result.models).map Prod.fst)
    ((routeFiles options config result.groups ++ comments).map Prod.fst)

/-- The tree with the files of a build in its docs folder. -/
abbrev withResult (config : Config) (options : Options) (place : Place) (result : Result)
    (comments : List (Text × Bytes)) (tree : Tree) : Tree :=
  docsTree config options result.models result.groups place comments tree

section
variable (h : Documented tree root config kind options start place)
  (hloses : LosesFiles lost tree tree₀)
  (hmodels : ∀ model ∈ result.models, '/' ∉ model.source)
  (hgroups : ∀ group ∈ result.groups, '/' ∉ group.source)
include h hloses hmodels hgroups

/-- Documents that are written again are not lost afterwards. -/
theorem losesFiles_withResult
    (hput : ∀ file, lost file → IsPutIn place (schemaFiles options result.models)
      (routeFiles options config result.groups ++ comments) file)
    (htakes : TakesResult tree root config options place result comments)
    (hcomments : ∀ name ∈ comments.map Prod.fst, IsName name) :
    LosesFiles (fun _ => False) (withResult config options place result comments tree)
      (withResult config options place result comments tree₀) := by
  refine (losesFiles_withDocs hloses h.stands htakes (isName_schemaFiles hmodels) ?_).mono
    fun file hlost _ _ => hlost.2 (hput file hlost.1)
  rw [List.map_append, List.forall_mem_append]
  exact ⟨isName_routeFiles hgroups, hcomments⟩

/-- The comments are found alike when everything but their own file is written. -/
theorem findsComments_withResult_iff (hlost : ∀ file, lost file → InDocuments place file)
    (htakes : TakesResult tree root config options place result comments) :
    FindsComments root config kind options (withResult config options place result [] tree)
        comments ↔
      FindsComments root config kind options (withResult config options place result [] tree₀)
        comments := by
  have hscanned := takesDocs_scanned htakes
  refine findsComments_iff_of_losesFiles h hscanned.keepsFolders
    (losesFiles_withDocs hloses h.stands hscanned (isName_schemaFiles hmodels) ?_)
    fun file ⟨hl, hnot⟩ => ⟨hlost file hl, entry?_withDocs_of_not_isPutIn (hlost file hl) hnot⟩
  rw [List.append_nil]
  exact isName_routeFiles hgroups

variable (hlost : ∀ file, lost file → InDocuments place file ∧ result.Writes file)
include hlost

/-- A build of either tree puts its files into both of them, which are the same then. -/
theorem Ran.both_of_losesFiles {either : Tree} (heither : either = tree ∨ either = tree₀)
    (hran : Ran root config kind options start place either result comments ignored output) :
    TakesResult tree root config options place result comments
      ∧ TakesIn tree root start ((ignored ++ output).map Prod.fst)
      ∧ LosesFiles (fun _ => False) (withResult config options place result comments tree)
          (withResult config options place result comments tree₀) := by
  have hroot := h.rooted.leadsTo
  have htakes : TakesResult tree root config options place result comments
      ∧ TakesIn tree root start ((ignored ++ output).map Prod.fst)
      ∧ LeadsTo either root start := by
    rcases heither with rfl | rfl
    · exact ⟨hran.takesDocs, hran.takesIn_rootFiles, hroot⟩
    · exact ⟨(takesDocs_congr hloses).1 hran.takesDocs, hloses.takesIn_iff.1 hran.takesIn_rootFiles,
        hroot.of_keepsFolders hloses.keepsFolders⟩
  refine ⟨htakes.1, htakes.2.1, losesFiles_withResult h hloses hmodels hgroups (fun file hl => ?_)
    htakes.1 hran.isName_comments⟩
  obtain ⟨hfile, hwrites⟩ := hlost file hl
  exact (hran.writes_iff htakes.2.2 h.apart hmodels hgroups hfile).1 hwrites

/-- **A build does the same to a tree that has lost documents** which it writes again. -/
theorem ran_iff_of_losesFiles :
    Ran root config kind options start place tree result comments ignored output ↔
      Ran root config kind options start place tree₀ result comments ignored output := by
  have hparts {either : Tree} (heither : either = tree ∨ either = tree₀)
      (hran : Ran root config kind options start place either result comments ignored output) :
      (FindsIgnore root config start (withResult config options place result comments tree)
          ignored ↔
        FindsIgnore root config start (withResult config options place result comments tree₀)
          ignored)
      ∧ (FindsOutput root config options
          ((withResult config options place result comments tree).putIn start ignored) output ↔
        FindsOutput root config options
          ((withResult config options place result comments tree₀).putIn start ignored) output) := by
    obtain ⟨htakes, hfiles, hdocs⟩ := hran.both_of_losesFiles h hloses hmodels hgroups hlost heither
    rw [TakesIn, List.map_append, List.forall_mem_append] at hfiles
    have hroot := h.rooted.leadsTo.of_keepsFolders htakes.keepsFolders
    have hignored : TakesIn (withResult config options place result comments tree) root start
      (ignored.map Prod.fst) := htakes.takesIn_iff.2 hfiles.1
    have hsame := losesFiles_rootFiles hdocs hroot hignored hran.ignored_outputNames
    exact ⟨findsIgnore_iff_of_losesFiles hdocs (fun _ => id) hroot,
      findsOutput_iff_of_losesFiles hsame (fun _ => id)
        (h.stands.of_keepsFolders (htakes.keepsFolders.trans (grows_putIn hignored).keepsFolders))⟩
  have hcomments {comments : List (Text × Bytes)}
      (htakes : TakesResult tree root config options place result comments) :=
    findsComments_withResult_iff h hloses hmodels hgroups (fun file hl => (hlost file hl).1) htakes
  constructor
  · intro hran
    obtain ⟨hignore, houtput⟩ := hparts (Or.inl rfl) hran
    exact ⟨hran.stands.of_keepsFolders hloses.keepsFolders, (takesDocs_congr hloses).2 hran.takesDocs,
      (hcomments hran.takesDocs).1 hran.findsComments, hignore.1 hran.findsIgnore,
      hloses.takesIn_iff.2 hran.takesIgnored, houtput.1 hran.findsOutput,
      hloses.takesIn_iff.2 hran.takesOutput, hran.written⟩
  · intro hran
    obtain ⟨hignore, houtput⟩ := hparts (Or.inr rfl) hran
    have htakes := (takesDocs_congr hloses).1 hran.takesDocs
    exact ⟨h.stands, htakes, (hcomments htakes).2 hran.findsComments, hignore.2 hran.findsIgnore,
      hloses.takesIn_iff.1 hran.takesIgnored, houtput.2 hran.findsOutput,
      hloses.takesIn_iff.1 hran.takesOutput, hran.written⟩

/-- In both trees stands the same when the build is done. -/
theorem Ran.entry?_eq_of_losesFiles {either : Tree} (heither : either = tree ∨ either = tree₀)
    (hran : Ran root config kind options start place either result comments ignored output) :
    Tree.entry? ((withResult config options place result comments tree₀).putIn start
        (ignored ++ output))
      = Tree.entry? ((withResult config options place result comments tree).putIn start
          (ignored ++ output)) := by
  obtain ⟨htakes, hfiles, hdocs⟩ := hran.both_of_losesFiles h hloses hmodels hgroups hlost heither
  have hsame := losesFiles_rootFiles hdocs (h.rooted.leadsTo.of_keepsFolders htakes.keepsFolders)
    (htakes.takesIn_iff.2 hfiles) hran.mem_outputNames
  exact funext fun file => hsame.entry?_eq id

end

/-! ## Whole builds -/

/-- What a build does to a project whose docs folder stands. -/
theorem Rooted.ends_run_iff_of_stands (h : Rooted tree root start)
    (hstands : Stands tree (root.under config.docs.inPath) place) :
    (run root config kind options).Ends tree tree' result ↔
      (scan root config kind options).Finds tree (result.models, result.groups)
        ∧ ∃ comments ignored output,
            Ran root config kind options start place tree result comments ignored output
              ∧ tree' = (withResult config options place result comments tree).putIn start
                  (ignored ++ output) := by
  have hparts (hscan : (scan root config kind options).Finds tree (result.models, result.groups)) :
      (run root config kind options).Ends tree tree' result ↔ _ :=
    Build.ends_run_iff h.leadsTo (not_slash_of_scan h.wellFormed h.spelled hscan).1
      (not_slash_of_scan h.wellFormed h.spelled hscan).2 fun made hcreate => by
        rw [hstands.ends_create_iff.1 hcreate]
        exact ⟨fun _ he => he, hstands⟩
  constructor
  · intro hend
    obtain ⟨hscan, made, comments, ignored, output, hcreate, hran, htree⟩ :=
      (hparts (finds_scan_of_run hend)).1 hend
    rw [hstands.ends_create_iff.1 hcreate] at hran htree
    exact ⟨hscan, comments, ignored, output, hran, htree⟩
  · rintro ⟨hscan, comments, ignored, output, hran, htree⟩
    exact (hparts hscan).2 ⟨hscan, tree, comments, ignored, output, hstands.ends_create_iff.2 rfl,
      hran, htree⟩

/-- **A build ends as without the documents that it writes again.** -/
theorem ends_run_iff_of_losesFiles (h : Documented tree root config kind options start place)
    (htree₀ : tree₀.WellFormed) (hloses : LosesFiles lost tree tree₀)
    (hlost : ∀ file, lost file → InDocuments place file ∧ result.Writes file)
    {entries : Place → Option Entry} :
    (∃ tree', (run root config kind options).Ends tree tree' result ∧ tree'.entry? = entries) ↔
      ∃ tree', (run root config kind options).Ends tree₀ tree' result ∧ tree'.entry? = entries := by
  obtain ⟨hfits, hleads⟩ := folder?_eq_some.1 h.rooted.folder
  have hrooted₀ : Rooted tree₀ root start := ⟨htree₀, hloses.listedOnce',
    folder?_eq_some.2 ⟨hfits, hleads.of_keepsFolders hloses.keepsFolders⟩, h.rooted.spelled⟩
  have hstands₀ := h.stands.of_keepsFolders hloses.keepsFolders
  have hscan : (scan root config kind options).Finds tree (result.models, result.groups) ↔
      (scan root config kind options).Finds tree₀ (result.models, result.groups) := by
    obtain ⟨files, hfiles, hapart⟩ := h.sources
    exact finds_scan_iff_of_losesFiles h.rooted.wellFormed htree₀ hloses
      ⟨files, hfiles, fun file hfile hl => hapart file hfile (hlost _ hl).1⟩
  constructor
  · rintro ⟨tree', hend, rfl⟩
    obtain ⟨hfound, comments, ignored, output, hran, rfl⟩ :=
      (h.rooted.ends_run_iff_of_stands h.stands).1 hend
    obtain ⟨hmodels, hgroups⟩ := not_slash_of_scan h.rooted.wellFormed h.rooted.spelled hfound
    exact ⟨_, (hrooted₀.ends_run_iff_of_stands hstands₀).2 ⟨hscan.1 hfound, comments, ignored, output,
        (ran_iff_of_losesFiles h hloses hmodels hgroups hlost).1 hran, rfl⟩,
      hran.entry?_eq_of_losesFiles h hloses hmodels hgroups hlost (Or.inl rfl)⟩
  · rintro ⟨tree', hend, rfl⟩
    obtain ⟨hfound, comments, ignored, output, hran, rfl⟩ :=
      (hrooted₀.ends_run_iff_of_stands hstands₀).1 hend
    obtain ⟨hmodels, hgroups⟩ := not_slash_of_scan htree₀ h.rooted.spelled hfound
    exact ⟨_, (h.rooted.ends_run_iff_of_stands h.stands).2 ⟨hscan.2 hfound, comments, ignored, output,
        (ran_iff_of_losesFiles h hloses hmodels hgroups hlost).2 hran, rfl⟩,
      (hran.entry?_eq_of_losesFiles h hloses hmodels hgroups hlost (Or.inr rfl)).symm⟩

/-- A document that a build does not write stays as it is. -/
theorem entry?_eq_of_not_writes (h : Documented tree root config kind options start place)
    (hend : (run root config kind options).Ends tree tree' result) (hfile : InDocuments place file)
    (hwrites : ¬ result.Writes file) : tree'.entry? file = tree.entry? file := by
  obtain ⟨hscan, comments, ignored, output, hran, rfl⟩ :=
    (h.rooted.ends_run_iff_of_stands h.stands).1 hend
  obtain ⟨hmodels, hgroups⟩ := not_slash_of_scan h.rooted.wellFormed h.rooted.spelled hscan
  rw [hran.writes_iff h.rooted.leadsTo h.apart hmodels hgroups hfile] at hwrites
  rw [entry?_putIn_of_ne fun name _ => hfile.ne_rootFile h.apart name]
  exact entry?_withDocs_of_not_isPutIn hfile hwrites

/-- **A rescan writes over what it scans again and removes nothing.** Take a project whose docs folder
    stands with files and nothing else in its two folders of documents, and with no source file among
    them. A build ends with a result as it does without files there that it writes again, and with
    the same entries everywhere, the document at the root among them. If it writes every file that
    stands there, it ends so with the two folders emptied. Every file there that it does not write
    stays with its content. -/
theorem rescan_of_run (h : Documented tree root config kind options start place) (result : Result) :
    (∀ lost tree₀, tree₀.WellFormed → LosesFiles lost tree tree₀ →
      (∀ file, lost file → InDocuments place file ∧ result.Writes file) → ∀ entries,
        (∃ tree', (run root config kind options).Ends tree tree' result
            ∧ tree'.entry? = entries) ↔
          ∃ tree', (run root config kind options).Ends tree₀ tree' result ∧ tree'.entry? = entries)
    ∧ ((∀ file, InDocuments place file → (tree.entry? file).isSome → result.Writes file) →
        ∀ entries,
          (∃ tree', (run root config kind options).Ends tree tree' result
              ∧ tree'.entry? = entries) ↔
            ∃ tree', (run root config kind options).Ends (emptied place tree) tree' result
              ∧ tree'.entry? = entries)
    ∧ ∀ tree', (run root config kind options).Ends tree tree' result → ∀ file,
        InDocuments place file → ¬ result.Writes file → tree'.entry? file = tree.entry? file := by
  refine ⟨fun lost tree₀ htree₀ hloses hlost entries =>
      ends_run_iff_of_losesFiles h htree₀ hloses hlost,
    fun hall entries => ?_,
    fun tree' hend file hfile hwrites => entry?_eq_of_not_writes h hend hfile hwrites⟩
  obtain ⟨hloses, htree₀⟩ :=
    losesFiles_emptied h.rooted.wellFormed h.rooted.listedOnce h.stands h.files
  exact ends_run_iff_of_losesFiles h htree₀ hloses fun file ⟨hfile, hsome⟩ =>
    ⟨hfile, hall file hfile hsome⟩

/-- A project with a model in a file and the document of an earlier scan of it. -/
def scannedBefore : Tree where
  entries := [
    (["prisma"].map String.toList, .folder),
    (["prisma", "user.prisma"].map String.toList, .file (Text.toBytes
      "model User \x7b\n  name String\n\x7d\n".toList)),
    (["docs"].map String.toList, .folder),
    (["docs", "schemas"].map String.toList, .folder),
    (["docs", "schemas", "user.json"].map String.toList, .file (Text.toBytes
      "\x7b\"Person\": \x7b\x7d\x7d".toList)),
    (["docs", "routes"].map String.toList, .folder)]

/-- A configuration that names a folder of model files. -/
def modelsInPrisma : Config := { database := .prisma, schema := "/prisma".toList }

/-- The model of the earlier scan is gone after a rescan as it is after one of emptied folders. -/
theorem rescan_of_run_of_scannedBefore : ∃ rebuilt fresh result,
    Documented scannedBefore {} modelsInPrisma none {} [] ["docs".toList]
      ∧ (run {} modelsInPrisma none {}).Ends scannedBefore rebuilt result
      ∧ emptied ["docs".toList] scannedBefore ≠ scannedBefore
      ∧ (run {} modelsInPrisma none {}).Ends (emptied ["docs".toList] scannedBefore) fresh result
      ∧ fresh.entry? = rebuilt.entry? := by
  have hstanding {file : Place} (hfile : InDocuments ["docs".toList] file)
      (hsome : (scannedBefore.entry? file).isSome) : file ∈ Assoc.keys scannedBefore.entries := by
    obtain ⟨entry, he⟩ := Option.isSome_iff_exists.1 hsome
    obtain ⟨sub, -, hne, -⟩ := inDocuments_iff.1 hfile
    exact mem_keys_of_standing hne he
  have hfiles : ∀ file ∈ Assoc.keys scannedBefore.entries, InDocuments ["docs".toList] file →
      scannedBefore.entry? file ≠ some .folder := by decide
  have hsources : ∃ files ∈ (sources {} modelsInPrisma none {} scannedBefore).2.toOption,
      ∀ file ∈ files, ¬ InDocuments ["docs".toList] file.normalize.steps := by decide +kernel
  obtain ⟨files, hlisted, hapart⟩ := hsources
  have h : Documented scannedBefore {} modelsInPrisma none {} [] ["docs".toList] :=
    ⟨⟨by decide, by decide, rfl, by decide⟩, stands_of_folder? rfl rfl rfl,
      by decide, fun file hfile he => hfiles file (hstanding hfile (by rw [he]; rfl)) hfile he,
      files, Survey.eq_ok_of_mem_toOption hlisted, hapart⟩
  have hend : ∃ result ∈ (run {} modelsInPrisma none {} scannedBefore).2.2.toOption,
      ∀ file ∈ Assoc.keys scannedBefore.entries, InDocuments ["docs".toList] file →
        result.Writes file := by decide +kernel
  obtain ⟨result, hresult, hwrites⟩ := hend
  have hends : (run {} modelsInPrisma none {}).Ends scannedBefore _ result :=
    ⟨rfl, Survey.eq_ok_of_mem_toOption hresult⟩
  obtain ⟨fresh, hfresh, hsame⟩ := ((rescan_of_run h result).2.1
    (fun file hfile hsome => hwrites file (hstanding hfile hsome) hfile) _).1 ⟨_, hends, rfl⟩
  exact ⟨_, fresh, result, h, hends, by decide, hfresh, hsame⟩

/-- A project with two files of models. -/
def twoModels : Tree where
  entries := [
    (["prisma"].map String.toList, .folder),
    (["prisma", "post.prisma"].map String.toList, .file (Text.toBytes
      "model Post \x7b\n  title String\n\x7d\n".toList)),
    (["prisma", "user.prisma"].map String.toList, .file (Text.toBytes
      "model User \x7b\n  name String\n\x7d\n".toList))]

/-- The project after a build. -/
def twoModelsBuilt : Tree := (run {} modelsInPrisma none {} twoModels).1

/-- The project with a file of models removed after the build. -/
def postRemoved : Tree := twoModelsBuilt.erase (["prisma", "post.prisma"].map String.toList)

/-- The document of a source file that is removed after a build is there after the next build, and
    its model is in the document of the project, unless the folders of documents are emptied. -/
theorem not_fresh_after_removal : ∃ rebuilt fresh first second third,
    (run {} modelsInPrisma none {}).Ends twoModels twoModelsBuilt first
      ∧ (run {} modelsInPrisma none {}).Ends postRemoved rebuilt second
      ∧ (run {} modelsInPrisma none {}).Ends (emptied ["docs".toList] postRemoved) fresh third
      ∧ rebuilt.entry? [jsonFile] ≠ fresh.entry? [jsonFile] := by
  have hfirst : ∃ first, first ∈ (run {} modelsInPrisma none {} twoModels).2.2.toOption :=
    Option.isSome_iff_exists.1 (by decide +kernel)
  have hsecond : ∃ second, second ∈ (run {} modelsInPrisma none {} postRemoved).2.2.toOption :=
    Option.isSome_iff_exists.1 (by decide +kernel)
  have hthird : ∃ third,
      third ∈ (run {} modelsInPrisma none {} (emptied ["docs".toList] postRemoved)).2.2.toOption :=
    Option.isSome_iff_exists.1 (by decide +kernel)
  have hother : Tree.entry? (run {} modelsInPrisma none {} postRemoved).1 [jsonFile]
      ≠ Tree.entry? (run {} modelsInPrisma none {} (emptied ["docs".toList] postRemoved)).1
          [jsonFile] := by
    decide +kernel
  obtain ⟨first, hfirst⟩ := hfirst
  obtain ⟨second, hsecond⟩ := hsecond
  obtain ⟨third, hthird⟩ := hthird
  exact ⟨_, _, first, second, third, ⟨rfl, Survey.eq_ok_of_mem_toOption hfirst⟩,
    ⟨rfl, Survey.eq_ok_of_mem_toOption hsecond⟩, ⟨rfl, Survey.eq_ok_of_mem_toOption hthird⟩, hother⟩

end Build

end ApiScan
