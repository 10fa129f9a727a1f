import ApiScan.Proofs.Docs.Ignored
import ApiScan.Proofs.Docs.SchemaFiles
import ApiScan.Proofs.Docs.Written

set_option autoImplicit false

/-! # The parts of a build

A build puts files into its docs folder, into the two folders in it, and at the root of the project.
What it puts there depends on what it scanned and, for the files at the root, on what the docs
folder loads as. -/

namespace ApiScan

open ApiScan.Tree

variable {tree tree' : Tree} {root docs path : Path} {place folder start : Place}
  {config : Config} {kind : Option Project.Kind} {models : List Model} {groups : List RouteGroup}

namespace Docs

/-! ## The files in the docs folder -/

/-- The paths of files in a folder. -/
def pathsOf (path : Path) (files : List (Text × Bytes)) : List Path :=
  files.map fun file => path.step file.1

theorem puts_write {name text : Text} (hup : name ≠ Path.up) :
    Puts (Work.write (path.step name) text) path folder [(name, Text.toBytes text)] () :=
  fun _ _ _ h => (ends_write_iff h hup).trans (and_congr_right fun _ => (and_iff_left rfl).symm)

/-- The file that explains a docs folder. -/
def readmeFiles : List (Text × Bytes) := [(readmeName, Text.toBytes readme)]

theorem puts_writeReadme : Puts (writeReadme docs) docs folder readmeFiles (docs.step readmeName) :=
  (puts_write (by decide)).bind (puts_pure _ _ _)

theorem puts_writeSchemas (hsources : ∀ model ∈ models, '/' ∉ model.source) :
    Puts (writeSchemas docs models) (schemasFolder docs) folder
      (documentFiles (schemaDocuments models))
      (pathsOf (schemasFolder docs) (documentFiles (schemaDocuments models))) := by
  intro tree tree' written h
  have hpaths : pathsOf (schemasFolder docs) (documentFiles (schemaDocuments models))
      = (models.map Model.source).eraseDups.map fun source =>
          (schemasFolder docs).step (fileName source) := by
    show (documentFiles (schemaDocuments models)).map ((schemasFolder docs).step ∘ Prod.fst) = _
    rw [← List.map_map, keys_documentFiles, keys_schemaDocuments_eq, List.map_map]
    rfl
  rw [ends_writeSchemas_iff hsources h, hpaths, keys_documentFiles, keys_schemaDocuments_eq]

/-- The path documents of route groups with the names of their files, one for each group. -/
def groupDocuments (authorization : Authorization) (groups : List RouteGroup) :
    List (Text × Json.Fields) :=
  groups.map fun group => (fileName group.source, OpenApi.pathsDocument group authorization)

theorem puts_writeRoutes {authorization : Authorization}
    (hsources : ∀ group ∈ groups, '/' ∉ group.source) :
    Puts (writeRoutes docs authorization groups) (routesFolder docs) folder
      (documentFiles (groupDocuments authorization groups))
      (pathsOf (routesFolder docs) (documentFiles (groupDocuments authorization groups))) := by
  intro tree tree' written h
  have hname : ∀ group ∈ groups, (routesFolder docs).join (group.source ++ extension)
      = (routesFolder docs).step (fileName group.source) ∧ fileName group.source ≠ Path.up :=
    fun group hgroup => join_source _ (hsources group hgroup)
  have hnames : (documentFiles (groupDocuments authorization groups)).map Prod.fst
      = groups.map fun group => fileName group.source := by
    rw [keys_documentFiles, Assoc.keys, groupDocuments, List.map_map]
    rfl
  have hpaths : pathsOf (routesFolder docs) (documentFiles (groupDocuments authorization groups))
      = groups.map fun group => (routesFolder docs).join (group.source ++ extension) := by
    show (documentFiles (groupDocuments authorization groups)).map
      ((routesFolder docs).step ∘ Prod.fst) = _
    rw [← List.map_map, hnames, List.map_map]
    exact List.map_congr_left fun group hgroup => (hname group hgroup).1.symm
  rw [hnames, hpaths]
  exact ends_mapM_writeDocument_iff hname h

/-- The file of the paths that comments document; without paths there is none. -/
def commentFiles (entries : List (Yaml.Value × Yaml.Value)) :
    Except Failure (List (Text × Bytes)) :=
  if entries.isEmpty then .ok []
  else (commentsDocument entries).map fun doc => [(commentsFile, Text.toBytes doc.text)]

theorem ends_writeComments_iff {entries : List (Yaml.Value × Yaml.Value)} {written : List Path}
    (h : LeadsTo tree (routesFolder docs) folder) :
    (writeComments docs entries).Ends tree tree' written ↔
      ∃ files, commentFiles entries = .ok files
        ∧ TakesIn tree (routesFolder docs) folder (files.map Prod.fst)
        ∧ tree' = tree.putIn folder files ∧ written = pathsOf (routesFolder docs) files := by
  have hparent : ((routesFolder docs).step commentsFile).parent = routesFolder docs := by
    simp [Path.parent, Path.step]
  unfold writeComments commentFiles
  cases hempty : entries.isEmpty with
  | true =>
      simp only [if_true, Except.ok.injEq, exists_eq_left']
      exact puts_pure (routesFolder docs) folder [] tree tree' written h
  | false =>
      cases hdoc : commentsDocument entries with
      | error failure =>
          simp only [Bool.false_eq_true, if_false, Except.map, reduceCtorEq, false_and, exists_false,
            iff_false]
          intro hend
          obtain ⟨_, _, -, hrest⟩ := Work.ends_bind.1 hend
          exact Work.not_ends_fail hrest
      | ok doc =>
          have hputs : Puts (do
              Work.write ((routesFolder docs).step commentsFile) doc.text
              return [(routesFolder docs).step commentsFile] : Work (List Path)) (routesFolder docs)
              folder [(commentsFile, Text.toBytes doc.text)]
              [(routesFolder docs).step commentsFile] :=
            (puts_write (by decide)).bind (puts_pure _ _ _)
          simp only [Bool.false_eq_true, if_false, Except.map, Except.ok.injEq, exists_eq_left',
            pathsOf, List.map_cons, List.map_nil]
          rw [Work.ends_bind]
          simp only [Work.ends_makeFolders, hparent]
          constructor
          · rintro ⟨made, _, hmade, hrest⟩
            obtain rfl := makeFolders_of_leadsTo h hmade
            exact (hputs _ _ _ h).1 hrest
          · intro hfiles
            have hfits : Fits (routesFolder docs) :=
              fits_of_append (hfiles.1 commentsFile List.mem_cons_self).1.1
            exact ⟨tree, (), makeFolders_eq_ok hfits h, (hputs _ _ _ h).2 hfiles⟩

/-! ## The docs folder -/

/-- The tree with files put into a docs folder and its two folders of documents. -/
def withDocs (place : Place) (schemas routes : List (Text × Bytes)) (tree : Tree) : Tree :=
  ((tree.putIn place readmeFiles).putIn (place ++ [schemasName]) schemas).putIn
    (place ++ [routesName]) routes

/-- A docs folder and its two folders of documents take files of some names. -/
structure TakesDocs (tree : Tree) (docs : Path) (place : Place) (schemas routes : List Text) :
    Prop where
  readme : TakesIn tree docs place (readmeFiles.map Prod.fst)
  schemas : TakesIn tree (schemasFolder docs) (place ++ [schemasName]) schemas
  routes : TakesIn tree (routesFolder docs) (place ++ [routesName]) routes

namespace TakesDocs

variable {schemas routes : List (Text × Bytes)}
  (h : TakesDocs tree docs place (schemas.map Prod.fst) (routes.map Prod.fst))
include h

theorem takesIn_schemas : TakesIn (tree.putIn place readmeFiles) (schemasFolder docs)
    (place ++ [schemasName]) (schemas.map Prod.fst) := takesIn_putIn h.schemas

theorem takesIn_routes : TakesIn ((tree.putIn place readmeFiles).putIn (place ++ [schemasName])
    schemas) (routesFolder docs) (place ++ [routesName]) (routes.map Prod.fst) :=
  takesIn_putIn (takesIn_putIn h.routes)

theorem keepsFolders : KeepsFolders tree (withDocs place schemas routes tree) :=
  ((grows_putIn h.readme).keepsFolders.trans (grows_putIn h.takesIn_schemas).keepsFolders).trans
    (grows_putIn h.takesIn_routes).keepsFolders

theorem takesIn_iff {names : List Text} :
    TakesIn (withDocs place schemas routes tree) path folder names
      ↔ TakesIn tree path folder names := by
  unfold withDocs
  rw [takesIn_putIn_iff h.takesIn_routes, takesIn_putIn_iff h.takesIn_schemas,
    takesIn_putIn_iff h.readme]

end TakesDocs

/-! ## The files at the root -/

/-- The files of a document at the root of a project. -/
def outputFiles (forms : Forms) (doc : Json) : List (Text × Bytes) :=
  (if forms.json then [(jsonFile, Text.toBytes doc.text)] else [])
    ++ if forms.yaml then [(yamlFile, Text.toBytes (Yaml.text doc))] else []

/-- Write a document in the given forms. -/
def writeForms (root : Path) (forms : Forms) (doc : Json) : Work (List Path) :=
  (if forms.json then Work.write (root.step jsonFile) doc.text else pure ()) >>= fun _ =>
    (if forms.yaml then Work.write (root.step yamlFile) (Yaml.text doc) else pure ()) >>= fun _ =>
      pure ((if forms.json then [root.step jsonFile] else [])
        ++ (if forms.yaml then [root.step yamlFile] else []))

theorem writeOutput_eq (root : Path) (config : Config) (docs : Path) (forms : Forms) :
    writeOutput root config docs forms
      = (liftM (load docs) : Work Contents) >>= fun contents =>
          writeForms root forms (.object (OpenApi.document config contents.schemas contents.paths)) := by
  unfold writeOutput writeForms
  cases forms.json <;> cases forms.yaml <;>
    simp only [Bool.false_eq_true, if_false, if_true, pure_bind]

/-- **The document of what the docs folder loads as is put at the root.** -/
theorem ends_writeOutput_iff (hleads : LeadsTo tree root start) {forms : Forms}
    {written : List Path} :
    (writeOutput root config docs forms).Ends tree tree' written ↔
      ∃ contents, (load docs).Finds tree contents
        ∧ TakesIn tree root start ((outputFiles forms
            (.object (OpenApi.document config contents.schemas contents.paths))).map Prod.fst)
        ∧ tree' = tree.putIn start (outputFiles forms
            (.object (OpenApi.document config contents.schemas contents.paths)))
        ∧ written = pathsOf root (outputFiles forms
            (.object (OpenApi.document config contents.schemas contents.paths))) := by
  have hwrite (c : Bool) (name text : Text) (hup : name ≠ Path.up) :
      Puts (if c then Work.write (root.step name) text else pure ()) root start
        (if c then [(name, Text.toBytes text)] else []) () := (puts_write hup).ite (c = true)
  have hputs (doc : Json) : Puts (writeForms root forms doc) root start (outputFiles forms doc)
      (pathsOf root (outputFiles forms doc)) := by
    have hpaths : pathsOf root (outputFiles forms doc)
        = (if forms.json then [root.step jsonFile] else [])
          ++ (if forms.yaml then [root.step yamlFile] else []) := by
      unfold pathsOf outputFiles
      cases forms.json <;> cases forms.yaml <;> rfl
    rw [hpaths, outputFiles, ← List.append_nil (if forms.yaml then _ else _)]
    exact (hwrite _ jsonFile _ (by decide)).bind
      ((hwrite _ yamlFile _ (by decide)).bind (puts_pure _ _ _))
  rw [writeOutput_eq, Work.ends_bind]
  simp only [Work.ends_survey]
  constructor
  · rintro ⟨_, contents, ⟨rfl, hload⟩, hrest⟩
    exact ⟨contents, hload, (hputs _ _ _ _ hleads).1 hrest⟩
  · rintro ⟨contents, hload, hfiles⟩
    exact ⟨tree, contents, ⟨rfl, hload⟩, (hputs _ _ _ _ hleads).2 hfiles⟩

end Docs

namespace Build

open Docs

/-! ## Parts -/

/-- The files of models that a build writes. -/
def schemaFiles (options : Options) (models : List Model) : List (Text × Bytes) :=
  if options.scan && options.schemas then documentFiles (schemaDocuments models) else []

/-- The files of route groups that a build writes. -/
def routeFiles (options : Options) (config : Config) (groups : List RouteGroup) :
    List (Text × Bytes) :=
  if options.scan && options.routes then
    documentFiles (groupDocuments config.authorization groups)
  else []

/-- The files of the comments that a build finds in a tree. -/
def FindsComments (root : Path) (config : Config) (kind : Option Project.Kind) (options : Options)
    (tree : Tree) (files : List (Text × Bytes)) : Prop :=
  if options.scan && options.routes then
    ∃ entries, (Project.scanDocs root config kind).Finds tree entries
      ∧ commentFiles entries = .ok files
  else files = []

/-- Write what a build found of routes, and the comments, which it finds then. -/
def writeRoutePaths (root : Path) (config : Config) (kind : Option Project.Kind)
    (groups : List RouteGroup) : Work (List Path) := do
  let routes ← writeRoutes (root.under config.docs.inPath) config.authorization groups
  let documented ← Project.scanDocs root config kind
  let comments ← writeComments (root.under config.docs.inPath) documented
  return routes ++ comments

theorem writeDocs_eq_parts (root : Path) (config : Config) (kind : Option Project.Kind)
    (options : Options) (models : List Model) (groups : List RouteGroup) :
    writeDocs root config kind options models groups
      = create (root.under config.docs.inPath) >>= fun _ =>
        writeReadme (root.under config.docs.inPath) >>= fun readme =>
        (if options.scan && options.schemas then writeSchemas (root.under config.docs.inPath) models
          else pure []) >>= fun schemas =>
        (if options.scan && options.routes then writeRoutePaths root config kind groups
          else pure []) >>= fun more => pure (readme :: schemas ++ more) := by
  unfold writeDocs writeRoutePaths
  cases options.scan && options.schemas <;> cases options.scan && options.routes <;>
    simp only [Bool.false_eq_true, if_false, if_true, pure_bind, bind_assoc, List.append_assoc,
      List.append_nil, List.cons_append]

theorem ends_writeRoutePaths_iff {options : Options} {written : List Path}
    (hgroups : ∀ group ∈ groups, '/' ∉ group.source)
    (hleads : LeadsTo tree (routesFolder (root.under config.docs.inPath)) folder) :
    (if options.scan && options.routes then writeRoutePaths root config kind groups
      else pure [] : Work (List Path)).Ends tree tree' written ↔
      ∃ comments, FindsComments root config kind options
          (tree.putIn folder (routeFiles options config groups)) comments
        ∧ TakesIn tree (routesFolder (root.under config.docs.inPath)) folder
            ((routeFiles options config groups ++ comments).map Prod.fst)
        ∧ tree' = tree.putIn folder (routeFiles options config groups ++ comments)
        ∧ written = pathsOf (routesFolder (root.under config.docs.inPath))
            (routeFiles options config groups ++ comments) := by
  unfold routeFiles FindsComments
  cases options.scan && options.routes with
  | false =>
      simp only [Bool.false_eq_true, if_false, exists_eq_left, List.append_nil]
      exact puts_pure _ _ _ _ _ _ hleads
  | true =>
      simp only [if_true]
      have hroutes : Puts (writeRoutes (root.under config.docs.inPath) config.authorization groups)
          (routesFolder (root.under config.docs.inPath)) folder
          (documentFiles (groupDocuments config.authorization groups)) _ :=
        puts_writeRoutes hgroups
      unfold writeRoutePaths
      constructor
      · intro hend
        obtain ⟨_, _, hfirst, hend⟩ := Work.ends_bind.1 hend
        obtain ⟨_, entries, hscan, hend⟩ := Work.ends_bind.1 hend
        obtain ⟨_, _, hlast, hpure⟩ := Work.ends_bind.1 hend
        obtain ⟨rfl, rfl⟩ := Work.ends_pure.1 hpure
        obtain ⟨rfl, hentries⟩ := Work.ends_survey.1 hscan
        obtain ⟨htakes, rfl, rfl⟩ := (hroutes _ _ _ hleads).1 hfirst
        obtain ⟨comments, hcomments, htakesmore, rfl, rfl⟩ :=
          (ends_writeComments_iff (leadsTo_putIn hleads htakes)).1 hlast
        refine ⟨comments, ⟨entries, hentries, hcomments⟩, ?_, (putIn_append _).symm,
          List.map_append.symm⟩
        rw [TakesIn, List.map_append, List.forall_mem_append]
        exact ⟨htakes, takesIn_of_putIn htakes htakesmore⟩
      · rintro ⟨comments, ⟨entries, hentries, hcomments⟩, htakes, rfl, rfl⟩
        rw [TakesIn, List.map_append, List.forall_mem_append] at htakes
        obtain ⟨htakes, htakesmore⟩ := htakes
        refine Work.ends_bind.2 ⟨_, _, (hroutes _ _ _ hleads).2 ⟨htakes, rfl, rfl⟩, ?_⟩
        refine Work.ends_bind.2 ⟨_, entries, Work.ends_survey.2 ⟨rfl, hentries⟩, ?_⟩
        refine Work.ends_bind.2 ⟨_, _, (ends_writeComments_iff (leadsTo_putIn hleads htakes)).2
          ⟨comments, hcomments, takesIn_putIn htakesmore, rfl, rfl⟩, ?_⟩
        exact Work.ends_pure.2 ⟨(putIn_append _).symm, List.map_append.symm⟩

/-- The tree with the files that a build puts into its docs folder: those of what it scanned, and
    that of the comments. -/
def docsTree (config : Config) (options : Options) (models : List Model) (groups : List RouteGroup)
    (place : Place) (comments : List (Text × Bytes)) (tree : Tree) : Tree :=
  withDocs place (schemaFiles options models) (routeFiles options config groups ++ comments) tree

/-- The paths of the files that a build puts into its docs folder. -/
def docsPaths (docs : Path) (config : Config) (options : Options) (models : List Model)
    (groups : List RouteGroup) (comments : List (Text × Bytes)) : List Path :=
  docs.step readmeName :: pathsOf (schemasFolder docs) (schemaFiles options models)
    ++ pathsOf (routesFolder docs) (routeFiles options config groups ++ comments)

/-- **What a build writes to its docs folder are the files of what it scanned and of the comments**,
    which it finds when the others are written. -/
theorem ends_writeDocs_iff {options : Options} {written : List Path}
    (hmodels : ∀ model ∈ models, '/' ∉ model.source)
    (hgroups : ∀ group ∈ groups, '/' ∉ group.source)
    (hstands : ∀ made, (create (root.under config.docs.inPath)).Ends tree made () →
      Stands made (root.under config.docs.inPath) place) :
    (writeDocs root config kind options models groups).Ends tree tree' written ↔
      ∃ made comments, (create (root.under config.docs.inPath)).Ends tree made ()
        ∧ TakesDocs made (root.under config.docs.inPath) place
            ((schemaFiles options models).map Prod.fst)
            ((routeFiles options config groups ++ comments).map Prod.fst)
        ∧ FindsComments root config kind options
            (docsTree config options models groups place [] made) comments
        ∧ tree' = docsTree config options models groups place comments made
        ∧ written = docsPaths (root.under config.docs.inPath) config options models groups comments := by
  unfold docsTree docsPaths
  rw [List.append_nil]
  have hschemas : Puts (if options.scan && options.schemas then
        writeSchemas (root.under config.docs.inPath) models else pure [])
      (schemasFolder (root.under config.docs.inPath)) (place ++ [schemasName])
      (schemaFiles options models)
      (pathsOf (schemasFolder (root.under config.docs.inPath)) (schemaFiles options models)) := by
    unfold schemaFiles
    split
    · exact puts_writeSchemas hmodels
    · exact puts_pure _ _ _
  rw [writeDocs_eq_parts]
  constructor
  · intro hend
    obtain ⟨made, _, hcreate, hend⟩ := Work.ends_bind.1 hend
    obtain ⟨explained, _, hreadme, hend⟩ := Work.ends_bind.1 hend
    obtain ⟨schemed, _, hschemed, hend⟩ := Work.ends_bind.1 hend
    obtain ⟨routed, _, hrouted, hpure⟩ := Work.ends_bind.1 hend
    obtain ⟨rfl, rfl⟩ := Work.ends_pure.1 hpure
    have hplace := hstands made hcreate
    obtain ⟨htakesreadme, rfl, rfl⟩ := (puts_writeReadme _ _ _ hplace.folder).1 hreadme
    have hplace' := hplace.of_keepsFolders (grows_putIn htakesreadme).keepsFolders
    obtain ⟨htakesschemas, rfl, rfl⟩ := (hschemas _ _ _ hplace'.schemas).1 hschemed
    have hplace'' := hplace'.of_keepsFolders (grows_putIn htakesschemas).keepsFolders
    obtain ⟨comments, hcomments, htakesroutes, rfl, rfl⟩ :=
      (ends_writeRoutePaths_iff hgroups hplace''.routes).1 hrouted
    exact ⟨made, comments, hcreate, ⟨htakesreadme, takesIn_of_putIn htakesreadme htakesschemas,
      takesIn_of_putIn htakesreadme (takesIn_of_putIn htakesschemas htakesroutes)⟩, hcomments, rfl,
      rfl⟩
  · rintro ⟨made, comments, hcreate, htakes, hcomments, rfl, rfl⟩
    have hplace := hstands made hcreate
    have hplace' := hplace.of_keepsFolders (grows_putIn htakes.readme).keepsFolders
    have htakesschemas : TakesIn (made.putIn place readmeFiles)
        (schemasFolder (root.under config.docs.inPath)) (place ++ [schemasName])
        ((schemaFiles options models).map Prod.fst) := takesIn_putIn htakes.schemas
    have hplace'' := hplace'.of_keepsFolders (grows_putIn htakesschemas).keepsFolders
    refine Work.ends_bind.2 ⟨made, (), hcreate, ?_⟩
    refine Work.ends_bind.2
      ⟨_, _, (puts_writeReadme _ _ _ hplace.folder).2 ⟨htakes.readme, rfl, rfl⟩, ?_⟩
    refine Work.ends_bind.2 ⟨_, _, (hschemas _ _ _ hplace'.schemas).2 ⟨htakesschemas, rfl, rfl⟩, ?_⟩
    refine Work.ends_bind.2 ⟨_, _, (ends_writeRoutePaths_iff hgroups hplace''.routes).2
      ⟨comments, hcomments, takesIn_putIn (takesIn_putIn htakes.routes), rfl, rfl⟩, ?_⟩
    exact Work.ends_pure.2 ⟨rfl, rfl⟩

/-! ## The whole build -/

/-- Update the ignore file, if it is asked for. -/
def ignorePart (root : Path) (config : Config) : Work Unit :=
  if config.gitignore then updateIgnore root config.docs.inPath >>= fun _ => pure () else pure ()

/-- Write the document at the root, if a form of it is asked for. -/
def outputPart (root : Path) (config : Config) (options : Options) : Work (List Path) :=
  if options.forms.json || options.forms.yaml then
    writeOutput root config (root.under config.docs.inPath) options.forms
  else pure []

theorem run_eq_parts (root : Path) (config : Config) (kind : Option Project.Kind) (options : Options) :
    run root config kind options
      = (liftM (scan root config kind options) : Work (List Model × List RouteGroup)) >>= fun found =>
        writeDocs root config kind options found.1 found.2 >>= fun docs =>
        ignorePart root config >>= fun _ =>
        outputPart root config options >>= fun output => pure ⟨found.1, found.2, docs ++ output⟩ := by
  unfold run ignorePart outputPart
  cases config.gitignore <;> cases options.forms.json || options.forms.yaml <;>
    simp only [Bool.false_eq_true, if_false, if_true, pure_bind, bind_assoc, List.append_nil]

/-- What the ignore file is to become in a build. -/
def FindsIgnore (root : Path) (config : Config) (start : Place) (tree : Tree)
    (files : List (Text × Bytes)) : Prop :=
  if config.gitignore then FindsIgnored root config.docs.inPath start tree files else files = []

/-- The files of the document that a build finds in a tree. -/
def FindsOutput (root : Path) (config : Config) (options : Options) (tree : Tree)
    (files : List (Text × Bytes)) : Prop :=
  if options.forms.json || options.forms.yaml then
    ∃ contents, (load (root.under config.docs.inPath)).Finds tree contents
      ∧ files = outputFiles options.forms
          (.object (OpenApi.document config contents.schemas contents.paths))
  else files = []

theorem ends_ignorePart_iff {done : Unit} (hleads : LeadsTo tree root start) :
    (ignorePart root config).Ends tree tree' done ↔
      ∃ files, FindsIgnore root config start tree files
        ∧ TakesIn tree root start (files.map Prod.fst) ∧ tree' = tree.putIn start files := by
  unfold ignorePart FindsIgnore
  split
  · rw [← ends_updateIgnore_iff hleads, Work.ends_bind]
    simp only [Work.ends_pure]
    constructor
    · rintro ⟨_, appended, hupdate, rfl, -⟩
      exact ⟨appended, hupdate⟩
    · rintro ⟨appended, hupdate⟩
      exact ⟨tree', appended, hupdate, rfl, trivial⟩
  · simp only [exists_eq_left]
    exact (puts_pure root start () tree tree' done hleads).trans
      (and_congr_right fun _ => and_iff_left rfl)

theorem ends_outputPart_iff {options : Options} {written : List Path}
    (hleads : LeadsTo tree root start) :
    (outputPart root config options).Ends tree tree' written ↔
      ∃ files, FindsOutput root config options tree files
        ∧ TakesIn tree root start (files.map Prod.fst)
        ∧ tree' = tree.putIn start files ∧ written = pathsOf root files := by
  unfold outputPart FindsOutput
  split
  · rw [ends_writeOutput_iff hleads]
    constructor
    · rintro ⟨contents, hload, hfiles⟩
      exact ⟨_, ⟨contents, hload, rfl⟩, hfiles⟩
    · rintro ⟨_, ⟨contents, hload, rfl⟩, hfiles⟩
      exact ⟨contents, hload, hfiles⟩
  · simp only [exists_eq_left]
    exact puts_pure root start [] tree tree' written hleads

/-- What a build does to a tree in which its docs folder stands: it puts the files of what it
    scanned and of the comments into the docs folder, and the ignore file and those of the document
    into the root. -/
structure Ran (root : Path) (config : Config) (kind : Option Project.Kind) (options : Options)
    (start place : Place) (made : Tree) (result : Result)
    (comments ignored output : List (Text × Bytes)) : Prop where
  stands : Stands made (root.under config.docs.inPath) place
  takesDocs : TakesDocs made (root.under config.docs.inPath) place
    ((schemaFiles options result.models).map Prod.fst)
    ((routeFiles options config result.groups ++ comments).map Prod.fst)
  findsComments : FindsComments root config kind options
    (docsTree config options result.models result.groups place [] made) comments
  findsIgnore : FindsIgnore root config start
    (docsTree config options result.models result.groups place comments made) ignored
  takesIgnored : TakesIn made root start (ignored.map Prod.fst)
  findsOutput : FindsOutput root config options
    ((docsTree config options result.models result.groups place comments made).putIn start ignored)
    output
  takesOutput : TakesIn made root start (output.map Prod.fst)
  written : result.written = docsPaths (root.under config.docs.inPath) config options result.models
    result.groups comments ++ pathsOf root output

/-- **What a build does**: it scans, makes its docs folder, and puts its files into the tree. -/
theorem ends_run_iff {options : Options} {result : Result} (hroot : LeadsTo tree root start)
    (hmodels : ∀ model ∈ result.models, '/' ∉ model.source)
    (hgroups : ∀ group ∈ result.groups, '/' ∉ group.source)
    (hstands : ∀ made, (create (root.under config.docs.inPath)).Ends tree made () →
      KeepsFolders tree made ∧ Stands made (root.under config.docs.inPath) place) :
    (run root config kind options).Ends tree tree' result ↔
      (scan root config kind options).Finds tree (result.models, result.groups)
        ∧ ∃ made comments ignored output,
            (create (root.under config.docs.inPath)).Ends tree made ()
              ∧ Ran root config kind options start place made result comments ignored output
              ∧ tree' = (docsTree config options result.models result.groups place comments
                  made).putIn start (ignored ++ output) := by
  rw [run_eq_parts]
  constructor
  · intro hend
    obtain ⟨_, ⟨models, groups⟩, hscan, hend⟩ := Work.ends_bind.1 hend
    obtain ⟨rfl, hfound⟩ := Work.ends_survey.1 hscan
    obtain ⟨docs, written, hwrite, hend⟩ := Work.ends_bind.1 hend
    obtain ⟨_, _, hignore, hend⟩ := Work.ends_bind.1 hend
    obtain ⟨_, _, houtput, hpure⟩ := Work.ends_bind.1 hend
    obtain ⟨rfl, hresult⟩ := Work.ends_pure.1 hpure
    obtain rfl : models = result.models := congrArg Result.models hresult
    obtain rfl : groups = result.groups := congrArg Result.groups hresult
    obtain ⟨made, comments, hcreate, htakes, hcomments, rfl, rfl⟩ :=
      (ends_writeDocs_iff hmodels hgroups fun made h => (hstands made h).2).1 hwrite
    obtain ⟨hkeeps, hplace⟩ := hstands made hcreate
    have hroot' := hroot.of_keepsFolders (hkeeps.trans htakes.keepsFolders)
    obtain ⟨ignored, hignored, htakesIgnored, rfl⟩ := (ends_ignorePart_iff hroot').1 hignore
    obtain ⟨output, hfiles, htakesOutput, rfl, rfl⟩ :=
      (ends_outputPart_iff (leadsTo_putIn hroot' htakesIgnored)).1 houtput
    exact ⟨hfound, made, comments, ignored, output, hcreate, ⟨hplace, htakes, hcomments, hignored,
      htakes.takesIn_iff.1 htakesIgnored, hfiles,
      htakes.takesIn_iff.1 (takesIn_of_putIn htakesIgnored htakesOutput),
      (congrArg Result.written hresult).symm⟩, (putIn_append _).symm⟩
  · rintro ⟨hfound, made, comments, ignored, output, hcreate, hran, rfl⟩
    have hroot' := hroot.of_keepsFolders ((hstands made hcreate).1.trans hran.takesDocs.keepsFolders)
    have htakesIgnored := hran.takesDocs.takesIn_iff.2 hran.takesIgnored
    refine Work.ends_bind.2 ⟨tree, _, Work.ends_survey.2 ⟨rfl, hfound⟩, ?_⟩
    refine Work.ends_bind.2 ⟨_, _,
      (ends_writeDocs_iff hmodels hgroups fun made h => (hstands made h).2).2
        ⟨made, comments, hcreate, hran.takesDocs, hran.findsComments, rfl, rfl⟩, ?_⟩
    refine Work.ends_bind.2 ⟨_, (), (ends_ignorePart_iff hroot').2
      ⟨ignored, hran.findsIgnore, htakesIgnored, rfl⟩, ?_⟩
    refine Work.ends_bind.2 ⟨_, _, (ends_outputPart_iff (leadsTo_putIn hroot' htakesIgnored)).2
      ⟨output, hran.findsOutput, takesIn_putIn (hran.takesDocs.takesIn_iff.2 hran.takesOutput), rfl,
        rfl⟩, ?_⟩
    exact Work.ends_pure.2 ⟨(putIn_append _).symm, by rw [← hran.written]⟩

end Build

end ApiScan
