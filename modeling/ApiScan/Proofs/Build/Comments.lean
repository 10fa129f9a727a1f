import ApiScan.Proofs.Build.Apart
import ApiScan.Proofs.Project.Documented
import ApiScan.Proofs.Tree.MakeFolders

set_option autoImplicit false

/-! # Builds that comments end

A build reads the comments of a project when all other documents are written. A block that is no
YAML text, or no mapping, is told and passed over. A block with a scalar that stands for no value
ends the build, and so do documented paths that have no JSON form: the other documents are written
then, and the document of the project is not. -/

namespace ApiScan

open Project DocComment

variable {tree tree' : Tree} {root path : Path} {config : Config} {kind : Option Kind}
  {files : List Path} {failure : Failure} {fault : Yaml.Fault}

/-! ## Reading comments -/

namespace Project

/-- What is told of a source file and its blocks. -/
def toldOf (tree : Tree) (path : Path) : Log :=
  (match tree.read path with
    | .ok _ => []
    | .error _ => [.fileUnreadable])
  ++ (blocks (sourceAt tree path)).filterMap told?

/-- A file that ends no scan gives its items, and its other blocks are told. -/
theorem scanDocFile_of_harmless (h : Harmless tree path) :
    scanDocFile path tree = (toldOf tree path, .ok (itemsOf (sourceAt tree path))) := by
  obtain ⟨hread, hblocks⟩ := h
  unfold Readable at hread
  unfold sourceAt Tree.sourceText? at hblocks
  unfold scanDocFile Survey.sourceText? toldOf itemsOf sourceAt Tree.sourceText?
  cases hcontent : tree.read path with
  | ok content =>
      rw [hcontent] at hblocks
      dsimp only [Except.toOption, Option.map_some, Option.getD_some] at hblocks ⊢
      by_cases hmark : Text.holds mark (Text.ofSource content) = true
      · rw [if_pos hmark, load, loadBlocks_eq hblocks]
        rfl
      · rw [if_neg hmark, blocks_of_not_holds (Bool.not_eq_true _ ▸ hmark)]
        rfl
  | error fault =>
      cases fault
      case nulInPath => exact absurd hcontent hread
      all_goals rfl

theorem fails_scanDocFile :
    (scanDocFile path).Fails tree failure ∧ failure.OfComments ↔
      ∃ fault, Readable tree path ∧ FirstFatal (blocks (sourceAt tree path)) fault
        ∧ failure = .badDocs fault := by
  unfold Survey.Fails
  by_cases hread : Readable tree path
  · rw [scanDocFile_eq hread, load]
    simp only [hread, true_and, ← loadBlocks_eq_error_iff []]
    cases (loadBlocks [] (blocks (sourceAt tree path))).2 with
    | ok items => simp [Except.mapError]
    | error fault =>
        simp only [Except.mapError, Except.error.injEq]
        constructor
        · rintro ⟨rfl, -⟩
          exact ⟨fault, rfl, rfl⟩
        · rintro ⟨_, rfl, rfl⟩
          exact ⟨rfl, trivial⟩
  · rw [scanDocFile_of_not_readable hread]
    simp only [hread, false_and, exists_false, iff_false, not_and, Except.error.injEq]
    rintro rfl
    exact id

/-- What the files of a project document, one file after another. -/
def documentedItems (tree : Tree) (files : List Path) : Entries :=
  (files.map fun file => itemsOf (sourceAt tree file)).foldl Assoc.update []

theorem fails_scanDocs (hfiles : (documentedFiles root config kind).Finds tree files) :
    (scanDocs root config kind).Fails tree failure ∧ failure.OfComments ↔
      ∃ before file after fault, files = before ++ file :: after
        ∧ (∀ earlier ∈ before, Harmless tree earlier) ∧ Readable tree file
        ∧ FirstFatal (blocks (sourceAt tree file)) fault ∧ failure = .badDocs fault := by
  unfold scanDocs
  simp only [Survey.fails_bind, Survey.not_fails_pure, and_false, exists_false, or_false,
    hfiles.not_fails, false_or, Survey.fails_mapM]
  constructor
  · rintro ⟨⟨files', hfiles', before, file, after, rfl, hbefore, hfails⟩, hcause⟩
    obtain rfl := hfiles'.unique hfiles
    obtain ⟨fault, hread, hfirst, rfl⟩ := fails_scanDocFile.1 ⟨hfails, hcause⟩
    refine ⟨before, file, after, fault, rfl, fun earlier he => ?_, hread, hfirst, rfl⟩
    obtain ⟨_, hfinds⟩ := hbefore earlier he
    exact (finds_scanDocFile.1 hfinds).1
  · rintro ⟨before, file, after, fault, rfl, hbefore, hread, hfirst, rfl⟩
    refine ⟨⟨_, hfiles, before, file, after, rfl, fun earlier he => ?_, ?_⟩, trivial⟩
    · exact ⟨_, finds_scanDocFile.2 ⟨hbefore earlier he, rfl⟩⟩
    · exact (fails_scanDocFile.2 ⟨fault, hread, hfirst, rfl⟩).1

theorem scanDocs_of_harmless (hfiles : (documentedFiles root config kind).Finds tree files)
    (hall : ∀ file ∈ files, Harmless tree file) :
    ∃ before, scanDocs root config kind tree
      = (before ++ files.flatMap (toldOf tree), .ok (documentedItems tree files)) := by
  have hitems := finds_mapM_scanDocFile.2 ⟨hall, rfl⟩
  have htold : ∀ file ∈ files, ∀ items, (scanDocFile file).Finds tree items →
      (scanDocFile file tree).1 = toldOf tree file := fun file hfile _ _ => by
    rw [scanDocFile_of_harmless (hall file hfile)]
  refine ⟨(documentedFiles root config kind tree).1,
    Prod.ext ?_ ((finds_scanDocs hfiles).2 ⟨hall, rfl⟩)⟩
  unfold scanDocs
  rw [Survey.log_bind hfiles, Survey.log_bind hitems, Survey.log_mapM htold hitems]
  exact congrArg _ (List.append_nil _)

end Project

/-! ## Writing what comments document -/

/-- Work that takes no folder away. -/
def Work.KeepsFolders {α : Type} (work : Work α) : Prop :=
  ∀ tree tree' a, work.Ends tree tree' a → Tree.KeepsFolders tree tree'

namespace Work

variable {α β : Type}

theorem keepsFolders_pure (a : α) : KeepsFolders (pure a) := by
  rintro tree tree' b hend
  obtain ⟨rfl, -⟩ := ends_pure.1 hend
  exact fun _ hp => hp

theorem keepsFolders_bind {work : Work α} {next : α → Work β} (h : work.KeepsFolders)
    (hnext : ∀ a, (next a).KeepsFolders) : (work >>= next).KeepsFolders := by
  intro tree tree' b hend
  obtain ⟨between, a, hfirst, hrest⟩ := ends_bind.1 hend
  exact (h tree between a hfirst).trans (hnext a between tree' b hrest)

theorem keepsFolders_mapM {f : α → Work β} {items : List α} (h : ∀ a, (f a).KeepsFolders) :
    (items.mapM f).KeepsFolders := by
  induction items with
  | nil => exact keepsFolders_pure _
  | cons a more ih =>
      rw [List.mapM_cons]
      exact keepsFolders_bind (h a) fun _ => keepsFolders_bind ih fun _ => keepsFolders_pure _

theorem keepsFolders_write (path : Path) (text : Text) : (write path text).KeepsFolders :=
  fun _ _ _ hend => Tree.keepsFolders_write (ends_change.1 hend)

theorem keepsFolders_makeFolders (path : Path) (told : FileFault → Failure) :
    (makeFolders path told).KeepsFolders :=
  fun _ _ _ hend => (Tree.leadsTo_of_makeFolders (ends_makeFolders.1 hend)).1

theorem keepsFolders_writeDocument (path : Path) (doc : Json) :
    (writeDocument path doc).KeepsFolders :=
  keepsFolders_bind (keepsFolders_makeFolders _ _) fun _ =>
    keepsFolders_bind (keepsFolders_write _ _) fun _ => keepsFolders_pure _

end Work

namespace Build

open Docs

variable {options : Options} {models : List Model} {groups : List RouteGroup} {written : List Path}

/-- Write the documents of the models, if they are asked for. -/
def writeModels (docs : Path) (options : Options) (models : List Model) : Work (List Path) :=
  if options.scan && options.schemas then Docs.writeSchemas docs models else pure []

/-- Write the documents that hold no comments. -/
def writeRecords (root : Path) (config : Config) (options : Options) (models : List Model)
    (groups : List RouteGroup) : Work (List Path) := do
  let docs := root.under config.docs.inPath
  Docs.create docs
  let readme ← Docs.writeReadme docs
  let schemas ← writeModels docs options models
  let routes ← Docs.writeRoutes docs config.authorization groups
  return readme :: schemas ++ routes

theorem writeDocs_eq (hscan : options.scan = true) (hroutes : options.routes = true) :
    writeDocs root config kind options models groups = (do
      let records ← writeRecords root config options models groups
      let documented ← Project.scanDocs root config kind
      let comments ← Docs.writeComments (root.under config.docs.inPath) documented
      return records ++ comments) := by
  unfold writeDocs writeRecords writeModels
  cases hschemas : options.schemas <;> simp [hscan, hroutes]

/-- What is left to do when the docs folder is written. -/
def finish (root : Path) (config : Config) (options : Options) (models : List Model)
    (groups : List RouteGroup) (docs : List Path) : Work Result := do
  if config.gitignore then
    let _ ← Docs.updateIgnore root config.docs.inPath
  if options.forms.json || options.forms.yaml then
    let output ← Docs.writeOutput root config (root.under config.docs.inPath) options.forms
    return ⟨models, groups, docs ++ output⟩
  else return ⟨models, groups, docs⟩

theorem run_eq : run root config kind options = (do
    let found ← scan root config kind options
    let docs ← writeDocs root config kind options found.1 found.2
    finish root config options found.1 found.2 docs) := by
  unfold run
  refine bind_congr fun (models, groups) => ?_
  dsimp only
  refine bind_congr fun docs => ?_
  unfold finish
  rfl

/-! ## The steps of a build -/

theorem failsApart_scan (root : Path) (config : Config) (kind : Option Kind) (options : Options) :
    (scan root config kind options).FailsApart := by
  have hgroups (models : List Model) : (do
      let groups ← if options.scan && options.routes then Project.scanRoutes root config kind
        else pure []
      return (models, groups) : Survey (List Model × List RouteGroup)).FailsApart :=
    Survey.failsOnly_ite
      (Survey.failsOnly_bind (failsApart_scanRoutes _ _ _) fun _ => Survey.failsOnly_pure _)
      (Survey.failsOnly_pure _)
  exact Survey.failsOnly_ite
    (Survey.failsOnly_bind (failsApart_scanModels _ _) fun models => hgroups models) (hgroups [])

theorem failsOnly_writeModels (docs : Path) (options : Options) (models : List Model) :
    (writeModels docs options models).FailsOnly Failure.OfFiles :=
  Work.failsOnly_ite (failsOnly_writeSchemas _ _) (Work.failsOnly_pure _)

theorem failsOnly_writeRecords (root : Path) (config : Config) (options : Options)
    (models : List Model) (groups : List RouteGroup) :
    (writeRecords root config options models groups).FailsOnly Failure.OfFiles :=
  Work.failsOnly_bind (failsOnly_create _) fun _ =>
    Work.failsOnly_bind (failsOnly_writeReadme _) fun _ =>
      Work.failsOnly_bind (failsOnly_writeModels _ _ _) fun _ =>
        Work.failsOnly_bind (failsOnly_writeRoutes _ _ _) fun _ => Work.failsOnly_pure _

theorem failsOnly_finish (root : Path) (config : Config) (options : Options)
    (models : List Model) (groups : List RouteGroup) (docs : List Path) :
    (finish root config options models groups docs).FailsOnly Failure.OfFiles := by
  have houtput : (if (options.forms.json || options.forms.yaml) = true then do
      let output ← writeOutput root config (root.under config.docs.inPath) options.forms
      return ⟨models, groups, docs ++ output⟩
    else return ⟨models, groups, docs⟩ : Work Result).FailsOnly Failure.OfFiles :=
    Work.failsOnly_ite (Work.failsOnly_bind (failsOnly_writeOutput _ _ _ _) fun _ =>
      Work.failsOnly_pure _) (Work.failsOnly_pure _)
  exact Work.failsOnly_ite (Work.failsOnly_bind (failsOnly_updateIgnore _ _) fun _ => houtput)
    houtput

/-- A docs folder that was created holds the folder of path documents. -/
theorem leadsTo_of_create {docs : Path} {done : Unit} (hend : (create docs).Ends tree tree' done) :
    ∃ place, Tree.LeadsTo tree' (routesFolder docs) place ∧ Tree.Fits (routesFolder docs) := by
  obtain ⟨_, _, -, hend⟩ := Work.ends_bind.1 hend
  obtain ⟨_, _, -, hend⟩ := Work.ends_bind.1 hend
  obtain ⟨_, _, hmade, hpure⟩ := Work.ends_bind.1 hend
  obtain ⟨rfl, -⟩ := Work.ends_pure.1 hpure
  obtain ⟨-, place, hleads, hfits⟩ := Tree.leadsTo_of_makeFolders (Work.ends_makeFolders.1 hmade)
  exact ⟨place, hleads, hfits (by simp [routesFolder, Path.step])⟩

theorem leadsTo_of_writeRecords
    (hend : (writeRecords root config options models groups).Ends tree tree' written) :
    ∃ place, Tree.LeadsTo tree' (routesFolder (root.under config.docs.inPath)) place
      ∧ Tree.Fits (routesFolder (root.under config.docs.inPath)) := by
  obtain ⟨made, done, hcreate, hrest⟩ := Work.ends_bind.1 hend
  obtain ⟨place, hleads, hfits⟩ := leadsTo_of_create hcreate
  refine ⟨place, hleads.of_keepsFolders ?_, hfits⟩
  refine Work.keepsFolders_bind ?_ (fun _ => Work.keepsFolders_bind ?_ fun _ =>
    Work.keepsFolders_bind ?_ fun _ => Work.keepsFolders_pure _) _ _ _ hrest
  · exact Work.keepsFolders_bind (Work.keepsFolders_write _ _) fun _ => Work.keepsFolders_pure _
  · unfold writeModels
    split
    · exact Work.keepsFolders_mapM fun _ => Work.keepsFolders_writeDocument _ _
    · exact Work.keepsFolders_pure _
  · exact Work.keepsFolders_mapM fun _ => Work.keepsFolders_writeDocument _ _

/-- In a folder that is there, only documented paths without a JSON form are refused because of
    comments, and nothing is written then. -/
theorem fails_writeComments {docs : Path} {place : Place} {entries : Entries}
    (hleads : Tree.LeadsTo tree (routesFolder docs) place) (hfits : Tree.Fits (routesFolder docs)) :
    (writeComments docs entries).Fails tree tree' failure ∧ failure.OfComments ↔
      tree = tree' ∧ ∃ fault, (Yaml.Value.map entries).toJson? = .error fault
        ∧ failure = .noJsonForm fault := by
  unfold writeComments
  cases entries with
  | nil =>
      constructor
      · exact fun h => absurd h.1 Work.not_fails_pure
      · rintro ⟨-, fault, hform, -⟩
        cases hform
  | cons entry entries =>
      have hparent : ((routesFolder docs).step commentsFile).parent = routesFolder docs := by
        simp [Path.parent, Path.step]
      have hmade := Tree.makeFolders_eq_ok hfits hleads
      rw [if_neg (by simp)]
      dsimp only
      rw [hparent, Work.fails_bind]
      simp only [Work.fails_makeFolders, Work.ends_makeFolders, hmade, Prod.mk.injEq, reduceCtorEq,
        and_false, false_and, exists_false, false_or, and_true, exists_and_left, exists_const,
        exists_eq_left']
      unfold commentsDocument
      cases hform : (Yaml.Value.map (entry :: entries)).toJson? with
      | error fault =>
          dsimp only [Except.mapError]
          rw [Work.fails_survey, Survey.fails_fail]
          constructor
          · rintro ⟨⟨rfl, rfl⟩, -⟩
            exact ⟨rfl, fault, rfl, rfl⟩
          · rintro ⟨rfl, _, h, rfl⟩
            obtain rfl := Except.error.inj h
            exact ⟨⟨rfl, rfl⟩, trivial⟩
      | ok doc =>
          have hwrite : (do
              Work.write ((routesFolder docs).step commentsFile) doc.text
              return [(routesFolder docs).step commentsFile] : Work (List Path)).FailsApart :=
            Work.failsOnly_bind (Work.failsOnly_change _ _).apart fun _ => Work.failsOnly_pure _
          constructor
          · exact fun h => absurd h.2 (hwrite _ _ _ h.1)
          · rintro ⟨-, _, h, -⟩
            cases h

/-! ## Builds -/

/-- How comments end the reading of files. -/
inductive EndedByComments (tree : Tree) (files : List Path) : Failure → Prop
  /-- A block holds a value that stands for nothing. -/
  | value {before after : List Path} {file : Path} {fault : Yaml.Fault}
      (hfiles : files = before ++ file :: after) (hbefore : ∀ earlier ∈ before, Harmless tree earlier)
      (hread : Readable tree file) (hfirst : FirstFatal (blocks (sourceAt tree file)) fault) :
      EndedByComments tree files (.badDocs fault)
  /-- What the files document has no JSON form. -/
  | form {fault : Yaml.Value.FormFault} (hall : ∀ file ∈ files, Harmless tree file)
      (hform : (Yaml.Value.map (documentedItems tree files)).toJson? = .error fault) :
      EndedByComments tree files (.noJsonForm fault)

/-- Reading and writing what comments document fails because of comments as they say. -/
theorem fails_comments {place : Place} (records : List Path)
    (hleads : Tree.LeadsTo tree (routesFolder (root.under config.docs.inPath)) place)
    (hfits : Tree.Fits (routesFolder (root.under config.docs.inPath))) :
    (do
      let documented ← Project.scanDocs root config kind
      let comments ← Docs.writeComments (root.under config.docs.inPath) documented
      return records ++ comments : Work (List Path)).Fails tree tree' failure
        ∧ failure.OfComments ↔
      tree = tree' ∧ ∃ files, (documentedFiles root config kind).Finds tree files
        ∧ EndedByComments tree files failure := by
  simp only [Work.fails_bind, Work.not_fails_pure, and_false, exists_false, or_false]
  constructor
  · rintro ⟨⟨rfl, hscan⟩ | ⟨between, entries, hscan, hwrite⟩, hcause⟩
    · refine ⟨rfl, ?_⟩
      rcases Survey.fails_bind.1 hscan with hlisting | ⟨files, hfiles, -⟩
      · exact absurd hcause (failsApart_documentedFiles _ _ _ _ _ hlisting)
      · obtain ⟨before, file, after, fault, hsplit, hbefore, hread, hfirst, rfl⟩ :=
          (fails_scanDocs hfiles).1 ⟨hscan, hcause⟩
        exact ⟨files, hfiles, .value hsplit hbefore hread hfirst⟩
    · obtain ⟨rfl, hentries⟩ := Work.ends_survey.1 hscan
      obtain ⟨files, hfiles, -⟩ := Survey.finds_bind.1 hentries
      obtain ⟨hall, rfl⟩ := (finds_scanDocs hfiles).1 hentries
      obtain ⟨rfl, fault, hform, rfl⟩ := (fails_writeComments hleads hfits).1 ⟨hwrite, hcause⟩
      exact ⟨rfl, files, hfiles, .form hall hform⟩
  · rintro ⟨rfl, files, hfiles, hended⟩
    cases hended with
    | value hsplit hbefore hread hfirst =>
        obtain ⟨hfails, hcause⟩ := (fails_scanDocs hfiles).2
          ⟨_, _, _, _, hsplit, hbefore, hread, hfirst, rfl⟩
        exact ⟨Or.inl ⟨rfl, hfails⟩, hcause⟩
    | form hall hform =>
        obtain ⟨hfails, hcause⟩ := (fails_writeComments hleads hfits).2 ⟨rfl, _, hform, rfl⟩
        exact ⟨Or.inr ⟨tree, _, ⟨rfl, (finds_scanDocs hfiles).2 ⟨hall, rfl⟩⟩, hfails⟩, hcause⟩

/-- **Which comments end a build.** A build that scans routes fails because of comments exactly if
    it comes to the point where all other documents are written, and then a block holds a value that
    stands for nothing, or what is documented has no JSON form. -/
theorem fails_run_iff (hscan : options.scan = true) (hroutes : options.routes = true) :
    (run root config kind options).Fails tree tree' failure ∧ failure.OfComments ↔
      ∃ models groups written files,
        (scan root config kind options).Finds tree (models, groups)
          ∧ (writeRecords root config options models groups).Ends tree tree' written
          ∧ (documentedFiles root config kind).Finds tree' files
          ∧ EndedByComments tree' files failure := by
  rw [run_eq]
  constructor
  · rintro ⟨hfails, hcause⟩
    rcases Work.fails_bind.1 hfails with ⟨-, hfirst⟩ | ⟨_, ⟨models, groups⟩, hsurvey, hfails⟩
    · exact absurd hcause (failsApart_scan _ _ _ _ _ _ hfirst)
    obtain ⟨rfl, hfound⟩ := Work.ends_survey.1 hsurvey
    rcases Work.fails_bind.1 hfails with hdocs | ⟨_, _, -, hlast⟩
    · rw [writeDocs_eq hscan hroutes] at hdocs
      rcases Work.fails_bind.1 hdocs with hrecords | ⟨between, written, hrecords, hcomments⟩
      · exact absurd hcause ((failsOnly_writeRecords _ _ _ _ _).apart _ _ _ hrecords)
      obtain ⟨place, hleads, hfits⟩ := leadsTo_of_writeRecords hrecords
      obtain ⟨rfl, files, hfiles, hended⟩ := (fails_comments _ hleads hfits).1 ⟨hcomments, hcause⟩
      exact ⟨models, groups, written, files, hfound, hrecords, hfiles, hended⟩
    · exact absurd hcause ((failsOnly_finish _ _ _ _ _ _).apart _ _ _ hlast)
  · rintro ⟨models, groups, written, files, hfound, hrecords, hfiles, hended⟩
    obtain ⟨place, hleads, hfits⟩ := leadsTo_of_writeRecords hrecords
    obtain ⟨hcomments, hcause⟩ := (fails_comments written hleads hfits).2
      ⟨rfl, files, hfiles, hended⟩
    refine ⟨Work.fails_bind.2 (Or.inr ⟨tree, (models, groups), ⟨rfl, hfound⟩, ?_⟩), hcause⟩
    refine Work.fails_bind.2 (Or.inl ?_)
    rw [writeDocs_eq hscan hroutes]
    exact Work.fails_bind.2 (Or.inr ⟨tree', written, hrecords, hcomments⟩)

/-- What comes after a step that may be left out ends as it does. -/
theorem exists_ends_of_ite {α β : Type} {condition : Prop} [Decidable condition] {work : Work α}
    {rest : Work β} {b : β}
    (h : (if condition then work >>= fun _ => rest else rest).Ends tree tree' b) :
    ∃ between, rest.Ends between tree' b := by
  split at h
  · obtain ⟨between, _, -, hrest⟩ := Work.ends_bind.1 h
    exact ⟨between, hrest⟩
  · exact ⟨tree, h⟩

theorem eq_of_writeOutput {docs : Path} {forms : Forms} {output : List Path}
    (hend : (writeOutput root config docs forms).Ends tree tree' output) :
    output = (if forms.json then [root.step jsonFile] else [])
      ++ (if forms.yaml then [root.step yamlFile] else []) := by
  obtain ⟨_, contents, -, hwrite⟩ := Work.ends_bind.1 hend
  obtain ⟨_, hwrite⟩ := exists_ends_of_ite hwrite
  obtain ⟨_, hpure⟩ := exists_ends_of_ite hwrite
  exact (Work.ends_pure.1 hpure).2.symm

/-- A build returns what it scanned, and the files of the document are among those it writes. -/
theorem result_of_finish {docs : List Path} {result : Result}
    (hend : (finish root config options models groups docs).Ends tree tree' result) :
    result.models = models ∧ result.groups = groups
      ∧ (options.forms.json = true → root.step jsonFile ∈ result.written)
      ∧ (options.forms.yaml = true → root.step yamlFile ∈ result.written) := by
  obtain ⟨_, hend⟩ := exists_ends_of_ite hend
  split at hend
  · obtain ⟨_, output, hwrite, hpure⟩ := Work.ends_bind.1 hend
    obtain ⟨-, rfl⟩ := Work.ends_pure.1 hpure
    obtain rfl := eq_of_writeOutput hwrite
    refine ⟨rfl, rfl, fun hjson => ?_, fun hyaml => ?_⟩
    · simp [hjson]
    · simp [hyaml]
  · next hneither =>
      obtain ⟨-, rfl⟩ := Work.ends_pure.1 hend
      rw [Bool.or_eq_true, not_or] at hneither
      exact ⟨rfl, rfl, fun h => absurd h hneither.1, fun h => absurd h hneither.2⟩

/-- **What a build makes of comments.** A build that scans routes fails because of comments exactly
    if it comes to the point where all other documents are written, and then a block holds a value
    that stands for nothing, or what is documented has no JSON form. Otherwise, unless it fails for
    another reason, every other block that is no mapping is told, the documented paths are written,
    and so is the document of the project. -/
theorem comments_of_run (hscan : options.scan = true) (hroutes : options.routes = true) :
    ((run root config kind options).Fails tree tree' failure ∧ failure.OfComments ↔
      ∃ models groups written files,
        (scan root config kind options).Finds tree (models, groups)
          ∧ (writeRecords root config options models groups).Ends tree tree' written
          ∧ (documentedFiles root config kind).Finds tree' files
          ∧ EndedByComments tree' files failure)
    ∧ ∀ result, (run root config kind options).Ends tree tree' result →
      ∃ scanned records files commented comments,
        (writeRecords root config options result.models result.groups).Ends tree scanned records
          ∧ (documentedFiles root config kind).Finds scanned files
          ∧ (∃ before after, (run root config kind options tree).2.1
              = before ++ files.flatMap (toldOf scanned) ++ after)
          ∧ (writeComments (root.under config.docs.inPath) (documentedItems scanned files)).Ends
              scanned commented comments
          ∧ (options.forms.json = true → root.step jsonFile ∈ result.written)
          ∧ (options.forms.yaml = true → root.step yamlFile ∈ result.written) := by
  refine ⟨fails_run_iff hscan hroutes, fun result hend => ?_⟩
  rw [run_eq] at hend ⊢
  obtain ⟨_, ⟨models, groups⟩, hfound, hrest⟩ := Work.ends_bind.1 hend
  obtain ⟨_, paths, hdocs, hfinish⟩ := Work.ends_bind.1 hrest
  obtain ⟨rfl, rfl, hwritten⟩ := result_of_finish hfinish
  have hparts := hdocs
  rw [writeDocs_eq hscan hroutes] at hparts
  obtain ⟨scanned, records, hrecords, hcomments⟩ := Work.ends_bind.1 hparts
  obtain ⟨_, entries, hscanned, hcommented⟩ := Work.ends_bind.1 hcomments
  obtain ⟨commented, comments, hwrite, -⟩ := Work.ends_bind.1 hcommented
  obtain ⟨rfl, hentries⟩ := Work.ends_survey.1 hscanned
  obtain ⟨files, hfiles, -⟩ := Survey.finds_bind.1 hentries
  obtain ⟨hall, rfl⟩ := (finds_scanDocs hfiles).1 hentries
  obtain ⟨listed, htold⟩ := scanDocs_of_harmless hfiles hall
  obtain ⟨rfl, -⟩ := Work.ends_survey.1 hfound
  refine ⟨scanned, records, files, commented, comments, hrecords, hfiles, ?_, hwrite, hwritten⟩
  rw [Work.log_bind hfound, Work.log_bind hdocs, writeDocs_eq hscan hroutes,
    Work.log_bind hrecords, Work.log_bind hscanned]
  have hlisted : ((liftM (scanDocs root config kind) : Work Entries) scanned).2.1
      = listed ++ files.flatMap (toldOf scanned) := congrArg Prod.fst htold
  rw [hlisted]
  exact ⟨_ ++ (_ ++ listed), _ ++ _, by simp only [List.append_assoc]; rfl⟩

/-- An application whose only route file documents an example that is a date. -/
def datedExample (date : String) : Tree where
  entries := [
    (["src"].map String.toList, .folder),
    (["src", "index.js"].map String.toList, .file []),
    (["routes"].map String.toList, .folder),
    (["routes", "users.js"].map String.toList, .file (Text.toBytes
      ("/**\n * @swagger\n * /users:\n *   get:\n *     example: ".toList ++ date.toList
        ++ "\n */\n".toList)))]

/-- A date that no calendar has ends a build, and so does a date, which has no JSON form. -/
theorem dates_end_build :
    (∃ tree' files, (run {} {} (some .express) {}).Fails (datedExample "2020-13-45") tree'
        (.badDocs (.badTime .month))
      ∧ EndedByComments tree' files (.badDocs (.badTime .month)))
    ∧ ∃ tree' files, (run {} {} (some .express) {}).Fails (datedExample "2020-01-01") tree'
        (.noJsonForm (.value "date"))
      ∧ EndedByComments tree' files (.noJsonForm (.value "date")) := by
  have hbad : (run {} {} (some .express) {} (datedExample "2020-13-45")).2.2
      = .error (.badDocs (.badTime .month)) := by decide +kernel
  have hform : (run {} {} (some .express) {} (datedExample "2020-01-01")).2.2
      = .error (.noJsonForm (.value "date")) := by decide +kernel
  obtain ⟨_, _, _, badFiles, -, -, -, hbadEnded⟩ :=
    (comments_of_run rfl rfl).1.1 ⟨⟨rfl, hbad⟩, trivial⟩
  obtain ⟨_, _, _, formFiles, -, -, -, hformEnded⟩ :=
    (comments_of_run rfl rfl).1.1 ⟨⟨rfl, hform⟩, trivial⟩
  exact ⟨⟨_, badFiles, ⟨rfl, hbad⟩, hbadEnded⟩, _, formFiles, ⟨rfl, hform⟩, hformEnded⟩

end Build

end ApiScan
