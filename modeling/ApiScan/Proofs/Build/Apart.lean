import ApiScan.Build
import ApiScan.Proofs.Failing

set_option autoImplicit false

/-! # Failures that no comment causes

A build looks at what comments say in two steps only: when it reads them and when it writes what
they document. No other step fails because of a comment: scans fail because of what is missing or
cannot be read, and writing the docs folder fails because of a single file or folder. -/

namespace ApiScan

open Survey

variable {root : Path} {config : Config}

/-! ## Scans -/

namespace Project

theorem failsApart_expectFolder (purpose : String) (folder : Path) :
    (expectFolder purpose folder).FailsApart :=
  failsOnly_bind (failsOnly_isFolder folder).apart fun _ =>
    failsOnly_ite (failsOnly_pure _) (failsOnly_fail id)

theorem failsApart_filesOf (purpose : String) (folder : Path) (wanted : Text → Bool) :
    (filesOf purpose folder wanted).FailsApart :=
  failsOnly_bind (failsApart_expectFolder purpose folder) fun _ =>
    (failsOnly_filesIn folder wanted).apart

theorem failsApart_routerFiles (root : Path) (routes : Text) :
    (routerFiles root routes).FailsApart :=
  failsOnly_bind (failsApart_filesOf _ _ _) fun _ => failsOnly_pure _

theorem failsApart_routeFilesBelow (folder : Path) : (routeFilesBelow folder).FailsApart := by
  refine failsOnly_bind (failsOnly_ask _ _).apart fun place? => ?_
  cases place? with
  | none => exact failsOnly_fail id
  | some place =>
      exact failsOnly_bind (failsOnly_of_finds fun tree => ⟨tree, rfl⟩) fun _ => failsOnly_pure _

theorem failsApart_documentedFiles (root : Path) (config : Config) (kind : Option Kind) :
    (documentedFiles root config kind).FailsApart := by
  match kind with
  | none => exact failsOnly_pure _
  | some .nextjs =>
      exact failsOnly_bind (failsApart_routeFilesBelow _) fun _ => failsOnly_pure _
  | some .express =>
      exact failsOnly_bind (failsApart_routerFiles _ _) fun _ => failsOnly_pure _

theorem failsApart_schemaFilesAt (path : Path) : (schemaFilesAt path).FailsApart := by
  have hfolder : (do
      if ← isFolder path then filesIn path isSchemaFile else return [] :
        Survey (List Path)).FailsApart :=
    failsOnly_bind (failsOnly_isFolder path).apart fun _ =>
      failsOnly_ite (failsOnly_filesIn _ _).apart (failsOnly_pure _)
  exact failsOnly_bind (failsOnly_ask _ _).apart fun _ => failsOnly_ite (failsOnly_pure _) hfolder

theorem failsApart_modelFiles (root : Path) (database : Database) (schema : Text) :
    (modelFiles root database schema).FailsApart := by
  refine failsOnly_ite (failsOnly_pure _) ?_
  cases database with
  | unknown => exact failsOnly_pure _
  | mongoose => exact failsApart_filesOf _ _ _
  | prisma =>
      refine failsOnly_ite (failsOnly_pure _) (failsOnly_bind (failsApart_expectFolder _ _) ?_)
      exact fun _ => failsOnly_bind (failsOnly_ask _ _).apart fun _ =>
        failsOnly_bind (failsOnly_mapM failsApart_schemaFilesAt) fun _ => failsOnly_pure _
  | drizzle =>
      dsimp only
      split
      · exact failsApart_filesOf _ _ _
      · exact failsOnly_ite (failsOnly_pure _) (failsApart_filesOf _ _ _)

theorem failsApart_scanModelFile (extract : Text → Text → Findings Model) (path : Path) :
    (scanModelFile extract path).FailsApart := by
  refine failsOnly_bind (failsOnly_sourceText? path).apart fun text? => ?_
  cases text? with
  | none => exact failsOnly_pure _
  | some text =>
      refine failsOnly_bind (failsOnly_of_finds fun _ => ⟨_, rfl⟩) fun models =>
        failsOnly_ite ?_ (failsOnly_pure _)
      exact failsOnly_bind (failsOnly_of_finds fun _ => ⟨(), rfl⟩) fun _ => failsOnly_pure _

theorem failsApart_scanModels (root : Path) (config : Config) :
    (scanModels root config).FailsApart := by
  unfold scanModels
  split
  · exact failsOnly_bind (failsOnly_of_finds fun _ => ⟨(), rfl⟩) fun _ => failsOnly_pure _
  · exact failsOnly_bind (failsApart_modelFiles _ _ _) fun _ =>
      failsOnly_bind (failsOnly_mapM (failsApart_scanModelFile _)) fun _ => failsOnly_pure _

theorem failsApart_scanRoutes (root : Path) (config : Config) (kind : Option Kind) :
    (scanRoutes root config kind).FailsApart := by
  have hlast {α : Type} (next : Tree → Findings α) :
      (do
        let tree ← Survey.tree
        Survey.findings (next tree) : Survey (List α)).FailsApart :=
    failsOnly_of_finds fun _ => ⟨_, rfl⟩
  match kind with
  | none => exact failsOnly_pure _
  | some .nextjs => exact failsOnly_bind (failsApart_routeFilesBelow _) fun _ => hlast _
  | some .express =>
      refine failsOnly_bind (failsOnly_ask _ _).apart fun _ => ?_
      have hrouters (mainText : Text) := failsOnly_bind
        (failsApart_routerFiles root config.routes.inPath)
        fun files => hlast fun tree => Router.extract mainText config.routes.inPath files fun file =>
          tree.sourceText? ((root.under config.routes.inPath).step file)
      exact failsOnly_ite (failsOnly_bind (failsOnly_fail id) fun _ =>
        failsOnly_bind (failsOnly_sourceText? _).apart fun _ => hrouters _)
        (failsOnly_bind (failsOnly_sourceText? _).apart fun _ => hrouters _)

end Project

/-! ## Documents -/

namespace Docs

theorem failsOnly_create (docs : Path) : (create docs).FailsOnly Failure.OfFiles := by
  have hmake (folder : Path) : (Work.makeFolders folder fun fault =>
      if fault = .nulInPath then .file fault folder else .docsNotMade docs).FailsOnly
        Failure.OfFiles := by
    refine Work.failsOnly_makeFolders fun fault => ?_
    split
    · exact trivial
    · exact trivial
  exact Work.failsOnly_bind (hmake _) fun _ => Work.failsOnly_bind (hmake _) fun _ =>
    Work.failsOnly_bind (hmake _) fun _ => Work.failsOnly_pure _

theorem failsOnly_writeReadme (docs : Path) : (writeReadme docs).FailsOnly Failure.OfFiles :=
  Work.failsOnly_bind (Work.failsOnly_change _ _) fun _ => Work.failsOnly_pure _

theorem failsOnly_writeSchemas (docs : Path) (models : List Model) :
    (writeSchemas docs models).FailsOnly Failure.OfFiles :=
  Work.failsOnly_mapM fun _ => Work.failsOnly_writeDocument _ _

theorem failsOnly_writeRoutes (docs : Path) (authorization : Authorization)
    (groups : List RouteGroup) :
    (writeRoutes docs authorization groups).FailsOnly Failure.OfFiles :=
  Work.failsOnly_mapM fun _ => Work.failsOnly_writeDocument _ _

theorem failsOnly_loadDocument (path : Path) : (loadDocument path).FailsOnly Failure.OfFiles := by
  refine failsOnly_bind (failsOnly_document path) fun doc? => ?_
  split
  · exact failsOnly_pure _
  · exact failsOnly_pure _
  · exact failsOnly_bind (failsOnly_of_finds fun _ => ⟨(), rfl⟩) fun _ => failsOnly_pure _

theorem failsOnly_loadDocuments (folder : Path) :
    (loadDocuments folder).FailsOnly Failure.OfFiles := by
  have hdocuments : (do
      let names := documentNames (← Survey.names folder)
      return (← (names.map folder.step).mapM loadDocument).flatten :
        Survey (List Json.Fields)).FailsOnly Failure.OfFiles :=
    failsOnly_bind (failsOnly_ask _ _) fun _ =>
      failsOnly_bind (failsOnly_mapM failsOnly_loadDocument) fun _ => failsOnly_pure _
  exact failsOnly_bind (failsOnly_isFolder folder) fun _ =>
    failsOnly_ite (failsOnly_pure _) hdocuments

theorem failsOnly_load (docs : Path) : (load docs).FailsOnly Failure.OfFiles :=
  failsOnly_bind (failsOnly_loadDocuments _) fun _ =>
    failsOnly_bind (failsOnly_loadDocuments _) fun _ => failsOnly_pure _

theorem failsOnly_writeOutput (root : Path) (config : Config) (docs : Path) (forms : Forms) :
    (writeOutput root config docs forms).FailsOnly Failure.OfFiles := by
  refine Work.failsOnly_bind (Work.failsOnly_survey (failsOnly_load docs)) fun _ => ?_
  have hwrite (form : Bool) (path : Path) (text : Text) {rest : Work (List Path)}
      (hrest : rest.FailsOnly Failure.OfFiles) :
      (if form then Work.write path text >>= fun _ => rest else rest).FailsOnly Failure.OfFiles :=
    Work.failsOnly_ite (Work.failsOnly_bind (Work.failsOnly_change _ _) fun _ => hrest) hrest
  exact hwrite forms.json _ _ (hwrite forms.yaml _ _ (Work.failsOnly_pure _))

theorem failsOnly_updateIgnore (root : Path) (docs : Text) :
    (updateIgnore root docs).FailsOnly Failure.OfFiles := by
  refine Work.failsOnly_bind (Work.failsOnly_survey (failsOnly_strictText _)) fun content? => ?_
  split
  · exact Work.failsOnly_bind (Work.failsOnly_survey (failsOnly_of_finds fun _ => ⟨(), rfl⟩))
      fun _ => Work.failsOnly_pure _
  · exact Work.failsOnly_survey (failsOnly_fail trivial)
  · exact Work.failsOnly_ite (Work.failsOnly_pure _)
      (Work.failsOnly_bind (Work.failsOnly_change _ _) fun _ => Work.failsOnly_pure _)

end Docs

end ApiScan
