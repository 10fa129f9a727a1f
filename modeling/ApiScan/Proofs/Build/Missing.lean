import ApiScan.Proofs.Build.Comments
import ApiScan.Proofs.Build.Parts
import ApiScan.Proofs.Build.Sources

set_option autoImplicit false

/-! # Builds that miss a source

A build looks for the folders and the main file that the configuration names before it writes
anything. It lists the folder of routes once more for the comments, when documents have been
written. No folder is taken away until then, so that the second look misses nothing that the first
one found. -/

namespace ApiScan

/-- A failure that a missing folder or main file of a project is the cause of. -/
def Failure.OfMissing : Failure → Prop
  | .noFolder _ _ | .noMainFile _ => True
  | _ => False

theorem Failure.OfFiles.not_ofMissing {failure : Failure} (h : failure.OfFiles) :
    ¬ failure.OfMissing := by
  cases failure <;> first | exact id | exact absurd h id

variable {tree tree' : Tree} {root path : Path} {config : Config} {kind : Option Project.Kind}
  {groups : List RouteGroup} {failure : Failure}

/-! ## The second look -/

namespace Project

open Survey

theorem finds_expectFolder_of_keepsFolders {purpose : String} {done : Unit}
    (hkeeps : Tree.KeepsFolders tree tree') (h : (expectFolder purpose path).Finds tree done) :
    (expectFolder purpose path).Finds tree' done := by
  obtain ⟨folder, hfolder⟩ := finds_expectFolder.1 h
  obtain ⟨hfits, hleads⟩ := Tree.folder?_eq_some.1 hfolder
  exact finds_expectFolder.2 ⟨folder, Tree.folder?_eq_some.2 ⟨hfits, hleads.of_keepsFolders hkeeps⟩⟩

/-- Where the routes were found, the files with comments are not missing later on. -/
theorem not_ofMissing_of_documentedFiles (hfound : (scanRoutes root config kind).Finds tree groups)
    (hkeeps : Tree.KeepsFolders tree tree')
    (hfails : (documentedFiles root config kind).Fails tree' failure) : ¬ failure.OfMissing := by
  cases kind with
  | none => exact absurd hfails not_fails_pure
  | some kind =>
      cases kind with
      | express =>
          obtain ⟨_, _, hrouters, -⟩ := finds_scanRoutes_express hfound
          obtain ⟨_, hlisted, -⟩ := finds_bind.1 hrouters
          obtain ⟨_, hfolder, -⟩ := finds_bind.1 hlisted
          rcases fails_bind.1 hfails with hnames | ⟨_, -, hpure⟩
          · rcases fails_bind.1 hnames with hlisting | ⟨_, -, hpure⟩
            · rcases fails_bind.1 hlisting with hexpected | ⟨_, -, hfiles⟩
              · exact absurd hexpected
                  (finds_expectFolder_of_keepsFolders hkeeps hfolder).not_fails
              · exact (failsOnly_filesIn _ _ _ _ hfiles).not_ofMissing
            · exact absurd hpure not_fails_pure
          · exact absurd hpure not_fails_pure
      | nextjs =>
          obtain ⟨_, hlisted, -⟩ := finds_scanRoutes_nextjs hfound
          obtain ⟨folder, hfolder, -⟩ := finds_routeFilesBelow.1 hlisted
          obtain ⟨hfits, hleads⟩ := Tree.folder?_eq_some.1 hfolder
          have hlater : tree'.folder? (routeRoot root config) = .ok (some folder) :=
            Tree.folder?_eq_some.2 ⟨hfits, hleads.of_keepsFolders hkeeps⟩
          rcases fails_bind.1 hfails with hlisting | ⟨_, -, hpure⟩
          · exact absurd hlisting (finds_routeFilesBelow.2 ⟨folder, hlater, rfl⟩).not_fails
          · exact absurd hpure not_fails_pure

theorem failsOnly_scanDocFile (path : Path) :
    (scanDocFile path).FailsOnly fun failure => ¬ failure.OfMissing := by
  intro tree failure hfails
  unfold Fails at hfails
  by_cases hread : Readable tree path
  · rw [scanDocFile_eq hread] at hfails
    cases hload : (DocComment.load (sourceAt tree path)).2 with
    | ok items =>
        rw [hload] at hfails
        exact nomatch hfails
    | error fault =>
        rw [hload] at hfails
        exact Except.error.inj hfails ▸ id
  · rw [scanDocFile_of_not_readable hread] at hfails
    exact Except.error.inj hfails ▸ id

/-- **A second look misses nothing.** Where the routes were found, no folder is missing for the
    comments, as long as no folder is taken away. -/
theorem not_ofMissing_of_scanDocs (hfound : (scanRoutes root config kind).Finds tree groups)
    (hkeeps : Tree.KeepsFolders tree tree')
    (hfails : (scanDocs root config kind).Fails tree' failure) : ¬ failure.OfMissing := by
  rcases fails_bind.1 hfails with hfiles | ⟨files, -, hfails⟩
  · exact not_ofMissing_of_documentedFiles hfound hkeeps hfiles
  · have hread : (files.mapM scanDocFile).FailsOnly fun failure => ¬ failure.OfMissing :=
      failsOnly_mapM failsOnly_scanDocFile
    exact failsOnly_bind hread (fun _ => failsOnly_pure _) tree' failure hfails

end Project

namespace Docs

theorem failsOnly_writeComments (docs : Path) (entries : List (Yaml.Value × Yaml.Value)) :
    (writeComments docs entries).FailsOnly fun failure => ¬ failure.OfMissing := by
  have hfiles {α : Type} {work : Work α} (h : work.FailsOnly Failure.OfFiles) :
      work.FailsOnly fun failure => ¬ failure.OfMissing :=
    h.mono fun _ hfailure => hfailure.not_ofMissing
  refine Work.failsOnly_ite (Work.failsOnly_pure _) ?_
  refine Work.failsOnly_bind (hfiles (Work.failsOnly_makeFolders fun _ => trivial)) fun _ => ?_
  unfold commentsDocument
  cases (Yaml.Value.map entries).toJson? with
  | error fault => exact Work.failsOnly_survey (Survey.failsOnly_fail id)
  | ok doc =>
      exact Work.failsOnly_bind (hfiles (Work.failsOnly_change _ _)) fun _ =>
        Work.failsOnly_pure _

end Docs

/-! ## Builds -/

namespace Build

open Docs

variable {options : Options} {models : List Model} {written : List Path}

/-- The routes of a build that scans them were found. -/
theorem finds_scanRoutes_of_scan (hask : (options.scan && options.routes) = true)
    (h : (scan root config kind options).Finds tree (models, groups)) :
    (Project.scanRoutes root config kind).Finds tree groups := by
  rw [scan_eq] at h
  obtain ⟨_, -, h⟩ := Survey.finds_bind.1 h
  obtain ⟨_, hgroups, hpure⟩ := Survey.finds_bind.1 h
  obtain ⟨-, rfl⟩ := Prod.mk.inj (Survey.finds_pure.1 hpure)
  rw [if_pos hask] at hgroups
  exact hgroups

theorem keepsFolders_create (docs : Path) : (create docs).KeepsFolders :=
  Work.keepsFolders_bind (Work.keepsFolders_makeFolders _ _) fun _ =>
    Work.keepsFolders_bind (Work.keepsFolders_makeFolders _ _) fun _ =>
      Work.keepsFolders_bind (Work.keepsFolders_makeFolders _ _) fun _ => Work.keepsFolders_pure _

theorem keepsFolders_writeReadme (docs : Path) : (writeReadme docs).KeepsFolders :=
  Work.keepsFolders_bind (Work.keepsFolders_write _ _) fun _ => Work.keepsFolders_pure _

theorem keepsFolders_writeModels (docs : Path) (options : Options) (models : List Model) :
    (writeModels docs options models).KeepsFolders := by
  unfold writeModels
  split
  · exact Work.keepsFolders_mapM fun _ => Work.keepsFolders_writeDocument _ _
  · exact Work.keepsFolders_pure _

/-- Writing the docs folder misses no folder and no file of what was scanned. -/
theorem not_ofMissing_of_writeDocs
    (hfound : (scan root config kind options).Finds tree (models, groups))
    (hfails : (writeDocs root config kind options models groups).Fails tree tree' failure) :
    ¬ failure.OfMissing := by
  rw [writeDocs_eq_parts] at hfails
  rcases Work.fails_bind.1 hfails with hcreate | ⟨made, _, hmade, hfails⟩
  · exact (failsOnly_create _ _ _ _ hcreate).not_ofMissing
  rcases Work.fails_bind.1 hfails with hreadme | ⟨explained, _, hexplained, hfails⟩
  · exact (failsOnly_writeReadme _ _ _ _ hreadme).not_ofMissing
  rcases Work.fails_bind.1 hfails with hschemas | ⟨schemed, _, hschemed, hfails⟩
  · exact (failsOnly_writeModels _ _ _ _ _ _ hschemas).not_ofMissing
  rcases Work.fails_bind.1 hfails with hroutes | ⟨_, _, -, hpure⟩
  · by_cases hask : (options.scan && options.routes) = true
    · rw [if_pos hask] at hroutes
      rcases Work.fails_bind.1 hroutes with hgroups | ⟨routed, _, hrouted, hcomments⟩
      · exact (failsOnly_writeRoutes _ _ _ _ _ _ hgroups).not_ofMissing
      -- the folders that were scanned are still there when the comments are read
      have hkeeps : Tree.KeepsFolders tree routed :=
        (((keepsFolders_create _ _ _ _ hmade).trans
          (keepsFolders_writeReadme _ _ _ _ hexplained)).trans
          (keepsFolders_writeModels _ _ _ _ _ _ hschemed)).trans
          (Work.keepsFolders_mapM (fun _ => Work.keepsFolders_writeDocument _ _) _ _ _ hrouted)
      rcases Work.fails_bind.1 hcomments with ⟨-, hscan⟩ | ⟨_, entries, -, hwrite⟩
      · exact Project.not_ofMissing_of_scanDocs (finds_scanRoutes_of_scan hask hfound) hkeeps hscan
      · exact Work.failsOnly_bind (failsOnly_writeComments _ entries)
          (fun _ => Work.failsOnly_pure _) _ _ _ hwrite
    · rw [if_neg hask] at hroutes
      exact absurd hroutes Work.not_fails_pure
  · exact absurd hpure Work.not_fails_pure

/-- **A build misses sources before it writes.** A build whose scan fails ends in that failure and
    leaves the tree as it was. A failure because a folder or the main file is missing always comes
    from the scan, since the look at the comments misses nothing that the scan of the routes found:
    neither in the tree that was scanned nor in one that holds its folders, too. -/
theorem missing_of_run :
    (∀ failure, (scan root config kind options).Fails tree failure →
      (run root config kind options).Fails tree tree failure)
    ∧ (∀ tree' failure, (run root config kind options).Fails tree tree' failure →
        failure.OfMissing →
        tree' = tree ∧ (scan root config kind options).Fails tree failure)
    ∧ ∀ groups tree' failure, (Project.scanRoutes root config kind).Finds tree groups →
        Tree.KeepsFolders tree tree' → (Project.scanDocs root config kind).Fails tree' failure →
        ¬ failure.OfMissing := by
  refine ⟨fun failure hfails => ?_, fun tree' failure hfails hmissing => ?_,
    fun _ _ _ => Project.not_ofMissing_of_scanDocs⟩
  · rw [run_eq]
    exact Work.fails_bind.2 (Or.inl ⟨rfl, hfails⟩)
  · rw [run_eq] at hfails
    rcases Work.fails_bind.1 hfails with ⟨rfl, hscan⟩ | ⟨_, ⟨models, groups⟩, hsurvey, hfails⟩
    · exact ⟨rfl, hscan⟩
    · obtain ⟨rfl, hfound⟩ := Work.ends_survey.1 hsurvey
      rcases Work.fails_bind.1 hfails with hdocs | ⟨_, _, -, hlast⟩
      · exact absurd hmissing (not_ofMissing_of_writeDocs hfound hdocs)
      · exact absurd hmissing (failsOnly_finish _ _ _ _ _ _ _ _ _ hlast).not_ofMissing

/-- An application with a main file and nothing else. -/
def onlyMainFile : Tree where
  entries := [
    (["src"].map String.toList, .folder),
    (["src", "index.js"].map String.toList, .file [])]

/-- An application without a main file is left as it is, and so is one without a folder of routes.
    Where both are there, a build can still fail because of what a comment says. -/
theorem missing_of_run_of_applications :
    (run {} {} (some .express) {}).Fails {} {} (.noMainFile (.under {} Project.defaultMainFile))
    ∧ (∃ tree', (run {} {} (some .express) {}).Fails onlyMainFile tree'
        (.noFolder "routes" (.under {} "routes".toList)) ∧ tree' = onlyMainFile)
    ∧ (Project.scanRoutes {} {} (some .express)).Finds (datedExample "2020-13-45") []
    ∧ (Project.scanDocs {} {} (some .express)).Fails (datedExample "2020-13-45")
        (.badDocs (.badTime .month))
    ∧ ¬ (Failure.badDocs (.badTime .month)).OfMissing := by
  have hmain : (scan {} {} (some .express) {} {}).2
      = .error (.noMainFile (.under {} Project.defaultMainFile)) := by decide +kernel
  have hfolder : (run {} {} (some .express) {} onlyMainFile).2.2
      = .error (.noFolder "routes" (.under {} "routes".toList)) := by decide +kernel
  have hroutes : (Project.scanRoutes {} {} (some .express) (datedExample "2020-13-45")).2
      = .ok [] := by decide +kernel
  have hread : (Project.scanDocs {} {} (some .express) >>= fun _ => pure () : Survey Unit).Fails
      (datedExample "2020-13-45") (.badDocs (.badTime .month)) := by
    unfold Survey.Fails
    decide +kernel
  have hdocs := (Survey.fails_bind.1 hread).resolve_right
    fun ⟨_, _, hpure⟩ => Survey.not_fails_pure hpure
  exact ⟨missing_of_run.1 _ hmain,
    ⟨_, ⟨rfl, hfolder⟩, (missing_of_run.2.1 _ _ ⟨rfl, hfolder⟩ trivial).1⟩, hroutes, hdocs,
    (@missing_of_run _ _ _ _ {}).2.2 _ _ _ hroutes (fun _ h => h) hdocs⟩

end Build

end ApiScan
