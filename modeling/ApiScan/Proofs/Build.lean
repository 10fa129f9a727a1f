import ApiScan.Proofs.Docs.Written
import ApiScan.Proofs.Docs.Silent

set_option autoImplicit false

/-! # Building through the docs folder

A build writes what it scanned to the docs folder and puts the whole document together from what it
reads there. For a docs folder that is new the document is the one that can be put together from the
scanned records right away. -/

namespace ApiScan

open ApiScan.Tree

variable {tree tree' : Tree} {root : Path} {config : Config}

/-! ## The root of a project -/

/-- A path to a folder starts in a folder. -/
theorem Tree.exists_leadsTo_root {value : Text} {folder : Place}
    (h : tree.folder? (root.under value) = .ok (some folder)) :
    Fits root ∧ ∃ start, LeadsTo tree root start := by
  obtain ⟨hfits, hleads⟩ := folder?_eq_some.1 h
  rw [Path.under_eq] at hfits hleads
  refine ⟨fits_of_append hfits, ?_⟩
  by_cases hsteps : Path.stepsUnder value = []
  · rw [hsteps] at hleads
    simp only [LeadsTo, List.append_nil] at hleads
    exact ⟨folder, hleads⟩
  · exact exists_folder_of_follow_append hleads hsteps

/-- The root of a project whose routes can be scanned is a folder. -/
theorem Project.exists_root_of_finds_scanRoutes {kind : Kind} {groups : List RouteGroup}
    (h : (scanRoutes root config (some kind)).Finds tree groups) :
    Fits root ∧ ∃ start, LeadsTo tree root start := by
  cases kind with
  | express =>
      obtain ⟨_, files, hfiles, -⟩ := finds_scanRoutes_express h
      obtain ⟨_, hfilesOf, -⟩ := Survey.finds_bind.1 hfiles
      obtain ⟨_, hexpect, -⟩ := Survey.finds_bind.1 hfilesOf
      obtain ⟨found, hfound, hrest⟩ := Survey.finds_bind.1 hexpect
      cases found with
      | false => exact absurd hrest Survey.not_finds_fail
      | true =>
          obtain ⟨place?, hplace, hsome⟩ := Survey.finds_isFolder.1 hfound
          obtain ⟨place, rfl⟩ := Option.isSome_iff_exists.1 hsome
          exact exists_leadsTo_root hplace
  | nextjs =>
      obtain ⟨files, hfiles, -⟩ := finds_scanRoutes_nextjs h
      obtain ⟨place?, hplace, hrest⟩ := Survey.finds_bind.1 hfiles
      cases place? with
      | none => exact absurd hrest Survey.not_finds_fail
      | some place => exact exists_leadsTo_root (Survey.finds_ask.1 hplace)

namespace Build

open Docs

/-! ## The parts of a build -/

/-- What a build that ends has scanned, written and put together. -/
theorem ends_run {kind : Option Project.Kind} {result : Result}
    (hend : (run root config kind {}).Ends tree tree' result) :
    ∃ docs written ignored output,
      (Project.scanModels root config).Finds tree result.models
        ∧ (Project.scanRoutes root config kind).Finds tree result.groups
        ∧ (writeDocs root config kind {} result.models result.groups).Ends tree docs written
        ∧ (∀ folder, LeadsTo docs root folder → GrowsIn folder docs ignored)
        ∧ (writeOutput root config (root.under config.docs.inPath) {}).Ends ignored tree' output := by
  obtain ⟨_, ⟨models, groups⟩, hscan, hend₁⟩ := Work.ends_bind.1 hend
  obtain ⟨rfl, hfound⟩ := Work.ends_survey.1 hscan
  obtain ⟨found, hmodels, hfound₁⟩ := Survey.finds_bind.1 hfound
  obtain ⟨found', hgroups, hpure⟩ := Survey.finds_bind.1 hfound₁
  obtain ⟨rfl, rfl⟩ := Prod.mk.inj (Survey.finds_pure.1 hpure)
  obtain ⟨docs, written, hwrite, hend₂⟩ := Work.ends_bind.1 hend₁
  have hrest (ignored : Tree)
      (h : (do
        let output ← writeOutput root config (root.under config.docs.inPath) {}
        return (⟨found, found', written ++ output⟩ : Result) : Work Result).Ends ignored tree'
          result) :
      found = result.models ∧ found' = result.groups ∧ ∃ output,
        (writeOutput root config (root.under config.docs.inPath) {}).Ends ignored tree' output := by
    obtain ⟨_, output, houtput, hlast⟩ := Work.ends_bind.1 h
    obtain ⟨rfl, rfl⟩ := Work.ends_pure.1 hlast
    exact ⟨rfl, rfl, output, houtput⟩
  by_cases hignore : config.gitignore = true
  · simp only [hignore, if_true] at hend₂
    obtain ⟨ignored, _, hupdate, hend₃⟩ := Work.ends_bind.1 hend₂
    obtain ⟨rfl, rfl, output, houtput⟩ := hrest ignored hend₃
    exact ⟨docs, written, ignored, output, hmodels, hgroups, hwrite,
      fun folder hleads => growsIn_updateIgnore hleads hupdate, houtput⟩
  · simp only [hignore] at hend₂
    obtain ⟨rfl, rfl, output, houtput⟩ := hrest docs hend₂
    exact ⟨docs, written, docs, output, hmodels, hgroups, hwrite, fun _ _ => Grows.refl, houtput⟩

/-! ## The document of a build -/

/-- The document of a project right from what was scanned: the models with their files in an order,
    the route groups with their files in the order of names, and the documented paths after them. -/
def inMemory (order : List Text → List Text) (config : Config) (models : List Model)
    (groups : List RouteGroup) (documented : Json) : Json :=
  .object (OpenApi.document config (putSchemas [] (byFile Model.source order models))
    (OpenApi.mergePaths
      (mergeGroups config.authorization [] (byFile RouteGroup.source Text.sort groups))
      documented.fields))

/-- The models of a build whose sources are not named like the comments are in the order of the
    names of their files. -/
theorem inMemory_fileOrder {models : List Model} {groups : List RouteGroup} (documented : Json)
    (h : ∀ model ∈ models, fileName model.source ≠ commentsFile) :
    inMemory fileOrder config models groups documented
      = inMemory Text.sort config models groups documented := by
  rw [inMemory, byFile_fileOrder h, ← inMemory]

/-- **A build through a new docs folder agrees with what can be put together right from the scan.**
    The files at the root hold the document of the scanned models, of the scanned route groups with
    their files in the order of names, and of the comments of the project before the build. The file
    of models that is named like the comments comes last; without it, the files of models are in the
    order of names too. -/
theorem reads_document_of_scan {kind : Project.Kind} {result : Result} (htree : tree.WellFormed)
    (hslash : ∀ step ∈ root.steps, '/' ∉ step) (hup : Path.up ∉ Path.stepsUnder config.docs.inPath)
    (hnew : tree.present (root.under config.docs.inPath) = .ok false)
    (hend : (run root config (some kind) {}).Ends tree tree' result)
    (hdistinct : (result.groups.map RouteGroup.source).Nodup)
    (hsources : ∀ group ∈ result.groups, group.source ≠ "swagger-comments".toList) :
    (Project.scanModels root config).Finds tree result.models
      ∧ (Project.scanRoutes root config (some kind)).Finds tree result.groups
      ∧ ∃ entries comments documented,
        (Project.scanDocs root config (some kind)).Finds tree entries
          ∧ commentsDocument entries = .ok comments
          ∧ Json.read (Json.text comments) = .ok documented
          ∧ tree'.read (root.step jsonFile) = .ok (Text.toBytes (Json.text
              (inMemory fileOrder config result.models result.groups documented)))
          ∧ tree'.read (root.step yamlFile) = .ok (Text.toBytes (Yaml.text
              (inMemory fileOrder config result.models result.groups documented)))
          ∧ ((∀ model ∈ result.models, model.source ≠ "swagger-comments".toList) →
              inMemory fileOrder config result.models result.groups documented
                = inMemory Text.sort config result.models result.groups documented) := by
  obtain ⟨docs, written, ignored, output, hmodels, hgroups, hwrite, hignore, houtput⟩ :=
    ends_run hend
  obtain ⟨hfits, folder, hleads⟩ := Project.exists_root_of_finds_scanRoutes hgroups
  have hmodelnames : ∀ model ∈ result.models, '/' ∉ model.source := fun _ =>
    Project.not_slash_of_finds_scanModels htree hslash hmodels
  have hgroupnames : ∀ group ∈ result.groups, '/' ∉ group.source := fun _ =>
    Project.not_slash_of_finds_scanRoutes htree hgroups
  obtain ⟨scanned, entries, comments, hgrows, habsent, hentries, hdoc, hshort, hkeeps, hschemas,
      hroutes⟩ :=
    stores_writeDocs htree hleads hfits hup (Path.under_eq root _) hnew hmodelnames hgroupnames
      hwrite
  -- the comments are scanned when the docs folder is there, and are those without it
  have hsteps : ∀ name ∈ Path.stepsUnder config.docs.inPath, IsName name := fun name hname =>
    have hspelled := Path.mem_stepsUnder hname
    ⟨hspelled.1, hspelled.2.1, hspelled.2.2, fun he => hup (he ▸ hname)⟩
  have hbelow := growsBelow_of_ofDocs htree hleads hsteps habsent hmodelnames hgroupnames hgrows
  have hbefore := finds_scanDocs_of_ofDocs hbelow hgrows hgroups hentries
  -- what is written at the root comes after what is read from the docs folder
  have hleads' := hleads.of_keepsFolders hkeeps
  have hignored := hignore folder hleads'
  have hdeep (sub : Text) : folder ++ Path.stepsUnder config.docs.inPath ++ [sub] ≠ folder :=
    fun he => by simp at he
  have hload := finds_load (hschemas.of_growsIn hignored (hdeep _))
    (hroutes.of_growsIn hignored (hdeep _)) hshort hdistinct
    fun group hgroup => fileName_ne_commentsFile (hsources group hgroup)
  obtain ⟨hjson, hyaml⟩ :=
    reads_writeOutput (hleads'.of_keepsFolders hignored.keepsFolders) hload houtput
  exact ⟨hmodels, hgroups, entries, _, _, hbefore, hdoc, Json.read_text hshort, hjson, hyaml,
    fun h => inMemory_fileOrder _ fun model hmodel => fileName_ne_commentsFile (h model hmodel)⟩

/-- An application with two files of one model, of which the first is named like the comments. -/
def modelsNamedAsComments : Tree where
  entries := [
    (["src"].map String.toList, .folder),
    (["src", "index.js"].map String.toList, .file (Text.toBytes
      "app.use('/users', require('./routes/users'));\n".toList)),
    (["routes"].map String.toList, .folder),
    (["routes", "users.js"].map String.toList, .file (Text.toBytes
      "router.get('/', list);\n".toList)),
    (["models"].map String.toList, .folder),
    (["models", "swagger-comments.prisma"].map String.toList, .file (Text.toBytes
      "model User \x7b\n  name String\n\x7d\n".toList)),
    (["models", "user.prisma"].map String.toList, .file (Text.toBytes
      "model User \x7b\n  age Int\n\x7d\n".toList))]

/-- The configuration of the application. -/
def schemaFilesInModels : Config := { database := .prisma, schema := "/models".toList }

/-- A build of the application ends, and the file at the root holds what the scan found. -/
theorem document_of_modelsNamedAsComments : ∃ tree' result entries comments documented,
    (run {} schemaFilesInModels (some .express) {}).Ends modelsNamedAsComments tree' result
      ∧ (Project.scanDocs {} schemaFilesInModels (some .express)).Finds modelsNamedAsComments
          entries
      ∧ commentsDocument entries = .ok comments
      ∧ Json.read (Json.text comments) = .ok documented
      ∧ tree'.read (Path.step {} jsonFile) = .ok (Text.toBytes (Json.text
          (inMemory fileOrder schemaFilesInModels result.models result.groups documented))) := by
  have hend : ∃ result ∈
      (run {} schemaFilesInModels (some .express) {} modelsNamedAsComments).2.2.toOption,
        (result.groups.map RouteGroup.source).Nodup
          ∧ ∀ group ∈ result.groups, group.source ≠ "swagger-comments".toList := by
    decide +kernel
  obtain ⟨result, hresult, hdistinct, hsources⟩ := hend
  have hends : (run {} schemaFilesInModels (some .express) {}).Ends modelsNamedAsComments _ result :=
    ⟨rfl, Survey.eq_ok_of_mem_toOption hresult⟩
  obtain ⟨-, -, entries, comments, documented, hentries, hcomments, hread, hjson, -⟩ :=
    reads_document_of_scan (by decide +kernel) (by decide) (by decide) (by decide +kernel)
      hends hdistinct hsources
  exact ⟨_, result, entries, comments, documented, hends, hentries, hcomments, hread, hjson⟩

/-- The model of the file that is named like the comments comes last and wins, not the one of the
    file with the last name. -/
theorem not_in_order_of_names : ∃ tree' result,
    modelsNamedAsComments.WellFormed
      ∧ Path.up ∉ Path.stepsUnder schemaFilesInModels.docs.inPath
      ∧ modelsNamedAsComments.present (Path.under {} schemaFilesInModels.docs.inPath) = .ok false
      ∧ (run {} schemaFilesInModels (some .express) {}).Ends modelsNamedAsComments tree' result
      ∧ (result.groups.map RouteGroup.source).Nodup
      ∧ (∀ group ∈ result.groups, group.source ≠ "swagger-comments".toList)
      ∧ (Project.scanDocs {} schemaFilesInModels (some .express)).Finds modelsNamedAsComments []
      ∧ commentsDocument [] = .ok (.object [])
      ∧ tree'.read (Path.step {} jsonFile) ≠ .ok (Text.toBytes (Json.text
          (inMemory Text.sort schemaFilesInModels result.models result.groups (.object [])))) := by
  have hend : ∃ result ∈
      (run {} schemaFilesInModels (some .express) {} modelsNamedAsComments).2.2.toOption,
        (result.groups.map RouteGroup.source).Nodup
          ∧ (∀ group ∈ result.groups, group.source ≠ "swagger-comments".toList)
          ∧ (run {} schemaFilesInModels (some .express) {} modelsNamedAsComments).1.read
              (Path.step {} jsonFile) ≠ .ok (Text.toBytes (Json.text (inMemory Text.sort
                schemaFilesInModels result.models result.groups (.object [])))) := by
    decide +kernel
  obtain ⟨result, hresult, hdistinct, hsources, hother⟩ := hend
  have hdocs : ∃ entries ∈
      (Project.scanDocs {} schemaFilesInModels (some .express) modelsNamedAsComments).2.toOption,
        entries.isEmpty = true := by
    decide +kernel
  obtain ⟨entries, hentries, hempty⟩ := hdocs
  obtain rfl := List.isEmpty_iff.1 hempty
  exact ⟨_, result, by decide +kernel, by decide, by decide +kernel,
    ⟨rfl, Survey.eq_ok_of_mem_toOption hresult⟩, hdistinct, hsources,
    Survey.eq_ok_of_mem_toOption hentries, rfl, hother⟩

end Build

end ApiScan
