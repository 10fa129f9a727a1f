import ApiScan.Proofs.Build.Idempotent
import ApiScan.Proofs.Tree.Scope

set_option autoImplicit false

/-! # Where a build writes

A build changes a project at few places only, whether it returns or fails on the way: it makes the
folders of the docs folder, writes the documents in them as far as its options ask for them, writes
the document of the project at the root, and appends to the ignore file. The names of documents come
from the names of source files. None of them leads out of the folder that its document belongs to. -/

namespace ApiScan

open ApiScan.Tree

variable {tree : Tree} {root docs path : Path} {config : Config} {kind : Option Project.Kind}
  {options : Build.Options} {models : List Model} {groups : List RouteGroup} {scope : Scope}
  {place : Place}

namespace Build

/-! ## The places -/

/-- The place of the docs folder of a project, as its path is written. -/
def docsPlace (root : Path) (config : Config) : Place :=
  root.normalize.steps ++ Path.stepsUnder config.docs.inPath

/-- The name of a document in a docs folder: that of a file, with the extension of documents. -/
def IsDocumentName (name : Text) : Prop := IsName name ∧ Text.endsWith Docs.extension name = true

/-- The files that a build may write, by its options. -/
inductive Written (root : Path) (config : Config) (options : Options) : Place → Prop
  | readme : Written root config options (docsPlace root config ++ [Docs.readmeName])
  | schema {name : Text} (hscan : options.scan = true) (hschemas : options.schemas = true)
      (hname : IsDocumentName name) :
      Written root config options (docsPlace root config ++ [Docs.schemasName, name])
  | route {name : Text} (hscan : options.scan = true) (hroutes : options.routes = true)
      (hname : IsDocumentName name) :
      Written root config options (docsPlace root config ++ [Docs.routesName, name])
  | json (hjson : options.forms.json = true) :
      Written root config options (root.normalize.steps ++ [Docs.jsonFile])
  | yaml (hyaml : options.forms.yaml = true) :
      Written root config options (root.normalize.steps ++ [Docs.yamlFile])

/-- Where a build may change a project: it makes the folders on the way to its documents, writes
    its files, and appends to the ignore file, if it is asked to. -/
def reach (root : Path) (config : Config) (options : Options) : Scope where
  folders place := ∃ front, (front <+: (Docs.schemasFolder (root.under config.docs.inPath)).steps
      ∨ front <+: (Docs.routesFolder (root.under config.docs.inPath)).steps)
    ∧ place = front.foldl Path.takeStep []
  written := Written root config options
  appended place := config.gitignore = true ∧ place = root.normalize.steps ++ [Docs.ignoreFile]

end Build

open Build Work

/-! ## The docs folder -/

namespace Docs

theorem isDocumentName_fileName {source : Text} (h : '/' ∉ source) :
    IsDocumentName (fileName source) :=
  ⟨isName_fileName h, Text.endsWith_iff.2 (List.suffix_append _ _)⟩

/-- The path of a docs folder without steps up leads to its place. -/
theorem normalize_docs (root : Path) (hup : Path.up ∉ Path.stepsUnder config.docs.inPath) :
    (root.under config.docs.inPath).normalize.steps = docsPlace root config := by
  rw [Path.under_eq, Path.normalize_append root hup]
  rfl

theorem normalize_document (path : Path) {sub name : Text} (hsub : sub ≠ Path.up)
    (hname : name ≠ Path.up) :
    ((path.step sub).step name).normalize.steps = path.normalize.steps ++ [sub, name] := by
  rw [Path.normalize_step _ hname, Path.normalize_step _ hsub, List.append_assoc]
  rfl

theorem within_create (hscope : ∀ front, front <+: (schemasFolder docs).steps
      ∨ front <+: (routesFolder docs).steps → scope.folders (front.foldl Path.takeStep [])) :
    (create docs).Within scope :=
  within_bind (within_makeFolders _ fun front h =>
      hscope front (Or.inl (h.trans (List.prefix_append _ _)))) fun _ =>
    within_bind (within_makeFolders _ fun front h => hscope front (Or.inl h)) fun _ =>
      within_bind (within_makeFolders _ fun front h => hscope front (Or.inr h)) fun _ =>
        within_pure _

/-- A document in a folder. -/
theorem within_writeDocument {folder : Path} {name : Text} (doc : Json)
    (hfolders : ∀ front, front <+: folder.steps → scope.folders (front.foldl Path.takeStep []))
    (hwritten : scope.written (folder.step name).normalize.steps) :
    (writeDocument (folder.step name) doc).Within scope := by
  have hparent : (folder.step name).parent = folder := by
    simp [Path.parent, Path.step]
  unfold writeDocument
  rw [hparent]
  exact within_bind (within_makeFolders _ hfolders) fun _ =>
    within_bind (within_write _ hwritten) fun _ => within_pure _

/-- The documents of sources, each in a file of the folder that is named for the source. -/
theorem within_mapM_writeDocument {α : Type} {folder : Path} {source : α → Text} {doc : α → Json}
    {items : List α} (hsources : ∀ a ∈ items, '/' ∉ source a)
    (hfolders : ∀ front, front <+: folder.steps → scope.folders (front.foldl Path.takeStep []))
    (hwritten : ∀ name, IsDocumentName name → scope.written (folder.step name).normalize.steps) :
    (items.mapM fun a => writeDocument (folder.join (source a ++ extension)) (doc a)).Within
      scope := by
  refine within_mapM fun a ha => ?_
  rw [(join_source folder (hsources a ha)).1]
  exact within_writeDocument _ hfolders (hwritten _ (isDocumentName_fileName (hsources a ha)))

theorem within_writeSchemas (hsources : ∀ model ∈ models, '/' ∉ model.source)
    (hfolders : ∀ front, front <+: (schemasFolder docs).steps →
      scope.folders (front.foldl Path.takeStep []))
    (hwritten : ∀ name, IsDocumentName name →
      scope.written ((schemasFolder docs).step name).normalize.steps) :
    (writeSchemas docs models).Within scope := by
  refine within_mapM_writeDocument (fun entry he => ?_) hfolders hwritten
  have hkey : entry.1 ∈ (models.map Model.source).eraseDups :=
    keys_schemasBySource ▸ List.mem_map_of_mem he
  obtain ⟨model, hmodel, hsource⟩ := List.mem_map.1 (List.mem_eraseDups.1 hkey)
  exact hsource ▸ hsources model hmodel

theorem within_writeComments (entries : List (Yaml.Value × Yaml.Value))
    (hfolders : ∀ front, front <+: (routesFolder docs).steps →
      scope.folders (front.foldl Path.takeStep []))
    (hwritten : scope.written ((routesFolder docs).step commentsFile).normalize.steps) :
    (writeComments docs entries).Within scope := by
  have hparent : ((routesFolder docs).step commentsFile).parent = routesFolder docs := by
    simp [Path.parent, Path.step]
  refine within_ite (fun _ => within_pure _) fun _ => ?_
  dsimp only
  rw [hparent]
  refine within_bind (within_makeFolders _ hfolders) fun _ => ?_
  split
  · exact within_survey _
  · exact within_bind (within_write _ hwritten) fun _ => within_pure _

/-! ## The root -/

/-- What is written to the ignore file is appended to what it holds. -/
theorem within_updateIgnore (value : Text)
    (hscope : scope.appended (root.step ignoreFile).normalize.steps) :
    (updateIgnore root value).Within scope := by
  intro tree
  refine changes_bind (.refl scope tree) fun between content? hends => ?_
  obtain ⟨rfl, hcontent⟩ := ends_survey.1 hends
  split
  · exact within_bind (within_survey _) (fun _ => within_pure _) tree
  · exact .refl scope tree
  · next content =>
      obtain ⟨old, hread⟩ := Survey.exists_read_of_strictText hcontent
      have happend : Changes scope tree (Work.append (root.step ignoreFile) (ignoreLines value) tree).1 := by
        unfold Work.append Work.change
        split
        · next tree' h => exact changes_append hscope hread h
        · exact .refl scope tree
      split
      · exact .refl scope tree
      · exact changes_bind happend fun between _ _ => .refl scope between

theorem within_writeOutput (forms : Forms)
    (hjson : forms.json = true → scope.written (root.step jsonFile).normalize.steps)
    (hyaml : forms.yaml = true → scope.written (root.step yamlFile).normalize.steps) :
    (writeOutput root config docs forms).Within scope := by
  rw [writeOutput_eq]
  refine within_bind (within_survey _) fun contents => ?_
  exact within_bind (within_ite (fun h => within_write _ (hjson h)) fun _ => within_pure _) fun _ =>
    within_bind (within_ite (fun h => within_write _ (hyaml h)) fun _ => within_pure _) fun _ =>
      within_pure _

end Docs

/-! ## Builds -/

namespace Build

open Docs

theorem written_schema (hup : Path.up ∉ Path.stepsUnder config.docs.inPath)
    (hask : (options.scan && options.schemas) = true) {name : Text} (hname : IsDocumentName name) :
    Written root config options
      ((schemasFolder (root.under config.docs.inPath)).step name).normalize.steps := by
  rw [schemasFolder, normalize_document _ (by decide) hname.1.2.2.2, normalize_docs root hup]
  rw [Bool.and_eq_true] at hask
  exact .schema hask.1 hask.2 hname

theorem written_route (hup : Path.up ∉ Path.stepsUnder config.docs.inPath)
    (hask : (options.scan && options.routes) = true) {name : Text} (hname : IsDocumentName name) :
    Written root config options
      ((routesFolder (root.under config.docs.inPath)).step name).normalize.steps := by
  rw [routesFolder, normalize_document _ (by decide) hname.1.2.2.2, normalize_docs root hup]
  rw [Bool.and_eq_true] at hask
  exact .route hask.1 hask.2 hname

theorem within_writeDocs (hup : Path.up ∉ Path.stepsUnder config.docs.inPath)
    (hmodels : ∀ model ∈ models, '/' ∉ model.source)
    (hgroups : ∀ group ∈ groups, '/' ∉ group.source) :
    (writeDocs root config kind options models groups).Within (reach root config options) := by
  have hschemas (front : List Text)
      (h : front <+: (schemasFolder (root.under config.docs.inPath)).steps) :
      (reach root config options).folders (front.foldl Path.takeStep []) := ⟨front, Or.inl h, rfl⟩
  have hroutes (front : List Text)
      (h : front <+: (routesFolder (root.under config.docs.inPath)).steps) :
      (reach root config options).folders (front.foldl Path.takeStep []) := ⟨front, Or.inr h, rfl⟩
  have hreadme : (reach root config options).written
      ((root.under config.docs.inPath).step readmeName).normalize.steps := by
    rw [Path.normalize_step _ (by decide), normalize_docs root hup]
    exact .readme
  rw [writeDocs_eq_parts]
  refine within_bind (within_create fun front h => h.elim (hschemas front) (hroutes front)) fun _ => ?_
  refine within_bind (within_bind (within_write _ hreadme) fun _ => within_pure _) fun _ => ?_
  refine within_bind (within_ite (fun hask => ?_) fun _ => within_pure _) fun _ => ?_
  · exact within_writeSchemas hmodels hschemas fun _ => written_schema hup hask
  refine within_bind (within_ite (fun hask => ?_) fun _ => within_pure _) fun _ => within_pure _
  have hdocuments : ∀ name, IsDocumentName name → (reach root config options).written
      ((routesFolder (root.under config.docs.inPath)).step name).normalize.steps :=
    fun _ => written_route hup hask
  refine within_bind (within_mapM_writeDocument hgroups hroutes hdocuments) fun _ => ?_
  refine within_bind (within_survey _) fun _ => within_bind ?_ fun _ => within_pure _
  exact within_writeComments _ hroutes (hdocuments _ ⟨by decide, by decide⟩)

/-- **A build changes a project only where it may**, whether it returns or fails. -/
theorem changes_of_run (htree : tree.WellFormed) (hslash : ∀ step ∈ root.steps, '/' ∉ step)
    (hup : Path.up ∉ Path.stepsUnder config.docs.inPath) :
    Changes (reach root config options) tree (run root config kind options tree).1 := by
  have hroot (name : Text) (hname : name ≠ Path.up) :
      (root.step name).normalize.steps = root.normalize.steps ++ [name] :=
    Path.normalize_step root hname
  rw [run_eq_parts]
  refine changes_bind (.refl _ tree) fun between found hends => ?_
  obtain ⟨rfl, hfound⟩ := ends_survey.1 hends
  obtain ⟨hmodels, hgroups⟩ := not_slash_of_scan htree hslash hfound
  refine within_bind (within_writeDocs hup hmodels hgroups) (fun _ => ?_) tree
  refine within_bind (within_ite (fun hignore => within_bind (within_updateIgnore _ ?_) fun _ =>
    within_pure _) fun _ => within_pure _) fun _ => ?_
  · exact ⟨hignore, hroot ignoreFile (by decide)⟩
  refine within_bind (within_ite (fun _ => ?_) fun _ => within_pure _) fun _ => within_pure _
  refine within_writeOutput _ (fun hjson => ?_) fun hyaml => ?_
  · rw [hroot jsonFile (by decide)]
    exact .json hjson
  · rw [hroot yamlFile (by decide)]
    exact .yaml hyaml

/-! ## The folders of documents -/

theorem prefix_docsPlace_iff {sub name : Text} {more : List Text} :
    docsPlace root config ++ [sub] <+: docsPlace root config ++ name :: more ↔ sub = name := by
  rw [List.prefix_append_right_inj, List.cons_prefix_cons]
  exact and_iff_left (List.nil_prefix)

/-- A file at the root stands in no folder of documents. -/
theorem not_prefix_of_root {sub name : Text} (hne : sub ≠ name) :
    ¬ docsPlace root config ++ [sub] <+: root.normalize.steps ++ [name] := by
  unfold docsPlace
  rw [List.append_assoc, List.prefix_append_right_inj]
  cases Path.stepsUnder config.docs.inPath with
  | nil => exact fun h => hne (List.cons_prefix_cons.1 h).1
  | cons step more =>
      intro h
      have hlength := h.length_le
      simp at hlength

/-- A folder of documents for which nothing is scanned. -/
inductive NotScanned (options : Options) : Text → Prop
  | schemas (h : (options.scan && options.schemas) = false) : NotScanned options schemasName
  | routes (h : (options.scan && options.routes) = false) : NotScanned options routesName

theorem NotScanned.ne {sub : Text} (h : NotScanned options sub) :
    sub ≠ readmeName ∧ sub ≠ jsonFile ∧ sub ≠ yamlFile ∧ sub ≠ ignoreFile := by
  cases h <;> decide

theorem NotScanned.not_written {sub : Text} (h : NotScanned options sub)
    (hplace : docsPlace root config ++ [sub] <+: place) : ¬ Written root config options place := by
  obtain ⟨hreadme, hjson, hyaml, -⟩ := h.ne
  intro hwritten
  cases hwritten with
  | readme => exact hreadme (prefix_docsPlace_iff.1 hplace)
  | schema hscan hschemas =>
      obtain rfl := prefix_docsPlace_iff.1 hplace
      cases h with
      | schemas h => simp [hscan, hschemas] at h
  | route hscan hroutes =>
      obtain rfl := prefix_docsPlace_iff.1 hplace
      cases h with
      | routes h => simp [hscan, hroutes] at h
  | json => exact not_prefix_of_root hjson hplace
  | yaml => exact not_prefix_of_root hyaml hplace

/-- **A build writes nowhere else, and what was edited by hand survives.** Whether a build returns or
    fails, it makes folders only on the way to its documents, writes only the file that explains the
    docs folder, the documents right inside its two folders and the document of the project, and
    appends to the ignore file. No file goes away, and in a folder of documents for which nothing is
    scanned no file is touched. -/
theorem writes_of_run (htree : tree.WellFormed) (hslash : ∀ step ∈ root.steps, '/' ∉ step)
    (hup : Path.up ∉ Path.stepsUnder config.docs.inPath) :
    Changes (reach root config options) tree (run root config kind options tree).1
    ∧ (∀ place content, tree.entry? place = some (.file content) →
        ∃ content', Tree.entry? (run root config kind options tree).1 place = some (.file content'))
    ∧ ∀ sub, NotScanned options sub → ∀ place content, docsPlace root config ++ [sub] <+: place →
        (Tree.entry? (run root config kind options tree).1 place = some (.file content) ↔
          tree.entry? place = some (.file content)) := by
  have hchanges : Changes (reach root config options) tree (run root config kind options tree).1 :=
    changes_of_run htree hslash hup
  refine ⟨hchanges, fun place content => hchanges.keepsFiles,
    fun sub hsub place content hplace => hchanges.file_iff (hsub.not_written hplace) ?_ content⟩
  rintro ⟨-, rfl⟩
  exact not_prefix_of_root hsub.ne.2.2.2 hplace

/-- A project with a schema document that was written by hand. -/
def handWritten : Tree where
  entries := [
    (["docs"].map String.toList, .folder),
    (["docs", "schemas"].map String.toList, .folder),
    (["docs", "schemas", "user.json"].map String.toList, .file (Text.toBytes "\x7b\x7d".toList))]

/-- A build without a scan writes the document of the project and leaves the schema document. -/
theorem writes_of_run_of_handWritten :
    handWritten.WellFormed ∧ Path.up ∉ Path.stepsUnder ({} : Config).docs.inPath
    ∧ NotScanned { scan := false } schemasName
    ∧ (Tree.entry? (run {} {} none { scan := false } handWritten).1 [jsonFile]).isSome
    ∧ Tree.entry? (run {} {} none { scan := false } handWritten).1
        (["docs", "schemas", "user.json"].map String.toList)
      = some (.file (Text.toBytes "\x7b\x7d".toList)) := by
  have htree : handWritten.WellFormed := by decide
  have hslash : ∀ step ∈ ({} : Path).steps, '/' ∉ step := by decide
  have hup : Path.up ∉ Path.stepsUnder ({} : Config).docs.inPath := by decide
  have hskipped : NotScanned { scan := false } schemasName := .schemas rfl
  have hwritten : (Tree.entry? (run {} {} none { scan := false } handWritten).1 [jsonFile]).isSome := by
    decide +kernel
  have hbelow : docsPlace {} {} ++ [schemasName]
      <+: ["docs", "schemas", "user.json"].map String.toList := by decide
  refine ⟨htree, hup, hskipped, hwritten, ?_⟩
  exact ((writes_of_run htree hslash hup).2.2 schemasName hskipped _ _ hbelow).2 rfl

end Build

end ApiScan
