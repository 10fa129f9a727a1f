import ApiScan.Project.Scan
import ApiScan.Proofs.Model.Registration
import ApiScan.Proofs.Path
import ApiScan.Proofs.Source.Extension
import ApiScan.Proofs.Tree.WellFormed
import ApiScan.Proofs.Work
import Mathlib.Data.List.TakeWhile

set_option autoImplicit false

/-! # Sources of scanned routes

A route group is named for a file or a folder, so that no slash stands in the name of its source. -/

namespace ApiScan

theorem FileRoute.not_slash_tag (file : Text) : '/' ∉ tag file := by
  refine Source.not_mem_stripExtension fun hc => ?_
  simpa using List.mem_takeWhile_imp hc

namespace FileRoute

theorem tag_of_mem_entriesOf {lookup : Text → Option Text} {file : Text}
    {part : Text × List RouteEntry} (h : part ∈ (entriesOf lookup file).found) :
    part.1 = tag file := by
  unfold entriesOf at h
  split at h
  · exact absurd h List.not_mem_nil
  · split at h
    · exact absurd h List.not_mem_nil
    · split at h
      · rw [List.mem_singleton.1 h]
      · exact absurd h List.not_mem_nil

theorem not_slash_source {files : List Text} {lookup : Text → Option Text} {group : RouteGroup}
    (h : group ∈ (extract files lookup).found) : '/' ∉ group.source := by
  obtain ⟨⟨source, entries⟩, hgroup, rfl⟩ := List.mem_map.1 h
  have hkey : source ∈ Assoc.keys (grouped (Findings.join (files.map (entriesOf lookup))).found) :=
    List.mem_map.2 ⟨_, hgroup, rfl⟩
  obtain ⟨part, hpart, rfl⟩ :=
    (Assoc.mem_keys_foldl_alter.1 hkey).resolve_right List.not_mem_nil
  obtain ⟨found, hfound, hmem⟩ := List.mem_flatMap.1 hpart
  obtain ⟨file, -, rfl⟩ := List.mem_map.1 hfound
  show '/' ∉ part.1
  rw [tag_of_mem_entriesOf hmem]
  exact not_slash_tag file

end FileRoute

theorem Router.source_of_mem_groupOf {mounts : List (Text × Text)} {lookup : Text → Option Text}
    {file : Text} {group : RouteGroup} (h : group ∈ (groupOf mounts lookup file).found) :
    group.source = Source.stripExtension file := by
  unfold groupOf at h
  simp only at h
  split at h
  · exact absurd h List.not_mem_nil
  · split at h
    · exact absurd h List.not_mem_nil
    · rw [List.mem_singleton.1 h]

namespace Project

variable {tree : Tree} {root : Path} {config : Config}

theorem not_slash_of_finds_routerFiles (htree : tree.WellFormed) {routes : Text}
    {files : List Text} (h : (routerFiles root routes).Finds tree files) {file : Text}
    (hfile : file ∈ files) : '/' ∉ file := by
  obtain ⟨paths, hpaths, hmap⟩ := Survey.finds_bind.1 h
  rw [← Survey.finds_pure.1 hmap] at hfile
  obtain ⟨path, hpath, rfl⟩ := List.mem_map.1 hfile
  obtain ⟨-, -, hpaths⟩ := Survey.finds_bind.1 hpaths
  obtain ⟨names, hnames, name, hname, rfl⟩ := Survey.mem_of_finds_filesIn hpaths hpath
  rw [Path.name_step]
  exact (Tree.isName_of_namesAt htree (Survey.finds_ask.1 hnames) hname).1

/-- The routes of an application with a main file come from the router files of its folder. -/
theorem finds_scanRoutes_express {groups : List RouteGroup}
    (h : (scanRoutes root config (some .express)).Finds tree groups) :
    ∃ mainText files, (routerFiles root config.routes.inPath).Finds tree files
      ∧ (Router.extract mainText config.routes.inPath files fun file =>
          tree.sourceText? ((root.under config.routes.inPath).step file)).found = groups := by
  obtain ⟨found, -, h⟩ := Survey.finds_bind.1 h
  cases found with
  | false =>
      obtain ⟨_, hfail, -⟩ := Survey.finds_bind.1 h
      exact absurd hfail Survey.not_finds_fail
  | true =>
      obtain ⟨text?, -, h⟩ := Survey.finds_bind.1 h
      obtain ⟨files, hfiles, h⟩ := Survey.finds_bind.1 h
      obtain ⟨_, htree, h⟩ := Survey.finds_bind.1 h
      obtain rfl := Except.ok.inj htree
      exact ⟨_, files, hfiles, Except.ok.inj h⟩

/-- The routes of an application with file routes come from the files below its folder. -/
theorem finds_scanRoutes_nextjs {groups : List RouteGroup}
    (h : (scanRoutes root config (some .nextjs)).Finds tree groups) :
    ∃ files, (routeFilesBelow (routeRoot root config)).Finds tree files
      ∧ (FileRoute.extract files fun file =>
          tree.sourceText? ((routeRoot root config).join file)).found = groups := by
  obtain ⟨files, hfiles, h⟩ := Survey.finds_bind.1 h
  obtain ⟨_, htree, h⟩ := Survey.finds_bind.1 h
  obtain rfl := Except.ok.inj htree
  exact ⟨files, hfiles, Except.ok.inj h⟩

/-- The source of a scanned route group is the name of a file or folder. -/
theorem not_slash_of_finds_scanRoutes (htree : tree.WellFormed) {kind : Kind}
    {groups : List RouteGroup} (h : (scanRoutes root config (some kind)).Finds tree groups)
    {group : RouteGroup} (hgroup : group ∈ groups) : '/' ∉ group.source := by
  cases kind with
  | nextjs =>
      obtain ⟨files, -, rfl⟩ := finds_scanRoutes_nextjs h
      exact FileRoute.not_slash_source hgroup
  | express =>
      obtain ⟨mainText, files, hfiles, rfl⟩ := finds_scanRoutes_express h
      obtain ⟨part, hpart, hgroup⟩ := List.mem_flatMap.1 hgroup
      obtain ⟨file, hfile, rfl⟩ := List.mem_map.1 hpart
      rw [Router.source_of_mem_groupOf hgroup]
      exact Source.not_mem_stripExtension (not_slash_of_finds_routerFiles htree hfiles hfile)

end Project

end ApiScan

/-! ## Sources of scanned models

A model is named for its file, so that no slash stands in the name of its source. -/

namespace ApiScan

/-! ## Files -/

theorem DocumentSchema.source_of_mem_extract {file text : Text} {model : Model}
    (h : model ∈ (extract file text).found) : model.source = Source.stripExtension file := by
  obtain ⟨-, block, stamped, rfl⟩ := eq_of_mem_extract h
  rfl

/-- A model that is found has the name behind a mark, and the columns of a block. -/
theorem ColumnTable.eq_of_mem_extract {file text : Text} {model : Model}
    (h : model ∈ (extract file text).found) :
    ∃ mark block, tableName text mark ≠ [] ∧ model = ⟨tableName text mark,
      Source.stripExtension file, (fragments block).filterMap parseColumn?⟩ := by
  unfold extract at h
  split at h
  · exact absurd h List.not_mem_nil
  · simp only at h
    split at h
    · exact absurd h List.not_mem_nil
    · next hname =>
        split at h
        · exact absurd h List.not_mem_nil
        · exact ⟨_, _, by simpa using hname, List.mem_singleton.1 h⟩

theorem ColumnTable.source_of_mem_extract {file text : Text} {model : Model}
    (h : model ∈ (extract file text).found) : model.source = Source.stripExtension file := by
  obtain ⟨mark, block, -, rfl⟩ := eq_of_mem_extract h
  rfl

theorem SchemaFile.source_of_mem_extract {file text : Text} {model : Model}
    (h : model ∈ (extract file text).found) : model.source = Source.stripExtension file := by
  obtain ⟨part, hpart, hmodel⟩ := List.mem_flatMap.1 h
  obtain ⟨chunk, -, rfl⟩ := List.mem_map.1 hpart
  unfold parseChunk at hmodel
  simp only at hmodel
  split at hmodel
  · exact absurd hmodel List.not_mem_nil
  · split at hmodel
    · rw [List.mem_singleton.1 hmodel]
    · exact absurd hmodel List.not_mem_nil

namespace Project

open ApiScan.Tree

variable {tree : Tree} {root path : Path} {config : Config}

theorem source_of_modelsOf {database : Database} {extract : Text → Text → Findings Model}
    (hextract : modelsOf database = some extract) {file text : Text} {model : Model}
    (h : model ∈ (extract file text).found) : model.source = Source.stripExtension file := by
  cases database with
  | mongoose => exact DocumentSchema.source_of_mem_extract (Option.some.inj hextract ▸ h)
  | prisma => exact SchemaFile.source_of_mem_extract (Option.some.inj hextract ▸ h)
  | drizzle => exact ColumnTable.source_of_mem_extract (Option.some.inj hextract ▸ h)
  | unknown => exact nomatch hextract

theorem source_of_finds_scanModelFile {database : Database} {extract : Text → Text → Findings Model}
    (hextract : modelsOf database = some extract) {models : List Model}
    (h : (scanModelFile extract path).Finds tree models) {model : Model} (hmodel : model ∈ models) :
    model.source = Source.stripExtension path.name := by
  obtain ⟨text?, -, h⟩ := Survey.finds_bind.1 h
  cases text? with
  | none =>
      rw [← Survey.finds_pure.1 h] at hmodel
      exact absurd hmodel List.not_mem_nil
  | some text =>
      obtain ⟨found, hfound, h⟩ := Survey.finds_bind.1 h
      have hmodels : found = models := by
        simp only at h
        split at h
        · obtain ⟨_, -, h⟩ := Survey.finds_bind.1 h
          exact Survey.finds_pure.1 h
        · exact Survey.finds_pure.1 h
      subst hmodels
      obtain rfl := Except.ok.inj hfound
      exact source_of_modelsOf hextract hmodel

/-! ## Names of files -/

theorem not_slash_of_finds_filesIn (htree : tree.WellFormed) {wanted : Text → Bool}
    {files : List Path} (h : (Survey.filesIn path wanted).Finds tree files) {file : Path}
    (hfile : file ∈ files) : '/' ∉ file.name := by
  obtain ⟨names, hnames, name, hname, rfl⟩ := Survey.mem_of_finds_filesIn h hfile
  rw [Path.name_step]
  exact (isName_of_namesAt htree (Survey.finds_ask.1 hnames) hname).1

theorem not_slash_name_under (hroot : ∀ step ∈ root.steps, '/' ∉ step) (value : Text) :
    '/' ∉ (root.under value).name := by
  rw [Path.under_eq, Path.name]
  cases hlast : (root.steps ++ Path.stepsUnder value).getLast? with
  | none => exact List.not_mem_nil
  | some step =>
      rcases List.mem_append.1 (List.mem_of_getLast? hlast) with hstep | hstep
      · exact hroot step hstep
      · exact (Path.mem_stepsUnder hstep).1

theorem not_slash_of_finds_filesOf (htree : tree.WellFormed) {purpose : String}
    {wanted : Text → Bool} {files : List Path}
    (h : (filesOf purpose path wanted).Finds tree files) {file : Path} (hfile : file ∈ files) :
    '/' ∉ file.name := by
  obtain ⟨_, -, h⟩ := Survey.finds_bind.1 h
  exact not_slash_of_finds_filesIn htree h hfile

theorem not_slash_of_finds_schemaFilesAt (htree : tree.WellFormed) (hpath : '/' ∉ path.name)
    {files : List Path} (h : (schemaFilesAt path).Finds tree files) {file : Path}
    (hfile : file ∈ files) : '/' ∉ file.name := by
  obtain ⟨isFile, -, h⟩ := Survey.finds_bind.1 h
  split at h
  · rw [← Survey.finds_pure.1 h] at hfile
    rwa [List.mem_singleton.1 hfile]
  · obtain ⟨isFolder, -, h⟩ := Survey.finds_bind.1 h
    split at h
    · exact not_slash_of_finds_filesIn htree h hfile
    · rw [← Survey.finds_pure.1 h] at hfile
      exact absurd hfile List.not_mem_nil

/-- The name of a source file of models holds no slash. -/
theorem not_slash_of_finds_modelFiles (htree : tree.WellFormed)
    (hroot : ∀ step ∈ root.steps, '/' ∉ step) {database : Database} {schema : Text}
    {files : List Path} (h : (modelFiles root database schema).Finds tree files) {file : Path}
    (hfile : file ∈ files) : '/' ∉ file.name := by
  have hnil {files : List Path} (h : Survey.Finds (pure []) tree files) : file ∉ files := by
    rw [← Survey.finds_pure.1 h]
    exact List.not_mem_nil
  have hsingle {files : List Path} (h : Survey.Finds (pure [root.under schema]) tree files)
      (hfile : file ∈ files) : '/' ∉ file.name := by
    rw [← Survey.finds_pure.1 h] at hfile
    rw [List.mem_singleton.1 hfile]
    exact not_slash_name_under hroot schema
  unfold modelFiles at h
  split at h
  · exact absurd hfile (hnil h)
  · cases database with
    | unknown => exact absurd hfile (hnil h)
    | mongoose => exact not_slash_of_finds_filesOf htree h hfile
    | prisma =>
        simp only at h
        split at h
        · exact hsingle h hfile
        · obtain ⟨_, -, h⟩ := Survey.finds_bind.1 h
          obtain ⟨names, hnames, h⟩ := Survey.finds_bind.1 h
          obtain ⟨found, hfound, h⟩ := Survey.finds_bind.1 h
          rw [← Survey.finds_pure.1 h] at hfile
          obtain ⟨part, hpart, hfile⟩ := List.mem_flatten.1 hfile
          obtain ⟨entry, hentry, hfinds⟩ := Survey.mem_of_finds_mapM hfound hpart
          obtain ⟨name, hname, rfl⟩ := List.mem_map.1 hentry
          refine not_slash_of_finds_schemaFilesAt htree ?_ hfinds hfile
          rw [Path.name_step]
          exact (isName_of_namesAt htree (Survey.finds_ask.1 hnames) (List.mem_filter.1 hname).1).1
    | drizzle =>
        simp only at h
        split at h
        · exact not_slash_of_finds_filesOf htree h hfile
        · split at h
          · exact hsingle h hfile
          · exact not_slash_of_finds_filesOf htree h hfile

/-- **The source of a scanned model is the name of a file.** -/
theorem not_slash_of_finds_scanModels (htree : tree.WellFormed)
    (hroot : ∀ step ∈ root.steps, '/' ∉ step) {models : List Model}
    (h : (scanModels root config).Finds tree models) {model : Model} (hmodel : model ∈ models) :
    '/' ∉ model.source := by
  unfold scanModels at h
  cases hextract : modelsOf config.database with
  | none =>
      rw [hextract] at h
      obtain ⟨_, -, h⟩ := Survey.finds_bind.1 h
      rw [← Survey.finds_pure.1 h] at hmodel
      exact absurd hmodel List.not_mem_nil
  | some extract =>
      rw [hextract] at h
      obtain ⟨files, hfiles, h⟩ := Survey.finds_bind.1 h
      obtain ⟨found, hfound, h⟩ := Survey.finds_bind.1 h
      rw [← Survey.finds_pure.1 h] at hmodel
      obtain ⟨part, hpart, hmodel⟩ := List.mem_flatten.1 hmodel
      obtain ⟨file, hfile, hfinds⟩ := Survey.mem_of_finds_mapM hfound hpart
      rw [source_of_finds_scanModelFile hextract hfinds hmodel]
      exact Source.not_mem_stripExtension (not_slash_of_finds_modelFiles htree hroot hfiles hfile)

end Project

end ApiScan
