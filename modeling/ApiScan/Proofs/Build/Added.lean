import ApiScan.Proofs.Build.Parts
import ApiScan.Proofs.Tree.Extends

set_option autoImplicit false

/-! # What a build adds to a tree

A build adds folders on the way to its docs folder, files in the docs folder, and files at the root.
All of them stand where a path of names leads from the root, and a tree that a build leaves extends
the one that it was given. -/

namespace ApiScan.Build

open ApiScan.Tree Docs

variable {tree tree' made : Tree} {root path : Path} {config : Config} {kind : Option Project.Kind}
  {options : Options} {start place folder : Place} {name : Text} {files : List (Text × Bytes)}
  {result : Result} {comments ignored output : List (Text × Bytes)}

/-! ## Places -/

/-- The names of the files that a build writes at the root of a project. -/
def outputNames : List Text := [jsonFile, yamlFile, ignoreFile]

/-- A place where a build writes: one in the docs folder, or that of a file at the root. -/
def IsOutput (root : Path) (config : Config) (place : Place) : Prop :=
  (root.under config.docs.inPath).normalize.steps <+: place
    ∨ ∃ name ∈ outputNames, place = (root.step name).normalize.steps

instance (root : Path) (config : Config) (place : Place) : Decidable (IsOutput root config place) :=
  inferInstanceAs (Decidable (_ ∨ _))

/-- A path that goes on from the root by names, and the place where it leads. -/
def Below (root : Path) (start : Place) (path : Path) (place : Place) : Prop :=
  ∃ steps, path = { root with steps := root.steps ++ steps } ∧ place = start ++ steps
    ∧ ∀ name ∈ steps, IsName name ∧ IsStep name

theorem Below.step (h : Below root start path place) (hname : IsName name) (hstep : IsStep name) :
    Below root start (path.step name) (place ++ [name]) := by
  obtain ⟨steps, rfl, rfl, hall⟩ := h
  refine ⟨steps ++ [name], ?_, List.append_assoc _ _ _, ?_⟩
  · simp only [Path.step, List.append_assoc]
  · exact List.forall_mem_append.2 ⟨hall, List.forall_mem_singleton.2 ⟨hname, hstep⟩⟩

/-- The docs folder of a project stands below its root. -/
structure Site (root : Path) (config : Config) (start place : Place) : Prop where
  below : Below root start (root.under config.docs.inPath) place
  docs : (root.under config.docs.inPath).normalize.steps = place
  outputs : ∀ name ∈ outputNames, (root.step name).normalize.steps = start ++ [name]

theorem Site.isOutput_iff (h : Site root config start place) :
    IsOutput root config folder ↔
      place <+: folder ∨ ∃ name ∈ outputNames, folder = start ++ [name] := by
  unfold IsOutput
  rw [h.docs]
  refine or_congr_right (exists_congr fun name => and_congr_right fun hname => ?_)
  rw [h.outputs name hname]

theorem site_of_stands (hroot : LeadsTo tree root start) (hup : Path.up ∉ Path.stepsUnder config.docs.inPath)
    (hstands : Stands tree (root.under config.docs.inPath)
      (start ++ Path.stepsUnder config.docs.inPath)) :
    Site root config start (start ++ Path.stepsUnder config.docs.inPath) where
  below := by
    refine ⟨_, Path.under_eq root _, rfl, fun name hname => ?_⟩
    have hspelled := Path.mem_stepsUnder hname
    have hleads := hstands.folder
    rw [Path.under_eq] at hleads
    exact ⟨⟨hspelled.1, hspelled.2.1, hspelled.2.2, fun he => hup (he ▸ hname)⟩,
      isStep_of_follow hup ((follow_append hroot).symm.trans hleads) name hname⟩
  docs := by
    rw [Path.under_eq]
    exact normalize_append hroot hup
  outputs := fun name hname => normalize_step hroot fun he => by
    rw [he] at hname
    exact absurd hname (by decide)

/-! ## Growth -/

/-- What a build adds to a tree: folders, and files where it writes. -/
def OfBuild (root : Path) (config : Config) (start : Place) (place : Place) (entry : Entry) : Prop :=
  (∃ path, Below root start path place ∧ Fits path)
    ∧ (entry = .folder ∨ IsOutput root config place)

theorem grows_putIn_ofBuild (hbelow : Below root start path folder)
    (htakes : TakesIn tree path folder (files.map Prod.fst))
    (hnames : ∀ name ∈ files.map Prod.fst, IsName name)
    (houtput : ∀ name ∈ files.map Prod.fst, IsOutput root config (folder ++ [name])) :
    Grows (OfBuild root config start) tree (tree.putIn folder files) := by
  refine (grows_putIn htakes).mono ?_
  rintro _ _ ⟨file, hfile, rfl, rfl⟩
  have hname : file.1 ∈ files.map Prod.fst := List.mem_map_of_mem hfile
  obtain ⟨⟨hfits, hstep⟩, -⟩ := htakes file.1 hname
  exact ⟨⟨_, hbelow.step (hnames _ hname) hstep, hfits⟩, Or.inr (houtput _ hname)⟩

theorem grows_withDocs {schemas routes : List (Text × Bytes)} (hsite : Site root config start place)
    (htakes : TakesDocs tree (root.under config.docs.inPath) place (schemas.map Prod.fst)
      (routes.map Prod.fst))
    (hschemas : ∀ name ∈ schemas.map Prod.fst, IsName name)
    (hroutes : ∀ name ∈ routes.map Prod.fst, IsName name) :
    Grows (OfBuild root config start) tree (withDocs place schemas routes tree) := by
  have hbelow (sub : Text) (hname : IsName sub) (hstep : IsStep sub) :
      Below root start ((root.under config.docs.inPath).step sub) (place ++ [sub]) :=
    hsite.below.step hname hstep
  have houtput (steps : List Text) : IsOutput root config (place ++ steps) :=
    hsite.isOutput_iff.2 (Or.inl (List.prefix_append _ _))
  have houtputin (sub name : Text) : IsOutput root config (place ++ [sub] ++ [name]) :=
    List.append_assoc place [sub] [name] ▸ houtput _
  refine Grows.trans (Grows.trans ?_ (grows_putIn_ofBuild (hbelow schemasName (by decide) (by decide))
    htakes.takesIn_schemas hschemas fun name _ => houtputin _ name))
    (grows_putIn_ofBuild (hbelow routesName (by decide) (by decide)) htakes.takesIn_routes hroutes
      fun name _ => houtputin _ name)
  exact grows_putIn_ofBuild hsite.below htakes.readme (by decide) fun name _ => houtput _

/-- What is made for the docs folder is added by a build. -/
theorem grows_create (hroot : LeadsTo tree root start) (hfits : Fits root)
    (hup : Path.up ∉ Path.stepsUnder config.docs.inPath) {done : Unit}
    (hend : (create (root.under config.docs.inPath)).Ends tree made done) :
    Stands made (root.under config.docs.inPath) (start ++ Path.stepsUnder config.docs.inPath)
      ∧ Site root config start (start ++ Path.stepsUnder config.docs.inPath)
      ∧ Grows (OfBuild root config start) tree made := by
  have hdocs := Path.under_eq root config.docs.inPath
  rw [hdocs] at hend
  obtain ⟨hstands, hgrows⟩ := stands_of_create hroot hfits hup hend
  rw [← hdocs] at hstands
  have hsite := site_of_stands (hroot.of_keepsFolders hgrows.keepsFolders) hup hstands
  refine ⟨hstands, hsite, hgrows.mono ?_⟩
  have hfront (sub : Text) (hname : IsName sub) (hstep : IsStep sub)
      (hfits : Fits ((root.under config.docs.inPath).step sub)) {between : Place}
      (hstart : start <+: between)
      (hbetween : between <+: start ++ Path.stepsUnder config.docs.inPath ++ [sub]) :
      ∃ path, Below root start path between ∧ Fits path := by
    obtain ⟨steps, hpath, hplace, hall⟩ := hsite.below.step hname hstep
    obtain ⟨front, rfl⟩ := hstart
    rw [hplace, List.prefix_append_right_inj] at hbetween
    obtain ⟨rest, rfl⟩ := hbetween
    refine ⟨_, ⟨front, rfl, rfl, fun name hname => hall name (List.mem_append_left _ hname)⟩, ?_⟩
    rw [hpath, ← List.append_assoc] at hfits
    exact fits_of_append hfits
  rintro between _ ⟨hstart, hbetween | hbetween, rfl⟩
  · exact ⟨hfront _ (by decide) (by decide) hstands.fitsSchemas hstart hbetween, Or.inl rfl⟩
  · exact ⟨hfront _ (by decide) (by decide) hstands.fitsRoutes hstart hbetween, Or.inl rfl⟩

/-! ## The files of a build -/

theorem isName_schemaFiles {models : List Model} (h : ∀ model ∈ models, '/' ∉ model.source) :
    ∀ name ∈ (schemaFiles options models).map Prod.fst, IsName name := by
  unfold schemaFiles
  split
  · intro name hname
    rw [keys_documentFiles] at hname
    obtain ⟨model, hmodel, rfl⟩ := mem_keys_schemaDocuments.1 hname
    exact isName_fileName (h model hmodel)
  · exact fun _ hname => absurd hname List.not_mem_nil

theorem isName_routeFiles {groups : List RouteGroup} (h : ∀ group ∈ groups, '/' ∉ group.source) :
    ∀ name ∈ (routeFiles options config groups).map Prod.fst, IsName name := by
  unfold routeFiles
  split
  · intro name hname
    rw [keys_documentFiles, Assoc.keys, groupDocuments, List.map_map] at hname
    obtain ⟨group, hgroup, rfl⟩ := List.mem_map.1 hname
    exact isName_fileName (h group hgroup)
  · exact fun _ hname => absurd hname List.not_mem_nil

theorem eq_commentsFile_of_findsComments (h : FindsComments root config kind options tree comments)
    (hname : name ∈ comments.map Prod.fst) : name = commentsFile := by
  unfold FindsComments at h
  split at h
  · obtain ⟨entries, -, hfiles⟩ := h
    unfold commentFiles at hfiles
    split at hfiles
    · rw [← Except.ok.inj hfiles] at hname
      exact absurd hname List.not_mem_nil
    · cases hdoc : commentsDocument entries with
      | error failure =>
          rw [hdoc] at hfiles
          exact nomatch hfiles
      | ok doc =>
          rw [hdoc] at hfiles
          rw [← Except.ok.inj hfiles] at hname
          exact List.mem_singleton.1 hname
  · rw [h] at hname
    exact absurd hname List.not_mem_nil

theorem eq_ignoreFile_of_findsIgnore (h : FindsIgnore root config start tree ignored)
    (hname : name ∈ ignored.map Prod.fst) : name = ignoreFile := by
  unfold FindsIgnore at h
  split at h
  · exact h.eq_ignoreFile hname
  · rw [h] at hname
    exact absurd hname List.not_mem_nil

theorem mem_of_findsOutput (h : FindsOutput root config options tree output)
    (hname : name ∈ output.map Prod.fst) : name = jsonFile ∨ name = yamlFile := by
  unfold FindsOutput at h
  split at h
  · obtain ⟨contents, -, rfl⟩ := h
    unfold outputFiles at hname
    rw [List.map_append, List.mem_append] at hname
    rcases hname with hname | hname
    · split at hname
      · exact Or.inl (List.mem_singleton.1 hname)
      · exact absurd hname List.not_mem_nil
    · split at hname
      · exact Or.inr (List.mem_singleton.1 hname)
      · exact absurd hname List.not_mem_nil
  · rw [h] at hname
    exact absurd hname List.not_mem_nil

/-- The comments come after the files of what was scanned. -/
theorem docsTree_eq {models : List Model} {groups : List RouteGroup}
    (comments : List (Text × Bytes)) :
    docsTree config options models groups place comments tree
      = (docsTree config options models groups place [] tree).putIn (place ++ [routesName])
          comments := by
  unfold docsTree withDocs
  rw [List.append_nil, putIn_append]

section
variable {models : List Model} {groups : List RouteGroup} (hsite : Site root config start place)
  (htakes : TakesDocs tree (root.under config.docs.inPath) place
    ((schemaFiles options models).map Prod.fst)
    ((routeFiles options config groups ++ comments).map Prod.fst))
include htakes

theorem takesDocs_scanned : TakesDocs tree (root.under config.docs.inPath) place
    ((schemaFiles options models).map Prod.fst)
    ((routeFiles options config groups ++ []).map Prod.fst) where
  readme := htakes.readme
  schemas := htakes.schemas
  routes := fun name hname => by
    refine htakes.routes name ?_
    rw [List.append_nil] at hname
    rw [List.map_append]
    exact List.mem_append_left _ hname

include hsite

theorem grows_scanned (hmodels : ∀ model ∈ models, '/' ∉ model.source)
    (hgroups : ∀ group ∈ groups, '/' ∉ group.source) :
    Grows (OfBuild root config start) tree
      (docsTree config options models groups place [] tree) := by
  refine grows_withDocs hsite (takesDocs_scanned htakes) (isName_schemaFiles hmodels) ?_
  rw [List.append_nil]
  exact isName_routeFiles hgroups

theorem grows_comments (hnames : ∀ name ∈ comments.map Prod.fst, IsName name) :
    Grows (OfBuild root config start) (docsTree config options models groups place [] tree)
      (docsTree config options models groups place comments tree) := by
  have hcomments : TakesIn tree (routesFolder (root.under config.docs.inPath)) (place ++ [routesName])
      (comments.map Prod.fst) := fun name hname => by
    refine htakes.routes name ?_
    rw [List.map_append]
    exact List.mem_append_right _ hname
  have hbelow : Below root start (routesFolder (root.under config.docs.inPath))
      (place ++ [routesName]) := hsite.below.step (by decide) (by decide)
  rw [docsTree_eq comments]
  refine grows_putIn_ofBuild hbelow ((takesDocs_scanned htakes).takesIn_iff.2 hcomments) hnames
    fun name _ => hsite.isOutput_iff.2 (Or.inl ?_)
  rw [List.append_assoc]
  exact List.prefix_append _ _

end

namespace Ran

variable (hran : Ran root config kind options start place made result comments ignored output)
include hran

theorem isName_comments : ∀ name ∈ comments.map Prod.fst, IsName name := fun name hname => by
  rw [eq_commentsFile_of_findsComments hran.findsComments hname]
  decide

theorem mem_outputNames : ∀ name ∈ (ignored ++ output).map Prod.fst, name ∈ outputNames := by
  intro name hname
  rw [List.map_append, List.mem_append] at hname
  rcases hname with hname | hname
  · rw [eq_ignoreFile_of_findsIgnore hran.findsIgnore hname]
    decide
  · rcases mem_of_findsOutput hran.findsOutput hname with rfl | rfl <;> decide

theorem ignored_outputNames : ∀ name ∈ ignored.map Prod.fst, name ∈ outputNames :=
  fun name hname => hran.mem_outputNames name
    (by rw [List.map_append]; exact List.mem_append_left _ hname)

theorem takesIn_rootFiles : TakesIn made root start ((ignored ++ output).map Prod.fst) := by
  rw [TakesIn, List.map_append, List.forall_mem_append]
  exact ⟨hran.takesIgnored, hran.takesOutput⟩

/-- What comes after the files in the docs folder. -/
theorem grows_rootFiles (hsite : Site root config start place) :
    Grows (OfBuild root config start)
      (docsTree config options result.models result.groups place comments made)
      ((docsTree config options result.models result.groups place comments made).putIn start
        (ignored ++ output)) := by
  refine grows_putIn_ofBuild ⟨[], by rw [List.append_nil], by rw [List.append_nil],
    fun _ h => absurd h List.not_mem_nil⟩ (hran.takesDocs.takesIn_iff.2 hran.takesIn_rootFiles)
    (fun name hname => ?_) fun name hname => ?_
  · have hall : ∀ name ∈ outputNames, IsName name := by decide
    exact hall name (hran.mem_outputNames name hname)
  · exact hsite.isOutput_iff.2 (Or.inr ⟨name, hran.mem_outputNames name hname, rfl⟩)

end Ran

end ApiScan.Build
