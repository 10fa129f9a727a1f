import ApiScan.Build
import ApiScan.Proofs.Project.SameScan
import ApiScan.Proofs.Project.StillListed

set_option autoImplicit false

/-! # The source files of a build

A build scans the files of models and those of routes, as far as its options ask for them. Two trees
in which they are the same and have the same texts are scanned alike. -/

namespace ApiScan.Build

open ApiScan.Tree

variable {tree tree' : Tree} {root : Path} {config : Config} {kind : Option Project.Kind}
  {options : Options} {files : List Path}

/-- The files that a build scans. -/
def sources (root : Path) (config : Config) (kind : Option Project.Kind) (options : Options) :
    Survey (List Path) := do
  let models ←
    if options.scan && options.schemas then
      Project.modelFiles root config.database config.schema.inPath
    else pure []
  let routes ←
    if options.scan && options.routes then
      (Project.mainFiles root config kind ++ ·) <$> Project.documentedFiles root config kind
    else pure []
  return models ++ routes

/-- The files that a build scans can be listed exactly if those that its options ask for can. -/
theorem exists_sources_iff {p : Path → Prop} :
    (∃ files, (sources root config kind options).Finds tree files ∧ ∀ file ∈ files, p file) ↔
      ((options.scan && options.schemas) = true → ∃ files,
          (Project.modelFiles root config.database config.schema.inPath).Finds tree files
            ∧ ∀ file ∈ files, p file)
        ∧ ((options.scan && options.routes) = true → ∃ names,
            (Project.routeNames root config kind).Finds tree names
              ∧ ∀ file ∈ Project.mainFiles root config kind
                  ++ names.map (Project.routePath root config kind), p file) := by
  have hroutes {files : List Path} :
      ((Project.mainFiles root config kind ++ ·) <$> Project.documentedFiles root config kind).Finds
          tree files ↔
        ∃ names, (Project.routeNames root config kind).Finds tree names
          ∧ files = Project.mainFiles root config kind
              ++ names.map (Project.routePath root config kind) := by
    rw [map_eq_pure_bind, Survey.finds_bind]
    simp only [Project.finds_documentedFiles, Survey.finds_pure]
    constructor
    · rintro ⟨_, ⟨names, hnames, rfl⟩, rfl⟩
      exact ⟨names, hnames, rfl⟩
    · rintro ⟨names, hnames, rfl⟩
      exact ⟨_, ⟨names, hnames, rfl⟩, rfl⟩
  have hpart {survey : Survey (List Path)} (c : Bool) :
      (∃ files, (if c then survey else pure [] : Survey (List Path)).Finds tree files
        ∧ ∀ file ∈ files, p file) ↔
      (c = true → ∃ files, survey.Finds tree files ∧ ∀ file ∈ files, p file) := by
    cases c with
    | true => exact ⟨fun h _ => h, fun h => h rfl⟩
    | false => exact ⟨nofun, fun _ => ⟨[], rfl, fun _ h => absurd h List.not_mem_nil⟩⟩
  have hsources : sources root config kind options
      = (if options.scan && options.schemas then
          Project.modelFiles root config.database config.schema.inPath
        else pure []) >>= fun models =>
        (if options.scan && options.routes then
          (Project.mainFiles root config kind ++ ·) <$> Project.documentedFiles root config kind
        else pure []) >>= fun routes => pure (models ++ routes) := by
    unfold sources
    cases options.scan && options.schemas <;> cases options.scan && options.routes <;> rfl
  have hall : (∃ files, (sources root config kind options).Finds tree files
        ∧ ∀ file ∈ files, p file) ↔
      (∃ files, (if options.scan && options.schemas then
          Project.modelFiles root config.database config.schema.inPath
        else pure [] : Survey (List Path)).Finds tree files ∧ ∀ file ∈ files, p file)
      ∧ ∃ files, (if options.scan && options.routes then
          (Project.mainFiles root config kind ++ ·) <$> Project.documentedFiles root config kind
        else pure [] : Survey (List Path)).Finds tree files ∧ ∀ file ∈ files, p file := by
    simp only [hsources, Survey.finds_bind, Survey.finds_pure]
    constructor
    · rintro ⟨_, ⟨models, hmodels, routes, hroutes, rfl⟩, hp⟩
      rw [List.forall_mem_append] at hp
      exact ⟨⟨models, hmodels, hp.1⟩, routes, hroutes, hp.2⟩
    · rintro ⟨⟨models, hmodels, hp⟩, routes, hroutes, hp'⟩
      exact ⟨_, ⟨models, hmodels, routes, hroutes, rfl⟩, List.forall_mem_append.2 ⟨hp, hp'⟩⟩
  rw [hall, hpart, hpart]
  refine and_congr_right fun _ => forall_congr' fun _ => ?_
  constructor
  · rintro ⟨_, hfiles, hp⟩
    obtain ⟨names, hnames, rfl⟩ := hroutes.1 hfiles
    exact ⟨names, hnames, hp⟩
  · rintro ⟨names, hnames, hp⟩
    exact ⟨_, hroutes.2 ⟨names, hnames, rfl⟩, hp⟩

/-- The files that are scanned are the same in two trees, and have the same texts. -/
structure SameSources (root : Path) (config : Config) (kind : Option Project.Kind)
    (options : Options) (tree tree' : Tree) : Prop where
  models : (options.scan && options.schemas) = true → Project.SameModels root config tree tree'
  routes : (options.scan && options.routes) = true → Project.SameRoutes root config kind tree tree'

theorem SameSources.symm (h : SameSources root config kind options tree tree') :
    SameSources root config kind options tree' tree :=
  ⟨fun hask => (h.models hask).symm, fun hask => (h.routes hask).symm⟩

theorem scan_eq (root : Path) (config : Config) (kind : Option Project.Kind) (options : Options) :
    scan root config kind options
      = (if options.scan && options.schemas then Project.scanModels root config
          else pure []) >>= fun models =>
        (if options.scan && options.routes then Project.scanRoutes root config kind
          else pure []) >>= fun groups => pure (models, groups) := by
  unfold scan
  cases options.scan && options.schemas <;> cases options.scan && options.routes <;> rfl

/-- Two trees with the same source files are scanned alike. -/
theorem SameSources.finds_scan (h : SameSources root config kind options tree tree')
    {found : List Model × List RouteGroup}
    (hscan : (scan root config kind options).Finds tree found) :
    (scan root config kind options).Finds tree' found := by
  rw [scan_eq] at hscan ⊢
  obtain ⟨models, hmodels, hrest⟩ := Survey.finds_bind.1 hscan
  obtain ⟨groups, hgroups, hpure⟩ := Survey.finds_bind.1 hrest
  refine Survey.finds_bind.2 ⟨models, ?_, Survey.finds_bind.2 ⟨groups, ?_, hpure⟩⟩
  · by_cases hask : (options.scan && options.schemas) = true
    · rw [if_pos hask] at hmodels ⊢
      exact (h.models hask).finds_scanModels hmodels
    · rw [if_neg hask] at hmodels ⊢
      exact hmodels
  · by_cases hask : (options.scan && options.routes) = true
    · rw [if_pos hask] at hgroups ⊢
      exact (h.routes hask).finds_scanRoutes hgroups
    · rw [if_neg hask] at hgroups ⊢
      exact hgroups

/-- What was scanned could be listed. -/
theorem exists_sources_of_scan {found : List Model × List RouteGroup}
    (hscan : (scan root config kind options).Finds tree found) :
    ∃ files, (sources root config kind options).Finds tree files := by
  rw [scan_eq] at hscan
  obtain ⟨models, hmodels, hrest⟩ := Survey.finds_bind.1 hscan
  obtain ⟨groups, hgroups, -⟩ := Survey.finds_bind.1 hrest
  have hlisted : ∃ files, (sources root config kind options).Finds tree files
      ∧ ∀ file ∈ files, True := by
    refine exists_sources_iff.2 ⟨fun hask => ?_, fun hask => ?_⟩
    · rw [if_pos hask] at hmodels
      obtain ⟨files, hfiles⟩ := Project.exists_modelFiles_of_scanModels hmodels
      exact ⟨files, hfiles, fun _ _ => trivial⟩
    · rw [if_pos hask] at hgroups
      obtain ⟨⟨names, hnames⟩, -⟩ := Project.exists_routeNames_of_scanRoutes hgroups
      exact ⟨names, hnames, fun _ _ => trivial⟩
  obtain ⟨files, hfiles, -⟩ := hlisted
  exact ⟨files, hfiles⟩

/-- The main file that was scanned could be read. -/
theorem isSome_main_of_scan {found : List Model × List RouteGroup}
    (hscan : (scan root config kind options).Finds tree found)
    (hask : (options.scan && options.routes) = true) :
    ∀ file ∈ Project.mainFiles root config kind, (tree.sourceText? file).isSome := by
  rw [scan_eq] at hscan
  obtain ⟨models, -, hrest⟩ := Survey.finds_bind.1 hscan
  obtain ⟨groups, hgroups, -⟩ := Survey.finds_bind.1 hrest
  rw [if_pos hask] at hgroups
  exact (Project.exists_routeNames_of_scanRoutes hgroups).2

/-- **A tree that extends another one has the same source files**, if they can be listed in it, none
    of them stands apart, and each that can be read could be read before. -/
theorem sameSources_of_extends {apart : Place → Prop} (h : Extends apart tree tree')
    (htree : tree.WellFormed)
    (hlisted : ∃ files, (sources root config kind options).Finds tree files)
    (hfiles : ∃ files, (sources root config kind options).Finds tree' files ∧ ∀ file ∈ files,
      ¬ apart file.normalize.steps
        ∧ ((tree'.sourceText? file).isSome → (tree.sourceText? file).isSome)) :
    SameSources root config kind options tree tree' := by
  obtain ⟨listed, hlisted⟩ := hlisted
  obtain ⟨hmodels, hroutes⟩ := exists_sources_iff.1 ⟨listed, hlisted, fun _ _ => trivial⟩
  obtain ⟨hmodels', hroutes'⟩ := exists_sources_iff.1 hfiles
  refine ⟨fun hask => ?_, fun hask => ?_⟩
  · obtain ⟨files, hfiles, -⟩ := hmodels hask
    obtain ⟨files', hfiles', hall⟩ := hmodels' hask
    exact Project.sameModels_of_extends h htree hfiles hfiles' (fun file hfile => (hall file hfile).1)
      fun file hfile => (hall file hfile).2
  · obtain ⟨names, hnames, -⟩ := hroutes hask
    obtain ⟨names', hnames', hall⟩ := hroutes' hask
    exact Project.sameRoutes_of_extends h hnames hnames' (fun file hfile => (hall file hfile).1)
      fun file hfile => (hall file hfile).2

end ApiScan.Build
