import ApiScan.Proofs.Build.Again

set_option autoImplicit false

/-! # A build that is run twice

A build that is run once more on the tree that it left ends with the same result and leaves the tree
as it is. It reads no source file that it has written, so that it scans the same, and what it writes
stands already. -/

namespace ApiScan.Build

open ApiScan.Tree Docs

variable {tree tree' made : Tree} {root : Path} {config : Config} {kind : Option Project.Kind}
  {options : Options} {start place : Place} {result : Result}
  {comments ignored output : List (Text × Bytes)}

/-! ## Builds of projects -/

theorem finds_scan_of_run (hend : (run root config kind options).Ends tree tree' result) :
    (scan root config kind options).Finds tree (result.models, result.groups) := by
  rw [run_eq_parts] at hend
  obtain ⟨_, ⟨models, groups⟩, hscan, hend⟩ := Work.ends_bind.1 hend
  obtain ⟨rfl, hfound⟩ := Work.ends_survey.1 hscan
  obtain ⟨_, _, -, hend⟩ := Work.ends_bind.1 hend
  obtain ⟨_, _, -, hend⟩ := Work.ends_bind.1 hend
  obtain ⟨_, _, -, hpure⟩ := Work.ends_bind.1 hend
  rw [← (Work.ends_pure.1 hpure).2]
  exact hfound

/-- Sources of what was scanned are names of files. -/
theorem not_slash_of_scan (htree : tree.WellFormed) (hslash : ∀ step ∈ root.steps, '/' ∉ step)
    {models : List Model} {groups : List RouteGroup}
    (h : (scan root config kind options).Finds tree (models, groups)) :
    (∀ model ∈ models, '/' ∉ model.source) ∧ ∀ group ∈ groups, '/' ∉ group.source := by
  rw [scan_eq] at h
  obtain ⟨found, hmodels, hrest⟩ := Survey.finds_bind.1 h
  obtain ⟨found', hgroups, hpure⟩ := Survey.finds_bind.1 hrest
  obtain ⟨rfl, rfl⟩ := Prod.mk.inj (Survey.finds_pure.1 hpure)
  constructor
  · intro model hmodel
    split at hmodels
    · exact Project.not_slash_of_finds_scanModels htree hslash hmodels hmodel
    · rw [← Survey.finds_pure.1 hmodels] at hmodel
      exact absurd hmodel List.not_mem_nil
  · intro group hgroup
    split at hgroups
    · cases kind with
      | none =>
          rw [← Survey.finds_pure.1 hgroups] at hgroup
          exact absurd hgroup List.not_mem_nil
      | some kind => exact Project.not_slash_of_finds_scanRoutes htree hgroups hgroup
    · rw [← Survey.finds_pure.1 hgroups] at hgroup
      exact absurd hgroup List.not_mem_nil

/-- A project as a file system holds it, with its root at a folder. -/
structure Rooted (tree : Tree) (root : Path) (start : Place) : Prop where
  wellFormed : tree.WellFormed
  listedOnce : tree.ListedOnce
  folder : tree.folder? root = .ok (some start)
  spelled : ∀ step ∈ root.steps, '/' ∉ step

namespace Rooted

theorem fits (h : Rooted tree root start) : Fits root := (folder?_eq_some.1 h.folder).1

theorem leadsTo (h : Rooted tree root start) : LeadsTo tree root start :=
  (folder?_eq_some.1 h.folder).2

theorem isName (h : Rooted tree root start) : ∀ name ∈ start, IsName name :=
  h.wellFormed.named start (by rw [h.leadsTo.entry?]; rfl)

/-- What the parts of a build do to a project. -/
theorem ends_run_iff (h : Rooted tree root start) (hup : Path.up ∉ Path.stepsUnder config.docs.inPath) :
    (run root config kind options).Ends tree tree' result ↔
      (scan root config kind options).Finds tree (result.models, result.groups)
        ∧ ∃ made comments ignored output,
            (create (root.under config.docs.inPath)).Ends tree made ()
              ∧ Ran root config kind options start (start ++ Path.stepsUnder config.docs.inPath) made
                  result comments ignored output
              ∧ tree' = (docsTree config options result.models result.groups
                  (start ++ Path.stepsUnder config.docs.inPath) comments made).putIn start
                    (ignored ++ output) := by
  have hparts (hscan : (scan root config kind options).Finds tree (result.models, result.groups)) :
      (run root config kind options).Ends tree tree' result ↔ _ :=
    Build.ends_run_iff h.leadsTo
      (not_slash_of_scan h.wellFormed h.spelled hscan).1
      (not_slash_of_scan h.wellFormed h.spelled hscan).2 fun made hcreate =>
        have ⟨hstands, _, hgrows⟩ := grows_create h.leadsTo h.fits hup hcreate
        ⟨hgrows.keepsFolders, hstands⟩
  exact ⟨fun hend => (hparts (finds_scan_of_run hend)).1 hend,
    fun hfound => (hparts hfound.1).2 hfound⟩

/-- What a build adds to a project stands at names. -/
theorem named_of_grows (h : Rooted tree root start)
    (hgrows : Grows (OfBuild root config start) tree tree') : tree'.Named := by
  refine hgrows.named h.wellFormed.named ?_
  rintro _ _ ⟨⟨_, ⟨steps, -, rfl, hall⟩, -⟩, -⟩
  exact List.forall_mem_append.2 ⟨h.isName, fun name hname => (hall name hname).1⟩

/-- A build lets a project grow by files where it writes. -/
theorem extends_of_grows (h : Rooted tree root start)
    (hbefore : Grows (OfBuild root config start) tree made)
    (hgrows : Grows (OfBuild root config start) made tree') :
    Extends (IsOutput root config) made tree' :=
  hgrows.extends (hbefore.listedOnce h.listedOnce) (h.named_of_grows (hbefore.trans hgrows))
    fun _ _ hkind => hkind.2.resolve_left nofun

end Rooted

/-! ## Source files that stay -/

/-- None of the source files stands where a build writes. -/
def ApartSources (root : Path) (config : Config) (kind : Option Project.Kind) (options : Options)
    (tree : Tree) : Prop :=
  ∀ files, (sources root config kind options).Finds tree files →
    ∀ file ∈ files, ¬ IsOutput root config file.normalize.steps

/-- The source files can be listed in a tree, and those that can be read there could be read in an
    earlier one. -/
def OldSources (root : Path) (config : Config) (kind : Option Project.Kind) (options : Options)
    (tree tree' : Tree) : Prop :=
  ∃ files, (sources root config kind options).Finds tree' files
    ∧ ∀ file ∈ files, (tree'.sourceText? file).isSome → (tree.sourceText? file).isSome

/-- The comments of a build are found alike in files of routes that are the same. -/
theorem FindsComments.congr (h : FindsComments root config kind options tree comments)
    (hsame : (options.scan && options.routes) = true →
      Project.SameRoutes root config kind tree tree') :
    FindsComments root config kind options tree' comments := by
  unfold FindsComments at h ⊢
  split
  · next hask =>
      rw [if_pos hask] at h
      obtain ⟨entries, hentries, hfiles⟩ := h
      exact ⟨entries, (hsame hask).finds_scanDocs hentries, hfiles⟩
  · next hask =>
      rw [if_neg hask] at h
      exact h

/-- The comments that were found before the last files were written are found when these are
    written once more. -/
theorem findsComments_again {scanned rewritten : Tree} (h : Rooted tree root start)
    (hbefore : Grows (OfBuild root config start) tree scanned)
    (hafter : Grows (OfBuild root config start) scanned tree')
    (hrewrite : Grows (OfBuild root config start) tree' rewritten)
    (hback : Grows (OfBuild root config start) rewritten tree')
    (hapart : ApartSources root config kind options tree')
    (hold : OldSources root config kind options tree tree')
    (hcomments : FindsComments root config kind options scanned comments) :
    FindsComments root config kind options rewritten comments := by
  refine hcomments.congr fun hask => ?_
  unfold FindsComments at hcomments
  rw [if_pos hask] at hcomments
  obtain ⟨entries, hentries, -⟩ := hcomments
  obtain ⟨names, hnames⟩ := Project.exists_routeNames_of_scanDocs hentries
  obtain ⟨files, hfiles, hread⟩ := hold
  obtain ⟨names', hnames', hall⟩ := (exists_sources_iff.1 ⟨files, hfiles, fun file hfile =>
    And.intro (hapart files hfiles file hfile) (hread file hfile)⟩).2 hask
  have hthen := hbefore.trans hafter
  have hsame : Project.SameRoutes root config kind scanned tree' :=
    Project.sameRoutes_of_extends (h.extends_of_grows hbefore hafter) hnames hnames'
      (fun file hfile => (hall file hfile).1) fun file hfile hsome =>
        (h.extends_of_grows Grows.refl hbefore).isSome_sourceText? ((hall file hfile).2 hsome)
  have hsame' : Project.SameRoutes root config kind rewritten tree' :=
    Project.sameRoutes_of_extends_both (h.extends_of_grows (hthen.trans hrewrite) hback)
      (h.extends_of_grows hthen hrewrite) hnames' fun file hfile => (hall file hfile).1
  exact hsame.trans hsame'.symm

/-- What a build scans is the same after it. -/
theorem sameSources_of_grows (h : Rooted tree root start)
    (hgrows : Grows (OfBuild root config start) tree tree')
    (hapart : ApartSources root config kind options tree')
    (hold : OldSources root config kind options tree tree')
    {found : List Model × List RouteGroup}
    (hscan : (scan root config kind options).Finds tree found) :
    SameSources root config kind options tree tree' := by
  obtain ⟨files, hfiles, hread⟩ := hold
  exact sameSources_of_extends (h.extends_of_grows Grows.refl hgrows) h.wellFormed
    (exists_sources_of_scan hscan)
    ⟨files, hfiles, fun file hfile => ⟨hapart files hfiles file hfile, hread file hfile⟩⟩

/-! ## The second build -/

/-- **A build that is run once more ends with the same result and changes nothing**: for every
    project, with a docs folder that is named without steps up and carriage returns, if no source
    file stands where the build writes and the files of models and routes are named without steps
    up, or at least none of them could not be read before the build and can be read after it. -/
theorem run_again (h : Rooted tree root start) (hup : Path.up ∉ Path.stepsUnder config.docs.inPath)
    (hreturn : '\r' ∉ config.docs.inPath)
    (hapart : ApartSources root config kind options tree')
    (hnamed : (Path.up ∉ Path.stepsUnder (Project.modelsValue config.database config.schema.inPath)
        ∧ Path.up ∉ Path.stepsUnder config.routes.inPath)
      ∨ OldSources root config kind options tree tree')
    (hend : (run root config kind options).Ends tree tree' result) :
    (run root config kind options).Ends tree' tree' result := by
  obtain ⟨hscan, made, comments, ignored, output, hcreate, hran, htree⟩ := (h.ends_run_iff hup).1 hend
  obtain ⟨hmodels, hgroups⟩ := not_slash_of_scan h.wellFormed h.spelled hscan
  obtain ⟨-, hsite, hmade⟩ := grows_create h.leadsTo h.fits hup hcreate
  have hscanned := hmade.trans (grows_scanned hsite hran.takesDocs hmodels hgroups)
  have hrest : Grows (OfBuild root config start) _ tree' :=
    htree ▸ (grows_comments hsite hran.takesDocs hran.isName_comments).trans
      (hran.grows_rootFiles hsite)
  have hgrows := hscanned.trans hrest
  have hold : OldSources root config kind options tree tree' := by
    rcases hnamed with ⟨hschema, hroutes⟩ | hold
    · exact exists_sources_of_not_up h.wellFormed h.listedOnce (h.named_of_grows hgrows) hgrows
        h.leadsTo hschema hroutes hscan hapart
    · exact hold
  -- the comments are found while their file is the one of a router with its name, if there is one
  have hplace : start <+: start ++ Path.stepsUnder config.docs.inPath := List.prefix_append _ _
  obtain ⟨htakes, hsame⟩ := hran.docs_again hplace htree
  have hrewrite := grows_scanned hsite htakes hmodels hgroups
  have hback := hsame ▸ grows_comments hsite htakes hran.isName_comments
  have hcomments := findsComments_again h hscanned hrest hrewrite hback hapart hold
    hran.findsComments
  obtain ⟨hagain, htree'⟩ := hran.again (h.leadsTo.of_keepsFolders hmade.keepsFolders) hplace hreturn
    htree hcomments
  have hstands := hagain.stands
  refine (Build.ends_run_iff (h.leadsTo.of_keepsFolders hgrows.keepsFolders) hmodels hgroups ?_).2
    ⟨(sameSources_of_grows h hgrows hapart hold hscan).finds_scan hscan, tree', comments, [], output,
      hstands.ends_create_iff.2 rfl, hagain, htree'⟩
  intro made hmade
  obtain rfl := hstands.ends_create_iff.1 hmade
  exact ⟨fun _ he => he, hstands⟩

/-- An application with a model, a router that documents a path in a comment, and an ignore file. -/
def ignoredExample : Tree where
  entries := [
    ([".gitignore"].map String.toList, .file (Text.toBytes "node_modules\n".toList)),
    (["src"].map String.toList, .folder),
    (["src", "index.js"].map String.toList, .file (Text.toBytes
      "app.use('/users', require('./routes/users'));\n".toList)),
    (["routes"].map String.toList, .folder),
    (["routes", "users.js"].map String.toList, .file (Text.toBytes
      "/**\n * @swagger\n * /health:\n *   get:\n *     summary: ok\n */\nrouter.get('/', list);\n".toList)),
    (["schema.prisma"].map String.toList, .file (Text.toBytes
      "model User \x7b\n  name String\n\x7d\n".toList))]

/-- The configuration of the application. -/
def schemaAtRoot : Config := { database := .prisma, schema := "/schema.prisma".toList }

/-- A second build of the application changes nothing. -/
theorem run_again_of_ignoredExample : ∃ tree' result,
    (run {} schemaAtRoot (some .express) {}).Ends ignoredExample tree' result
      ∧ tree' ≠ ignoredExample
      ∧ (run {} schemaAtRoot (some .express) {}).Ends tree' tree' result := by
  have hend : ∃ result ∈ (run {} schemaAtRoot (some .express) {} ignoredExample).2.2.toOption,
      (run {} schemaAtRoot (some .express) {} ignoredExample).1 ≠ ignoredExample := by
    decide +kernel
  obtain ⟨result, hresult, hnew⟩ := hend
  have hends : (run {} schemaAtRoot (some .express) {}).Ends ignoredExample _ result :=
    ⟨rfl, Survey.eq_ok_of_mem_toOption hresult⟩
  have hsources : ∃ files ∈ (sources {} schemaAtRoot (some .express) {}
      (run {} schemaAtRoot (some .express) {} ignoredExample).1).2.toOption,
        ∀ file ∈ files, ¬ IsOutput {} schemaAtRoot file.normalize.steps := by
    decide +kernel
  obtain ⟨files, hfiles, hapart⟩ := hsources
  have hroot : Rooted ignoredExample {} [] := ⟨by decide, by decide, rfl, by decide⟩
  refine ⟨_, result, hends, hnew, run_again hroot (by decide) (by decide) (fun found hfound => ?_)
    (Or.inl (by decide)) hends⟩
  rw [hfound.unique (Survey.eq_ok_of_mem_toOption hfiles)]
  exact hapart

/-- A project whose models stand in a folder. -/
def modelsInFolder : Tree where
  entries := [
    (["prisma"].map String.toList, .folder),
    (["prisma", "schema.prisma"].map String.toList, .file (Text.toBytes
      "model User \x7b\n  name String\n\x7d\n".toList))]

/-- A configuration that names the models by a step into the docs folder and out of it. -/
def schemaThroughDocs : Config :=
  { database := .prisma, schema := "docs/../prisma/schema.prisma".toList }

/-- The models are found only when the docs folder is there: the second build finds one more than
    the first one, although neither scans a file where it writes. -/
theorem not_run_again_through_docs : ∃ tree' tree'' result result',
    Rooted modelsInFolder {} []
      ∧ Path.up ∉ Path.stepsUnder schemaThroughDocs.docs.inPath
      ∧ '\r' ∉ schemaThroughDocs.docs.inPath
      ∧ ApartSources {} schemaThroughDocs none {} modelsInFolder
      ∧ ApartSources {} schemaThroughDocs none {} tree'
      ∧ (run {} schemaThroughDocs none {}).Ends modelsInFolder tree' result
      ∧ (run {} schemaThroughDocs none {}).Ends tree' tree'' result'
      ∧ result' ≠ result ∧ tree'' ≠ tree' := by
  have hend : ∃ result ∈ (run {} schemaThroughDocs none {} modelsInFolder).2.2.toOption,
      ∃ result' ∈ (run {} schemaThroughDocs none {}
        (run {} schemaThroughDocs none {} modelsInFolder).1).2.2.toOption, result' ≠ result
          ∧ (run {} schemaThroughDocs none {} (run {} schemaThroughDocs none {} modelsInFolder).1).1
            ≠ (run {} schemaThroughDocs none {} modelsInFolder).1 := by
    decide +kernel
  obtain ⟨result, hresult, result', hresult', hother, hchanged⟩ := hend
  have hapart (tree : Tree) : ApartSources {} schemaThroughDocs none {} tree := by
    intro files hfiles
    obtain rfl : [Path.under {} schemaThroughDocs.schema.inPath] = files := Except.ok.inj hfiles
    decide
  exact ⟨_, _, result, result', ⟨by decide, by decide, rfl, by decide⟩, by decide, by decide,
    hapart _, hapart _, ⟨rfl, Survey.eq_ok_of_mem_toOption hresult⟩,
    ⟨rfl, Survey.eq_ok_of_mem_toOption hresult'⟩, hother, hchanged⟩

end ApiScan.Build
