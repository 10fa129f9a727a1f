import ApiScan.Proofs.Build.Added
import ApiScan.Proofs.Build.Sources
import ApiScan.Proofs.Project.Routes

set_option autoImplicit false

/-! # Building again

A build that is run once more on the tree that it left gives the same result and changes nothing. It
finds the same source files with the same texts, since it has written none of them, so that the
files that it is to write are those that stand already. -/

/-! ## Source files after a build

Where the configuration names the source files by paths without steps up, they can be listed after a
build as before it, and each of them that can be read then could be read before. -/

namespace ApiScan

open ApiScan.Tree

variable {tree tree' : Tree} {root path : Path} {config : Config} {kind : Option Project.Kind}
  {start : Place} {apart : Place → Prop}

/-- A file below the root that can be read in a tree that extends another one, and does not stand
    apart, can be read in that one. -/
theorem Tree.Extends.isSome_sourceText?_of_goesDown (h : Extends apart tree tree')
    (htree : tree.WellFormed) (hroot : LeadsTo tree root start) (hdown : Project.GoesDown root path)
    (hplace : ¬ apart path.normalize.steps) (hsome : (tree'.sourceText? path).isSome) :
    (tree.sourceText? path).isSome := by
  obtain ⟨steps, hup, rfl⟩ := hdown
  rw [normalize_append hroot hup] at hplace
  unfold sourceText? at hsome ⊢
  rw [Option.isSome_map] at hsome ⊢
  cases hread : tree'.read { root with steps := root.steps ++ steps } with
  | error fault =>
      rw [hread] at hsome
      exact nomatch hsome
  | ok content =>
      obtain ⟨place, hlocate⟩ := read_eq_ok_iff.1 hread
      obtain ⟨hfits, hfollow⟩ := locate_eq_ok.1 hlocate
      rw [follow_append (hroot.of_keepsFolders h.keepsFolders)] at hfollow
      obtain rfl := place_eq_of_follow hup hfollow
      have he := (h.entry?_file_iff hplace).1 (entry?_of_follow hfollow)
      have hfollow' := htree.follow_eq (isStep_of_follow hup hfollow) he
      rw [read_eq_ok_iff.2 ⟨_, locate_eq_ok.2 ⟨hfits, (follow_append hroot).trans hfollow'⟩⟩]
      rfl

namespace Build

/-- The names that a build adds in a folder below the root can be asked about. -/
theorem asksNew_of_ofBuild (h : Grows (OfBuild root config start) tree tree')
    (hroot : LeadsTo tree' root start) (hdown : Project.GoesDown root path) :
    Project.AsksNew tree tree' path := by
  obtain ⟨steps, hup, rfl⟩ := hdown
  intro folder name hleads hsome hnone
  obtain rfl := place_eq_of_follow hup ((follow_append hroot).symm.trans hleads)
  obtain ⟨entry, he⟩ := Option.isSome_iff_exists.1 hsome
  rcases h.entry?_cases he with hold | ⟨⟨_, ⟨more, rfl, hplace, hall⟩, hfits⟩, -⟩
  · exact nomatch hnone.symm.trans hold
  · rw [List.append_assoc, List.append_cancel_left_eq] at hplace
    subst hplace
    refine Or.inr ⟨?_, (hall name (List.mem_append_right _ List.mem_cons_self)).2⟩
    rw [← List.append_assoc] at hfits
    exact hfits

/-- **Source files without steps up can be listed after a build**, and those that can be read then
    could be read before. -/
theorem exists_sources_of_not_up {options : Options} {found : List Model × List RouteGroup}
    (htree : tree.WellFormed) (hlisted : tree.ListedOnce) (hnamed : tree'.Named)
    (h : Grows (OfBuild root config start) tree tree') (hroot : LeadsTo tree root start)
    (hschema : Path.up ∉ Path.stepsUnder
      (Project.modelsValue config.database config.schema.inPath))
    (hroutes : Path.up ∉ Path.stepsUnder config.routes.inPath)
    (hscan : (scan root config kind options).Finds tree found)
    (hsources : ∀ files, (sources root config kind options).Finds tree' files →
      ∀ file ∈ files, ¬ IsOutput root config file.normalize.steps) :
    ∃ files, (sources root config kind options).Finds tree' files ∧ ∀ file ∈ files,
      (tree'.sourceText? file).isSome → (tree.sourceText? file).isSome := by
  have hextends : Extends (IsOutput root config) tree tree' :=
    h.extends hlisted hnamed fun _ _ hkind => hkind.2.resolve_left nofun
  have hroot' := hroot.of_keepsFolders h.keepsFolders
  have hstays (path : Path) := Project.staysFolder_of_keepsFolders h.keepsFolders path
  have hasks {path : Path} (hdown : Project.GoesDown root path) :=
    asksNew_of_ofBuild h hroot' hdown
  obtain ⟨listed, hfiles⟩ := exists_sources_of_scan hscan
  obtain ⟨hmodels, hnames⟩ := exists_sources_iff.1 ⟨listed, hfiles, fun _ _ => trivial⟩
  have hdown : ∃ files, (sources root config kind options).Finds tree' files ∧ ∀ file ∈ files,
      Project.GoesDown root file ∨ (tree.sourceText? file).isSome := by
    refine exists_sources_iff.2 ⟨fun hask => ?_, fun hask => ?_⟩
    · obtain ⟨old, hold, -⟩ := hmodels hask
      have hvalue : Project.GoesDown root (root.under (Project.modelsValue config.database
          config.schema.inPath)) := Project.goesDown_under hschema
      obtain ⟨files, hfiles⟩ := Project.exists_finds_modelFiles htree hnamed (hstays _)
        (hasks hvalue) (fun name hup => hasks (hvalue.step hup)) ⟨old, hold⟩
      exact ⟨files, hfiles, fun file hfile =>
        Or.inl (Project.goesDown_of_modelFiles hnamed hschema hfiles file hfile)⟩
    · obtain ⟨old, hold, -⟩ := hnames hask
      obtain ⟨names, hnames⟩ := Project.exists_finds_routeNames htree.named hnamed (hstays _)
        (hasks (Project.goesDown_routesPath hroutes)) ⟨old, hold⟩
      refine ⟨names, hnames, List.forall_mem_append.2 ⟨fun file hfile =>
        Or.inr (isSome_main_of_scan hscan hask file hfile), List.forall_mem_map.2 fun name hname => ?_⟩⟩
      exact Or.inl (Project.goesDown_of_routeNames hnamed (h.listedOnce hlisted) hroutes hnames name
        hname)
  obtain ⟨files, hfiles, hall⟩ := hdown
  refine ⟨files, hfiles, fun file hfile hsome => ?_⟩
  rcases hall file hfile with hdown | hread
  · exact hextends.isSome_sourceText?_of_goesDown htree hroot hdown
      (hsources files hfiles file hfile) hsome
  · exact hread

end Build

end ApiScan

namespace ApiScan.Build

open ApiScan.Tree Docs

variable {tree tree' made : Tree} {root : Path} {config : Config} {kind : Option Project.Kind}
  {options : Options} {start place : Place} {result : Result}
  {comments ignored output files : List (Text × Bytes)}

/-! ## Files that stand already -/

/-- No file at the root stands where one in the docs folder does. -/
theorem append_ne_of_outputNames {steps : List Text} {name other : Text}
    (h : steps ≠ [] ∨ name ∉ outputNames) (hother : other ∈ outputNames) :
    start ++ steps ++ [name] ≠ start ++ [other] := by
  intro he
  rw [List.append_assoc, List.append_cancel_left_eq] at he
  rcases h with hsteps | hname
  · have hlength := congrArg List.length he
    simp only [List.length_append, List.length_singleton] at hlength
    exact hsteps (List.length_eq_zero_iff.1 (by omega))
  · cases steps with
    | nil => exact hname (List.singleton_inj.1 he ▸ hother)
    | cons first more => exact absurd (congrArg List.length he) (by simp)

/-- The files of a docs folder stand in the tree with them, whatever is put at the root then. -/
theorem holds_withDocs {schemas routes : List (Text × Bytes)} (hplace : start <+: place)
    (hnames : ∀ name ∈ files.map Prod.fst, name ∈ outputNames) :
    Holds ((withDocs place schemas routes made).putIn start files) place readmeFiles
      ∧ Holds ((withDocs place schemas routes made).putIn start files) (place ++ [schemasName]) schemas
      ∧ Holds ((withDocs place schemas routes made).putIn start files) (place ++ [routesName])
          routes := by
  obtain ⟨steps, rfl⟩ := hplace
  have hdeep (sub name : Text) : start ++ steps ++ [readmeName] ≠ start ++ steps ++ [sub] ++ [name] :=
    fun he => by
      have hlength := congrArg List.length he
      simp only [List.length_append, List.length_singleton] at hlength
      omega
  have hroot {sub name other : Text} (hother : other ∈ files.map Prod.fst) :
      start ++ steps ++ [sub] ++ [name] ≠ start ++ [other] := by
    rw [List.append_assoc start]
    exact append_ne_of_outputNames (Or.inl (by simp)) (hnames other hother)
  refine ⟨?_, ?_, ?_⟩
  · refine (((holds_putIn _ _ _).putIn ?_).putIn ?_).putIn ?_
    · exact List.forall_mem_singleton.2 fun name _ => hdeep _ name
    · exact List.forall_mem_singleton.2 fun name _ => hdeep _ name
    · exact List.forall_mem_singleton.2 fun other hother =>
        append_ne_of_outputNames (Or.inr (by decide)) (hnames other hother)
  · refine ((holds_putIn _ _ _).putIn ?_).putIn fun name _ other hother => hroot hother
    intro name _ other _ he
    exact absurd (singleton_append_inj (List.append_inj_left' he rfl)) (by decide)
  · exact (holds_putIn _ _ _).putIn fun name _ other hother => hroot hother

/-- A docs folder loads the same from two trees that hold the same in its two folders. -/
theorem finds_load_congr {docs : Path} {contents : Contents} (h : LeadsTo tree docs place)
    (h' : LeadsTo tree' docs place)
    (hself : ∀ sub ∈ [schemasName, routesName],
      tree'.entry? (place ++ [sub]) = tree.entry? (place ++ [sub]))
    (hchild : ∀ sub ∈ [schemasName, routesName], ∀ child,
      tree'.entry? (place ++ [sub, child]) = tree.entry? (place ++ [sub, child]))
    (hnames : ∀ sub ∈ [schemasName, routesName],
      tree'.names (place ++ [sub]) = tree.names (place ++ [sub]))
    (hload : (load docs).Finds tree contents) : (load docs).Finds tree' contents := by
  have hfolder {sub : Text} (hsub : sub ∈ [schemasName, routesName]) (hup : sub ≠ Path.up)
      {found : List Json.Fields} (hfound : (loadDocuments (docs.step sub)).Finds tree found) :
      (loadDocuments (docs.step sub)).Finds tree' found :=
    finds_loadDocuments_congr h h' hup (hself sub hsub) (hchild sub hsub) (hnames sub hsub) hfound
  obtain ⟨schemas, hschemas, hrest⟩ := Survey.finds_bind.1 hload
  obtain ⟨routes, hroutes, hpure⟩ := Survey.finds_bind.1 hrest
  exact Survey.finds_bind.2 ⟨schemas, hfolder (by decide) (by decide) hschemas,
    Survey.finds_bind.2 ⟨routes, hfolder (by decide) (by decide) hroutes, hpure⟩⟩

/-- The docs folder loads the same when files are put at the root. -/
theorem finds_load_of_rootFiles {docs : Path} {contents : Contents} (hstands : Stands tree docs place)
    (hplace : start <+: place) (htakes : TakesIn tree root start (files.map Prod.fst))
    (hnames : ∀ name ∈ files.map Prod.fst, name ∈ outputNames)
    (h : (load docs).Finds tree contents) : (load docs).Finds (tree.putIn start files) contents := by
  obtain ⟨steps, rfl⟩ := hplace
  have hsubs : ∀ sub ∈ [schemasName, routesName], sub ∉ outputNames := by decide
  refine finds_load_congr hstands.folder
    (hstands.folder.of_keepsFolders (grows_putIn htakes).keepsFolders) (fun sub hsub => ?_)
    (fun sub _ child => ?_) (fun sub _ => ?_) h
  · exact entry?_putIn_of_ne fun name hname =>
      append_ne_of_outputNames (Or.inr (hsubs sub hsub)) (hnames name hname)
  · refine entry?_putIn_of_ne fun name hname => ?_
    have hplace : start ++ steps ++ [sub, child] = start ++ (steps ++ [sub]) ++ [child] := by simp
    rw [hplace]
    exact append_ne_of_outputNames (Or.inl (by simp)) (hnames name hname)
  · exact names_congr ((growsIn_putIn htakes).children_eq (by simp))

/-- **What a build puts into its docs folder stands already in the tree that it leaves.** -/
theorem Ran.docs_again (hran : Ran root config kind options start place made result comments ignored output)
    (hplace : start <+: place)
    (htree : tree' = (docsTree config options result.models result.groups place comments
      made).putIn start (ignored ++ output)) :
    TakesDocs tree' (root.under config.docs.inPath) place
        ((schemaFiles options result.models).map Prod.fst)
        ((routeFiles options config result.groups ++ comments).map Prod.fst)
      ∧ docsTree config options result.models result.groups place comments tree' = tree' := by
  obtain ⟨hreadme, hschemas, hroutes⟩ : Holds tree' place readmeFiles
      ∧ Holds tree' (place ++ [schemasName]) (schemaFiles options result.models)
      ∧ Holds tree' (place ++ [routesName]) (routeFiles options config result.groups ++ comments) :=
    htree ▸ holds_withDocs hplace hran.mem_outputNames
  refine ⟨⟨hreadme.takesIn fun name hname => (hran.takesDocs.readme name hname).1,
    hschemas.takesIn fun name hname => (hran.takesDocs.schemas name hname).1,
    hroutes.takesIn fun name hname => (hran.takesDocs.routes name hname).1⟩, ?_⟩
  unfold docsTree withDocs
  rw [hreadme.putIn_eq, hschemas.putIn_eq, hroutes.putIn_eq]

/-- **A build writes what stands already** in the tree that it leaves, if it finds the same comments
    there. -/
theorem Ran.again (hran : Ran root config kind options start place made result comments ignored output)
    (hroot : LeadsTo made root start) (hplace : start <+: place)
    (hreturn : '\r' ∉ config.docs.inPath)
    (htree : tree' = (docsTree config options result.models result.groups place comments
      made).putIn start (ignored ++ output))
    (hcomments : FindsComments root config kind options
      (docsTree config options result.models result.groups place [] tree') comments) :
    Ran root config kind options start place tree' result comments [] output
      ∧ tree' = (docsTree config options result.models result.groups place comments tree').putIn
          start ([] ++ output) := by
  obtain ⟨htakesDocs, hsame⟩ := hran.docs_again hplace htree
  have htakesIgnored := hran.takesDocs.takesIn_iff.2 hran.takesIgnored
  have htakesOutput : TakesIn (putIn start ignored
      (docsTree config options result.models result.groups place comments made)) root start
      (output.map Prod.fst) := takesIn_putIn (hran.takesDocs.takesIn_iff.2 hran.takesOutput)
  rw [putIn_append] at htree
  have houtput : Holds tree' start output := htree ▸ holds_putIn _ _ _
  have hkeeps := hran.takesDocs.keepsFolders.trans (grows_putIn htakesIgnored).keepsFolders
  have hkeeps' : KeepsFolders made tree' :=
    htree ▸ hkeeps.trans (grows_putIn htakesOutput).keepsFolders
  have hnames : ∀ name ∈ output.map Prod.fst, name ∈ outputNames := fun name hname =>
    hran.mem_outputNames name (by rw [List.map_append]; exact List.mem_append_right _ hname)
  refine ⟨⟨hran.stands.of_keepsFolders hkeeps', htakesDocs, hcomments, ?_,
    fun _ h => absurd h List.not_mem_nil, ?_,
    houtput.takesIn fun name hname => (hran.takesOutput name hname).1, hran.written⟩, ?_⟩
  · -- the ignore file is up to date, and the document does not touch it
    rw [hsame]
    have hignore := hran.findsIgnore
    unfold FindsIgnore at hignore ⊢
    split
    · next hask =>
        rw [if_pos hask] at hignore
        refine Or.inl ⟨?_, rfl⟩
        have hroot' := hroot.of_keepsFolders hran.takesDocs.keepsFolders
        refine (hignore.ignores hroot' hreturn htakesIgnored).congr (leadsTo_putIn hroot' htakesIgnored)
          (hroot.of_keepsFolders hkeeps') ?_
        rw [htree]
        refine entry?_putIn_of_ne fun name hname he => ?_
        rcases mem_of_findsOutput hran.findsOutput hname with rfl | rfl
        · exact absurd (singleton_append_inj he) (by decide)
        · exact absurd (singleton_append_inj he) (by decide)
    · rfl
  · rw [hsame, putIn_nil]
    have hfiles := hran.findsOutput
    unfold FindsOutput at hfiles ⊢
    split
    · next hask =>
        rw [if_pos hask] at hfiles
        obtain ⟨contents, hload, hfiles⟩ := hfiles
        exact ⟨contents, htree ▸ finds_load_of_rootFiles (hran.stands.of_keepsFolders hkeeps) hplace
          htakesOutput hnames hload, hfiles⟩
    · next hask =>
        rw [if_neg hask] at hfiles
        exact hfiles
  · rw [hsame, List.nil_append, houtput.putIn_eq]

end ApiScan.Build
