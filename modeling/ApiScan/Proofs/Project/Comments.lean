import ApiScan.Proofs.Project.Routes
import ApiScan.Proofs.Text.Order
import ApiScan.Proofs.Tree.WellFormed

set_option autoImplicit false

/-! # Comments in a project with new docs

The files whose comments are read are those of the routes. A new docs folder adds none to them,
unless it stands below the folder of file routes. -/

namespace ApiScan.Project

open ApiScan.Tree

variable {tree tree' : Tree} {new folder : Place} {root path : Path} {config : Config}
  {entries : DocComment.Entries}

/-! ## Listings -/

/-- The files right inside a folder are the same after a new folder has come in. -/
theorem finds_filesIn_of_growsBelow (h : GrowsBelow new tree tree')
    (hfolder : tree.folder? path = .ok (some folder)) {files files' : List Path}
    (hfiles : (Survey.filesIn path fun _ => true).Finds tree files)
    (hfiles' : (Survey.filesIn path fun _ => true).Finds tree' files') : files' = files := by
  obtain ⟨hfits, hleads⟩ := folder?_eq_some.1 hfolder
  have hleads' := hleads.of_keepsFolders h.grows.keepsFolders
  obtain ⟨names, hnames, hfilter⟩ := Survey.finds_bind.1 hfiles
  obtain ⟨names', hnames', hfilter'⟩ := Survey.finds_bind.1 hfiles'
  obtain rfl := Except.ok.inj
    ((Survey.finds_ask.1 hnames).symm.trans (namesAt_of_leadsTo hfits hleads))
  obtain rfl := Except.ok.inj
    ((Survey.finds_ask.1 hnames').symm.trans (namesAt_of_leadsTo hfits hleads'))
  obtain ⟨added, hadded, hall⟩ := h.children_eq hleads.entry?
  rw [(Survey.finds_filterM.1 hfilter).2, (Survey.finds_filterM.1 hfilter').2]
  simp only [List.filter_true, List.filter_map]
  refine congrArg (List.map path.step) ?_
  -- the names that were there already, and the answers to whether they are files
  have hold (name : Text) (hn : (tree.entry? (folder ++ [name])).isSome) :
      (Survey.isFile (path.step name)).answer tree' = (Survey.isFile (path.step name)).answer tree := by
    have hup : name ≠ Path.up := (h.wellFormed.isName_of_mem_children (mem_children.2 hn)).2.2.2
    have hlocate : tree'.locate (path.step name) = tree.locate (path.step name) :=
      h.locate_eq hleads (by simpa using Ne.symm hup) hn
    unfold Survey.answer Survey.isFile Survey.ask Tree.isFile status
    rw [hlocate]
  have hnew (name : Text) (hn : name ∈ added) :
      (Survey.isFile (path.step name)).answer tree' = false := by
    obtain ⟨hname, -, hentry⟩ := hall name hn
    unfold Survey.answer Survey.isFile Survey.ask Tree.isFile status
    cases hlocate : tree'.locate (path.step name) with
    | error fault => cases fault <;> rfl
    | ok target =>
        have hstep := locate_step hleads' (fitsIn_of_locate hleads' hname.2.2.2 hlocate)
        obtain rfl := Except.ok.inj (hlocate.symm.trans hstep)
        rw [targetAt_of_some hentry]
        rfl
  have hmem (name : Text) : name ∈ tree'.children folder ↔ name ∈ tree.children folder ∨ name ∈ added := by
    rw [hadded, List.mem_append]
  calc (Text.sort (tree'.children folder)).filter
        (fun name => (Survey.isFile (path.step name)).answer tree')
    _ = (Text.sort (tree'.children folder)).filter (fun name =>
          (Survey.isFile (path.step name)).answer tree
            && (tree.entry? (folder ++ [name])).isSome) :=
        List.filter_congr fun name hn => by
          rcases (hmem name).1 (Text.mem_sort.1 hn) with hn | hn
          · rw [mem_children] at hn
            rw [hold name hn, hn, Bool.and_true]
          · rw [hnew name hn, (hall name hn).2.1]
            exact (Bool.and_false _).symm
    _ = ((Text.sort (tree'.children folder)).filter fun name =>
          (tree.entry? (folder ++ [name])).isSome).filter fun name =>
            (Survey.isFile (path.step name)).answer tree := List.filter_filter.symm
    _ = (Text.sort (tree.children folder)).filter fun name =>
          (Survey.isFile (path.step name)).answer tree := by
        have hfirst : (tree.children folder).filter
            (fun name => (tree.entry? (folder ++ [name])).isSome) = tree.children folder :=
          List.filter_eq_self.2 fun name hn => mem_children.1 hn
        have hlast : added.filter (fun name => (tree.entry? (folder ++ [name])).isSome) = [] :=
          List.filter_eq_nil_iff.2 fun name hn => by
            rw [(hall name hn).2.1]
            exact Bool.false_ne_true
        rw [Text.filter_sort, hadded, List.filter_append, hfirst, hlast, List.append_nil]

/-! ## Router files -/

theorem scanDocFile_congr (h : tree'.read path = tree.read path) :
    scanDocFile path tree' = scanDocFile path tree := by
  unfold scanDocFile Survey.sourceText?
  rw [h]

theorem finds_filesOf {purpose : String} {wanted : Text → Bool} {files : List Path}
    (h : (filesOf purpose path wanted).Finds tree files) :
    ∃ folder, tree.folder? path = .ok (some folder)
      ∧ (Survey.filesIn path wanted).Finds tree files := by
  obtain ⟨_, hexpect, hfiles⟩ := Survey.finds_bind.1 h
  obtain ⟨found, hfound, hrest⟩ := Survey.finds_bind.1 hexpect
  cases found with
  | false => exact absurd hrest Survey.not_finds_fail
  | true =>
      obtain ⟨place?, hplace, hsome⟩ := Survey.finds_isFolder.1 hfound
      obtain ⟨folder, rfl⟩ := Option.isSome_iff_exists.1 hsome
      exact ⟨folder, hplace, hfiles⟩

/-- The comments of router files are the same after a new folder has come in. -/
theorem finds_scanDocs_express (h : GrowsBelow new tree tree') {files : List Text}
    (hfiles : (routerFiles root config.routes.inPath).Finds tree files)
    (hscan : (scanDocs root config (some .express)).Finds tree' entries) :
    (scanDocs root config (some .express)).Finds tree entries := by
  obtain ⟨paths', hdocumented, hmerged⟩ := Survey.finds_bind.1 hscan
  obtain ⟨files', hfiles', hpaths'⟩ := Survey.finds_bind.1 hdocumented
  obtain rfl := Survey.finds_pure.1 hpaths'
  obtain ⟨found, hfound, hpure⟩ := Survey.finds_bind.1 hmerged
  obtain ⟨listed, hlisted, hnames⟩ := Survey.finds_bind.1 hfiles
  obtain ⟨listed', hlisted', hnames'⟩ := Survey.finds_bind.1 hfiles'
  obtain rfl := Survey.finds_pure.1 hnames
  obtain rfl := Survey.finds_pure.1 hnames'
  obtain ⟨folder, hfolder, hin⟩ := finds_filesOf hlisted
  obtain ⟨-, -, hin'⟩ := finds_filesOf hlisted'
  obtain rfl := finds_filesIn_of_growsBelow h hfolder hin hin'
  refine Survey.finds_bind.2 ⟨_, Survey.finds_bind.2 ⟨_, hfiles, rfl⟩, ?_⟩
  refine Survey.finds_bind.2 ⟨found, Survey.finds_mapM_of_forall (fun path hpath found hf => ?_) hfound,
    hpure⟩
  obtain ⟨name, hname, rfl⟩ := List.mem_map.1 hpath
  obtain ⟨file, hfile, rfl⟩ := List.mem_map.1 hname
  obtain ⟨names, hnames, name, hname, rfl⟩ := Survey.mem_of_finds_filesIn hin hfile
  obtain ⟨hfits, hleads⟩ := folder?_eq_some.1 hfolder
  obtain rfl := Except.ok.inj
    ((Survey.finds_ask.1 hnames).symm.trans (namesAt_of_leadsTo hfits hleads))
  rw [Text.mem_sort] at hname
  have hup : Path.up ∉ [name] := by
    simpa using Ne.symm (h.wellFormed.isName_of_mem_children hname).2.2.2
  have hlocate : tree'.locate ((root.under config.routes.inPath).step name)
      = tree.locate ((root.under config.routes.inPath).step name) :=
    h.locate_eq hleads hup (mem_children.1 hname)
  rw [Path.name_step] at hf ⊢
  unfold Survey.Finds
  rw [← scanDocFile_congr (by unfold Tree.read; rw [hlocate])]
  exact hf

/-! ## File routes -/

/-- Files that document nothing may be left out. -/
theorem finds_mapM_filter {α : Type} {f : α → Survey DocComment.Entries} {p : α → Bool}
    {items : List α} {found : List DocComment.Entries} (hfound : (items.mapM f).Finds tree' found)
    (hkeep : ∀ a ∈ items, p a = true → ∀ b, (f a).Finds tree' b → (f a).Finds tree b)
    (hskip : ∀ a ∈ items, p a = false → ∀ b, (f a).Finds tree' b → b = []) :
    ∃ kept, ((items.filter p).mapM f).Finds tree kept
      ∧ ∀ entries, kept.foldl Assoc.update entries = found.foldl Assoc.update entries := by
  simp only [Survey.finds_mapM] at hfound ⊢
  induction hfound with
  | nil => exact ⟨[], List.Forall₂.nil, fun _ => rfl⟩
  | @cons a b items found hfirst _ ih =>
      rw [List.forall_mem_cons] at hkeep hskip
      obtain ⟨kept, hkept, hsame⟩ := ih hkeep.2 hskip.2
      cases hp : p a with
      | true =>
          rw [List.filter_cons_of_pos hp]
          exact ⟨b :: kept, List.Forall₂.cons (hkeep.1 hp b hfirst) hkept, fun _ => hsame _⟩
      | false =>
          rw [List.filter_cons_of_neg (by simp [hp])]
          obtain rfl := hskip.1 hp b hfirst
          exact ⟨kept, hkept, hsame⟩

theorem isSome_of_mem_filesBelow (h : tree.WellFormed) {steps : List Text}
    (hsteps : steps ∈ tree.filesBelow folder) :
    (tree.entry? (folder ++ steps)).isSome ∧ ∀ name ∈ steps, IsName name := by
  rw [filesBelow_eq, List.mem_filterMap] at hsteps
  obtain ⟨⟨place, entry⟩, hm, hsteps⟩ := hsteps
  obtain ⟨-, rfl⟩ := stepsBelow?_eq_some.1 hsteps
  have hkey : folder ++ steps ∈ Assoc.keys tree.entries := List.mem_map.2 ⟨_, hm, rfl⟩
  refine ⟨?_, fun name hn => h.isName _ hkey name (List.mem_append_right _ hn)⟩
  by_cases hne : folder ++ steps = []
  · rw [hne]
    rfl
  · rw [entry?_of_ne_nil _ hne]
    exact Assoc.has_iff_mem_keys.2 hkey

theorem join_joinWith_of_isName {steps : List Text} (h : ∀ name ∈ steps, IsName name) :
    path.join (Text.joinWith ['/'] steps) = { path with steps := path.steps ++ steps } :=
  Path.join_joinWith path fun name hn => ⟨(h name hn).1, (h name hn).2.1, (h name hn).2.2.1⟩

/-- The listing of files by the steps that lead to them. -/
def listing (files : List (List Text)) : List Text :=
  Text.sort ((files.filter fun steps => Path.suffixOf (steps.getLast?.getD []) ≠ []).map
    (Text.joinWith ['/']))

theorem mem_listing {files : List (List Text)} {text : Text} (h : text ∈ listing files) :
    ∃ steps ∈ files, Text.joinWith ['/'] steps = text := by
  obtain ⟨steps, hsteps, htext⟩ := List.mem_map.1 (Text.mem_sort.1 h)
  exact ⟨steps, (List.mem_filter.1 hsteps).1, htext⟩

/-- Leaving out the texts of the files at the end leaves the listing of the others. -/
theorem filter_listing_append {files added : List (List Text)} {p : Text → Bool}
    (hfiles : ∀ steps ∈ files, p (Text.joinWith ['/'] steps) = true)
    (hadded : ∀ steps ∈ added, p (Text.joinWith ['/'] steps) = false) :
    (listing (files ++ added)).filter p = listing files := by
  let served (files : List (List Text)) : List Text :=
    (files.filter fun steps => Path.suffixOf (steps.getLast?.getD []) ≠ []).map (Text.joinWith ['/'])
  have hkeep : (served files).filter p = served files := List.filter_eq_self.2 fun text ht => by
    obtain ⟨steps, hsteps, rfl⟩ := List.mem_map.1 ht
    exact hfiles steps (List.mem_filter.1 hsteps).1
  have hskip : (served added).filter p = [] := List.filter_eq_nil_iff.2 fun text ht => by
    obtain ⟨steps, hsteps, rfl⟩ := List.mem_map.1 ht
    rw [hadded steps (List.mem_filter.1 hsteps).1]
    exact Bool.false_ne_true
  have happend : served (files ++ added) = served files ++ served added := by
    simp only [served, List.filter_append, List.map_append]
  show (Text.sort (served (files ++ added))).filter p = Text.sort (served files)
  rw [Text.filter_sort, happend, List.filter_append, hkeep, hskip, List.append_nil]

theorem finds_routeFilesBelow {files : List Text} :
    (routeFilesBelow path).Finds tree files ↔
      ∃ folder, tree.folder? path = .ok (some folder) ∧ listing (tree.filesBelow folder) = files := by
  unfold routeFilesBelow
  rw [Survey.finds_bind]
  constructor
  · rintro ⟨place?, hplace, hlisted⟩
    cases place? with
    | none => exact absurd hlisted Survey.not_finds_fail
    | some folder =>
        obtain ⟨_, htree, hlisted⟩ := Survey.finds_bind.1 hlisted
        obtain rfl := Except.ok.inj htree
        exact ⟨folder, Survey.finds_ask.1 hplace, Survey.finds_pure.1 hlisted⟩
  · rintro ⟨folder, hfolder, rfl⟩
    exact ⟨some folder, Survey.finds_ask.2 hfolder, Survey.finds_bind.2 ⟨tree, rfl, rfl⟩⟩

/-- The comments of file routes are the same after a new folder has come in, if no comment in the
    new folder documents anything. -/
theorem finds_scanDocs_nextjs (h : GrowsBelow new tree tree')
    (hleads : LeadsTo tree (routeRoot root config) folder)
    (hnew : ∀ steps found, (∀ name ∈ steps, IsName name) →
      (∃ name more, folder ++ steps = new ++ name :: more) →
      (scanDocFile { routeRoot root config with
        steps := (routeRoot root config).steps ++ steps }).Finds tree' found → found = [])
    (hscan : (scanDocs root config (some .nextjs)).Finds tree' entries) :
    (scanDocs root config (some .nextjs)).Finds tree entries := by
  obtain ⟨paths', hdocumented, hmerged⟩ := Survey.finds_bind.1 hscan
  obtain ⟨files', hfiles', hpaths'⟩ := Survey.finds_bind.1 hdocumented
  obtain rfl := Survey.finds_pure.1 hpaths'
  obtain ⟨found, hfound, hpure⟩ := Survey.finds_bind.1 hmerged
  obtain ⟨folder', hfolder', rfl⟩ := finds_routeFilesBelow.1 hfiles'
  obtain ⟨hfits, hleads'⟩ := folder?_eq_some.1 hfolder'
  obtain rfl := (hleads.of_keepsFolders h.grows.keepsFolders).unique hleads'
  obtain ⟨added, hadded, hall⟩ := h.filesBelow_eq folder
  have hjoin {steps : List Text} (hsteps : ∀ name ∈ steps, IsName name) :
      (routeRoot root config).join (Text.joinWith ['/'] steps)
        = { routeRoot root config with steps := (routeRoot root config).steps ++ steps } :=
    join_joinWith_of_isName hsteps
  -- the texts of the files that were there
  let old (text : Text) : Bool := text ∈ (tree.filesBelow folder).map (Text.joinWith ['/'])
  have hold {steps : List Text} (hsteps : steps ∈ tree.filesBelow folder) :
      old (Text.joinWith ['/'] steps) = true :=
    decide_eq_true (List.mem_map_of_mem hsteps)
  have hadd {steps : List Text} (hsteps : steps ∈ added) :
      old (Text.joinWith ['/'] steps) = false := by
    refine decide_eq_false fun hm => ?_
    obtain ⟨steps', hsteps', he⟩ := List.mem_map.1 hm
    obtain ⟨hsome, hnames⟩ := isSome_of_mem_filesBelow h.wellFormed hsteps'
    obtain ⟨hnames', hnone, -⟩ := hall steps hsteps
    have hpath := (hjoin hnames).symm.trans ((congrArg _ he).trans (hjoin hnames'))
    obtain rfl : steps' = steps := List.append_cancel_left (Path.mk.inj hpath).2
    rw [hnone] at hsome
    exact nomatch hsome
  rw [hadded] at hfound
  rw [Survey.finds_mapM, List.forall₂_map_left_iff, ← Survey.finds_mapM] at hfound
  have hkeep : ∀ text ∈ listing (tree.filesBelow folder ++ added), old text = true → ∀ b,
      (scanDocFile ((routeRoot root config).join text)).Finds tree' b →
        (scanDocFile ((routeRoot root config).join text)).Finds tree b := by
    intro text _ hp b hb
    obtain ⟨steps, hsteps, rfl⟩ := List.mem_map.1 (of_decide_eq_true hp)
    obtain ⟨hsome, hnames⟩ := isSome_of_mem_filesBelow h.wellFormed hsteps
    have hup : Path.up ∉ steps := fun hm => (hnames _ hm).2.2.2 rfl
    have hlocate := h.locate_eq hleads hup hsome
    rw [hjoin hnames] at hb ⊢
    unfold Survey.Finds
    rw [← scanDocFile_congr (by unfold Tree.read; rw [hlocate])]
    exact hb
  have hskip : ∀ text ∈ listing (tree.filesBelow folder ++ added), old text = false → ∀ b,
      (scanDocFile ((routeRoot root config).join text)).Finds tree' b → b = [] := by
    intro text ht hp b hb
    obtain ⟨steps, hsteps, rfl⟩ := mem_listing ht
    rcases List.mem_append.1 hsteps with hsteps | hsteps
    · exact nomatch (hold hsteps).symm.trans hp
    · obtain ⟨hnames, -, hplace⟩ := hall steps hsteps
      rw [hjoin hnames] at hb
      exact hnew steps b hnames hplace hb
  obtain ⟨kept, hkept, hsame⟩ := finds_mapM_filter hfound hkeep hskip
  rw [filter_listing_append (fun _ => hold) (fun _ => hadd)] at hkept
  have hfiles : (routeFilesBelow (routeRoot root config)).Finds tree
      (listing (tree.filesBelow folder)) :=
    finds_routeFilesBelow.2 ⟨folder, folder?_eq_some.2 ⟨hfits, hleads⟩, rfl⟩
  refine Survey.finds_bind.2 ⟨_, Survey.finds_bind.2 ⟨_, hfiles, rfl⟩, ?_⟩
  refine Survey.finds_bind.2 ⟨kept, ?_, Survey.finds_pure.2 ?_⟩
  · rw [Survey.finds_mapM, List.forall₂_map_left_iff, ← Survey.finds_mapM]
    exact hkept
  · exact (hsame []).trans (Survey.finds_pure.1 hpure)

end ApiScan.Project
