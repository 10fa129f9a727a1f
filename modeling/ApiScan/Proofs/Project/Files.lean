import ApiScan.Proofs.Project.Comments
import ApiScan.Proofs.Tree.Extends

set_option autoImplicit false

/-! # The files in folders

What a survey of a folder finds, by what stands in the folder. A listing ends in a failure exactly
if the path of one of the names in question is too long. -/

namespace ApiScan.Project

open ApiScan.Tree

variable {tree tree' : Tree} {path : Path} {folder : Place} {name : Text} {wanted : Text → Bool}
  {files files' : List Path} {apart : Place → Prop}

/-! ## Single names -/

/-- A name in a folder can be asked about through a path to the folder: the name can stand at the
    path, or it holds a NUL, so that no file has it. -/
def CanAsk (path : Path) (name : Text) : Prop := '\x00' ∈ name ∨ FitsIn path name

/-- Whether a file is found under a name, through a path to its folder. -/
def holdsFile (tree : Tree) (path : Path) (folder : Place) (name : Text) : Bool :=
  decide (FitsIn path name) &&
    match tree.entry? (folder ++ [name]) with
    | some (.file _) => true
    | _ => false

theorem holdsFile_iff : holdsFile tree path folder name = true ↔
    FitsIn path name ∧ ∃ content, tree.entry? (folder ++ [name]) = some (.file content) := by
  rw [holdsFile, Bool.and_eq_true, decide_eq_true_eq]
  refine and_congr_right fun _ => ?_
  rcases tree.entry? (folder ++ [name]) with _ | _ | content
  · simp
  · simp
  · simp

/-- Why a step from a folder that does not fit is refused. -/
theorem locate_step_of_not_fitsIn (hfits : Fits path) (h : LeadsTo tree path folder)
    (hup : name ≠ Path.up) (hname : ¬ FitsIn path name) :
    tree.locate (path.step name)
      = .error (if '\x00' ∈ name then .nulInPath else .nameTooLong) := by
  have hsteps : ((path.step name).steps.any fun step => step.contains '\x00')
      = decide ('\x00' ∈ name) := by
    rw [Path.step, List.any_append, hfits.1, Bool.false_or, List.any_cons, List.any_nil,
      Bool.or_false, List.contains_eq_mem]
  rw [locate, hsteps]
  by_cases hnul : '\x00' ∈ name
  · rw [if_pos (decide_eq_true hnul), if_pos hnul]
  · rw [if_neg (by simpa using hnul), if_neg hnul]
    split
    · rfl
    · next hlength =>
        have hlong : ¬ (Text.toBytes name).length ≤ maxNameLength := fun hle =>
          hname ⟨⟨by rw [hsteps]; simpa using hnul, Nat.not_lt.1 hlength⟩, hup, hle⟩
        rw [follow_pathStep h, follow, h.entry?]
        simp only [if_neg hup, if_pos (Nat.lt_of_not_le hlong)]

/-- What stands where a step from a folder leads. -/
theorem status_step (hfits : Fits path) (h : LeadsTo tree path folder) (hup : name ≠ Path.up) :
    tree.status (path.step name) =
      if FitsIn path name then
        .ok ((tree.entry? (folder ++ [name])).map fun entry => (folder ++ [name], entry))
      else if '\x00' ∈ name then .ok none else .error .nameTooLong := by
  unfold status
  by_cases hname : FitsIn path name
  · rw [if_pos hname, locate_step h hname, targetAt]
    cases tree.entry? (folder ++ [name]) <;> rfl
  · rw [if_neg hname, locate_step_of_not_fitsIn hfits h hup hname]
    by_cases hnul : '\x00' ∈ name
    · rw [if_pos hnul, if_pos hnul]
    · rw [if_neg hnul, if_neg hnul]

theorem finds_isFile_step (hfits : Fits path) (h : LeadsTo tree path folder) (hup : name ≠ Path.up)
    {b : Bool} : (Survey.isFile (path.step name)).Finds tree b ↔
      CanAsk path name ∧ holdsFile tree path folder name = b := by
  rw [Survey.isFile, Survey.finds_ask, Tree.isFile, status_step hfits h hup, CanAsk, holdsFile]
  by_cases hname : FitsIn path name
  · rw [if_pos hname, and_iff_right (Or.inr hname), decide_eq_true hname, Bool.true_and]
    rcases tree.entry? (folder ++ [name]) with _ | _ | content <;> simp [Except.map]
  · rw [if_neg hname, decide_eq_false hname, Bool.false_and]
    by_cases hnul : '\x00' ∈ name <;> simp [hnul, hname, Except.map]

theorem answer_isFile_step (hfits : Fits path) (h : LeadsTo tree path folder)
    (hup : name ≠ Path.up) :
    (Survey.isFile (path.step name)).answer tree = holdsFile tree path folder name := by
  by_cases hask : CanAsk path name
  · exact ((finds_isFile_step hfits h hup).2 ⟨hask, rfl⟩).answer_eq
  · have hnot : holdsFile tree path folder name = false := by
      rw [holdsFile, decide_eq_false fun hname => hask (Or.inr hname), Bool.false_and]
    rw [hnot, Survey.answer]
    cases hresult : (Survey.isFile (path.step name) tree).2 with
    | error failure => rfl
    | ok b => exact absurd ((finds_isFile_step hfits h hup).1 hresult).1 hask

theorem finds_isFolder_step (hfits : Fits path) (h : LeadsTo tree path folder)
    (hup : name ≠ Path.up) {b : Bool} : (Survey.isFolder (path.step name)).Finds tree b ↔
      CanAsk path name
        ∧ decide (FitsIn path name ∧ tree.entry? (folder ++ [name]) = some .folder) = b := by
  rw [Survey.finds_isFolder, Tree.folder?, status_step hfits h hup, CanAsk]
  by_cases hname : FitsIn path name
  · rw [if_pos hname, and_iff_right (Or.inr hname)]
    rcases tree.entry? (folder ++ [name]) with _ | _ | content <;> simp [Except.map, hname]
  · rw [if_neg hname]
    by_cases hnul : '\x00' ∈ name <;> simp [hnul, hname, Except.map]

/-! ## Listings -/

/-- The files of some names in a folder, through a path to it. -/
def filesHere (tree : Tree) (path : Path) (folder : Place) (wanted : Text → Bool) : List Path :=
  ((tree.names folder).filter fun name => wanted name && holdsFile tree path folder name).map
    path.step

theorem mem_filesHere {file : Path} : file ∈ filesHere tree path folder wanted ↔
    ∃ name, wanted name = true ∧ FitsIn path name
      ∧ (∃ content, tree.entry? (folder ++ [name]) = some (.file content))
      ∧ file = path.step name := by
  simp only [filesHere, List.mem_map, List.mem_filter, Bool.and_eq_true, holdsFile_iff, names_eq,
    Text.mem_sort, mem_children]
  constructor
  · rintro ⟨name, ⟨-, hwanted, hfits, hfile⟩, rfl⟩
    exact ⟨name, hwanted, hfits, hfile, rfl⟩
  · rintro ⟨name, hwanted, hfits, ⟨content, he⟩, rfl⟩
    exact ⟨name, ⟨by rw [he]; rfl, hwanted, hfits, content, he⟩, rfl⟩

/-- **A folder is listed with the files in it**, if it can be asked about each of the names. -/
theorem finds_filesIn_iff (hfits : Fits path) (h : LeadsTo tree path folder)
    (hup : Path.up ∉ tree.children folder) :
    (Survey.filesIn path wanted).Finds tree files ↔
      (∀ name ∈ tree.children folder, wanted name = true → CanAsk path name)
        ∧ files = filesHere tree path folder wanted := by
  have hnames {names : List Text} : (Survey.names path).Finds tree names ↔
      names = Text.sort (tree.children folder) := by
    rw [Survey.names, Survey.finds_ask, namesAt_of_leadsTo hfits h, Except.ok.injEq, eq_comm]
  have hne {name : Text} (hname : name ∈ Text.sort (tree.children folder)) : name ≠ Path.up :=
    fun he => hup (he ▸ Text.mem_sort.1 hname)
  have hasks {name : Text} (hname : name ∈ tree.children folder) :
      (∃ b, (Survey.isFile (path.step name)).Finds tree b) ↔ CanAsk path name := by
    simp only [finds_isFile_step hfits h (hne (Text.mem_sort.2 hname)), exists_and_left,
      exists_eq', and_true]
  have hfilter : (((Text.sort (tree.children folder)).filter wanted).map path.step).filter
        (fun file => (Survey.isFile file).answer tree) = filesHere tree path folder wanted := by
    rw [filesHere, names_eq, List.filter_map, List.filter_filter]
    refine congrArg _ (List.filter_congr fun name hname => ?_)
    rw [Function.comp_apply, answer_isFile_step hfits h (hne hname), Bool.and_comm]
  unfold Survey.filesIn
  rw [Survey.finds_bind]
  simp only [hnames, exists_eq_left, Survey.finds_filterM, hfilter, List.forall_mem_map,
    List.mem_filter, Text.mem_sort, and_imp]
  exact and_congr_left' (forall₃_congr fun name hname _ => hasks hname)

/-- The files in a folder are the same in a tree that extends another one, if none of them stands
    apart. -/
theorem filesHere_eq (h : Extends apart tree tree') (hleads : LeadsTo tree path folder)
    (hapart : ∀ file ∈ filesHere tree' path folder wanted, ¬ apart file.normalize.steps) :
    filesHere tree' path folder wanted = filesHere tree path folder wanted := by
  refine congrArg (List.map path.step) ?_
  rw [names_eq, names_eq, Text.filter_sort, Text.filter_sort]
  refine Text.sort_eq_of_mem_iff ((h.listedOnce'.nodup_children folder).filter _)
    ((h.listedOnce.nodup_children folder).filter _) fun name => ?_
  simp only [List.mem_filter, mem_children, Bool.and_eq_true, holdsFile_iff]
  constructor
  · rintro ⟨hsome, hwanted, hfits, content, he⟩
    have hplace := hapart _ (mem_filesHere.2 ⟨name, hwanted, hfits, ⟨content, he⟩, rfl⟩)
    rw [normalize_step hleads hfits.2.1] at hplace
    rw [h.entry?_file_iff hplace] at he
    exact ⟨by rw [he]; rfl, hwanted, hfits, content, he⟩
  · rintro ⟨hsome, hwanted, hfits, content, he⟩
    obtain ⟨content', he', -⟩ := h.keepsFiles _ _ he
    exact ⟨h.isSome_entry? hsome, hwanted, hfits, content', he'⟩

/-! ## Folders of schema files -/

/-- The schema files that an entry of a folder stands for. -/
def schemaFilesHere (tree : Tree) (path : Path) (folder : Place) (name : Text) : List Path :=
  if FitsIn path name then
    match tree.entry? (folder ++ [name]) with
    | some (.file _) => if isSchemaFile name then [path.step name] else []
    | some .folder => filesHere tree (path.step name) (folder ++ [name]) isSchemaFile
    | none => []
  else []

/-- An entry of a folder can be asked for its schema files. -/
def CanAskSchema (tree : Tree) (path : Path) (folder : Place) (name : Text) : Prop :=
  CanAsk path name ∧ (FitsIn path name → tree.entry? (folder ++ [name]) = some .folder →
    ∀ sub ∈ tree.children (folder ++ [name]), isSchemaFile sub = true →
      CanAsk (path.step name) sub)

theorem leadsTo_step (h : LeadsTo tree path folder) (hname : IsStep name)
    (he : tree.entry? (folder ++ [name]) = some .folder) :
    LeadsTo tree (path.step name) (folder ++ [name]) :=
  (follow_pathStep h name).trans ((follow_last h.entry? hname).trans
    (congrArg Except.ok (targetAt_of_some he)))

theorem finds_schemaFilesAt_iff (hnamed : tree.Named) (hfits : Fits path)
    (h : LeadsTo tree path folder) (hup : name ≠ Path.up) :
    (schemaFilesAt (path.step name)).Finds tree files ↔
      CanAskSchema tree path folder name ∧ files = schemaFilesHere tree path folder name := by
  have hnone (hfile : holdsFile tree path folder name = false ∨ isSchemaFile name = false)
      (hfolder : ¬ (FitsIn path name ∧ tree.entry? (folder ++ [name]) = some .folder)) :
      (schemaFilesAt (path.step name)).Finds tree files ↔ CanAsk path name ∧ files = [] := by
    have hnot : (isSchemaFile name && holdsFile tree path folder name) = false := by
      rcases hfile with hfile | hfile <;> simp [hfile]
    unfold schemaFilesAt
    rw [Survey.finds_bind]
    simp only [finds_isFile_step hfits h hup, Path.name_step, and_assoc, exists_and_left,
      exists_eq_left', hnot, Bool.false_eq_true, if_false, Survey.finds_bind,
      finds_isFolder_step hfits h hup, decide_eq_false hfolder, Survey.finds_pure]
    exact ⟨fun ⟨hask, _, he⟩ => ⟨hask, he.symm⟩, fun ⟨hask, he⟩ => ⟨hask, hask, he.symm⟩⟩
  unfold CanAskSchema schemaFilesHere
  by_cases hname : FitsIn path name
  · rw [if_pos hname]
    rcases he : tree.entry? (folder ++ [name]) with _ | _ | content
    · rw [hnone (Or.inl (by simp [holdsFile, he])) (by simp [he])]
      simp
    · have hleads := leadsTo_step h hname.2 he
      have hnot : (isSchemaFile name && holdsFile tree path folder name) = false := by
        simp [holdsFile, he]
      unfold schemaFilesAt
      rw [Survey.finds_bind]
      simp only [finds_isFile_step hfits h hup, Path.name_step, and_assoc, exists_and_left,
        exists_eq_left', hnot, Bool.false_eq_true, if_false, Survey.finds_bind,
        finds_isFolder_step hfits h hup, decide_eq_true (And.intro hname he), if_true,
        finds_filesIn_iff hname.1 hleads (hnamed.up_not_mem_children _)]
      exact ⟨fun ⟨hask, _, hall, hfiles⟩ => ⟨hask, fun _ _ => hall, hfiles⟩,
        fun ⟨hask, hall, hfiles⟩ => ⟨hask, hask, hall hname trivial, hfiles⟩⟩
    · cases hschema : isSchemaFile name with
      | false =>
          rw [hnone (Or.inr hschema) (by simp [he])]
          simp
      | true =>
          have hholds : (isSchemaFile name && holdsFile tree path folder name) = true := by
            simp [holdsFile, he, hschema, hname]
          unfold schemaFilesAt
          rw [Survey.finds_bind]
          simp only [finds_isFile_step hfits h hup, Path.name_step, and_assoc, exists_and_left,
            exists_eq_left', hholds, if_true, Survey.finds_pure]
          exact ⟨fun ⟨hask, hfiles⟩ => ⟨hask, fun _ hfolder => absurd hfolder (by simp), hfiles.symm⟩,
            fun ⟨hask, _, hfiles⟩ => ⟨hask, hfiles.symm⟩⟩
  · rw [if_neg hname, hnone (Or.inl (by simp [holdsFile, hname])) (fun hfolder => hname hfolder.1)]
    simp [hname]

end ApiScan.Project
