import ApiScan.Proofs.Assoc
import ApiScan.Tree.Basic

set_option autoImplicit false

/-! # Where paths lead

A path is followed step by step, from folder to folder, so that a path of two parts leads where the
second part leads from the folder of the first. Only folders matter on the way: where a path leads
stays the same as long as the folders stay, whatever else is put into the tree. -/

/-! ## What stands in a tree

Putting something at a place changes what stands there and nothing else. The names in a folder are
the last steps of the places right inside it, so a new place adds one name to one folder. -/

namespace ApiScan.Tree

variable {tree : Tree} {place other folder : Place} {entry : Entry}

/-! ## Entries -/

theorem entry?_nil (tree : Tree) : tree.entry? [] = some .folder := rfl

theorem entry?_of_ne_nil (tree : Tree) (h : place ≠ []) :
    tree.entry? place = Assoc.get? place tree.entries := by
  unfold entry?
  rw [if_neg (by simpa using h)]

theorem append_singleton_ne_nil (folder : Place) (name : Text) : folder ++ [name] ≠ [] := by
  simp

theorem entry?_put (h : place ≠ []) :
    entry? (tree.put place entry) other = if other = place then some entry else tree.entry? other := by
  by_cases ho : other = []
  · subst ho
    rw [entry?_nil, entry?_nil, if_neg (Ne.symm h)]
  · rw [entry?_of_ne_nil _ ho, entry?_of_ne_nil _ ho, put, Assoc.get?_put]
    by_cases hp : other = place
    · rw [if_pos (by simpa using hp.symm), if_pos hp]
    · rw [if_neg (by simpa using Ne.symm hp), if_neg hp]

/-! ## Names -/

/-- The names in a folder, in the order of the entries. -/
def children (folder : Place) (tree : Tree) : List Text :=
  (Assoc.keys tree.entries).filterMap (childName? folder)

theorem names_eq (folder : Place) (tree : Tree) :
    tree.names folder = Text.sort (tree.children folder) := by
  rw [names, children, Assoc.keys, List.filterMap_map]
  rfl

theorem names_congr {tree' : Tree} {folder : Place}
    (h : tree'.children folder = tree.children folder) : tree'.names folder = tree.names folder := by
  rw [names_eq, names_eq, h]

theorem childName?_eq_some {name : Text} :
    childName? folder place = some name ↔ place = folder ++ [name] := by
  unfold childName?
  constructor
  · intro h
    split at h
    · next last hlast =>
        split at h
        · next hfolder =>
            obtain rfl := Option.some.inj h
            have hne : place ≠ [] := by
              rintro rfl
              simp at hlast
            rw [← hfolder]
            rw [List.getLast?_eq_some_getLast hne] at hlast
            rw [← Option.some.inj hlast, List.dropLast_append_getLast]
        · exact absurd h (by simp)
    · exact absurd h (by simp)
  · rintro rfl
    simp

theorem mem_children {name : Text} :
    name ∈ tree.children folder ↔ (tree.entry? (folder ++ [name])).isSome := by
  rw [children, List.mem_filterMap, entry?_of_ne_nil _ (append_singleton_ne_nil folder name),
    ← Assoc.has, Assoc.has_iff_mem_keys]
  simp only [childName?_eq_some, exists_eq_right]

theorem children_put_of_isSome (hplace : place ≠ []) (h : (tree.entry? place).isSome) :
    (tree.put place entry).children folder = tree.children folder := by
  have hhas : Assoc.has place tree.entries = true := by
    rwa [entry?_of_ne_nil _ hplace] at h
  rw [children, put, Assoc.put, Assoc.keys_alter_of_has hhas, children]

theorem children_put_of_none (hplace : place ≠ []) (h : tree.entry? place = none) :
    (tree.put place entry).children folder
      = tree.children folder ++ (childName? folder place).toList := by
  have hhas : Assoc.has place tree.entries = false := by
    rw [entry?_of_ne_nil _ hplace] at h
    rw [Assoc.has, h]
    rfl
  rw [children, put, Assoc.put, Assoc.keys_alter_of_not_has hhas, List.filterMap_append, children]
  cases hc : childName? folder place <;> simp [hc]

end ApiScan.Tree

namespace ApiScan.Tree

variable {tree tree' : Tree} {here place folder : Place} {steps more : List Text} {name : Text}
  {target : Target}

/-! ## Single steps -/

/-- A place as a path finds it. -/
def targetAt (tree : Tree) (place : Place) : Target :=
  match tree.entry? place with
  | some entry => .present place entry
  | none => .vacant place

theorem targetAt_of_some {entry : Entry} (h : tree.entry? place = some entry) :
    tree.targetAt place = .present place entry := by
  rw [targetAt, h]

theorem targetAt_of_none (h : tree.entry? place = none) : tree.targetAt place = .vacant place := by
  rw [targetAt, h]

theorem follow_nil {entry : Entry} (h : tree.entry? here = some entry) :
    follow tree here [] = .ok (.present here entry) := by
  rw [follow, h]

theorem follow_nil_eq_ok (h : follow tree here [] = .ok target) :
    (tree.entry? here).isSome ∧ target = tree.targetAt here := by
  rw [follow] at h
  cases he : tree.entry? here with
  | none =>
      rw [he] at h
      exact nomatch h
  | some entry =>
      rw [he] at h
      rw [targetAt_of_some he]
      exact ⟨rfl, (Except.ok.inj h).symm⟩

theorem follow_up (h : tree.entry? here = some .folder) :
    follow tree here (Path.up :: more) = follow tree here.dropLast more := by
  rw [follow, h]
  exact if_pos rfl

/-- A name that a step of a path may have. -/
def IsStep (name : Text) : Prop := name ≠ Path.up ∧ (Text.toBytes name).length ≤ maxNameLength

instance (name : Text) : Decidable (IsStep name) := inferInstanceAs (Decidable (_ ∧ _))

theorem follow_step (h : tree.entry? here = some .folder) (hname : IsStep name)
    (hmore : (tree.entry? (here ++ [name])).isSome) :
    follow tree here (name :: more) = follow tree (here ++ [name]) more := by
  have hsome : ((tree.entry? (here ++ [name])).isNone && more.isEmpty) = false := by
    rw [Option.isSome_iff_exists] at hmore
    obtain ⟨entry, he⟩ := hmore
    rw [he]
    rfl
  rw [follow, h]
  simp only [if_neg hname.1, if_neg (Nat.not_lt.2 hname.2), hsome, Bool.false_eq_true, if_false]

theorem follow_last (h : tree.entry? here = some .folder) (hname : IsStep name) :
    follow tree here [name] = .ok (tree.targetAt (here ++ [name])) := by
  cases he : tree.entry? (here ++ [name]) with
  | some entry =>
      rw [follow_step h hname (by rw [he]; rfl), follow_nil he, targetAt_of_some he]
  | none =>
      rw [follow, h, targetAt_of_none he]
      simp only [if_neg hname.1, if_neg (Nat.not_lt.2 hname.2), he]
      rfl

/-- What a path needs for its first step, and where it goes on from. -/
theorem follow_cons_eq_ok (h : follow tree here (name :: more) = .ok target) :
    tree.entry? here = some .folder ∧
      ((name = Path.up ∧ follow tree here.dropLast more = .ok target) ∨
        (IsStep name ∧ more = [] ∧ tree.entry? (here ++ [name]) = none
          ∧ target = .vacant (here ++ [name])) ∨
        (IsStep name ∧ (tree.entry? (here ++ [name])).isSome
          ∧ follow tree (here ++ [name]) more = .ok target)) := by
  rw [follow] at h
  split at h
  · exact nomatch h
  · exact nomatch h
  · next hfolder =>
      refine ⟨hfolder, ?_⟩
      split at h
      · next hup => exact Or.inl ⟨hup, h⟩
      · next hup =>
          split at h
          · exact nomatch h
          · next hlength =>
              have hname : IsStep name := ⟨hup, Nat.not_lt.1 hlength⟩
              split at h
              · next hvacant =>
                  rw [Bool.and_eq_true, List.isEmpty_iff, Option.isNone_iff_eq_none] at hvacant
                  exact Or.inr (Or.inl ⟨hname, hvacant.2, hvacant.1, (Except.ok.inj h).symm⟩)
              · next hpresent =>
                  refine Or.inr (Or.inr ⟨hname, ?_, h⟩)
                  cases he : tree.entry? (here ++ [name]) with
                  | some entry => rfl
                  | none =>
                      -- nothing is there, and the path is followed no further
                      cases more <;> rw [follow, he] at h <;> exact nomatch h

/-! ## Folders on the way -/

theorem entry?_of_follow {entry : Entry}
    (h : follow tree here steps = .ok (.present place entry)) : tree.entry? place = some entry := by
  induction steps generalizing here with
  | nil =>
      obtain ⟨hsome, ht⟩ := follow_nil_eq_ok h
      obtain ⟨found, he⟩ := Option.isSome_iff_exists.1 hsome
      rw [targetAt_of_some he] at ht
      obtain ⟨rfl, rfl⟩ := Target.present.inj ht
      exact he
  | cons name more ih =>
      obtain ⟨-, ⟨-, hnext⟩ | ⟨-, -, -, ht⟩ | ⟨-, -, hnext⟩⟩ := follow_cons_eq_ok h
      · exact ih hnext
      · exact nomatch ht
      · exact ih hnext

/-- A path that leads to a folder starts in one. -/
theorem folder_of_follow (h : follow tree here steps = .ok (.present folder .folder)) :
    tree.entry? here = some .folder := by
  cases steps with
  | nil =>
      obtain ⟨hsome, ht⟩ := follow_nil_eq_ok h
      obtain ⟨found, he⟩ := Option.isSome_iff_exists.1 hsome
      rw [targetAt_of_some he] at ht
      rw [he, (Target.present.inj ht).2]
  | cons name more => exact (follow_cons_eq_ok h).1

theorem follow_append (h : follow tree here steps = .ok (.present folder .folder)) :
    follow tree here (steps ++ more) = follow tree folder more := by
  induction steps generalizing here with
  | nil =>
      obtain ⟨hsome, ht⟩ := follow_nil_eq_ok h
      obtain ⟨found, he⟩ := Option.isSome_iff_exists.1 hsome
      rw [targetAt_of_some he] at ht
      rw [(Target.present.inj ht).1]
      rfl
  | cons name steps ih =>
      obtain ⟨hfolder, ⟨rfl, hnext⟩ | ⟨-, -, -, ht⟩ | ⟨hname, hsome, hnext⟩⟩ := follow_cons_eq_ok h
      · rw [List.cons_append, follow_up hfolder, ih hnext]
      · exact nomatch ht
      · rw [List.cons_append, follow_step hfolder hname hsome, ih hnext]

theorem exists_folder_of_follow_append (h : follow tree here (steps ++ more) = .ok target)
    (hmore : more ≠ []) : ∃ folder, follow tree here steps = .ok (.present folder .folder) := by
  induction steps generalizing here with
  | nil =>
      cases more with
      | nil => exact absurd rfl hmore
      | cons name more => exact ⟨here, follow_nil (follow_cons_eq_ok h).1⟩
  | cons name steps ih =>
      rw [List.cons_append] at h
      obtain ⟨hfolder, ⟨rfl, hnext⟩ | ⟨-, hnil, -⟩ | ⟨hname, hsome, hnext⟩⟩ := follow_cons_eq_ok h
      · rw [follow_up hfolder]
        exact ih hnext
      · exact absurd (List.append_eq_nil_iff.1 hnil).2 hmore
      · rw [follow_step hfolder hname hsome]
        exact ih hnext

/-- Without a step up, the steps of a path are those of the place that it leads to. -/
theorem follow_of_not_up (hup : Path.up ∉ steps) (h : follow tree here steps = .ok target) :
    target = tree.targetAt (here ++ steps) := by
  induction steps generalizing here with
  | nil =>
      rw [List.append_nil]
      exact (follow_nil_eq_ok h).2
  | cons name more ih =>
      rw [List.mem_cons, not_or] at hup
      obtain ⟨-, ⟨rfl, -⟩ | ⟨-, rfl, hnone, ht⟩ | ⟨-, -, hnext⟩⟩ := follow_cons_eq_ok h
      · exact absurd rfl hup.1
      · rw [ht, targetAt_of_none hnone]
      · rw [ih hup.2 hnext, List.append_assoc]
        rfl

theorem place_eq_of_follow {entry : Entry} (hup : Path.up ∉ steps)
    (h : follow tree here steps = .ok (.present place entry)) : place = here ++ steps := by
  have htarget := follow_of_not_up hup h
  unfold targetAt at htarget
  split at htarget
  · exact (Target.present.inj htarget).1
  · exact nomatch htarget

/-- The names of steps that have been followed are names that steps may have. -/
theorem isStep_of_follow (hup : Path.up ∉ steps) (h : follow tree here steps = .ok target) :
    ∀ name ∈ steps, IsStep name := by
  induction steps generalizing here with
  | nil => exact fun _ h => absurd h List.not_mem_nil
  | cons name more ih =>
      rw [List.mem_cons, not_or] at hup
      obtain ⟨-, ⟨rfl, -⟩ | ⟨hname, rfl, -⟩ | ⟨hname, -, hnext⟩⟩ := follow_cons_eq_ok h
      · exact absurd rfl hup.1
      · exact List.forall_mem_singleton.2 hname
      · exact List.forall_mem_cons.2 ⟨hname, ih hup.2 hnext⟩

/-! ## Other trees -/

/-- Every folder of a tree is a folder of another one. -/
def KeepsFolders (tree tree' : Tree) : Prop :=
  ∀ place, tree.entry? place = some .folder → tree'.entry? place = some .folder

theorem KeepsFolders.trans {tree'' : Tree} (h : KeepsFolders tree tree')
    (h' : KeepsFolders tree' tree'') : KeepsFolders tree tree'' :=
  fun place hp => h' place (h place hp)

theorem keepsFolders_put (hplace : place ≠ []) (h : tree.entry? place ≠ some .folder)
    (entry : Entry) : KeepsFolders tree (tree.put place entry) := by
  intro other ho
  rw [entry?_put hplace, if_neg]
  · exact ho
  · rintro rfl
    exact h ho

/-- A path to a folder leads there as long as the folders stay. -/
theorem follow_of_keepsFolders (hkeeps : KeepsFolders tree tree')
    (h : follow tree here steps = .ok (.present folder .folder)) :
    follow tree' here steps = .ok (.present folder .folder) := by
  induction steps generalizing here with
  | nil =>
      obtain ⟨hsome, ht⟩ := follow_nil_eq_ok h
      obtain ⟨found, hf⟩ := Option.isSome_iff_exists.1 hsome
      rw [targetAt_of_some hf] at ht
      obtain ⟨rfl, rfl⟩ := Target.present.inj ht
      exact follow_nil (hkeeps _ hf)
  | cons name more ih =>
      obtain ⟨hfolder, ⟨rfl, hnext⟩ | ⟨-, -, -, ht⟩ | ⟨hname, -, hnext⟩⟩ := follow_cons_eq_ok h
      · rw [follow_up (hkeeps _ hfolder)]
        exact ih hnext
      · exact nomatch ht
      · have hnew := hkeeps _ (folder_of_follow hnext)
        rw [follow_step (hkeeps _ hfolder) hname (by rw [hnew]; rfl)]
        exact ih hnext

/-- A path to a file leads there as long as the folders stay and a file is there. -/
theorem follow_file_of_keepsFolders (hkeeps : KeepsFolders tree tree') {content content' : Bytes}
    (h : follow tree here steps = .ok (.present place (.file content)))
    (he : tree'.entry? place = some (.file content')) :
    follow tree' here steps = .ok (.present place (.file content')) := by
  induction steps generalizing here with
  | nil =>
      obtain ⟨hsome, ht⟩ := follow_nil_eq_ok h
      obtain ⟨found, hf⟩ := Option.isSome_iff_exists.1 hsome
      rw [targetAt_of_some hf] at ht
      obtain ⟨rfl, -⟩ := Target.present.inj ht
      exact follow_nil he
  | cons name more ih =>
      obtain ⟨hfolder, ⟨rfl, hnext⟩ | ⟨-, -, -, ht⟩ | ⟨hname, -, hnext⟩⟩ := follow_cons_eq_ok h
      · rw [follow_up (hkeeps _ hfolder)]
        exact ih hnext
      · exact nomatch ht
      · have hnew : (tree'.entry? (here ++ [name])).isSome := by
          cases more with
          | nil =>
              obtain ⟨hsome, ht⟩ := follow_nil_eq_ok hnext
              obtain ⟨found, hf⟩ := Option.isSome_iff_exists.1 hsome
              rw [targetAt_of_some hf] at ht
              rw [← (Target.present.inj ht).1, he]
              rfl
          | cons next last => rw [hkeeps _ (follow_cons_eq_ok hnext).1]; rfl
        rw [follow_step (hkeeps _ hfolder) hname hnew]
        exact ih hnext

/-- Where a path leads does not depend on the tree, if it leads to an entry at all. -/
theorem place_of_follow {entry : Entry} (h : follow tree here steps = .ok (.present place entry)) :
    place = steps.foldl Path.takeStep here := by
  induction steps generalizing here with
  | nil =>
      obtain ⟨hsome, ht⟩ := follow_nil_eq_ok h
      obtain ⟨found, he⟩ := Option.isSome_iff_exists.1 hsome
      rw [targetAt_of_some he] at ht
      exact (Target.present.inj ht).1
  | cons name more ih =>
      obtain ⟨-, ⟨rfl, hup⟩ | ⟨-, -, -, ht⟩ | ⟨hname, -, hmore⟩⟩ := follow_cons_eq_ok h
      · exact ih hup
      · exact nomatch ht
      · rw [List.foldl_cons, Path.takeStep, if_neg hname.1]
        exact ih hmore

/-- A path without steps up sees only what stands at its own places. -/
theorem follow_congr (hup : Path.up ∉ steps)
    (h : ∀ front, front <+: steps → tree'.entry? (here ++ front) = tree.entry? (here ++ front)) :
    follow tree' here steps = follow tree here steps := by
  have hhere : tree'.entry? here = tree.entry? here := by
    simpa using h [] List.nil_prefix
  induction steps generalizing here with
  | nil => rw [follow, follow, hhere]
  | cons name more ih =>
      rw [List.mem_cons, not_or] at hup
      have hnext : tree'.entry? (here ++ [name]) = tree.entry? (here ++ [name]) :=
        h [name] ⟨more, rfl⟩
      have hmore : follow tree' (here ++ [name]) more = follow tree (here ++ [name]) more :=
        ih hup.2 (fun front hfront => by
          simpa using h (name :: front) ((List.prefix_cons_inj name).2 hfront)) hnext
      rw [follow, follow, hhere, hnext, hmore]
      simp only [if_neg (Ne.symm hup.1)]

end ApiScan.Tree
