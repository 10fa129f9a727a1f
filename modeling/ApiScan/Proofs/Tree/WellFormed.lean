import ApiScan.Proofs.Tree.Access
import ApiScan.Proofs.Tree.Growth
import Mathlib.Data.List.Induction

set_option autoImplicit false

/-! # Well-formed trees

In the trees that file systems hold, names are what steps of paths can be and everything stands in a
folder, so that a path to something leads there. -/

namespace ApiScan.Tree

variable {tree : Tree} {place folder : Place} {name : Text}

/-- A name that something in a folder may have: it is not empty, it is no step of dots, and no slash
    stands in it. -/
def IsName (name : Text) : Prop := '/' ∉ name ∧ name ≠ [] ∧ name ≠ ['.'] ∧ name ≠ Path.up

instance (name : Text) : Decidable (IsName name) := inferInstanceAs (Decidable (_ ∧ _))

/-- A tree as file systems hold them. -/
structure WellFormed (tree : Tree) : Prop where
  isName : ∀ place ∈ Assoc.keys tree.entries, ∀ name ∈ place, IsName name
  parent : ∀ place ∈ Assoc.keys tree.entries, tree.entry? place.dropLast = some .folder

instance (tree : Tree) : Decidable tree.WellFormed :=
  decidable_of_iff ((∀ place ∈ Assoc.keys tree.entries, ∀ name ∈ place, IsName name)
      ∧ ∀ place ∈ Assoc.keys tree.entries, tree.entry? place.dropLast = some .folder)
    ⟨fun h => ⟨h.1, h.2⟩, fun h => ⟨h.1, h.2⟩⟩

theorem WellFormed.isName_of_mem_children (h : tree.WellFormed)
    (hname : name ∈ tree.children folder) : IsName name := by
  obtain ⟨place, hplace, hchild⟩ := List.mem_filterMap.1 hname
  rw [childName?_eq_some] at hchild
  exact h.isName place hplace name (by simp [hchild])

theorem isName_of_namesAt (h : tree.WellFormed) {path : Path} {names : List Text}
    (hnames : tree.namesAt path = .ok names) (hname : name ∈ names) : IsName name := by
  unfold namesAt at hnames
  cases hlocate : tree.locate path with
  | error fault =>
      rw [hlocate] at hnames
      exact nomatch hnames
  | ok target =>
      rw [hlocate] at hnames
      cases target with
      | vacant place => exact nomatch hnames
      | present place entry =>
          cases entry with
          | file content => exact nomatch hnames
          | folder =>
              obtain rfl : tree.names place = names := Except.ok.inj hnames
              rw [names_eq, Text.mem_sort] at hname
              exact h.isName_of_mem_children hname

/-! ## Folders above -/

theorem mem_keys_of_standing {entry : Entry} (hne : place ≠ []) (he : tree.entry? place = some entry) :
    place ∈ Assoc.keys tree.entries := by
  rw [entry?_of_ne_nil _ hne] at he
  exact List.mem_map.2 ⟨_, Assoc.mem_of_get?_eq_some he, rfl⟩

theorem WellFormed.entry?_parent (h : tree.WellFormed) {entry : Entry}
    (he : tree.entry? (folder ++ [name]) = some entry) : tree.entry? folder = some .folder := by
  have hparent := h.parent _ (mem_keys_of_standing (append_singleton_ne_nil folder name) he)
  rwa [List.dropLast_concat] at hparent

/-- Everything stands in folders all the way from the top. -/
theorem WellFormed.entry?_above (h : tree.WellFormed) {entry : Entry} {steps : List Text}
    (hne : steps ≠ []) (he : tree.entry? (folder ++ steps) = some entry) :
    tree.entry? folder = some .folder := by
  induction steps using List.reverseRecOn generalizing entry with
  | nil => exact absurd rfl hne
  | append_singleton steps name ih =>
      rw [← List.append_assoc] at he
      have hparent := h.entry?_parent he
      by_cases hnil : steps = []
      · rwa [hnil, List.append_nil] at hparent
      · exact ih hnil hparent

/-- A path to something in a well-formed tree leads there. -/
theorem WellFormed.follow_eq (h : tree.WellFormed) {entry : Entry} {steps : List Text}
    (hsteps : ∀ name ∈ steps, IsStep name) (he : tree.entry? (folder ++ steps) = some entry) :
    follow tree folder steps = .ok (.present (folder ++ steps) entry) := by
  induction steps generalizing folder with
  | nil =>
      rw [List.append_nil] at he ⊢
      exact follow_nil he
  | cons name more ih =>
      rw [List.forall_mem_cons] at hsteps
      have hnext : folder ++ name :: more = folder ++ [name] ++ more := by simp
      have hfolder := h.entry?_above (List.cons_ne_nil name more) he
      rw [hnext] at he ⊢
      have hsome : (tree.entry? (folder ++ [name])).isSome := by
        cases more with
        | nil =>
            rw [List.append_nil] at he
            rw [he]
            rfl
        | cons second more =>
            rw [h.entry?_above (List.cons_ne_nil second more) he]
            rfl
      rw [follow_step hfolder hsteps.1 hsome]
      exact ih hsteps.2 he

/-- Nothing stands at the place of a path where nothing is present. -/
theorem WellFormed.entry?_eq_none (h : tree.WellFormed) {path : Path} {steps : List Text}
    (hleads : LeadsTo tree path folder) (hfits : Fits { path with steps := path.steps ++ steps })
    (hsteps : ∀ name ∈ steps, IsStep name)
    (hpresent : tree.present { path with steps := path.steps ++ steps } = .ok false) :
    tree.entry? (folder ++ steps) = none := by
  cases he : tree.entry? (folder ++ steps) with
  | none => rfl
  | some entry =>
      have hlocate : tree.locate { path with steps := path.steps ++ steps }
          = .ok (.present (folder ++ steps) entry) :=
        locate_eq_ok.2 ⟨hfits, (follow_append hleads).trans (h.follow_eq hsteps he)⟩
      unfold present status at hpresent
      rw [hlocate] at hpresent
      exact nomatch hpresent

end ApiScan.Tree

/-! ## Trees with a new folder

When a tree grows by a new folder, by folders on the way to it, and by what comes to stand below it,
then everything that was there stays as it is, and other folders are seen to hold new folders at the
most. -/

namespace ApiScan.Tree

variable {tree tree' : Tree} {new place folder : Place} {path : Path}

/-- What a new folder brings into a tree: folders, and entries below the new folder. -/
def OfFolder (new : Place) (place : Place) (entry : Entry) : Prop :=
  (∀ name ∈ place, IsName name) ∧ (entry = .folder ∨ ∃ name more, place = new ++ name :: more)

/-- One tree becomes another by a new folder and what it brings. -/
structure GrowsBelow (new : Place) (tree tree' : Tree) : Prop where
  wellFormed : tree.WellFormed
  absent : tree.entry? new = none
  grows : Grows (OfFolder new) tree tree'

theorem WellFormed.not_prefix (h : tree.WellFormed) (habsent : tree.entry? new = none)
    (hp : (tree.entry? place).isSome) : ¬ new <+: place := by
  rintro ⟨rest, rfl⟩
  obtain ⟨entry, he⟩ := Option.isSome_iff_exists.1 hp
  by_cases hrest : rest = []
  · rw [hrest, List.append_nil] at he
    exact nomatch habsent.symm.trans he
  · exact nomatch habsent.symm.trans (h.entry?_above hrest he)

/-- Everything that was there stays as it is. -/
theorem GrowsBelow.entry?_eq (h : GrowsBelow new tree tree') (hp : (tree.entry? place).isSome) :
    tree'.entry? place = tree.entry? place := by
  obtain ⟨entry, he⟩ := Option.isSome_iff_exists.1 hp
  rcases h.grows.entry?_of_some he with hsome | ⟨content, hsome, -, hfolder | ⟨name, more, rfl⟩⟩
  · rw [he, hsome]
  · exact nomatch hfolder
  · exact absurd (List.prefix_append _ _) (h.wellFormed.not_prefix h.absent hp)

/-- A path to something that was there leads where it led. -/
theorem GrowsBelow.locate_eq (h : GrowsBelow new tree tree') (hleads : LeadsTo tree path folder)
    {steps : List Text} (hup : Path.up ∉ steps) (hp : (tree.entry? (folder ++ steps)).isSome) :
    tree'.locate { path with steps := path.steps ++ steps }
      = tree.locate { path with steps := path.steps ++ steps } := by
  refine locate_congr hleads (hleads.of_keepsFolders h.grows.keepsFolders) hup fun front hfront => ?_
  refine h.entry?_eq ?_
  obtain ⟨rest, rfl⟩ := hfront
  by_cases hrest : rest = []
  · rwa [hrest, List.append_nil] at hp
  · obtain ⟨entry, he⟩ := Option.isSome_iff_exists.1 hp
    rw [← List.append_assoc] at he
    rw [h.wellFormed.entry?_above hrest he]
    rfl

/-- A folder that was there holds new folders at the most. -/
theorem GrowsBelow.children_eq (h : GrowsBelow new tree tree')
    (hfolder : tree.entry? folder = some .folder) :
    ∃ added, tree'.children folder = tree.children folder ++ added
      ∧ ∀ name ∈ added, IsName name ∧ tree.entry? (folder ++ [name]) = none
        ∧ tree'.entry? (folder ++ [name]) = some .folder := by
  obtain ⟨added, hadded, hall⟩ := h.grows.children_eq folder
  refine ⟨added, hadded, fun name hn => ?_⟩
  obtain ⟨hnone, entry, hnames, -⟩ := hall name hn
  refine ⟨hnames name (by simp), hnone, ?_⟩
  have hsome : (tree'.entry? (folder ++ [name])).isSome := by
    rw [← mem_children, hadded]
    exact List.mem_append_right _ hn
  obtain ⟨found, hfound⟩ := Option.isSome_iff_exists.1 hsome
  rcases h.grows.entry?_cases hfound with he | ⟨-, rfl | ⟨first, more, hplace⟩⟩
  · exact nomatch hnone.symm.trans he
  · exact hfound
  · -- the folder would stand at the new one or below it
    have hprefix : new <+: folder := by
      rw [List.append_eq_append_iff] at hplace
      rcases hplace with ⟨rest, rfl, hrest⟩ | ⟨rest, rfl, -⟩
      · cases rest with
        | nil => exact List.append_nil _ ▸ List.prefix_rfl
        | cons last rest =>
            have hlength := congrArg List.length hrest
            simp at hlength
      · exact List.prefix_append _ _
    exact absurd hprefix (h.wellFormed.not_prefix h.absent (by rw [hfolder]; rfl))

/-- Below a folder that was there, new files stand below the new folder. -/
theorem GrowsBelow.filesBelow_eq (h : GrowsBelow new tree tree') (folder : Place) :
    ∃ added, tree'.filesBelow folder = tree.filesBelow folder ++ added
      ∧ ∀ steps ∈ added, (∀ name ∈ steps, IsName name) ∧ tree.entry? (folder ++ steps) = none
        ∧ ∃ name more, folder ++ steps = new ++ name :: more := by
  obtain ⟨added, hadded, hall⟩ := h.grows.filesBelow_eq folder
  refine ⟨added, hadded, fun steps hs => ?_⟩
  obtain ⟨hnone, content, hnames, hfolder | hplace⟩ := hall steps hs
  · exact nomatch hfolder
  · exact ⟨fun name hn => hnames name (List.mem_append_right _ hn), hnone, hplace⟩

end ApiScan.Tree
