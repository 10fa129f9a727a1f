import ApiScan.Proofs.Tree.Access

set_option autoImplicit false

/-! # Removing files and folders

A removal takes entries away and changes no other entry. What a folder loses when it is removed
depends on where its path leads, and every entry below that place is gone even if the removal is
refused in the end. -/

namespace ApiScan

/-! ## Entries that are kept -/

theorem Assoc.get?_filter {κ ν : Type} [BEq κ] [LawfulBEq κ] (keep : κ → Bool) (key : κ)
    (entries : List (κ × ν)) :
    get? key (entries.filter fun entry => keep entry.1) =
      if keep key then get? key entries else none := by
  induction entries with
  | nil => simp [get?]
  | cons entry more ih =>
      obtain ⟨k, v⟩ := entry
      by_cases hk : k = key
      · subst hk
        cases hkeep : keep k with
        | true => simp [hkeep, get?]
        | false => simpa [hkeep] using ih
      · have hne : (k == key) = false := beq_false_of_ne hk
        cases hkeep : keep k with
        | true => simpa [hkeep, get?, hne] using ih
        | false => simpa [hkeep, get?, hne] using ih

namespace Tree

variable {tree tree' tree'' : Tree} {path : Path} {place folder other here : Place}
  {steps : List Text} {lost lost' : Place → Prop}

theorem entry?_erase (tree : Tree) (hother : other ≠ []) :
    Tree.entry? (tree.erase place) other = if place <+: other then none else tree.entry? other := by
  rw [entry?_of_ne_nil _ hother, entry?_of_ne_nil _ hother, erase,
    Assoc.get?_filter fun p => !place.isPrefixOf p]
  by_cases h : place <+: other
  · simp [h, List.isPrefixOf_iff_prefix.2 h]
  · simp [h]

theorem entry?_eraseBelow (tree : Tree) (hother : other ≠ []) :
    Tree.entry? (tree.eraseBelow place) other
      = if place <+: other ∧ other ≠ place then none else tree.entry? other := by
  rw [entry?_of_ne_nil _ hother, entry?_of_ne_nil _ hother, eraseBelow,
    Assoc.get?_filter fun p => p = place || !place.isPrefixOf p]
  by_cases he : other = place
  · simp [he]
  · by_cases h : place <+: other
    · simp [he, h, List.isPrefixOf_iff_prefix.2 h]
    · simp [he, h]

/-! ## Losses -/

/-- Every entry is kept as it is, or it is gone and is one that may be lost. -/
def LosesOnly (lost : Place → Prop) (tree tree' : Tree) : Prop :=
  ∀ place, tree'.entry? place = tree.entry? place ∨ (lost place ∧ tree'.entry? place = none)

theorem LosesOnly.refl (lost : Place → Prop) (tree : Tree) : LosesOnly lost tree tree :=
  fun _ => Or.inl rfl

theorem LosesOnly.trans (h : LosesOnly lost tree tree') (h' : LosesOnly lost tree' tree'') :
    LosesOnly lost tree tree'' := by
  intro place
  rcases h' place with he' | hgone
  · rw [he']
    exact h place
  · exact Or.inr hgone

theorem LosesOnly.mono (h : LosesOnly lost tree tree') (hlost : ∀ place, lost place → lost' place) :
    LosesOnly lost' tree tree' :=
  fun place => (h place).imp_right fun ⟨hplace, hgone⟩ => ⟨hlost place hplace, hgone⟩

/-- What was not there does not come in. -/
theorem LosesOnly.entry?_eq_none (h : LosesOnly lost tree tree') (he : tree.entry? place = none) :
    tree'.entry? place = none := by
  rcases h place with hkept | ⟨-, hgone⟩
  · rw [hkept, he]
  · exact hgone

theorem losesOnly_erase (tree : Tree) (place : Place) :
    LosesOnly (place <+: ·) tree (tree.erase place) := by
  intro other
  by_cases hother : other = []
  · exact Or.inl (by rw [hother, entry?_nil, entry?_nil])
  · rw [entry?_erase tree hother]
    by_cases h : place <+: other
    · exact Or.inr ⟨h, if_pos h⟩
    · exact Or.inl (if_neg h)

theorem losesOnly_eraseBelow (tree : Tree) (place : Place) :
    LosesOnly (place <+: ·) tree (tree.eraseBelow place) := by
  intro other
  by_cases hother : other = []
  · exact Or.inl (by rw [hother, entry?_nil, entry?_nil])
  · rw [entry?_eraseBelow tree hother]
    by_cases h : place <+: other ∧ other ≠ place
    · exact Or.inr ⟨h.1, if_pos h⟩
    · exact Or.inl (if_neg h)

/-! ## Removing what a path leads to -/

theorem remove_eq_ok (h : tree.remove path = .ok tree') :
    ∃ content, follow tree [] path.steps
        = .ok (.present (path.steps.foldl Path.takeStep []) (.file content))
      ∧ tree' = tree.erase (path.steps.foldl Path.takeStep []) := by
  unfold remove at h
  cases hlocate : tree.locate path with
  | error fault =>
      rw [hlocate] at h
      exact nomatch h
  | ok target =>
      rw [hlocate] at h
      obtain ⟨-, hfollow⟩ := locate_eq_ok.1 hlocate
      match target with
      | .vacant _ => exact nomatch h
      | .present _ .folder => exact nomatch h
      | .present place (.file content) =>
          obtain rfl := place_of_follow hfollow
          exact ⟨content, hfollow, (Except.ok.inj h).symm⟩

/-- **A folder that is removed loses everything below it**, and nothing else is lost but the folder
    itself. -/
theorem losesOnly_removeFolder (hfits : Fits path) (hleads : LeadsTo tree path folder) :
    LosesOnly (folder <+: ·) tree (tree.removeFolder path).1
      ∧ ∀ other, folder <+: other → other ≠ folder →
        Tree.entry? (tree.removeFolder path).1 other = none := by
  have hbelow : LosesOnly (folder <+: ·) tree (tree.eraseBelow folder)
      ∧ ∀ other, folder <+: other → other ≠ folder →
        Tree.entry? (tree.eraseBelow folder) other = none := by
    refine ⟨losesOnly_eraseBelow tree folder, fun other hbelow' hne => ?_⟩
    have hother : other ≠ [] := by
      rintro rfl
      exact hne (List.prefix_nil.1 hbelow').symm
    rw [entry?_eraseBelow tree hother, if_pos ⟨hbelow', hne⟩]
  unfold removeFolder
  rw [locate_eq_ok.2 ⟨hfits, hleads⟩]
  dsimp only
  cases hlocate : (tree.eraseBelow folder).locate path with
  | error fault => exact hbelow
  | ok target =>
      cases target with
      | vacant place => exact hbelow
      | present place entry =>
          -- the path still leads to the folder
          obtain rfl : place = folder :=
            (place_of_follow (locate_eq_ok.1 hlocate).2).trans (place_of_follow hleads).symm
          dsimp only
          split
          · exact hbelow
          · have herased := losesOnly_erase (tree.eraseBelow place) place
            refine ⟨hbelow.1.trans herased, fun other hbelow' hne => ?_⟩
            exact herased.entry?_eq_none (hbelow.2 other hbelow' hne)

end Tree

end ApiScan
