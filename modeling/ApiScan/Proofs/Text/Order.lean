import ApiScan.Text.Order

set_option autoImplicit false

/-! # Sorted texts

The order of texts is total, so a list of texts has exactly one sorted arrangement, and `sort` finds
it. Leaving texts out before sorting is the same as leaving them out afterwards. -/

namespace ApiScan.Text

/-! ## The order -/

theorem le_total (s t : Text) : le s t = true ∨ le t s = true := by
  induction s generalizing t with
  | nil => exact Or.inl rfl
  | cons a as ih =>
      cases t with
      | nil => exact Or.inr rfl
      | cons b bs =>
          rw [le, le, Bool.or_eq_true, Bool.or_eq_true, Bool.and_eq_true, Bool.and_eq_true,
            decide_eq_true_eq, decide_eq_true_eq, decide_eq_true_eq, decide_eq_true_eq]
          by_cases h : a = b
          · subst h
            exact (ih bs).imp (fun hle => Or.inr ⟨rfl, hle⟩) (fun hle => Or.inr ⟨rfl, hle⟩)
          · have hne : a.toNat ≠ b.toNat := fun he => h (Char.toNat_inj.1 he)
            rcases Nat.lt_or_gt_of_ne hne with hlt | hlt
            · exact Or.inl (Or.inl hlt)
            · exact Or.inr (Or.inl hlt)

theorem le_antisymm {s t : Text} (h : le s t = true) (h' : le t s = true) : s = t := by
  induction s generalizing t with
  | nil =>
      cases t with
      | nil => rfl
      | cons b bs => exact Bool.noConfusion h'
  | cons a as ih =>
      cases t with
      | nil => exact Bool.noConfusion h
      | cons b bs =>
          rw [le, Bool.or_eq_true, Bool.and_eq_true, decide_eq_true_eq, decide_eq_true_eq] at h h'
          rcases h with hlt | ⟨rfl, hle⟩
          · rcases h' with hlt' | ⟨he, -⟩
            · omega
            · rw [he] at hlt
              omega
          · rcases h' with hlt' | ⟨-, hle'⟩
            · omega
            · rw [ih hle hle']

theorem le_trans {s t u : Text} (h : le s t = true) (h' : le t u = true) : le s u = true := by
  induction s generalizing t u with
  | nil => rfl
  | cons a as ih =>
      cases t with
      | nil => exact Bool.noConfusion h
      | cons b bs =>
          cases u with
          | nil => exact Bool.noConfusion h'
          | cons c cs =>
              rw [le, Bool.or_eq_true, Bool.and_eq_true, decide_eq_true_eq, decide_eq_true_eq]
                at h h' ⊢
              rcases h with hlt | ⟨rfl, hle⟩
              · rcases h' with hlt' | ⟨rfl, -⟩
                · exact Or.inl (Nat.lt_trans hlt hlt')
                · exact Or.inl hlt
              · rcases h' with hlt' | ⟨rfl, hle'⟩
                · exact Or.inl hlt'
                · exact Or.inr ⟨rfl, ih hle hle'⟩

/-! ## Sorting -/

/-- The texts of a list come in order. -/
def Sorted (texts : List Text) : Prop := texts.Pairwise fun s t => le s t = true

theorem insert_perm (s : Text) (texts : List Text) : (insert s texts).Perm (s :: texts) := by
  induction texts with
  | nil => exact List.Perm.refl _
  | cons t more ih =>
      rw [insert]
      split
      · exact List.Perm.refl _
      · exact (ih.cons t).trans (List.Perm.swap s t more)

theorem sorted_insert {s : Text} {texts : List Text} (h : Sorted texts) :
    Sorted (insert s texts) := by
  induction texts with
  | nil => exact List.pairwise_singleton _ s
  | cons t more ih =>
      obtain ⟨ht, hmore⟩ := List.pairwise_cons.1 h
      rw [insert]
      split
      · next hle =>
          refine List.pairwise_cons.2 ⟨fun u hu => ?_, h⟩
          rcases List.mem_cons.1 hu with rfl | hu
          · exact hle
          · exact le_trans hle (ht u hu)
      · next hle =>
          refine List.pairwise_cons.2 ⟨fun u hu => ?_, ih hmore⟩
          rcases mem_insert.1 hu with rfl | hu
          · exact (le_total u t).resolve_left hle
          · exact ht u hu

theorem sort_perm (texts : List Text) : (sort texts).Perm texts := by
  induction texts with
  | nil => exact List.Perm.refl _
  | cons t more ih => exact (insert_perm t (sort more)).trans (ih.cons t)

theorem sorted_sort (texts : List Text) : Sorted (sort texts) := by
  induction texts with
  | nil => exact List.Pairwise.nil
  | cons t more ih => exact sorted_insert ih

/-- **A list of texts has one sorted arrangement.** -/
theorem Sorted.eq_of_perm {texts texts' : List Text} (h : Sorted texts) (h' : Sorted texts')
    (hperm : texts.Perm texts') : texts = texts' :=
  hperm.eq_of_pairwise (fun _ _ _ _ hle hle' => le_antisymm hle hle') h h'

theorem sort_congr {texts texts' : List Text} (h : texts.Perm texts') :
    sort texts = sort texts' :=
  (sorted_sort texts).eq_of_perm (sorted_sort texts')
    ((sort_perm texts).trans (h.trans (sort_perm texts').symm))

theorem filter_sort (p : Text → Bool) (texts : List Text) :
    (sort texts).filter p = sort (texts.filter p) :=
  Sorted.eq_of_perm ((sorted_sort texts).filter p) (sorted_sort _)
    (((sort_perm texts).filter p).trans (sort_perm _).symm)

end ApiScan.Text
