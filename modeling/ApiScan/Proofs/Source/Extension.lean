import ApiScan.Proofs.Text.Search
import ApiScan.Source.Extension

set_option autoImplicit false

/-! # Names without their extensions

At most one of the extensions of source files stands at the end of a name, so that it does not matter
in which order they are tried. -/

namespace ApiScan.Source

open Text

variable {name text ext : Text}

theorem not_mem_stripExtension {c : Char} (h : c ∉ name) : c ∉ stripExtension name := by
  unfold stripExtension
  split
  · exact fun hc => h (List.mem_of_mem_take hc)
  · exact h

theorem stripExtension_ne_nil (h : name ≠ []) : stripExtension name ≠ [] := by
  unfold stripExtension
  split
  · next ext hfound =>
      have hext := List.find?_some hfound
      rw [Bool.and_eq_true, decide_eq_true_eq] at hext
      rw [← List.length_pos_iff, List.length_take]
      omega
  · exact h

/-- No extension stands at the end of another one. -/
theorem eq_of_extension_suffix {other : Text} (h : ext ∈ extensions) (hother : other ∈ extensions)
    (hend : ext <:+ name) (hend' : other <:+ name) : ext = other := by
  have hall : ∀ a ∈ extensions, ∀ b ∈ extensions, a <:+ b → a = b := by decide
  rcases Nat.le_total ext.length other.length with hlength | hlength
  · exact hall ext h other hother (List.suffix_of_suffix_length_le hend hend' hlength)
  · exact (hall other hother ext h (List.suffix_of_suffix_length_le hend' hend hlength)).symm

/-- The name of a source file with its extension, or without one: a text is the name and an
    extension, or the name alone if that ends with no extension. -/
inductive IsNamed (name : Text) : Text → Prop
  | extended {ext : Text} (h : ext ∈ extensions) (hne : name ≠ []) : IsNamed name (name ++ ext)
  | bare (h : ∀ ext ∈ extensions, ext <:+ name → ext = name) : IsNamed name name

/-- **A name is what is left of a text without its extension.** -/
theorem stripExtension_eq_iff : stripExtension text = name ↔ IsNamed name text := by
  have hfits {ext : Text} : (endsWith ext text && decide (ext.length < text.length)) = true
      ↔ ext <:+ text ∧ ext.length < text.length := by
    rw [Bool.and_eq_true, endsWith_iff, decide_eq_true_eq]
  have hshort {ext : Text} (hend : ext <:+ text) : ext = text ∨ ext.length < text.length := by
    rcases Nat.eq_or_lt_of_le hend.length_le with he | hlt
    · exact Or.inl (hend.eq_of_length he)
    · exact Or.inr hlt
  unfold stripExtension
  cases hfound : extensions.find? fun ext => endsWith ext text && ext.length < text.length with
  | none =>
      have hnone : ∀ ext ∈ extensions, ext <:+ text → ext = text := fun ext hext hend => by
        have hnot := List.find?_eq_none.1 hfound ext hext
        exact (hshort hend).resolve_right fun hlt => hnot (hfits.2 ⟨hend, hlt⟩)
      constructor
      · rintro rfl
        exact .bare hnone
      · rintro (⟨hext, hne⟩ | -)
        · have he := hnone _ hext (List.suffix_append name _)
          exact absurd (List.self_eq_append_left.1 he) hne
        · rfl
  | some found =>
      have hmem := List.mem_of_find?_eq_some hfound
      have hfit := List.find?_some hfound
      obtain ⟨⟨front, hfront⟩, hlt⟩ := hfits.1 hfit
      have hne : front ≠ [] := by
        rintro rfl
        rw [← hfront, List.nil_append] at hlt
        exact Nat.lt_irrefl _ hlt
      have htake : text.take (text.length - found.length) = front := by
        rw [← hfront, List.length_append, Nat.add_sub_cancel, List.take_left]
      show text.take _ = name ↔ _
      rw [htake]
      constructor
      · rintro rfl
        exact hfront ▸ .extended hmem hne
      · rintro (⟨hext, -⟩ | h)
        · have he := eq_of_extension_suffix hmem hext ⟨front, hfront⟩ (List.suffix_append name _)
          rw [he] at hfront
          exact List.append_cancel_right hfront
        · exact absurd (h found hmem ⟨front, hfront⟩) fun he => Nat.lt_irrefl _ (he ▸ hlt)

end ApiScan.Source
