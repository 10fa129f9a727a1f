import ApiScan.Text.Basic

set_option autoImplicit false

/-! # Order of texts

Texts are ordered by the code points of their characters, from the first one on, and a text comes
before those that continue it. Listings of folders are sorted in this order. -/

namespace ApiScan.Text

/-- Whether a text comes before another or is the same. -/
def le : Text → Text → Bool
  | [], _ => true
  | _ :: _, [] => false
  | a :: as, b :: bs => a.toNat < b.toNat || (a = b && le as bs)

/-- Put a text into a sorted list, before the first one that does not come before it. -/
def insert (s : Text) : List Text → List Text
  | [] => [s]
  | t :: more => if le s t then s :: t :: more else t :: insert s more

/-- A list of texts in order. -/
def sort (texts : List Text) : List Text := texts.foldr insert []

theorem mem_insert {s t : Text} {texts : List Text} : s ∈ insert t texts ↔ s = t ∨ s ∈ texts := by
  induction texts with
  | nil => simp [insert]
  | cons u more ih =>
    unfold insert
    split
    · simp
    · simp only [List.mem_cons, ih]
      exact or_left_comm

theorem mem_sort {s : Text} {texts : List Text} : s ∈ sort texts ↔ s ∈ texts := by
  induction texts with
  | nil => simp [sort]
  | cons t more ih => simpa [sort, mem_insert] using or_congr_right ih

end ApiScan.Text
