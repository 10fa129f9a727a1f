set_option autoImplicit false

/-! # Association lists in insertion order

A finite map as a list of pairs in which each key stands at the place where it first came in.
Putting a key that is present replaces its value and keeps its place; a new key goes to the end.
The order is part of the value: it is the order in which documents are written. -/

namespace ApiScan.Assoc

variable {κ ν : Type} [BEq κ]

/-- The value of a key. -/
def get? (key : κ) : List (κ × ν) → Option ν
  | [] => none
  | (k, v) :: more => if k == key then some v else get? key more

/-- Whether a key is present. -/
def has (key : κ) (entries : List (κ × ν)) : Bool := (get? key entries).isSome

/-- Change the value of a key, which may be absent before. -/
def alter (key : κ) (change : Option ν → ν) : List (κ × ν) → List (κ × ν)
  | [] => [(key, change none)]
  | (k, v) :: more =>
    if k == key then (k, change (some v)) :: more else (k, v) :: alter key change more

/-- Give a key a value. -/
def put (key : κ) (value : ν) (entries : List (κ × ν)) : List (κ × ν) :=
  alter key (fun _ => value) entries

/-- Put every pair of `more`, in order. -/
def update (entries more : List (κ × ν)) : List (κ × ν) :=
  more.foldl (fun entries (key, value) => put key value entries) entries

/-- The map of a list of pairs: the last pair of a key gives its value, the first one its place. -/
def ofPairs (pairs : List (κ × ν)) : List (κ × ν) := update [] pairs

/-- The keys, in order. -/
def keys (entries : List (κ × ν)) : List κ := entries.map Prod.fst

/-! ## Laws -/

theorem get?_alter [PartialEquivBEq κ] (key other : κ) (change : Option ν → ν)
    (entries : List (κ × ν)) :
    get? other (alter key change entries) =
      if key == other then some (change (get? key entries)) else get? other entries := by
  induction entries with
  | nil => rfl
  | cons entry more ih =>
    obtain ⟨k, v⟩ := entry
    cases hk : k == key with
    | true =>
      have hother : (k == other) = (key == other) := BEq.congr_left hk
      simp only [alter, get?, hk, hother, if_true]
      cases key == other <;> rfl
    | false =>
      cases h : key == other with
      | true =>
        have hother : (k == other) = false := by rw [← BEq.congr_right h, hk]
        simpa [alter, get?, hk, hother, h] using ih
      | false => simp [alter, get?, hk, ih, h]

theorem get?_put [PartialEquivBEq κ] (key other : κ) (value : ν) (entries : List (κ × ν)) :
    get? other (put key value entries) = if key == other then some value else get? other entries :=
  get?_alter key other _ entries

theorem keys_alter_of_has {key : κ} {entries : List (κ × ν)}
    (h : has key entries = true) (change : Option ν → ν) :
    keys (alter key change entries) = keys entries := by
  induction entries with
  | nil => simp [has, get?] at h
  | cons entry more ih =>
    obtain ⟨k, v⟩ := entry
    cases hk : k == key with
    | true => simp [alter, keys, hk]
    | false =>
      have : has key more = true := by simpa [has, get?, hk] using h
      simpa [alter, keys, hk] using ih this

theorem keys_alter_of_not_has {key : κ} {entries : List (κ × ν)}
    (h : has key entries = false) (change : Option ν → ν) :
    keys (alter key change entries) = keys entries ++ [key] := by
  induction entries with
  | nil => simp [alter, keys]
  | cons entry more ih =>
    obtain ⟨k, v⟩ := entry
    cases hk : k == key with
    | true => simp [has, get?, hk] at h
    | false =>
      have : has key more = false := by simpa [has, get?, hk] using h
      simpa [alter, keys, hk] using ih this

end ApiScan.Assoc
