import ApiScan.Assoc
import Mathlib.Data.List.Induction
import Mathlib.Data.List.Nodup
import Mathlib.Data.List.Perm.Subperm

set_option autoImplicit false

/-! # Keys and look-ups of association lists

What `alter` and the operations made from it do to the keys and to the values under them. A list in
which every key stands once is read in two ways, by look-up and by membership, and the two agree.
Keys stand in the order in which they first came in, and pairs that are put into a list in which
they already stand leave it as it is.

Being the same key need not be equality: it is enough that it is symmetric and transitive. A list in
which no two keys are the same is still a map, and of lists that are put one after another the last
one that has a key gives its value. -/

namespace ApiScan.Assoc

variable {κ ν : Type} [BEq κ] {key : κ} {entries more : List (κ × ν)}

/-! ## Keys that are the same -/

theorem get?_eq_none_iff_forall : get? key entries = none ↔ ∀ k ∈ keys entries, (k == key) = false := by
  induction entries with
  | nil => simp [get?, keys]
  | cons entry more ih =>
      obtain ⟨k, v⟩ := entry
      rw [get?]
      cases h : k == key with
      | false => simpa [keys, h] using ih
      | true => simp [keys, h]

/-- No two keys are the same. -/
def Distinct (entries : List (κ × ν)) : Prop := (keys entries).Pairwise fun a b => (a == b) = false

theorem distinct_nil : Distinct ([] : List (κ × ν)) := List.Pairwise.nil

theorem Distinct.alter (h : Distinct entries) (key : κ) (change : Option ν → ν) :
    Distinct (alter key change entries) := by
  unfold Distinct at h ⊢
  cases hk : has key entries with
  | true => rwa [keys_alter_of_has hk]
  | false =>
      rw [has, Option.isSome_eq_false_iff, Option.isNone_iff_eq_none] at hk
      have hnone := get?_eq_none_iff_forall.1 hk
      rw [keys_alter_of_not_has (by rw [has, hk]; rfl)]
      refine List.pairwise_append.2 ⟨h, List.pairwise_singleton _ _, fun k hmem other ho => ?_⟩
      rw [List.mem_singleton.1 ho]
      exact hnone k hmem

theorem Distinct.foldl_alter {α : Type} {keyOf : α → κ} {change : α → Option ν → ν}
    (h : Distinct entries) (items : List α) :
    Distinct (items.foldl (fun entries a => Assoc.alter (keyOf a) (change a) entries) entries) := by
  induction items generalizing entries with
  | nil => exact h
  | cons a items ih => exact ih (h.alter (keyOf a) (change a))

theorem alter_of_get?_eq_none {change : Option ν → ν} (h : get? key entries = none) :
    alter key change entries = entries ++ [(key, change none)] := by
  induction entries with
  | nil => rfl
  | cons entry more ih =>
      obtain ⟨k, v⟩ := entry
      obtain ⟨hk, hmore⟩ := List.forall_mem_cons.1 (get?_eq_none_iff_forall.1 h)
      rw [alter, hk, ih (get?_eq_none_iff_forall.2 hmore)]
      rfl

theorem update_of_distinct (h : Distinct (entries ++ more)) : update entries more = entries ++ more := by
  induction more generalizing entries with
  | nil => exact (List.append_nil entries).symm
  | cons entry more ih =>
      obtain ⟨k, v⟩ := entry
      have hnone : get? k entries = none := by
        have hkeys : keys (entries ++ (k, v) :: more) = keys entries ++ k :: keys more := List.map_append
        rw [Distinct, hkeys] at h
        exact get?_eq_none_iff_forall.2 fun other ho =>
          (List.pairwise_append.1 h).2.2 other ho k List.mem_cons_self
      show update (put k v entries) more = _
      rw [put, alter_of_get?_eq_none hnone, ih (by rwa [List.append_assoc]), List.append_assoc]
      rfl

/-- A list in which no two keys are the same is a map already. -/
theorem Distinct.ofPairs_eq (h : Distinct entries) : ofPairs entries = entries := update_of_distinct h

variable [PartialEquivBEq κ]

/-- Of the pairs put into a list, the last one of a key gives its value. -/
theorem get?_update_of_distinct (h : Distinct more) :
    get? key (update entries more) = (get? key more).or (get? key entries) := by
  induction more generalizing entries with
  | nil => rfl
  | cons entry more ih =>
      obtain ⟨k, v⟩ := entry
      obtain ⟨hk, hmore⟩ := List.pairwise_cons.1 h
      show get? key (update (put k v entries) more) = _
      rw [ih hmore, get?_put, get?]
      cases he : k == key with
      | false => rfl
      | true =>
          have hnone : get? key more = none := get?_eq_none_iff_forall.2 fun other ho => by
            rw [← BEq.congr_right he, BEq.comm]
            exact hk other ho
          rw [hnone]
          rfl

/-- **Of lists that are put one after another, the last one that has a key gives its value.** -/
theorem get?_foldl_update_eq_some_iff {lists : List (List (κ × ν))} {value : ν}
    (h : ∀ list ∈ lists, Distinct list) :
    get? key (lists.foldl update []) = some value ↔
      ∃ before list after, lists = before ++ list :: after ∧ get? key list = some value
        ∧ ∀ other ∈ after, get? key other = none := by
  induction lists using List.reverseRecOn with
  | nil => simp [get?]
  | append_singleton lists last ih =>
      rw [List.forall_mem_append, List.forall_mem_singleton] at h
      rw [List.foldl_append, List.foldl_cons, List.foldl_nil, get?_update_of_distinct h.2]
      cases hlast : get? key last with
      | some found =>
          -- the last list has the key, so that no list before it counts
          rw [Option.some_or]
          constructor
          · intro he
            exact ⟨lists, last, [], rfl, hlast.trans he, fun _ ho => absurd ho List.not_mem_nil⟩
          · rintro ⟨before, list, after, he, hlist, hafter⟩
            cases after using List.reverseRecOn with
            | nil =>
                obtain ⟨-, rfl⟩ := List.append_singleton_inj.1 he
                rw [← hlast, hlist]
            | append_singleton after other =>
                rw [← List.cons_append, ← List.append_assoc] at he
                obtain ⟨-, rfl⟩ := List.append_singleton_inj.1 he
                exact absurd (hlast.symm.trans (hafter _ (by simp))) (Option.some_ne_none _)
      | none =>
          rw [Option.none_or, ih h.1]
          constructor
          · rintro ⟨before, list, after, rfl, hlist, hafter⟩
            refine ⟨before, list, after ++ [last], by simp, hlist, ?_⟩
            exact List.forall_mem_append.2 ⟨hafter, List.forall_mem_singleton.2 hlast⟩
          · rintro ⟨before, list, after, he, hlist, hafter⟩
            cases after using List.reverseRecOn with
            | nil =>
                obtain ⟨-, rfl⟩ := List.append_singleton_inj.1 he
                exact absurd (hlist.symm.trans hlast) (Option.some_ne_none _)
            | append_singleton after other =>
                rw [← List.cons_append, ← List.append_assoc] at he
                obtain ⟨rfl, -⟩ := List.append_singleton_inj.1 he
                rw [List.forall_mem_append] at hafter
                exact ⟨before, list, after, rfl, hlist, hafter.1⟩

end ApiScan.Assoc

namespace ApiScan.Assoc

variable {κ ν : Type} [BEq κ] [LawfulBEq κ]

/-! ## Keys -/

theorem has_iff_mem_keys {key : κ} {entries : List (κ × ν)} :
    has key entries = true ↔ key ∈ keys entries := by
  induction entries with
  | nil => simp [has, get?, keys]
  | cons entry more ih =>
      obtain ⟨k, v⟩ := entry
      unfold has at ih ⊢
      rw [get?]
      split
      · next h => simp [keys, eq_of_beq h]
      · next h =>
          have hne : key ≠ k := fun he => h (beq_iff_eq.2 he.symm)
          rw [ih]
          simp [keys, hne]

theorem get?_eq_none_iff {key : κ} {entries : List (κ × ν)} :
    get? key entries = none ↔ key ∉ keys entries := by
  rw [← has_iff_mem_keys, has, Bool.not_eq_true, Option.isSome_eq_false_iff,
    Option.isNone_iff_eq_none]

theorem mem_keys_alter {key other : κ} {change : Option ν → ν} {entries : List (κ × ν)} :
    other ∈ keys (alter key change entries) ↔ other = key ∨ other ∈ keys entries := by
  cases h : has key entries with
  | true =>
      rw [keys_alter_of_has h]
      have hmem := has_iff_mem_keys.1 h
      constructor
      · exact Or.inr
      · rintro (rfl | ho)
        · exact hmem
        · exact ho
  | false =>
      rw [keys_alter_of_not_has h, List.mem_append, List.mem_singleton]
      exact or_comm

theorem nodup_keys_alter {key : κ} {change : Option ν → ν} {entries : List (κ × ν)}
    (h : (keys entries).Nodup) : (keys (alter key change entries)).Nodup := by
  cases hk : has key entries with
  | true => rwa [keys_alter_of_has hk]
  | false =>
      rw [keys_alter_of_not_has hk]
      have hnot : key ∉ keys entries := fun hm => by
        rw [has_iff_mem_keys.2 hm] at hk
        exact Bool.noConfusion hk
      exact h.append (List.nodup_singleton key) (List.disjoint_singleton.2 hnot)

theorem nodup_keys_foldl_alter {α : Type} {keyOf : α → κ} {change : α → Option ν → ν} (items : List α) :
    (keys (items.foldl (fun entries a => alter (keyOf a) (change a) entries)
      ([] : List (κ × ν)))).Nodup :=
  (distinct_nil.foldl_alter items).imp fun hne => beq_eq_false_iff_ne.1 hne

theorem mem_keys_foldl_alter {α : Type} {key : κ} {keyOf : α → κ} {change : α → Option ν → ν}
    {items : List α} {entries : List (κ × ν)} :
    key ∈ keys (items.foldl (fun entries a => alter (keyOf a) (change a) entries) entries) ↔
      (∃ a ∈ items, key = keyOf a) ∨ key ∈ keys entries := by
  induction items generalizing entries with
  | nil => simp
  | cons a more ih =>
      rw [List.foldl_cons, ih, mem_keys_alter, List.exists_mem_cons_iff, ← or_assoc]
      exact or_congr_left or_comm

/-! ## Membership -/

theorem mem_of_get?_eq_some {key : κ} {value : ν} {entries : List (κ × ν)}
    (h : get? key entries = some value) : (key, value) ∈ entries := by
  induction entries with
  | nil => simp [get?] at h
  | cons entry more ih =>
      obtain ⟨k, v⟩ := entry
      rw [get?] at h
      split at h
      · next hk =>
          obtain rfl := eq_of_beq hk
          obtain rfl := Option.some.inj h
          exact List.mem_cons_self ..
      · exact List.mem_cons_of_mem _ (ih h)

theorem get?_eq_some_iff_mem {key : κ} {value : ν} {entries : List (κ × ν)}
    (hnodup : (keys entries).Nodup) :
    get? key entries = some value ↔ (key, value) ∈ entries := by
  refine ⟨mem_of_get?_eq_some, fun hmem => ?_⟩
  induction entries with
  | nil => simp at hmem
  | cons entry more ih =>
      obtain ⟨k, v⟩ := entry
      obtain ⟨hk, hmore⟩ := List.nodup_cons.1 hnodup
      rw [get?]
      rcases List.mem_cons.1 hmem with he | hm
      · obtain ⟨rfl, rfl⟩ := Prod.mk.inj he
        simp
      · have hne : k ≠ key := by
          rintro rfl
          exact hk (List.mem_map.2 ⟨_, hm, rfl⟩)
        rw [if_neg (by simpa using hne)]
        exact ih hmore hm

/-- Where every key stands once, look-up is all that is listed under a key. -/
theorem filter_key_eq_get? {entries : List (κ × ν)} (h : (keys entries).Nodup) (key : κ) :
    entries.filter (fun entry => entry.1 == key)
      = ((get? key entries).map fun value => (key, value)).toList := by
  induction entries with
  | nil => rfl
  | cons entry more ih =>
      obtain ⟨k, v⟩ := entry
      obtain ⟨hk, hmore⟩ := List.nodup_cons.1 h
      rw [get?, List.filter_cons, ih hmore]
      by_cases he : k = key
      · subst he
        simp [get?_eq_none_iff.2 hk]
      · simp [he]

theorem mem_alter {key : κ} {change : Option ν → ν} {entries : List (κ × ν)} {entry : κ × ν}
    (h : entry ∈ alter key change entries) :
    entry ∈ entries ∨ entry = (key, change (get? key entries)) := by
  induction entries with
  | nil => exact Or.inr (List.mem_singleton.1 h)
  | cons first more ih =>
      obtain ⟨k, v⟩ := first
      rw [alter] at h
      rw [get?]
      split at h
      · next hk =>
          rw [if_pos hk]
          rcases List.mem_cons.1 h with he | hm
          · rw [eq_of_beq hk] at he
            exact Or.inr he
          · exact Or.inl (List.mem_cons_of_mem _ hm)
      · next hk =>
          rw [if_neg hk]
          rcases List.mem_cons.1 h with he | hm
          · exact Or.inl (he ▸ List.mem_cons_self)
          · exact (ih hm).imp_left (List.mem_cons_of_mem _)

/-! ## New keys -/

theorem alter_of_not_mem {key : κ} {change : Option ν → ν} {entries : List (κ × ν)}
    (h : key ∉ keys entries) : alter key change entries = entries ++ [(key, change none)] := by
  induction entries with
  | nil => rfl
  | cons entry more ih =>
      obtain ⟨k, v⟩ := entry
      have hk : k ≠ key := fun he => h (he ▸ List.mem_cons_self)
      rw [alter, if_neg (by simpa using hk), ih fun hm => h (List.mem_cons_of_mem _ hm)]
      rfl

theorem update_of_nodup {entries more : List (κ × ν)} (h : (keys (entries ++ more)).Nodup) :
    update entries more = entries ++ more := by
  induction more generalizing entries with
  | nil => exact (List.append_nil entries).symm
  | cons entry more ih =>
      obtain ⟨k, v⟩ := entry
      have hkeys : keys (entries ++ (k, v) :: more) = keys entries ++ k :: keys more :=
        List.map_append
      have hk : k ∉ keys entries := fun hm => by
        rw [hkeys] at h
        exact List.disjoint_of_nodup_append h hm List.mem_cons_self
      show update (put k v entries) more = _
      rw [put, alter_of_not_mem hk, ih (by rwa [List.append_assoc]), List.append_assoc]
      rfl

/-- A list in which every key stands once is a map already. -/
theorem ofPairs_of_nodup {pairs : List (κ × ν)} (h : (keys pairs).Nodup) : ofPairs pairs = pairs :=
  update_of_nodup h

/-- Of the pairs put into a list, the last one of a key gives its value. -/
theorem get?_update {key : κ} {entries more : List (κ × ν)} (h : (keys more).Nodup) :
    get? key (update entries more) = (get? key more).or (get? key entries) :=
  get?_update_of_distinct (h.imp fun hne => beq_eq_false_iff_ne.2 hne)

/-! ## Putting lists one after another -/

theorem put_put_of_has {key other : κ} {value new : ν} {entries : List (κ × ν)}
    (hhas : has key entries = true) (hne : key ≠ other) :
    put key value (put other new entries) = put other new (put key value entries) := by
  induction entries with
  | nil => exact nomatch hhas
  | cons entry more ih =>
      obtain ⟨k, v⟩ := entry
      unfold put at ih ⊢
      by_cases hk : k = key
      · subst hk
        simp [alter, hne]
      · have hmore : has key more = true := by
          rw [has, get?, if_neg (by simpa using hk)] at hhas
          exact hhas
        by_cases ho : k = other
        · subst ho
          simp [alter, hk]
        · simp [alter, hk, ho, ih hmore]

theorem put_put (key : κ) (value new : ν) (entries : List (κ × ν)) :
    put key new (put key value entries) = put key new entries := by
  induction entries with
  | nil => simp [put, alter]
  | cons entry more ih =>
      obtain ⟨k, v⟩ := entry
      unfold put at ih ⊢
      by_cases hk : k = key
      · simp [alter, hk]
      · simp [alter, hk, ih]

theorem has_put (key : κ) (value : ν) (entries : List (κ × ν)) :
    has key (put key value entries) = true := by
  rw [has, get?_put, if_pos (beq_self_eq_true key)]
  rfl

/-- Putting a key that is there already may be done before putting other keys. -/
theorem put_update_of_has {key : κ} {value : ν} {entries more : List (κ × ν)}
    (hhas : has key entries = true) (hkey : key ∉ keys more) :
    put key value (update entries more) = update (put key value entries) more := by
  induction more generalizing entries with
  | nil => rfl
  | cons entry more ih =>
      obtain ⟨k, v⟩ := entry
      have hne : key ≠ k := fun he => hkey (he ▸ List.mem_cons_self)
      have hhas' : has key (put k v entries) = true :=
        has_iff_mem_keys.2 (mem_keys_alter.2 (Or.inr (has_iff_mem_keys.1 hhas)))
      show put key value (update (put k v entries) more) = update (put k v (put key value entries)) more
      rw [ih hhas' fun hm => hkey (List.mem_cons_of_mem _ hm), put_put_of_has hhas hne]

/-- Putting a list into which a key was put is putting the list and then the key. -/
theorem update_put {key : κ} {value : ν} {entries more : List (κ × ν)} (h : (keys more).Nodup) :
    update entries (put key value more) = put key value (update entries more) := by
  induction more generalizing entries with
  | nil => rfl
  | cons entry more ih =>
      obtain ⟨k, v⟩ := entry
      obtain ⟨hk, hmore⟩ := List.nodup_cons.1 h
      by_cases he : k = key
      · subst he
        have hput : put k value ((k, v) :: more) = (k, value) :: more := by simp [put, alter]
        rw [hput]
        show update (put k value entries) more = put k value (update (put k v entries) more)
        rw [put_update_of_has (has_put k v entries) hk, put_put]
      · have hput : put key value ((k, v) :: more) = (k, v) :: put key value more := by
          simp [put, alter, he]
        rw [hput]
        exact ih hmore

theorem nodup_keys_update {entries : List (κ × ν)} (more : List (κ × ν))
    (h : (keys entries).Nodup) : (keys (update entries more)).Nodup := by
  induction more generalizing entries with
  | nil => exact h
  | cons entry more ih => exact ih (nodup_keys_alter h)

/-- **Putting lists one after another into a list, and then all of it into another one, is putting
    the lists into the other one.** -/
theorem update_update {entries first : List (κ × ν)} (more : List (κ × ν)) (h : (keys first).Nodup) :
    update entries (update first more) = update (update entries first) more := by
  induction more generalizing first with
  | nil => rfl
  | cons entry more ih =>
      obtain ⟨k, v⟩ := entry
      show update entries (update (put k v first) more) = update (put k v (update entries first)) more
      have hput : (keys (put k v first)).Nodup := nodup_keys_alter h
      rw [ih hput, update_put h]

theorem update_foldl_update {α : Type} {entriesOf : α → List (κ × ν)} (items : List α)
    {entries first : List (κ × ν)} (h : (keys first).Nodup) :
    update entries (items.foldl (fun entries a => update entries (entriesOf a)) first)
      = items.foldl (fun entries a => update entries (entriesOf a)) (update entries first) := by
  induction items generalizing first with
  | nil => rfl
  | cons a more ih =>
      rw [List.foldl_cons, List.foldl_cons, ih (nodup_keys_update _ h), update_update _ h]

/-! ## Putting items one after another -/

/-- What changes under a key come to, one after another. -/
theorem get?_foldl_alter {α : Type} {keyOf : α → κ} {change : α → Option ν → ν} {items : List α}
    {key : κ} {entries : List (κ × ν)} :
    get? key (items.foldl (fun entries a => alter (keyOf a) (change a) entries) entries)
      = (items.filter fun a => keyOf a == key).foldl (fun old a => some (change a old))
          (get? key entries) := by
  induction items generalizing entries with
  | nil => rfl
  | cons a more ih =>
      rw [List.foldl_cons, ih, get?_alter]
      by_cases h : keyOf a = key
      · subst h
        rw [List.filter_cons_of_pos (by simp), List.foldl_cons, if_pos (beq_self_eq_true _)]
      · rw [List.filter_cons_of_neg (by simpa using h), if_neg (by simpa using h)]

theorem mem_foldl_put {α : Type} {keyOf : α → κ} {valueOf : α → ν} {items : List α}
    {entries : List (κ × ν)} {entry : κ × ν}
    (h : entry ∈ items.foldl (fun entries a => put (keyOf a) (valueOf a) entries) entries) :
    entry ∈ entries ∨ ∃ a ∈ items, entry = (keyOf a, valueOf a) := by
  induction items generalizing entries with
  | nil => exact Or.inl h
  | cons a more ih =>
      rcases ih h with hm | ⟨b, hb, he⟩
      · rcases mem_alter hm with hm | he
        · exact Or.inl hm
        · exact Or.inr ⟨a, List.mem_cons_self, he⟩
      · exact Or.inr ⟨b, List.mem_cons_of_mem a hb, he⟩

/-- Of the items put under a key, the last one gives its value. -/
theorem get?_foldl_put_eq_some_iff {α : Type} {keyOf : α → κ} {valueOf : α → ν} {items : List α}
    {key : κ} {value : ν} :
    get? key (items.foldl (fun entries a => put (keyOf a) (valueOf a) entries) []) = some value ↔
      ∃ before a after, items = before ++ a :: after ∧ (∀ b ∈ after, keyOf b ≠ key)
        ∧ keyOf a = key ∧ valueOf a = value := by
  have hall (entries : List (κ × ν)) :
      get? key (items.foldl (fun entries a => put (keyOf a) (valueOf a) entries) entries)
          = some value ↔
        (∃ before a after, items = before ++ a :: after ∧ (∀ b ∈ after, keyOf b ≠ key)
          ∧ keyOf a = key ∧ valueOf a = value)
        ∨ (∀ b ∈ items, keyOf b ≠ key) ∧ get? key entries = some value := by
    induction items generalizing entries with
    | nil => simp
    | cons a more ih =>
        rw [List.foldl_cons, ih, get?_put, List.forall_mem_cons]
        constructor
        · rintro (⟨before, b, after, rfl, hb⟩ | ⟨hmore, hg⟩)
          · exact Or.inl ⟨a :: before, b, after, rfl, hb⟩
          · by_cases ha : keyOf a = key
            · rw [if_pos (by simpa using ha)] at hg
              exact Or.inl ⟨[], a, more, rfl, hmore, ha, Option.some.inj hg⟩
            · rw [if_neg (by simpa using ha)] at hg
              exact Or.inr ⟨⟨ha, hmore⟩, hg⟩
        · rintro (⟨before, b, after, he, hafter, hkey, hvalue⟩ | ⟨⟨ha, hmore⟩, hg⟩)
          · cases before with
            | nil =>
                obtain ⟨rfl, rfl⟩ := List.cons.inj he
                exact Or.inr ⟨hafter, by rw [if_pos (by simpa using hkey), hvalue]⟩
            | cons first before =>
                obtain ⟨rfl, rfl⟩ := List.cons.inj he
                exact Or.inl ⟨before, b, after, rfl, hafter, hkey, hvalue⟩
          · exact Or.inr ⟨hmore, by rw [if_neg (by simpa using ha), hg]⟩
  rw [hall []]
  exact or_iff_left fun ⟨_, h⟩ => nomatch h

/-! ## Putting one value under many keys -/

section
variable {α : Type} {key : κ} {value : ν} {keyOf : α → κ} {items : List α}
  {entries : List (κ × ν)}

theorem get?_foldl_put_of_forall_ne (h : ∀ a ∈ items, keyOf a ≠ key) :
    get? key (items.foldl (fun entries a => put (keyOf a) value entries) entries)
      = get? key entries := by
  induction items generalizing entries with
  | nil => rfl
  | cons a more ih =>
      rw [List.foldl_cons, ih fun b hb => h b (List.mem_cons_of_mem _ hb), get?_put,
        if_neg (by simpa using h a List.mem_cons_self)]

theorem get?_foldl_put_of_exists (h : ∃ a ∈ items, keyOf a = key) :
    get? key (items.foldl (fun entries a => put (keyOf a) value entries) entries) = some value := by
  induction items generalizing entries with
  | nil => simp at h
  | cons a more ih =>
      rw [List.foldl_cons]
      by_cases hmore : ∃ b ∈ more, keyOf b = key
      · exact ih hmore
      · obtain ⟨b, hb, he⟩ := h
        rcases List.mem_cons.1 hb with rfl | hb
        · rw [get?_foldl_put_of_forall_ne fun c hc hk => hmore ⟨c, hc, hk⟩, get?_put,
            if_pos (by simpa using he)]
        · exact absurd ⟨b, hb, he⟩ hmore

end

/-! ## First appearance -/

theorem eraseDups_eq_self {keys : List κ} (h : keys.Nodup) : keys.eraseDups = keys := by
  induction keys with
  | nil => rfl
  | cons key more ih =>
      obtain ⟨hkey, hmore⟩ := List.nodup_cons.1 h
      have hfilter : more.filter (fun other => !other == key) = more :=
        List.filter_eq_self.2 fun other ho => by
          have hne : other ≠ key := fun he => hkey (he ▸ ho)
          simpa using hne
      rw [List.eraseDups_cons, hfilter, ih hmore]

/-- **Keys that are changed one after another stand in the order in which they first came in.** -/
theorem keys_foldl_alter {α : Type} {keyOf : α → κ} {change : α → Option ν → ν} (items : List α)
    {entries : List (κ × ν)} (h : (keys entries).Nodup) :
    keys (items.foldl (fun entries a => alter (keyOf a) (change a) entries) entries)
      = (keys entries ++ items.map keyOf).eraseDups := by
  induction items generalizing entries with
  | nil => rw [List.map_nil, List.append_nil, eraseDups_eq_self h, List.foldl_nil]
  | cons a more ih =>
      rw [List.foldl_cons, ih (nodup_keys_alter h), List.map_cons]
      cases hk : has (keyOf a) entries with
      | false => rw [keys_alter_of_not_has hk, List.append_assoc, List.singleton_append]
      | true =>
          -- a key that is there already does not count again
          have hmem : (keys entries).elem (keyOf a) = true :=
            List.elem_eq_true_of_mem (has_iff_mem_keys.1 hk)
          rw [keys_alter_of_has hk, List.eraseDups_append, List.eraseDups_append,
            List.cons_removeAll, if_neg (by simpa using hmem)]

/-! ## Pairs that are there already -/

omit [LawfulBEq κ] in
theorem put_eq_self {key : κ} {value : ν} {entries : List (κ × ν)}
    (h : get? key entries = some value) : put key value entries = entries := by
  induction entries with
  | nil => exact nomatch h
  | cons entry more ih =>
      obtain ⟨k, v⟩ := entry
      rw [get?] at h
      unfold put at ih ⊢
      rw [alter]
      split at h
      · next hk => rw [if_pos hk, ← Option.some.inj h]
      · next hk => rw [if_neg hk, ih h]

theorem nodup_keys_ofPairs (pairs : List (κ × ν)) : (keys (ofPairs pairs)).Nodup :=
  nodup_keys_update pairs List.nodup_nil

theorem mem_keys_ofPairs {key : κ} {pairs : List (κ × ν)} :
    key ∈ keys (ofPairs pairs) ↔ key ∈ keys pairs := by
  refine mem_keys_foldl_alter.trans ((or_iff_left List.not_mem_nil).trans ?_)
  rw [keys, List.mem_map]
  simp only [eq_comm]

theorem mem_of_mem_ofPairs {pairs : List (κ × ν)} {entry : κ × ν} (h : entry ∈ ofPairs pairs) :
    entry ∈ pairs := by
  rcases mem_foldl_put h with hnil | ⟨pair, hp, rfl⟩
  · exact absurd hnil List.not_mem_nil
  · exact hp

/-- Pairs that make a map of no fewer pairs hold each key once. -/
theorem nodup_keys_of_length_le {pairs : List (κ × ν)} (h : pairs.length ≤ (ofPairs pairs).length) :
    (keys pairs).Nodup := by
  have hsub : keys (ofPairs pairs) ⊆ keys pairs := fun _ hk => mem_keys_ofPairs.1 hk
  have hperm : (keys (ofPairs pairs)).Perm (keys pairs) := by
    refine (List.subperm_of_subset (nodup_keys_ofPairs pairs) hsub).perm_of_length_le ?_
    rwa [keys, keys, List.length_map, List.length_map]
  exact hperm.nodup_iff.1 (nodup_keys_ofPairs pairs)

/-- Putting pairs is putting the map that they make. -/
theorem update_ofPairs (entries pairs : List (κ × ν)) :
    update entries (ofPairs pairs) = update entries pairs :=
  update_update pairs List.nodup_nil

/-- Of the pairs put into a list, the last one of a key gives its value. -/
theorem get?_update_pairs (key : κ) (entries pairs : List (κ × ν)) :
    get? key (update entries pairs) = (get? key (ofPairs pairs)).or (get? key entries) := by
  rw [← update_ofPairs, get?_update (nodup_keys_ofPairs pairs)]

/-- **Pairs whose last values stand in a list leave it as it is.** -/
theorem update_eq_self {entries pairs : List (κ × ν)}
    (h : ∀ key value, get? key (ofPairs pairs) = some value → get? key entries = some value) :
    update entries pairs = entries := by
  have hall (more : List (κ × ν)) (hnodup : (keys more).Nodup)
      (hmore : ∀ key value, get? key more = some value → get? key entries = some value) :
      update entries more = entries := by
    induction more with
    | nil => rfl
    | cons entry more ih =>
        obtain ⟨k, v⟩ := entry
        obtain ⟨hk, hnodup⟩ := List.nodup_cons.1 hnodup
        show update (put k v entries) more = entries
        rw [put_eq_self (hmore k v (by simp [get?]))]
        refine ih hnodup fun key value hvalue => hmore key value ?_
        have hne : k ≠ key := by
          rintro rfl
          exact hk (has_iff_mem_keys.1 (by rw [has, hvalue]; rfl))
        rw [get?, if_neg (by simpa using hne), hvalue]
  rw [← update_ofPairs]
  exact hall _ (nodup_keys_ofPairs pairs) h

/-- Pairs under other names make the same map under the other names. -/
theorem ofPairs_map {κ' ν' : Type} [BEq κ'] [LawfulBEq κ'] {nameOf : κ → κ'} {valueOf : ν → ν'}
    (h : ∀ key other, nameOf key = nameOf other → key = other) (pairs : List (κ × ν)) :
    ofPairs (pairs.map fun entry => (nameOf entry.1, valueOf entry.2))
      = (ofPairs pairs).map fun entry => (nameOf entry.1, valueOf entry.2) := by
  have hput (key : κ) (value : ν) (entries : List (κ × ν)) :
      put (nameOf key) (valueOf value) (entries.map fun entry => (nameOf entry.1, valueOf entry.2))
        = (put key value entries).map fun entry => (nameOf entry.1, valueOf entry.2) := by
    unfold put
    induction entries with
    | nil => rfl
    | cons entry more ih =>
        obtain ⟨k, v⟩ := entry
        rw [List.map_cons, alter, alter]
        by_cases hk : k = key
        · subst hk
          simp
        · have hne : nameOf k ≠ nameOf key := fun he => hk (h _ _ he)
          rw [if_neg (by simpa using hne), if_neg (by simpa using hk), ih, List.map_cons]
  have hall (entries : List (κ × ν)) :
      update (entries.map fun entry => (nameOf entry.1, valueOf entry.2))
          (pairs.map fun entry => (nameOf entry.1, valueOf entry.2))
        = (update entries pairs).map fun entry => (nameOf entry.1, valueOf entry.2) := by
    induction pairs generalizing entries with
    | nil => rfl
    | cons entry more ih =>
        obtain ⟨k, v⟩ := entry
        show update (put (nameOf k) (valueOf v) _) _ = (update (put k v entries) more).map _
        rw [hput, ih]
  exact hall []

theorem get?_map {κ' ν' : Type} [BEq κ'] [LawfulBEq κ'] {nameOf : κ → κ'} {valueOf : ν → ν'}
    (h : ∀ key other, nameOf key = nameOf other → key = other) (key : κ) (entries : List (κ × ν)) :
    get? (nameOf key) (entries.map fun entry => (nameOf entry.1, valueOf entry.2))
      = (get? key entries).map valueOf := by
  induction entries with
  | nil => rfl
  | cons entry more ih =>
      obtain ⟨k, v⟩ := entry
      rw [List.map_cons, get?, get?]
      by_cases hk : k = key
      · subst hk
        simp
      · have hne : nameOf k ≠ nameOf key := fun he => hk (h _ _ he)
        rw [if_neg (by simpa using hne), if_neg (by simpa using hk), ih]

end ApiScan.Assoc
