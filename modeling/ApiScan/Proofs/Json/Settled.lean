import ApiScan.Json.Basic
import ApiScan.Proofs.Assoc
import ApiScan.Proofs.Json.Reread

set_option autoImplicit false

/-! # Documents that read back as they are

A document reads back as itself when every name stands once in its objects, no text in it holds
halves to be joined, and its whole numbers are short. Documents that are put together from texts of
characters are of this kind, and stay so when fields are put into them. -/

namespace ApiScan.Json

/-! ## Items and fields -/

theorem rereadItems_eq_map (items : List Json) : rereadItems items = items.map reread := by
  induction items with
  | nil => rfl
  | cons item items ih => rw [rereadItems, ih, List.map_cons]

theorem rereadFields_eq_map (fields : Fields) :
    rereadFields fields = fields.map fun (name, value) => (Points.joined name, reread value) := by
  induction fields with
  | nil => rfl
  | cons field fields ih => rw [rereadFields, ih, List.map_cons]

theorem allShortItems_iff {items : List Json} :
    AllShortItems items ↔ ∀ item ∈ items, AllShort item := by
  induction items with
  | nil => simp [AllShortItems]
  | cons item items ih => rw [AllShortItems, ih, List.forall_mem_cons]

theorem allShortFields_iff {fields : Fields} :
    AllShortFields fields ↔ ∀ field ∈ fields, AllShort field.2 := by
  induction fields with
  | nil => simp [AllShortFields]
  | cons field fields ih => rw [AllShortFields, ih, List.forall_mem_cons]

/-! ## Settled documents -/

/-- A document reads back as it is. -/
structure Settled (doc : Json) : Prop where
  allShort : AllShort doc
  reread_eq : reread doc = doc

/-- The fields of a document that reads back as it is. -/
structure SettledFields (fields : Fields) : Prop where
  nodup : (Assoc.keys fields).Nodup
  joined_name : ∀ field ∈ fields, Points.joined field.1 = field.1
  settled : ∀ field ∈ fields, Settled field.2

theorem Settled.read_text {doc : Json} (h : Settled doc) : read (text doc) = .ok doc := by
  rw [Json.read_text h.allShort, h.reread_eq]

theorem settled_str (s : Text) : Settled (.str s) :=
  ⟨trivial, congrArg Json.str (Points.joined_ofText s)⟩

theorem settled_ofString (s : String) : Settled (ofString s) := settled_str s.toList

theorem settled_list {items : List Json} (h : ∀ item ∈ items, Settled item) :
    Settled (.list items) := by
  refine ⟨allShortItems_iff.2 fun item hi => (h item hi).allShort, ?_⟩
  rw [reread, rereadItems_eq_map]
  refine congrArg Json.list ((List.map_congr_left fun item hi => ?_).trans (List.map_id items))
  exact (h item hi).reread_eq

theorem SettledFields.rereadFields_eq {fields : Fields} (h : SettledFields fields) :
    rereadFields fields = fields := by
  rw [rereadFields_eq_map]
  refine (List.map_congr_left fun field hf => ?_).trans (List.map_id fields)
  exact Prod.ext (h.joined_name field hf) (h.settled field hf).reread_eq

theorem settled_object {fields : Fields} (h : SettledFields fields) : Settled (.object fields) := by
  refine ⟨allShortFields_iff.2 fun field hf => (h.settled field hf).allShort, ?_⟩
  rw [reread, h.rereadFields_eq, Assoc.ofPairs_of_nodup h.nodup]

/-- **An object reads back as it is exactly if its fields do.** -/
theorem settled_object_iff {fields : Fields} : Settled (.object fields) ↔ SettledFields fields := by
  refine ⟨fun h => ?_, settled_object⟩
  have hpairs : Assoc.ofPairs (rereadFields fields) = fields := Json.object.inj h.reread_eq
  -- as many fields come back as were written, so no two names fall together
  have hlength : (rereadFields fields).length ≤ (Assoc.ofPairs (rereadFields fields)).length := by
    rw [hpairs, rereadFields_eq_map, List.length_map]
  have hnodup := Assoc.nodup_keys_of_length_le hlength
  have hsame : rereadFields fields = fields := by rwa [Assoc.ofPairs_of_nodup hnodup] at hpairs
  have hfield : ∀ field ∈ fields, (Points.joined field.1, reread field.2) = field := by
    rw [rereadFields_eq_map] at hsame
    exact List.map_inj_left.1 (hsame.trans (List.map_id fields).symm)
  refine ⟨?_, fun field hf => congrArg Prod.fst (hfield field hf), fun field hf => ⟨?_, ?_⟩⟩
  · rwa [hsame] at hnodup
  · exact allShortFields_iff.1 h.allShort field hf
  · exact congrArg Prod.snd (hfield field hf)

theorem settled_list_iff {items : List Json} : Settled (.list items) ↔ ∀ item ∈ items, Settled item := by
  refine ⟨fun h item hi => ⟨allShortItems_iff.1 h.allShort item hi, ?_⟩, settled_list⟩
  have hsame : items.map reread = items.map id := by
    rw [← rereadItems_eq_map, List.map_id]
    exact Json.list.inj h.reread_eq
  exact List.map_inj_left.1 hsame item hi

theorem settledFields_nil : SettledFields [] :=
  ⟨List.nodup_nil, fun _ h => absurd h List.not_mem_nil, fun _ h => absurd h List.not_mem_nil⟩

theorem SettledFields.tail {field : Points × Json} {fields : Fields}
    (h : SettledFields (field :: fields)) : SettledFields fields :=
  ⟨(List.nodup_cons.1 h.nodup).2, (List.forall_mem_cons.1 h.joined_name).2,
    (List.forall_mem_cons.1 h.settled).2⟩

/-- Changing one field keeps the fields settled. -/
theorem SettledFields.alter_of_joined {fields : Fields} (h : SettledFields fields) {name : Points}
    (hname : Points.joined name = name) {change : Option Json → Json} (hnone : Settled (change none))
    (hsome : ∀ value, Settled value → Settled (change (some value))) :
    SettledFields (Assoc.alter name change fields) := by
  have hnew : Settled (change (Assoc.get? name fields)) := by
    cases hg : Assoc.get? name fields with
    | none => exact hnone
    | some value => exact hsome value (h.settled _ (Assoc.mem_of_get?_eq_some hg))
  refine ⟨Assoc.nodup_keys_alter h.nodup, fun field hf => ?_, fun field hf => ?_⟩
  · rcases Assoc.mem_alter hf with hm | rfl
    · exact h.joined_name field hm
    · exact hname
  · rcases Assoc.mem_alter hf with hm | rfl
    · exact h.settled field hm
    · exact hnew

theorem SettledFields.alter {fields : Fields} (h : SettledFields fields) (name : Text)
    {change : Option Json → Json} (hnone : Settled (change none))
    (hsome : ∀ value, Settled value → Settled (change (some value))) :
    SettledFields (Assoc.alter (Points.ofText name) change fields) :=
  h.alter_of_joined (Points.joined_ofText name) hnone hsome

/-- Putting settled fields keeps the fields settled. -/
theorem SettledFields.update {fields more : Fields} (h : SettledFields fields)
    (hmore : SettledFields more) : SettledFields (Assoc.update fields more) := by
  induction more generalizing fields with
  | nil => exact h
  | cons field more ih =>
      have hvalue := hmore.settled field List.mem_cons_self
      have hname := hmore.joined_name field List.mem_cons_self
      exact ih (h.alter_of_joined hname hvalue fun _ _ => hvalue) hmore.tail

theorem SettledFields.put {fields : Fields} (h : SettledFields fields) (name : Text) {value : Json}
    (hvalue : Settled value) : SettledFields (Assoc.put (Points.ofText name) value fields) :=
  h.alter name hvalue fun _ _ => hvalue

/-- Fields of fixed names. -/
theorem settledFields_named {fields : List (String × Json)}
    (hnodup : (fields.map Prod.fst).Nodup) (h : ∀ field ∈ fields, Settled field.2) :
    SettledFields (named fields) := by
  have hkeys : Assoc.keys (named fields)
      = (fields.map Prod.fst).map fun name => Points.ofText name.toList := by
    simp only [Assoc.keys, named, List.map_map]
    rfl
  refine ⟨?_, fun field hf => ?_, fun field hf => ?_⟩
  · rw [hkeys]
    refine hnodup.map fun s t he => String.toList_inj.1 (Points.ofText_inj.1 he)
  · obtain ⟨given, -, rfl⟩ := List.mem_map.1 hf
    exact Points.joined_ofText _
  · obtain ⟨given, hg, rfl⟩ := List.mem_map.1 hf
    exact h given hg

end ApiScan.Json

/-! ## Documents of whole numbers and whole characters

A document is whole if no number in it is a floating-point number and none of its texts, names among
them, holds a half of a surrogate pair. -/

namespace ApiScan.Json

/-- Whether a text is made of whole characters. -/
def IsWholeText (s : Points) : Prop := ∃ t : Text, s = Points.ofText t

theorem isWholeText_ofText (t : Text) : IsWholeText (Points.ofText t) := ⟨t, rfl⟩

/-- Whole characters hold no halves to be joined. -/
theorem IsWholeText.joined_eq {s : Points} (h : IsWholeText s) : Points.joined s = s := by
  obtain ⟨t, rfl⟩ := h
  exact Points.joined_ofText t

theorem isWholeText_append {s t : Points} :
    IsWholeText (s ++ t) ↔ IsWholeText s ∧ IsWholeText t := by
  constructor
  · rintro ⟨u, hu⟩
    obtain ⟨v, w, -, rfl, rfl⟩ := List.map_eq_append_iff.1 hu.symm
    exact ⟨isWholeText_ofText v, isWholeText_ofText w⟩
  · rintro ⟨⟨u, rfl⟩, v, rfl⟩
    exact ⟨u ++ v, List.map_append.symm⟩

theorem isSome_toText?_iff {s : Points} : s.toText?.isSome ↔ IsWholeText s := by
  simp only [Option.isSome_iff_exists, Points.toText?_eq_some_iff, IsWholeText]

mutual

/-- Whether the numbers of a document are whole numbers and its texts are made of whole
    characters. -/
def Whole : Json → Prop
  | .float _ => False
  | .str s => IsWholeText s
  | .list items => WholeItems items
  | .object fields => WholeFields fields
  | _ => True

/-- Whether some items are whole. -/
def WholeItems : List Json → Prop
  | [] => True
  | item :: items => Whole item ∧ WholeItems items

/-- Whether some fields are whole. -/
def WholeFields : List (Points × Json) → Prop
  | [] => True
  | (name, value) :: fields => IsWholeText name ∧ Whole value ∧ WholeFields fields

end

theorem wholeItems_iff {items : List Json} : WholeItems items ↔ ∀ item ∈ items, Whole item := by
  induction items with
  | nil => simp [WholeItems]
  | cons item items ih => rw [WholeItems, ih, List.forall_mem_cons]

theorem wholeFields_iff {fields : Fields} :
    WholeFields fields ↔ ∀ field ∈ fields, IsWholeText field.1 ∧ Whole field.2 := by
  induction fields with
  | nil => simp [WholeFields]
  | cons field fields ih => rw [WholeFields, ih, List.forall_mem_cons, and_assoc]

end ApiScan.Json
