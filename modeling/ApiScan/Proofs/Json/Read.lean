import ApiScan.Proofs.Assoc
import ApiScan.Proofs.Json.Settled
import ApiScan.Proofs.Yaml.JsonForm

set_option autoImplicit false

/-! # What the reader reads

Every document that is read is put together from the texts, constants and numbers that the reader
takes, by lists and objects. What holds of those parts and is kept by lists and objects therefore
holds of everything that is read: a document that was read reads back as it is when it is written
again, and however often a text repeats a name, every object that is read from it holds each of its
names once. -/

namespace ApiScan.Json

open Yaml.Value (bind_eq_ok)

/-! ## Documents of the reader -/

/-- The reader takes a quoted text with this meaning. -/
def IsQuotation (text : Points) : Prop := ∃ n s rest, readQuoted? n s = some (text, rest)

/-- What holds of the parts of the documents that the reader builds, and is kept by building. -/
structure OfReader (good : Json → Prop) : Prop where
  str : ∀ text, IsQuotation text → good (.str text)
  constant : ∀ constant ∈ constants, good constant.2
  number : ∀ s doc rest, readNumber s = .ok (doc, rest) → good doc
  list : ∀ items, (∀ item ∈ items, good item) → good (.list items)
  object : ∀ pairs : Fields, (∀ field ∈ pairs, IsQuotation field.1 ∧ good field.2) →
    good (.object (Assoc.ofPairs pairs))

namespace OfReader

section
variable {good : Json → Prop} {n : Nat} {s rest : Text}

theorem readValue_succ {doc : Json} (hgood : OfReader good)
    (hitems : ∀ s items rest, readItems n s = .ok (items, rest) → ∀ item ∈ items, good item)
    (hfields : ∀ s fields rest, readFields n s = .ok (fields, rest) →
      ∀ field ∈ fields, IsQuotation field.1 ∧ good field.2)
    (h : readValue (n + 1) s = .ok (doc, rest)) : good doc := by
  unfold readValue at h
  split at h
  · exact absurd (by assumption : n + 1 = 0) (Nat.succ_ne_zero n)
  · split at h
    · next hquoted =>
        obtain ⟨rfl, -⟩ := Prod.mk.inj (Except.ok.inj h)
        exact hgood.str _ ⟨_, _, _, hquoted⟩
    · cases h
  · next he =>
      obtain rfl := Nat.succ.inj he
      split at h
      · obtain ⟨rfl, -⟩ := Prod.mk.inj (Except.ok.inj h)
        exact hgood.list [] (List.forall_mem_nil _)
      · obtain ⟨⟨items, after⟩, hread, hpure⟩ := bind_eq_ok h
        obtain ⟨rfl, -⟩ := Prod.mk.inj (Except.ok.inj hpure)
        exact hgood.list items (hitems _ _ _ hread)
  · next he =>
      obtain rfl := Nat.succ.inj he
      split at h
      · obtain ⟨rfl, -⟩ := Prod.mk.inj (Except.ok.inj h)
        exact hgood.object [] (List.forall_mem_nil _)
      · obtain ⟨⟨fields, after⟩, hread, hpure⟩ := bind_eq_ok h
        obtain ⟨rfl, -⟩ := Prod.mk.inj (Except.ok.inj hpure)
        exact hgood.object fields (hfields _ _ _ hread)
  · split at h
    · next found hfound =>
        obtain ⟨constant, hm, hconstant⟩ := List.exists_of_findSome?_eq_some hfound
        obtain ⟨_, -, rfl⟩ := Option.map_eq_some_iff.1 hconstant
        obtain ⟨rfl, -⟩ := Prod.mk.inj (Except.ok.inj h)
        exact hgood.constant constant hm
    · exact hgood.number _ _ _ h

theorem readItems_succ {items : List Json}
    (hvalue : ∀ s doc rest, readValue n s = .ok (doc, rest) → good doc)
    (hitems : ∀ s items rest, readItems n s = .ok (items, rest) → ∀ item ∈ items, good item)
    (h : readItems (n + 1) s = .ok (items, rest)) : ∀ item ∈ items, good item := by
  rw [readItems] at h
  obtain ⟨⟨item, after⟩, hread, h⟩ := bind_eq_ok h
  have hitem := hvalue _ _ _ hread
  dsimp only at h
  split at h
  · obtain ⟨rfl, -⟩ := Prod.mk.inj (Except.ok.inj h)
    exact List.forall_mem_singleton.2 hitem
  · obtain ⟨⟨more, last⟩, hread, hpure⟩ := bind_eq_ok h
    obtain ⟨rfl, -⟩ := Prod.mk.inj (Except.ok.inj hpure)
    exact List.forall_mem_cons.2 ⟨hitem, hitems _ _ _ hread⟩
  · cases h

theorem readFields_succ {fields : Fields}
    (hvalue : ∀ s doc rest, readValue n s = .ok (doc, rest) → good doc)
    (hfields : ∀ s fields rest, readFields n s = .ok (fields, rest) →
      ∀ field ∈ fields, IsQuotation field.1 ∧ good field.2)
    (h : readFields (n + 1) s = .ok (fields, rest)) :
    ∀ field ∈ fields, IsQuotation field.1 ∧ good field.2 := by
  unfold readFields at h
  split at h
  · next he =>
      obtain rfl := Nat.succ.inj he
      split at h
      · next hname =>
          split at h
          · obtain ⟨⟨value, after⟩, hread, h⟩ := bind_eq_ok h
            have hfield := And.intro (⟨_, _, _, hname⟩ : IsQuotation _) (hvalue _ _ _ hread)
            dsimp only at h
            split at h
            · obtain ⟨rfl, -⟩ := Prod.mk.inj (Except.ok.inj h)
              exact List.forall_mem_singleton.2 hfield
            · obtain ⟨⟨more, last⟩, hread, hpure⟩ := bind_eq_ok h
              obtain ⟨rfl, -⟩ := Prod.mk.inj (Except.ok.inj hpure)
              exact List.forall_mem_cons.2 ⟨hfield, hfields _ _ _ hread⟩
            · cases h
          · cases h
      · cases h
  · cases h

end

/-- What the reader finds with some fuel, in each of its three parts. -/
theorem of_fuel {good : Json → Prop} (hgood : OfReader good) (n : Nat) :
    (∀ s doc rest, readValue n s = .ok (doc, rest) → good doc)
      ∧ (∀ s items rest, readItems n s = .ok (items, rest) → ∀ item ∈ items, good item)
      ∧ ∀ s fields rest, readFields n s = .ok (fields, rest) →
        ∀ field ∈ fields, IsQuotation field.1 ∧ good field.2 := by
  induction n with
  | zero =>
      refine ⟨fun s doc rest h => ?_, fun s items rest h => ?_, fun s fields rest h => ?_⟩
      · rw [readValue] at h
        cases h
      · rw [readItems] at h
        cases h
      · rw [readFields] at h
        · cases h
        · intro _ _ he
          cases he
  | succ n ih =>
      obtain ⟨ihvalue, ihitems, ihfields⟩ := ih
      exact ⟨fun _ _ _ => hgood.readValue_succ ihitems ihfields,
        fun _ _ _ => readItems_succ ihvalue ihitems,
        fun _ _ _ => readFields_succ ihvalue ihfields⟩

/-- **What holds of the parts of the reader's documents, and is kept by building, holds of every
    document that is read.** -/
theorem of_read {good : Json → Prop} (hgood : OfReader good) {s : Text} {doc : Json}
    (h : read s = .ok doc) : good doc := by
  obtain ⟨⟨found, rest⟩, hread, h⟩ := bind_eq_ok h
  dsimp only at h
  split at h
  · obtain rfl := Except.ok.inj h
    exact (hgood.of_fuel _).1 _ _ _ hread
  · cases h

end OfReader

/-! ## Numbers -/

/-- Only short digits are read as a whole number. -/
theorem isShort_of_length_le {digits : Text} (hdigits : ∀ c ∈ digits, Text.isDigit c = true)
    (h : digits.length ≤ Text.maxDigits) (negative : Bool) :
    IsShort (if negative then -(Text.toNat 10 digits : Int) else Text.toNat 10 digits) := by
  have hvalue : Text.toNat 10 digits < 10 ^ Text.maxDigits :=
    Nat.lt_of_lt_of_le (Text.toNat_lt_pow hdigits) (Nat.pow_le_pow_right (by decide) h)
  have habs : (if negative then -(Text.toNat 10 digits : Int) else Text.toNat 10 digits).natAbs
      = Text.toNat 10 digits := by
    cases negative <;> simp
  rw [IsShort, habs, Text.length_ofNat_le_iff (by decide)]
  exact hvalue

theorem isDigit_of_mem_wholeDigits {s : Text} : ∀ c ∈ (wholeDigits s).1, Text.isDigit c = true := by
  unfold wholeDigits
  split
  · exact isDigit_of_mem_zero
  · exact fun c hc => List.mem_takeWhile_imp hc

theorem readMagnitude_eq_ok {negative : Bool} {s rest : Text} {doc : Json}
    (h : readMagnitude negative s = .ok (doc, rest)) :
    (∃ number, doc = .int number ∧ IsShort number) ∨ ∃ number, doc = .float number := by
  unfold readMagnitude at h
  dsimp only at h
  split at h
  · exact nomatch h
  · split at h
    · exact Or.inr ⟨_, (Prod.mk.inj (Except.ok.inj h)).1.symm⟩
    · split at h
      · split at h
        · exact nomatch h
        · next hlength =>
            exact Or.inl ⟨_, (Prod.mk.inj (Except.ok.inj h)).1.symm,
              isShort_of_length_le isDigit_of_mem_wholeDigits (Nat.not_lt.1 hlength) negative⟩
      · exact Or.inr ⟨_, (Prod.mk.inj (Except.ok.inj h)).1.symm⟩

theorem readNumber_eq_ok {s rest : Text} {doc : Json} (h : readNumber s = .ok (doc, rest)) :
    (∃ number, doc = .int number ∧ IsShort number) ∨ ∃ number, doc = .float number := by
  unfold readNumber at h
  split at h
  · exact readMagnitude_eq_ok h
  · exact readMagnitude_eq_ok h

/-! ## Quoted texts -/

/-- A half that is read is the unit that was escaped, and a high one is read only where no low one
    follows. -/
theorem readEscaped?_eq_half {s rest : Text} {index : Fin 2048}
    (h : readEscaped? s = some (.half index, rest)) :
    readUnit? s = some (0xD800 + (index : Nat), rest) ∧ ((index : Nat) < 0x400 → readLow? rest = none) := by
  obtain ⟨⟨unit, after⟩, hunit, h⟩ := Option.bind_eq_some_iff.1 h
  dsimp only at h
  split at h
  · exact nomatch (Prod.mk.inj (Option.some.inj h)).1
  · next hpaired =>
      obtain ⟨point, hpoint, hfound⟩ := Option.bind_eq_some_iff.1 h
      obtain ⟨rfl, rfl⟩ := Prod.mk.inj (Option.some.inj hfound)
      unfold CodePoint.ofNat? at hpoint
      split at hpoint
      · next hhalf =>
          obtain rfl := CodePoint.half.inj (Option.some.inj hpoint)
          refine ⟨?_, fun hhigh => ?_⟩
          · rw [hunit]
            dsimp only
            rw [Nat.add_sub_cancel' hhalf.1]
          · dsimp only at hhigh
            rwa [if_pos ⟨hhalf.1, by omega⟩] at hpaired
      · split at hpoint
        · exact nomatch Option.some.inj hpoint
        · exact nomatch hpoint

/-- A low half that is read is found as one behind a high half. -/
theorem readLow?_of_escaped {s rest : Text} {index : Fin 2048}
    (h : readEscaped? s = some (.half index, rest)) (hlow : 0x400 ≤ (index : Nat)) :
    readLow? ('\\' :: 'u' :: s) = some (0xD800 + (index : Nat), rest) := by
  have hunit := (readEscaped?_eq_half h).1
  have hindex := index.isLt
  simp only [readLow?, hunit, Option.bind_eq_bind, Option.bind_some]
  exact if_pos ⟨by omega, by omega⟩

theorem readQuoted?_zero (s : Text) : readQuoted? 0 s = none := rfl

/-- A code point that is read is a character or was escaped by its number. -/
theorem readQuoted?_succ_eq_some {n : Nat} {s rest : Text} {text : Points}
    (h : readQuoted? (n + 1) s = some (text, rest)) :
    text = [] ∨ ∃ point more after, text = point :: more
      ∧ readQuoted? n after = some (more, rest)
      ∧ ((∃ c, point = .char c)
        ∨ ∃ escaped, s = '\\' :: 'u' :: escaped ∧ readEscaped? escaped = some (point, after)) := by
  unfold readQuoted? at h
  split at h
  · exact absurd (by assumption : n + 1 = 0) (Nat.succ_ne_zero n)
  · exact nomatch h
  · exact Or.inl (Prod.mk.inj (Option.some.inj h)).1.symm
  · next escaped he =>
      obtain rfl := Nat.succ.inj he
      obtain ⟨⟨point, after⟩, hpoint, h⟩ := Option.bind_eq_some_iff.1 h
      obtain ⟨⟨more, last⟩, hmore, h⟩ := Option.bind_eq_some_iff.1 h
      obtain ⟨rfl, rfl⟩ := Prod.mk.inj (Option.some.inj h)
      exact Or.inr ⟨point, more, after, rfl, hmore, Or.inr ⟨escaped, rfl, hpoint⟩⟩
  · next he =>
      obtain rfl := Nat.succ.inj he
      obtain ⟨c, -, h⟩ := Option.bind_eq_some_iff.1 h
      obtain ⟨⟨more, last⟩, hmore, h⟩ := Option.bind_eq_some_iff.1 h
      obtain ⟨rfl, rfl⟩ := Prod.mk.inj (Option.some.inj h)
      exact Or.inr ⟨_, more, _, rfl, hmore, Or.inl ⟨c, rfl⟩⟩
  · next he =>
      obtain rfl := Nat.succ.inj he
      split at h
      · exact nomatch h
      · obtain ⟨⟨more, last⟩, hmore, h⟩ := Option.bind_eq_some_iff.1 h
        obtain ⟨rfl, rfl⟩ := Prod.mk.inj (Option.some.inj h)
        exact Or.inr ⟨_, more, _, rfl, hmore, Or.inl ⟨_, rfl⟩⟩

/-- A text whose first point does not join with the second is joined if what follows is. -/
theorem joined_cons {point : CodePoint} {more : Points}
    (h : ∀ high low rest, point = .half high → more = .half low :: rest →
      ¬ ((high : Nat) < 0x400 ∧ 0x400 ≤ (low : Nat))) :
    Points.joined (point :: more) = point :: Points.joined more := by
  rw [Points.joined.eq_def]
  split
  · next high low rest he =>
      obtain ⟨rfl, rfl⟩ := List.cons.inj he
      exact if_neg (h high low rest rfl rfl)
  · next he =>
      obtain ⟨rfl, rfl⟩ := List.cons.inj he
      rfl
  · next he => exact nomatch he

/-- **A text that is read holds no halves to be joined**: a low half that follows a high one is read
    together with it. -/
theorem joined_of_readQuoted? {n : Nat} {s rest : Text} {text : Points}
    (h : readQuoted? n s = some (text, rest)) : Points.joined text = text := by
  have hzero {s : Text} {found : Points × Text} : readQuoted? 0 s ≠ some found :=
    (readQuoted?_zero s).trans_ne (Option.some_ne_none found).symm
  induction n generalizing s text with
  | zero => exact absurd h hzero
  | succ n ih =>
      obtain rfl | ⟨point, more, after, rfl, hmore, hpoint⟩ := readQuoted?_succ_eq_some h
      · rfl
      · rw [joined_cons, ih hmore]
        rintro high low tail rfl rfl ⟨hhigh, hlow⟩
        obtain ⟨c, hc⟩ | ⟨escaped, -, hescaped⟩ := hpoint
        · exact CodePoint.noConfusion hc
        · -- the low half is escaped right behind the high one
          have hnone := (readEscaped?_eq_half hescaped).2 hhigh
          cases n with
          | zero => exact absurd hmore hzero
          | succ n =>
              obtain hnil | ⟨point, more, after', hcons, -, hpoint⟩ :=
                readQuoted?_succ_eq_some hmore
              · exact List.cons_ne_nil _ _ hnil
              · obtain ⟨rfl, rfl⟩ := List.cons.inj hcons
                obtain ⟨c, hc⟩ | ⟨escaped', rfl, hescaped'⟩ := hpoint
                · exact CodePoint.noConfusion hc
                · exact Option.some_ne_none _ ((readLow?_of_escaped hescaped' hlow).symm.trans hnone)

/-! ## Documents -/

theorem settledFields_ofPairs {pairs : Fields}
    (h : ∀ field ∈ pairs, Points.joined field.1 = field.1 ∧ Settled field.2) :
    SettledFields (Assoc.ofPairs pairs) :=
  ⟨Assoc.nodup_keys_ofPairs pairs, fun field hf => (h field (Assoc.mem_of_mem_ofPairs hf)).1,
    fun field hf => (h field (Assoc.mem_of_mem_ofPairs hf)).2⟩

theorem ofReader_settled : OfReader fun doc => Settled doc ∧ SettledFields doc.fields where
  str text h := by
    obtain ⟨n, s, rest, hread⟩ := h
    exact ⟨⟨trivial, congrArg Json.str (joined_of_readQuoted? hread)⟩, settledFields_nil⟩
  constant constant h := by
    rcases constant with ⟨word, value⟩
    simp only [constants, List.mem_cons, Prod.mk.injEq, List.not_mem_nil, or_false] at h
    rcases h with ⟨-, rfl⟩ | ⟨-, rfl⟩ | ⟨-, rfl⟩ | ⟨-, rfl⟩ | ⟨-, rfl⟩ | ⟨-, rfl⟩
    all_goals exact ⟨⟨trivial, rfl⟩, settledFields_nil⟩
  number s doc rest h := by
    obtain ⟨number, rfl, hshort⟩ | ⟨number, rfl⟩ := readNumber_eq_ok h
    · exact ⟨⟨hshort, rfl⟩, settledFields_nil⟩
    · exact ⟨⟨trivial, rfl⟩, settledFields_nil⟩
  list _ h := ⟨settled_list fun item hi => (h item hi).1, settledFields_nil⟩
  object pairs h := by
    have hfields : SettledFields (Assoc.ofPairs pairs) := by
      refine settledFields_ofPairs fun field hf => ?_
      obtain ⟨⟨n, s, rest, hread⟩, hvalue, -⟩ := h field hf
      exact ⟨joined_of_readQuoted? hread, hvalue⟩
    exact ⟨settled_object hfields, hfields⟩

/-- **What is read reads back as it is** when it is written again. -/
theorem settled_of_read {s : Text} {doc : Json} (h : read s = .ok doc) : Settled doc :=
  (ofReader_settled.of_read h).1

theorem settledFields_of_read {s : Text} {doc : Json} (h : read s = .ok doc) :
    SettledFields doc.fields := (ofReader_settled.of_read h).2

/-! ## Names that stand once -/

mutual

/-- Whether each object of a document holds each of its names once. -/
def NamesOnce : Json → Prop
  | .list items => NamesOnceItems items
  | .object fields => (Assoc.keys fields).Nodup ∧ NamesOnceFields fields
  | _ => True

/-- Whether each object of some items holds each of its names once. -/
def NamesOnceItems : List Json → Prop
  | [] => True
  | item :: items => NamesOnce item ∧ NamesOnceItems items

/-- Whether each object of some fields holds each of its names once. -/
def NamesOnceFields : List (Points × Json) → Prop
  | [] => True
  | (_, value) :: fields => NamesOnce value ∧ NamesOnceFields fields

end

theorem namesOnceFields_iff {fields : Fields} :
    NamesOnceFields fields ↔ ∀ field ∈ fields, NamesOnce field.2 := by
  induction fields with
  | nil => simp [NamesOnceFields]
  | cons field fields ih => rw [NamesOnceFields, ih, List.forall_mem_cons]

mutual

/-- **A document that reads back as it is holds each name of an object once.** -/
theorem namesOnce_of_settled : ∀ doc : Json, Settled doc → NamesOnce doc
  | .null, _ => trivial
  | .bool _, _ => trivial
  | .int _, _ => trivial
  | .float _, _ => trivial
  | .str _, _ => trivial
  | .list items, h => namesOnceItems_of_settled items (settled_list_iff.1 h)
  | .object fields, h =>
      have hfields := settled_object_iff.1 h
      ⟨hfields.nodup, namesOnceFields_of_settled fields hfields.settled⟩

theorem namesOnceItems_of_settled : ∀ items : List Json, (∀ item ∈ items, Settled item) →
    NamesOnceItems items
  | [], _ => trivial
  | item :: items, h =>
      ⟨namesOnce_of_settled item (h item List.mem_cons_self),
        namesOnceItems_of_settled items fun other ho => h other (List.mem_cons_of_mem item ho)⟩

theorem namesOnceFields_of_settled : ∀ fields : List (Points × Json),
    (∀ field ∈ fields, Settled field.2) → NamesOnceFields fields
  | [], _ => trivial
  | (name, value) :: fields, h =>
      ⟨namesOnce_of_settled value (h (name, value) List.mem_cons_self),
        namesOnceFields_of_settled fields fun other ho => h other (List.mem_cons_of_mem _ ho)⟩

end

/-- **Each object of a document that is read holds each of its names once.** -/
theorem namesOnce_of_read {s : Text} {doc : Json} (h : read s = .ok doc) : NamesOnce doc :=
  namesOnce_of_settled doc (settled_of_read h)

end ApiScan.Json
