import ApiScan.Proofs.Text.Utf8
import ApiScan.Proofs.Yaml.Form.Drafted

set_option autoImplicit false

/-! # Documents that read back

The text of a document is read as the value that the document stands for. Nothing in it refers
outward, because a node holds only nodes behind it. -/

namespace ApiScan.Yaml

variable {nodes : Nodes} {number : Nat}

namespace Drafts

variable {made : Drafts}

/-! ## Values -/

theorem valueOf_of_isValue {n : Nat} {around : List (Option Nat)} {tag : Tag} {text : Points} {value : Value}
    (hnode : nodes[number]? = some ⟨tag, .scalar text⟩) (hvalue : readScalar tag text = .ok value)
    (hfilled : Filled nodes made number) (haround : around.idxOf? (some number) = none) :
    made.valueOf (n + 1) around number = value := by
  have hdraft : made.draft? number = some (.scalar value) := by
    cases hfilled with
    | scalar h =>
        obtain ⟨tag', text', value', hnode', hvalue', hdraft⟩ := h
        obtain ⟨rfl, hcontent⟩ := Node.mk.inj (Option.some.inj (hnode.symm.trans hnode'))
        obtain rfl := Content.scalar.inj hcontent
        obtain rfl := Except.ok.inj (hvalue.symm.trans hvalue')
        exact hdraft
    | list hnode' => cases Option.some.inj (hnode.symm.trans hnode')
    | map hnode' => cases Option.some.inj (hnode.symm.trans hnode')
  rw [valueOf, haround, hdraft]

/-- Whether some collections stand before a number. -/
def Before (number : Nat) (around : List (Option Nat)) : Prop :=
  ∀ place ∈ around, ∃ m, place = some m ∧ m < number

theorem Before.idxOf?_eq_none {around : List (Option Nat)} (h : Before number around) :
    around.idxOf? (some number) = none := by
  rw [List.idxOf?_eq_none_iff]
  intro hmem
  obtain ⟨m, he, hlt⟩ := h _ hmem
  obtain rfl := Option.some.inj he
  exact absurd hlt (Nat.lt_irrefl _)

theorem Before.cons {around : List (Option Nat)} {inner : Nat} (h : Before number around)
    (hlt : number < inner) : Before inner (some number :: around) := by
  refine List.forall_mem_cons.2 ⟨⟨number, rfl, hlt⟩, fun place hplace => ?_⟩
  obtain ⟨m, rfl, hm⟩ := h place hplace
  exact ⟨m, rfl, hm.trans hlt⟩

theorem valueOf_of_spellsScalar {doc : Json} {n : Nat} {around : List (Option Nat)}
    (hshort : Json.AllShort doc) (h : SpellsScalar nodes number doc) (hfilled : Filled nodes made number)
    (haround : Before number around) : made.valueOf (n + 1) around number = Value.ofJson doc := by
  obtain ⟨tag, text, hnode, -, hvalue⟩ := readScalar_of_spellsScalar hshort h
  exact valueOf_of_isValue hnode hvalue hfilled haround.idxOf?_eq_none

mutual

/-- **The value of a node that spells a document** is that of the document. -/
theorem valueOf_of_spells : ∀ (doc : Json) {number n : Nat} {around : List (Option Nat)},
    (∀ number, made.draft? number ≠ none → Filled nodes made number) → Json.AllShort doc →
    Spells nodes number doc → made.draft? number ≠ none → Before number around →
    nodes.size ≤ n + number → made.valueOf (n + 1) around number = Value.ofJson doc
  | .null, _, _, _, hall, hshort, h, hdrafted, haround, _ =>
      valueOf_of_spellsScalar hshort h (hall _ hdrafted) haround
  | .bool _, _, _, _, hall, hshort, h, hdrafted, haround, _ =>
      valueOf_of_spellsScalar hshort h (hall _ hdrafted) haround
  | .int _, _, _, _, hall, hshort, h, hdrafted, haround, _ =>
      valueOf_of_spellsScalar hshort h (hall _ hdrafted) haround
  | .float _, _, _, _, hall, hshort, h, hdrafted, haround, _ =>
      valueOf_of_spellsScalar hshort h (hall _ hdrafted) haround
  | .str _, _, _, _, hall, hshort, h, hdrafted, haround, _ =>
      valueOf_of_spellsScalar hshort h (hall _ hdrafted) haround
  | .list items, number, n, around, hall, hshort, h, hdrafted, haround, hn => by
      obtain ⟨numbers, hnode, hitems⟩ := h
      obtain ⟨hdraft, hinner⟩ : made.draft? number = some (.list numbers)
          ∧ ∀ item ∈ numbers, made.draft? item ≠ none := by
        cases hall number hdrafted with
        | scalar h =>
            obtain ⟨tag, text, value, hnode', -⟩ := h
            cases Option.some.inj (hnode.symm.trans hnode')
        | list hnode' hdraft h =>
            obtain ⟨-, hcontent⟩ := Node.mk.inj (Option.some.inj (hnode.symm.trans hnode'))
            obtain rfl := Content.sequence.inj hcontent
            exact ⟨hdraft, h⟩
        | map hnode' => cases Option.some.inj (hnode.symm.trans hnode')
      have hlt := lt_size_of_getElem? hnode
      obtain ⟨n, rfl⟩ := Nat.exists_eq_add_one_of_ne_zero (show n ≠ 0 by omega)
      rw [valueOf, haround.idxOf?_eq_none, hdraft, Value.ofJson]
      exact congrArg Value.list (valuesOf_of_spellsItems items hall hshort hitems hinner haround (by omega))
  | .object fields, number, n, around, hall, hshort, h, hdrafted, haround, hn => by
      obtain ⟨entries, hnode, hfields⟩ := h
      obtain ⟨hdraft, hinner⟩ : made.draft? number = some (.map entries)
          ∧ ∀ entry ∈ entries, made.draft? entry.1 ≠ none ∧ made.draft? entry.2 ≠ none := by
        cases hall number hdrafted with
        | scalar h =>
            obtain ⟨tag, text, value, hnode', -⟩ := h
            cases Option.some.inj (hnode.symm.trans hnode')
        | list hnode' => cases Option.some.inj (hnode.symm.trans hnode')
        | map hnode' hdraft h =>
            obtain ⟨-, hcontent⟩ := Node.mk.inj (Option.some.inj (hnode.symm.trans hnode'))
            obtain rfl := Content.mapping.inj hcontent
            exact ⟨hdraft, h⟩
      have hlt := lt_size_of_getElem? hnode
      obtain ⟨n, rfl⟩ := Nat.exists_eq_add_one_of_ne_zero (show n ≠ 0 by omega)
      rw [valueOf, haround.idxOf?_eq_none, hdraft, Value.ofJson]
      exact congrArg Value.map (valuesOf_of_spellsFields fields hall hshort hfields hinner haround (by omega))

theorem valuesOf_of_spellsItems : ∀ (items : List Json) {number n : Nat} {numbers : List Nat}
    {around : List (Option Nat)}, (∀ number, made.draft? number ≠ none → Filled nodes made number) →
    Json.AllShortItems items → SpellsItems nodes number numbers items →
    (∀ item ∈ numbers, made.draft? item ≠ none) → Before number around → nodes.size ≤ n + 1 + number →
    numbers.map (made.valueOf (n + 1) (some number :: around)) = Value.ofItems items
  | [], _, _, _, _, _, _, h, _, _, _ => by
      obtain rfl : _ = [] := h
      rfl
  | item :: items, number, n, _, around, hall, hshort, h, hdrafted, haround, hn => by
      obtain ⟨inner, rest, rfl, hlt, hitem, hrest⟩ := h
      obtain ⟨hinner, hdrafted⟩ := List.forall_mem_cons.1 hdrafted
      rw [List.map_cons, Value.ofItems,
        valueOf_of_spells item hall hshort.1 hitem hinner (haround.cons hlt) (by omega),
        valuesOf_of_spellsItems items hall hshort.2 hrest hdrafted haround hn]

theorem valuesOf_of_spellsFields : ∀ (fields : List (Points × Json)) {number n : Nat}
    {entries : List (Nat × Nat)} {around : List (Option Nat)},
    (∀ number, made.draft? number ≠ none → Filled nodes made number) → Json.AllShortFields fields →
    SpellsFields nodes number entries fields →
    (∀ entry ∈ entries, made.draft? entry.1 ≠ none ∧ made.draft? entry.2 ≠ none) →
    Before number around → nodes.size ≤ n + 1 + number →
    (entries.map fun (key, value) => (made.valueOf (n + 1) (some number :: around) key,
      made.valueOf (n + 1) (some number :: around) value)) = Value.ofFields fields
  | [], _, _, _, _, _, _, h, _, _, _ => by
      obtain rfl : _ = [] := h
      rfl
  | (name, value) :: fields, number, n, _, around, hall, hshort, h, hdrafted, haround, hn => by
      obtain ⟨key, inner, rest, rfl, hkey, hlt, hname, hvalue, hrest⟩ := h
      obtain ⟨⟨hkeyDrafted, hinner⟩, hdrafted⟩ := List.forall_mem_cons.1 hdrafted
      have hshortName : Json.AllShort (.str name) := trivial
      have hkeyValue : made.valueOf (n + 1) (some number :: around) key = .str name :=
        valueOf_of_spellsScalar hshortName hname (hall key hkeyDrafted) (haround.cons hkey)
      rw [List.map_cons, Value.ofFields,
        valuesOf_of_spellsFields fields hall hshort.2 hrest hdrafted haround hn]
      show (made.valueOf (n + 1) (some number :: around) key,
        made.valueOf (n + 1) (some number :: around) inner) :: _ = _
      rw [hkeyValue, valueOf_of_spells value hall hshort.1 hvalue hinner (haround.cons hlt) (by omega)]

end

end Drafts

namespace Drafts

/-- The drafts before any node is met. -/
def start (nodes : Nodes) : Drafts :=
  ⟨nodes, Nodes.mergeBound nodes, Array.replicate nodes.size none, #[]⟩

theorem draft?_start (nodes : Nodes) (number : Nat) : (start nodes).draft? number = none := by
  unfold draft? start
  rw [Array.getD_eq_getD_getElem?, Array.getElem?_replicate]
  split <;> rfl

theorem fits_start (nodes : Nodes) : Fits nodes (start nodes) where
  nodes_eq := rfl
  bound := by
    show 2 ≤ (_ + 1) * (_ + 4)
    calc 2 ≤ 1 * 4 := by decide
      _ ≤ _ := Nat.mul_le_mul (Nat.le_add_left 1 _) (Nat.le_add_left 4 _)
  size_eq := Array.size_replicate
  good number h := absurd (draft?_start nodes number) h
  known number h := absurd (draft?_start nodes number) h
  nodup := List.nodup_nil
  met number h := absurd h (Array.not_mem_empty number)

end Drafts

/-- **The value of a document whose nodes spell it.** -/
theorem Document.value_of_spells {doc : Json} (hdoc : Readable doc) (h : Spells nodes 0 doc) :
    Document.value ⟨nodes, 0⟩ = .ok (Value.ofJson doc) := by
  obtain ⟨draft, made, hmeet, hfits, -, hdraft⟩ :=
    Drafts.meet_of_good (Drafts.fits_start nodes) ⟨doc, hdoc, h⟩
  obtain ⟨made', hfill, hfits', hfilled, hdrafted⟩ := Drafts.fillFrom_of_fits nodes.size hfits
    (Nat.le_refl nodes.size) fun k _ hk => absurd hk (Nat.not_lt_zero k)
  have hall : ∀ number, made'.draft? number ≠ none → Drafts.Filled nodes made' number := by
    intro number hnumber
    rcases hfits'.known number hnumber with hmet | hvalue
    · exact hfilled number hmet
    · exact .scalar hvalue
  have hroot : made'.draft? 0 ≠ none := hdrafted 0 (by rw [hdraft]; exact Option.some_ne_none draft)
  have hran : (do
      let _ ← Drafts.meet 0
      Drafts.fillFrom nodes.size 0 : Drafts.Make Unit) (Drafts.start nodes) = .ok ((), made') :=
    Document.ran_bind.2 ⟨draft, made, hmeet, hfill⟩
  have hvalue := Drafts.valueOf_of_spells doc hall hdoc.allShort h hroot
    (fun _ hplace => absurd hplace List.not_mem_nil) (Nat.le_refl nodes.size)
  unfold Document.value
  show (do
      let _ ← Drafts.meet 0
      Drafts.fillFrom nodes.size 0 : Drafts.Make Unit) (Drafts.start nodes) >>= _ = _
  rw [hran]
  exact congrArg Except.ok hvalue

/-! ## Texts -/

section
variable {fields : List (Points × Json)}

/-- **A kept document reads back.** The text of an object with whole numbers, whose texts are made of
    whole characters and kept where they stand, is read as its value. -/
theorem Value.ofText_text (hne : fields ≠ []) (hwhole : Json.WholeFields fields)
    (hkept : KeptFields 0 fields) (hread : Readable (.object fields)) :
    Value.ofText (text (.object fields)) = .ok (Value.ofJson (.object fields)) := by
  obtain ⟨out, hform, htext⟩ := exists_text hne hwhole hkept
  obtain ⟨nodes, hnodes, hspells⟩ := Document.ofText?_of_fieldsForm hform hne hwhole
  rw [htext, Value.ofText, hnodes]
  exact Document.value_of_spells hread hspells

/-- Between single quotes a next-line character is a line break, which is read as a blank. -/
example :
    (match Value.ofText (text (.record [("title", .str ↑"a\x85b".toList)])) with
      | .ok (.map [(_, .str s)]) => decide (s = "a b".toList)
      | _ => false) = true := by
  decide +kernel

/-- A key of few characters may be written in more than a reader looks back. -/
example :
    (match Value.ofText (text (.object [(List.replicate 103 (.char (Char.ofNat 0x10FFFF)), .null)])) with
      | .error .malformed => true
      | _ => false) = true := by
  decide +kernel

/-- A kept document comes back from a file as it was written. -/
theorem unifyBreaks_text (hne : fields ≠ []) (hwhole : Json.WholeFields fields)
    (hkept : KeptFields 0 fields) :
    Text.unifyBreaks (text (.object fields)) = text (.object fields) := by
  obtain ⟨out, hform, htext⟩ := exists_text hne hwhole hkept
  have hgap : ∀ c ∈ ([] : Text), isWritten c = true := fun c hc => absurd hc List.not_mem_nil
  have hout := isWritten_of_fieldsForm fields hgap hform
  refine Text.unifyBreaks_eq_self fun hreturn => ?_
  rw [htext, List.mem_append, List.mem_singleton] at hreturn
  rcases hreturn with hreturn | hreturn
  · exact absurd (hout '\r' hreturn) (by decide)
  · exact absurd hreturn (by decide)

end

end ApiScan.Yaml
