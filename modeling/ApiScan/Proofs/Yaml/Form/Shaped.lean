import ApiScan.Proofs.Json.Read
import ApiScan.Proofs.Yaml.Form.Parsed
import ApiScan.Yaml.Draft

set_option autoImplicit false

/-! # The shapes of nodes

A node that spells a document is a scalar that has a value, a sequence of such nodes, or a mapping of
texts to such nodes in which no text stands twice. -/

namespace ApiScan.Yaml

/-! ## Values of documents -/

namespace Value

mutual

/-- The value that a document stands for. -/
def ofJson : Json → Value
  | .null => .null
  | .bool value => .bool value
  | .int value => .int value
  | .float value => .float value
  | .str s => .str s
  | .list items => .list (ofItems items)
  | .object fields => .map (ofFields fields)

/-- The values of items. -/
def ofItems : List Json → List Value
  | [] => []
  | item :: items => ofJson item :: ofItems items

/-- The values of fields under their names. -/
def ofFields : List (Points × Json) → List (Value × Value)
  | [] => []
  | (name, value) :: fields => (.str name, ofJson value) :: ofFields fields

end

end Value

/-! ## Readable documents -/

/-- Whether the whole numbers of a document can be read, and each name stands once in its object. -/
structure Readable (doc : Json) : Prop where
  allShort : Json.AllShort doc
  namesOnce : Json.NamesOnce doc

variable {nodes : Nodes} {number : Nat}

theorem ofPlain_constants : Tag.ofPlain "null".toList = .null ∧ Tag.ofPlain "true".toList = .bool
    ∧ Tag.ofPlain "false".toList = .bool := by decide

theorem scalarTag_plain (s : Text) : Document.scalarTag none (Points.ofText s) true = Tag.ofPlain s := by
  show Tag.ofPoints (Points.ofText s) = _
  rw [Tag.ofPoints, Points.toText?_ofText]

/-- The tags of scalars that a document may hold. -/
def IsScalarTag (tag : Tag) : Prop := tag = .null ∨ tag = .bool ∨ tag = .int ∨ tag = .str

theorem readScalar_of_spellsScalar {doc : Json} (hshort : Json.AllShort doc)
    (h : SpellsScalar nodes number doc) :
    ∃ tag text, nodes[number]? = some ⟨tag, .scalar text⟩ ∧ IsScalarTag tag
      ∧ readScalar tag text = .ok (Value.ofJson doc) := by
  obtain ⟨s, plain, hdoc, hnode⟩ := h
  refine ⟨_, _, hnode, ?_⟩
  cases doc with
  | null =>
      obtain ⟨rfl, rfl⟩ := Prod.mk.inj (Option.some.inj hdoc)
      rw [scalarTag_plain, ofPlain_constants.1]
      exact ⟨.inl rfl, rfl⟩
  | bool value =>
      cases value with
      | true =>
          obtain ⟨rfl, rfl⟩ := Prod.mk.inj (Option.some.inj hdoc)
          rw [scalarTag_plain, ofPlain_constants.2.1]
          exact ⟨.inr (.inl rfl), rfl⟩
      | false =>
          obtain ⟨rfl, rfl⟩ := Prod.mk.inj (Option.some.inj hdoc)
          rw [scalarTag_plain, ofPlain_constants.2.2]
          exact ⟨.inr (.inl rfl), rfl⟩
  | int value =>
      obtain ⟨rfl, rfl⟩ := Prod.mk.inj (Option.some.inj hdoc)
      rw [scalarTag_plain, ofPlain_ofInt]
      refine ⟨.inr (.inr (.inl rfl)), ?_⟩
      rw [readScalar, readInt_ofInt hshort]
      rfl
  | float value => cases hdoc
  | str points =>
      obtain ⟨t, ht, hpair⟩ := Option.map_eq_some_iff.1 hdoc
      obtain ⟨rfl, rfl⟩ := Prod.mk.inj hpair
      have htag := Document.scalarTag_nameToken points
      rw [Style.ofPoints, ht] at htag
      rw [← Points.toText?_eq_some_iff.1 ht, isPlainText, htag]
      exact ⟨.inr (.inr (.inr rfl)), rfl⟩
  | list items => cases hdoc
  | object fields => cases hdoc

/-! ## Shapes of nodes -/

/-- Whether a node spells a readable document. -/
def Good (nodes : Nodes) (number : Nat) : Prop := ∃ doc, Readable doc ∧ Spells nodes number doc

/-- The text of a key. -/
def keyText (nodes : Nodes) (key : Nat) : Points :=
  match nodes.contentOf key with
  | .scalar text => text
  | _ => []

/-- The nodes that spell a readable document, one level deep. -/
inductive Shape (nodes : Nodes) : Node → Prop
  | scalar {tag : Tag} {text : Points} {value : Value} (htag : IsScalarTag tag)
      (hvalue : readScalar tag text = .ok value) : Shape nodes ⟨tag, .scalar text⟩
  | sequence {numbers : List Nat} (h : ∀ number ∈ numbers, Good nodes number) :
      Shape nodes ⟨.seq, .sequence numbers⟩
  | mapping {entries : List (Nat × Nat)}
      (hkeys : ∀ entry ∈ entries, Good nodes entry.1
        ∧ nodes[entry.1]? = some ⟨.str, .scalar (keyText nodes entry.1)⟩)
      (hvalues : ∀ entry ∈ entries, Good nodes entry.2)
      (hnodup : (entries.map fun entry => keyText nodes entry.1).Nodup) :
      Shape nodes ⟨.map, .mapping entries⟩

theorem good_of_spellsItems {above : Nat} {items : List Json} {numbers : List Nat}
    (hshort : Json.AllShortItems items) (honce : Json.NamesOnceItems items)
    (h : SpellsItems nodes above numbers items) : ∀ number ∈ numbers, Good nodes number := by
  induction items generalizing numbers with
  | nil =>
      obtain rfl : numbers = [] := h
      exact fun _ hn => absurd hn List.not_mem_nil
  | cons item items ih =>
      obtain ⟨number, rest, rfl, -, hitem, hrest⟩ := h
      exact List.forall_mem_cons.2 ⟨⟨item, ⟨hshort.1, honce.1⟩, hitem⟩, ih hshort.2 honce.2 hrest⟩

/-- A name is a key of its own. -/
theorem key_of_spellsScalar {name : Points} (h : SpellsScalar nodes number (.str name)) :
    Good nodes number ∧ keyText nodes number = name
      ∧ nodes[number]? = some ⟨.str, .scalar (keyText nodes number)⟩ := by
  refine ⟨⟨.str name, ⟨trivial, trivial⟩, h⟩, ?_⟩
  obtain ⟨s, plain, hdoc, hnode⟩ := h
  obtain ⟨t, ht, hpair⟩ := Option.map_eq_some_iff.1 hdoc
  obtain ⟨rfl, rfl⟩ := Prod.mk.inj hpair
  have htag := Document.scalarTag_nameToken name
  rw [Style.ofPoints, ht] at htag
  rw [← Points.toText?_eq_some_iff.1 ht, isPlainText, htag] at hnode
  have htext : keyText nodes number = name := by
    have hget : nodes.getD number Node.absent = ⟨.str, .scalar name⟩ := by
      rw [Array.getD_eq_getD_getElem?, hnode]
      rfl
    rw [keyText, Nodes.contentOf, hget]
  exact ⟨htext, htext ▸ hnode⟩

theorem good_of_spellsFields {above : Nat} {fields : List (Points × Json)} {entries : List (Nat × Nat)}
    (hshort : Json.AllShortFields fields) (honce : Json.NamesOnceFields fields)
    (h : SpellsFields nodes above entries fields) :
    (∀ entry ∈ entries, Good nodes entry.1
        ∧ nodes[entry.1]? = some ⟨.str, .scalar (keyText nodes entry.1)⟩)
      ∧ (∀ entry ∈ entries, Good nodes entry.2)
      ∧ (entries.map fun entry => keyText nodes entry.1) = Assoc.keys fields := by
  induction fields generalizing entries with
  | nil =>
      obtain rfl : entries = [] := h
      exact ⟨fun _ hn => absurd hn List.not_mem_nil, fun _ hn => absurd hn List.not_mem_nil, rfl⟩
  | cons field fields ih =>
      obtain ⟨name, value⟩ := field
      obtain ⟨key, number, rest, rfl, -, -, hname, hvalue, hrest⟩ := h
      obtain ⟨hgood, htext, hnode⟩ := key_of_spellsScalar hname
      obtain ⟨hkeys, hvalues, htexts⟩ := ih hshort.2 honce.2 hrest
      refine ⟨List.forall_mem_cons.2 ⟨⟨hgood, hnode⟩, hkeys⟩,
        List.forall_mem_cons.2 ⟨⟨value, ⟨hshort.1, honce.1⟩, hvalue⟩, hvalues⟩, ?_⟩
      rw [List.map_cons, htexts, htext]
      rfl

theorem Good.exists_shape (h : Good nodes number) :
    ∃ node, nodes[number]? = some node ∧ Shape nodes node := by
  have hscalar {doc : Json} (hshort : Json.AllShort doc) (h : SpellsScalar nodes number doc) :
      ∃ node, nodes[number]? = some node ∧ Shape nodes node := by
    obtain ⟨tag, text, hnode, htag, hvalue⟩ := readScalar_of_spellsScalar hshort h
    exact ⟨_, hnode, .scalar htag hvalue⟩
  obtain ⟨doc, hread, h⟩ := h
  cases doc with
  | null | bool | int | float | str => exact hscalar hread.allShort h
  | list items =>
      obtain ⟨numbers, hnode, hitems⟩ := h
      exact ⟨_, hnode, .sequence (good_of_spellsItems hread.allShort hread.namesOnce hitems)⟩
  | object fields =>
      obtain ⟨entries, hnode, hfields⟩ := h
      obtain ⟨hkeys, hvalues, htexts⟩ :=
        good_of_spellsFields hread.allShort hread.namesOnce.2 hfields
      exact ⟨_, hnode, .mapping hkeys hvalues (htexts ▸ hread.namesOnce.1)⟩

end ApiScan.Yaml
