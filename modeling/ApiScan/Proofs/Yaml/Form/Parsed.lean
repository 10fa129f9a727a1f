import ApiScan.Proofs.Yaml.Balance
import ApiScan.Proofs.Yaml.Form.Spelled

set_option autoImplicit false

/-! # The nodes of a document

The tokens of a document are read as nodes that spell it. The nodes inside a collection are numbered
behind the collection itself, so that no collection holds itself. -/

namespace ApiScan.Yaml

/-! ## Spelling -/

/-- Whether the node of a number spells a scalar. -/
def SpellsScalar (nodes : Array Node) (number : Nat) (doc : Json) : Prop :=
  ∃ s plain, scalarText? doc = some (s, plain)
    ∧ nodes[number]? = some ⟨Document.scalarTag none (Points.ofText s) plain, .scalar (Points.ofText s)⟩

mutual

/-- Whether the node of a number spells a document. -/
def Spells (nodes : Array Node) (number : Nat) : Json → Prop
  | .list items => ∃ numbers, nodes[number]? = some ⟨.seq, .sequence numbers⟩
    ∧ SpellsItems nodes number numbers items
  | .object fields => ∃ entries, nodes[number]? = some ⟨.map, .mapping entries⟩
    ∧ SpellsFields nodes number entries fields
  | .null => SpellsScalar nodes number .null
  | .bool value => SpellsScalar nodes number (.bool value)
  | .int value => SpellsScalar nodes number (.int value)
  | .float value => SpellsScalar nodes number (.float value)
  | .str s => SpellsScalar nodes number (.str s)

/-- Whether the nodes of some numbers behind a given one spell items. -/
def SpellsItems (nodes : Array Node) (above : Nat) (numbers : List Nat) : List Json → Prop
  | [] => numbers = []
  | item :: items => ∃ number rest, numbers = number :: rest ∧ above < number
    ∧ Spells nodes number item ∧ SpellsItems nodes above rest items

/-- Whether the nodes of some pairs of numbers behind a given one spell fields. -/
def SpellsFields (nodes : Array Node) (above : Nat) (entries : List (Nat × Nat)) :
    List (Points × Json) → Prop
  | [] => entries = []
  | (name, value) :: fields => ∃ key number rest, entries = (key, number) :: rest ∧ above < key
    ∧ above < number ∧ SpellsScalar nodes key (.str name) ∧ Spells nodes number value
    ∧ SpellsFields nodes above rest fields

end

/-- Whether the nodes from a number on are still there. -/
def KeepsFrom (number : Nat) (nodes nodes' : Array Node) : Prop :=
  ∀ i node, number ≤ i → nodes[i]? = some node → nodes'[i]? = some node

variable {nodes nodes' nodes'' : Array Node}

theorem KeepsFrom.trans {number : Nat} (h : KeepsFrom number nodes nodes')
    (h' : KeepsFrom number nodes' nodes'') : KeepsFrom number nodes nodes'' :=
  fun i node hi hnode => h' i node hi (h i node hi hnode)

theorem KeepsFrom.mono {number number' : Nat} (h : KeepsFrom number nodes nodes')
    (hle : number ≤ number') : KeepsFrom number' nodes nodes' :=
  fun i node hi hnode => h i node (hle.trans hi) hnode

theorem SpellsScalar.mono {number : Nat} {doc : Json} (hkeeps : KeepsFrom number nodes nodes')
    (h : SpellsScalar nodes number doc) : SpellsScalar nodes' number doc := by
  obtain ⟨s, plain, hdoc, hnode⟩ := h
  exact ⟨s, plain, hdoc, hkeeps _ _ (Nat.le_refl _) hnode⟩

mutual

/-- Only the nodes from that of a document on matter to it. -/
theorem Spells.mono : ∀ {doc : Json} {number : Nat}, KeepsFrom number nodes nodes' →
    Spells nodes number doc → Spells nodes' number doc
  | .null, _, hkeeps, h => SpellsScalar.mono hkeeps h
  | .bool _, _, hkeeps, h => SpellsScalar.mono hkeeps h
  | .int _, _, hkeeps, h => SpellsScalar.mono hkeeps h
  | .float _, _, hkeeps, h => SpellsScalar.mono hkeeps h
  | .str _, _, hkeeps, h => SpellsScalar.mono hkeeps h
  | .list _, _, hkeeps, h => by
      obtain ⟨numbers, hnode, hitems⟩ := h
      exact ⟨numbers, hkeeps _ _ (Nat.le_refl _) hnode,
        SpellsItems.mono (hkeeps.mono (Nat.le_succ _)) hitems⟩
  | .object _, _, hkeeps, h => by
      obtain ⟨entries, hnode, hfields⟩ := h
      exact ⟨entries, hkeeps _ _ (Nat.le_refl _) hnode,
        SpellsFields.mono (hkeeps.mono (Nat.le_succ _)) hfields⟩

theorem SpellsItems.mono : ∀ {items : List Json} {above : Nat} {numbers : List Nat},
    KeepsFrom (above + 1) nodes nodes' → SpellsItems nodes above numbers items →
    SpellsItems nodes' above numbers items
  | [], _, _, _, h => h
  | _ :: _, _, _, hkeeps, h => by
      obtain ⟨number, rest, rfl, habove, hitem, hitems⟩ := h
      exact ⟨number, rest, rfl, habove, Spells.mono (hkeeps.mono habove) hitem,
        SpellsItems.mono hkeeps hitems⟩

theorem SpellsFields.mono : ∀ {fields : List (Points × Json)} {above : Nat} {entries : List (Nat × Nat)},
    KeepsFrom (above + 1) nodes nodes' → SpellsFields nodes above entries fields →
    SpellsFields nodes' above entries fields
  | [], _, _, _, h => h
  | (_, _) :: _, _, _, hkeeps, h => by
      obtain ⟨key, number, rest, rfl, hkey, hnumber, hname, hvalue, hfields⟩ := h
      exact ⟨key, number, rest, rfl, hkey, hnumber, hname.mono (hkeeps.mono hkey),
        Spells.mono (hkeeps.mono hnumber) hvalue, SpellsFields.mono hkeeps hfields⟩

end

namespace Document

/-! ## Reading -/

variable {α β : Type} {p p' p'' : Pending} {token : Token} {rest : List Token}

/-- A reader that goes on to some tokens and nodes. -/
def Pending.to (p : Pending) (tokens : List Token) (nodes : Array Node) : Pending :=
  { p with tokens, nodes }

theorem peek_of_tokens (hp : p.tokens = token :: rest) : peek p = .ok (token, p) := by
  cases p
  obtain rfl : _ = token :: rest := hp
  rfl

theorem sees_of_tokens (hp : p.tokens = token :: rest) (tokens : List Token) :
    sees tokens p = .ok (decide (token ∈ tokens), p) :=
  ran_bind.2 ⟨token, p, peek_of_tokens hp, rfl⟩

theorem next_to (p : Pending) (nodes : Array Node) :
    next (p.to (token :: rest) nodes) = .ok ((), p.to rest nodes) := rfl

theorem add_to (p : Pending) (tokens : List Token) (nodes : Array Node) (node : Node) :
    add none node (p.to tokens nodes) = .ok (nodes.size, p.to tokens (nodes.push node)) := rfl

theorem collect_to {tag : Tag} {content : Read Content} {found : Content} {tokens tokens' : List Token}
    {nodes nodes' : Array Node}
    (h : content (p.to tokens (nodes.push ⟨tag, .sequence []⟩)) = .ok (found, p.to tokens' nodes')) :
    collect none tag content (p.to tokens nodes)
      = .ok (nodes.size, p.to tokens' (nodes'.setIfInBounds nodes.size ⟨tag, found⟩)) := by
  refine ran_bind.2 ⟨_, _, add_to p tokens nodes _, ?_⟩
  exact ran_bind.2 ⟨_, _, h, rfl⟩

/-- A token that starts a node without properties. -/
def StartsNode : Token → Prop
  | .scalar .. | .flowSequenceStart | .flowMappingStart | .blockEntry | .blockSequenceStart
  | .blockMappingStart => True
  | _ => False

/-- What is read of a node behind its first token. -/
def readStarted (n : Nat) (block indentless : Bool) : Token → Read Nat
  | .scalar text plain => do
    next
    add none ⟨scalarTag none text plain, .scalar text⟩
  | .flowSequenceStart => do
    next
    collect none .seq (.sequence <$> readFlowItems n true)
  | .flowMappingStart => do
    next
    collect none .map (.mapping <$> readFlowEntries n true)
  | .blockEntry => if indentless then collect none .seq (.sequence <$> readIndentless n) else malformed
  | .blockSequenceStart => if block then do
      next
      collect none .seq (.sequence <$> readBlockItems n)
    else malformed
  | .blockMappingStart => if block then do
      next
      collect none .map (.mapping <$> readBlockEntries n)
    else malformed
  | _ => malformed

theorem bind_of_ran {read : Read α} {more : α → Read β} {a : α} (h : read p = .ok (a, p')) :
    (read >>= more) p = more a p' := by
  show (read p >>= fun found => more found.1 found.2) = _
  rw [h]
  rfl

theorem properties_of_startsNode (hp : p.tokens = token :: rest) (hstarts : StartsNode token) :
    properties p = .ok ((none, none), p) := by
  have hanchor : anchor? p = .ok (none, p) := by
    refine ran_bind.2 ⟨token, p, peek_of_tokens hp, ?_⟩
    cases token <;> first | rfl | exact absurd hstarts id
  have htag : tag? p = .ok (none, p) := by
    refine ran_bind.2 ⟨token, p, peek_of_tokens hp, ?_⟩
    cases token <;> first | rfl | exact absurd hstarts id
  exact ran_bind.2 ⟨none, p, hanchor, ran_bind.2 ⟨none, p, htag, rfl⟩⟩

theorem readNode_of_startsNode {n : Nat} {block indentless : Bool} (hp : p.tokens = token :: rest)
    (hstarts : StartsNode token) :
    readNode (n + 1) block indentless p = readStarted n block indentless token p := by
  have hpeek := peek_of_tokens hp
  have hproperties := properties_of_startsNode hp hstarts
  rw [readNode, bind_of_ran hpeek]
  cases token
  case scalar | flowSequenceStart | flowMappingStart =>
    simp only []
    rw [bind_of_ran hproperties, bind_of_ran hpeek]
    rfl
  case blockEntry =>
    simp only []
    rw [bind_of_ran hproperties, bind_of_ran hpeek]
    cases indentless <;> rfl
  case blockSequenceStart | blockMappingStart =>
    simp only []
    rw [bind_of_ran hproperties, bind_of_ran hpeek]
    cases block <;> rfl
  all_goals exact absurd hstarts id

theorem readNode_to {n : Nat} {block indentless : Bool} (hstarts : StartsNode token) :
    readNode (n + 1) block indentless (p.to (token :: rest) nodes)
      = readStarted n block indentless token (p.to (token :: rest) nodes) :=
  readNode_of_startsNode rfl hstarts

theorem readOrAbsent_of_startsNode {n : Nat} {stops : List Token} {block indentless : Bool}
    (hp : p.tokens = token :: rest) (hstops : token ∉ stops) :
    readOrAbsent (n + 1) stops block indentless p = readNode n block indentless p := by
  have hsees : sees stops p = .ok (false, p) := by
    rw [sees_of_tokens hp, decide_eq_false hstops]
  rw [readOrAbsent, bind_of_ran hsees]
  rfl

/-! ## Growing -/

/-- Whether nodes are added behind those that are there. -/
structure Grows (nodes nodes' : Array Node) : Prop where
  size_le : nodes.size ≤ nodes'.size
  keeps : KeepsFrom 0 nodes nodes'

theorem Grows.refl (nodes : Array Node) : Grows nodes nodes := ⟨Nat.le_refl _, fun _ _ _ h => h⟩

theorem Grows.trans (h : Grows nodes nodes') (h' : Grows nodes' nodes'') : Grows nodes nodes'' :=
  ⟨h.size_le.trans h'.size_le, h.keeps.trans h'.keeps⟩

theorem grows_push (nodes : Array Node) (node : Node) : Grows nodes (nodes.push node) where
  size_le := by simp
  keeps := by
    intro i found _ hfound
    obtain ⟨hi, rfl⟩ := Array.getElem?_eq_some_iff.1 hfound
    rw [Array.getElem?_push_lt hi]

/-- A collection is finished when what is in it is read. -/
theorem collect_of_ran {tag : Tag} {read : Read α} {f : α → Content} {a : α} {tokens tokens' : List Token}
    (h : read (p.to tokens (nodes.push ⟨tag, .sequence []⟩)) = .ok (a, p.to tokens' nodes'))
    (hgrows : Grows (nodes.push ⟨tag, .sequence []⟩) nodes') :
    ∃ nodes'', collect none tag (f <$> read) (p.to tokens nodes) = .ok (nodes.size, p.to tokens' nodes'')
      ∧ Grows nodes nodes'' ∧ nodes''[nodes.size]? = some ⟨tag, f a⟩
      ∧ KeepsFrom (nodes.size + 1) nodes' nodes'' := by
  have hcontent : (f <$> read) (p.to tokens (nodes.push ⟨tag, .sequence []⟩))
      = .ok (f a, p.to tokens' nodes') := by
    rw [map_eq_pure_bind]
    exact ran_bind.2 ⟨_, _, h, rfl⟩
  have hsize : nodes.size < nodes'.size := by
    have := hgrows.size_le
    rw [Array.size_push] at this
    omega
  refine ⟨nodes'.setIfInBounds nodes.size ⟨tag, f a⟩, collect_to hcontent, ⟨?_, ?_⟩, ?_, ?_⟩
  · rw [Array.size_setIfInBounds]
    exact Nat.le_of_lt hsize
  · intro i node _ hnode
    obtain ⟨hi, -⟩ := Array.getElem?_eq_some_iff.1 hnode
    rw [Array.getElem?_setIfInBounds_ne (Nat.ne_of_gt hi)]
    exact ((grows_push nodes _).trans hgrows).keeps i node (Nat.zero_le _) hnode
  · rw [Array.getElem?_setIfInBounds_self_of_lt hsize]
  · intro i node hi hnode
    rw [Array.getElem?_setIfInBounds_ne (Nat.ne_of_lt hi)]
    exact hnode

/-! ## Documents -/

/-- What follows a node behind a lead: a list that opens no block of its own goes on with every item
    mark. -/
def Follows (lead : Lead) (rest : List Token) : Prop :=
  lead = .key → ∃ token more, rest = token :: more ∧ token ≠ .blockEntry

/-- The tokens in front of which a node behind a lead is absent. -/
def stops : Lead → List Token
  | .mark => [.blockEntry, .key, .value, .blockEnd]
  | .key => [.key, .value, .blockEnd]

theorem scalarTokens_of_scalarText {doc : Json} {s : Text} {plain : Bool}
    (h : scalarText? doc = some (s, plain)) : scalarTokens doc = [.scalar (Points.ofText s) plain] := by
  rw [scalarTokens, h]

theorem exists_scalarText_of_isWholeText {s : Points} (h : Json.IsWholeText s) :
    ∃ t plain, scalarText? (.str s) = some (t, plain) := by
  obtain ⟨t, rfl⟩ := h
  exact ⟨t, isPlainText t, by rw [scalarText?, Points.toText?_ofText]; rfl⟩

theorem startsNode_scalarTokens (lead : Lead) (doc : Json)
    (h : ∃ s plain, scalarText? doc = some (s, plain)) :
    ∃ token more, scalarTokens doc = token :: more ∧ StartsNode token
      ∧ token ∉ stops lead := by
  obtain ⟨s, plain, hdoc⟩ := h
  exact ⟨_, [], scalarTokens_of_scalarText hdoc, trivial, by cases lead <;> simp [stops]⟩

/-- The tokens of a node start it. -/
theorem exists_startsNode (lead : Lead) : ∀ {doc : Json}, doc.Whole →
    ∃ token more, nodeTokens lead doc = token :: more ∧ StartsNode token
      ∧ token ∉ stops lead
  | .null, _ => startsNode_scalarTokens lead .null ⟨_, _, rfl⟩
  | .bool true, _ => startsNode_scalarTokens lead (.bool true) ⟨_, _, rfl⟩
  | .bool false, _ => startsNode_scalarTokens lead (.bool false) ⟨_, _, rfl⟩
  | .int value, _ => startsNode_scalarTokens lead (.int value) ⟨_, _, rfl⟩
  | .float _, h => absurd h id
  | .str s, h => startsNode_scalarTokens lead (.str s) (exists_scalarText_of_isWholeText h)
  | .list [], _ => ⟨_, _, rfl, trivial, by cases lead <;> decide⟩
  | .list (_ :: _), _ => by
      cases lead with
      | mark => exact ⟨_, _, rfl, trivial, by decide⟩
      | key => exact ⟨_, _, rfl, trivial, by decide⟩
  | .object [], _ => ⟨_, _, rfl, trivial, by cases lead <;> decide⟩
  | .object (_ :: _), _ => ⟨_, _, rfl, trivial, by cases lead <;> decide⟩

/-- A node that starts with one of its tokens is not absent. -/
theorem readOrAbsent_of_readNode {doc : Json} {lead : Lead} {n : Nat} {absent : List Token}
    {indentless : Bool} {found : Nat × Pending} (hwhole : doc.Whole) (habsent : absent ⊆ stops lead)
    (h : readNode n true indentless (p.to (nodeTokens lead doc ++ rest) nodes) = .ok found) :
    readOrAbsent (n + 1) absent true indentless (p.to (nodeTokens lead doc ++ rest) nodes)
      = .ok found := by
  obtain ⟨token, more, htokens, -, hstops⟩ := exists_startsNode lead hwhole
  have hp : (p.to (nodeTokens lead doc ++ rest) nodes).tokens = token :: (more ++ rest) := by
    show nodeTokens lead doc ++ rest = _
    rw [htokens]
    rfl
  rw [readOrAbsent_of_startsNode hp fun hmem => hstops (habsent hmem), h]

/-- A scalar is one node. -/
theorem reads_scalar (doc : Json) {n : Nat} {indentless : Bool} (p : Pending) (rest : List Token)
    (nodes : Array Node) (h : ∃ s plain, scalarText? doc = some (s, plain)) (hn : 0 < n) :
    ∃ nodes', readNode n true indentless (p.to (scalarTokens doc ++ rest) nodes)
        = .ok (nodes.size, p.to rest nodes')
      ∧ Grows nodes nodes' ∧ SpellsScalar nodes' nodes.size doc := by
  obtain ⟨s, plain, hdoc⟩ := h
  obtain ⟨n, rfl⟩ := Nat.exists_eq_add_one_of_ne_zero (Nat.ne_of_gt hn)
  rw [scalarTokens_of_scalarText hdoc]
  refine ⟨nodes.push _, ?_, grows_push nodes _, s, plain, hdoc, Array.getElem?_push_size⟩
  refine (readNode_to (by exact trivial)).trans ?_
  exact ran_bind.2 ⟨(), _, next_to p nodes, add_to p rest nodes _⟩

/-- An empty collection is one node. -/
theorem reads_emptyList {n : Nat} {indentless : Bool} (p : Pending) (rest : List Token)
    (nodes : Array Node) (hn : 1 < n) :
    ∃ nodes', readNode n true indentless
        (p.to ([.flowSequenceStart, .flowSequenceEnd] ++ rest) nodes) = .ok (nodes.size, p.to rest nodes')
      ∧ Grows nodes nodes' ∧ Spells nodes' nodes.size (.list []) := by
  obtain ⟨n, rfl⟩ := Nat.exists_eq_add_of_le hn
  have hcontent : readFlowItems (n + 1) true (p.to (.flowSequenceEnd :: rest) (nodes.push ⟨.seq, .sequence []⟩))
      = .ok ([], p.to rest (nodes.push ⟨.seq, .sequence []⟩)) := rfl
  obtain ⟨nodes', hran, hgrows, hnode, -⟩ := collect_of_ran hcontent (Grows.refl _)
  refine ⟨nodes', ?_, hgrows, [], hnode, rfl⟩
  rw [Nat.add_comm]
  refine (readNode_to (by exact trivial)).trans ?_
  exact ran_bind.2 ⟨(), _, next_to p nodes, hran⟩

theorem reads_emptyObject {n : Nat} {indentless : Bool} (p : Pending) (rest : List Token)
    (nodes : Array Node) (hn : 1 < n) :
    ∃ nodes', readNode n true indentless
        (p.to ([.flowMappingStart, .flowMappingEnd] ++ rest) nodes) = .ok (nodes.size, p.to rest nodes')
      ∧ Grows nodes nodes' ∧ Spells nodes' nodes.size (.object []) := by
  obtain ⟨n, rfl⟩ := Nat.exists_eq_add_of_le hn
  have hcontent : readFlowEntries (n + 1) true (p.to (.flowMappingEnd :: rest) (nodes.push ⟨.map, .sequence []⟩))
      = .ok ([], p.to rest (nodes.push ⟨.map, .sequence []⟩)) := rfl
  obtain ⟨nodes', hran, hgrows, hnode, -⟩ := collect_of_ran hcontent (Grows.refl _)
  refine ⟨nodes', ?_, hgrows, [], hnode, rfl⟩
  rw [Nat.add_comm]
  refine (readNode_to (by exact trivial)).trans ?_
  exact ran_bind.2 ⟨(), _, next_to p nodes, hran⟩

/-- A name is written plain only if it spells a text. -/
theorem scalarTag_nameToken (name : Points) :
    scalarTag none name (Style.ofPoints name = .plain) = .str := by
  unfold scalarTag Style.ofPoints Tag.ofPoints
  cases name.toText? with
  | none => simp
  | some s =>
      by_cases hs : Style.ofText s = .plain
      · simp [hs, (style_eq_plain hs).1]
      · simp [hs]

theorem spellsScalar_str {name : Points} {number : Nat} (h : Json.IsWholeText name)
    (hnode : nodes[number]? = some ⟨.str, .scalar name⟩) : SpellsScalar nodes number (.str name) := by
  obtain ⟨s, rfl⟩ := h
  refine ⟨s, isPlainText s, by rw [scalarText?, Points.toText?_ofText]; rfl, ?_⟩
  have htag := scalarTag_nameToken (Points.ofText s)
  rw [Style.ofPoints, Points.toText?_ofText] at htag
  rw [hnode, isPlainText, htag]

/-- A name is one node. -/
theorem reads_name (n : Nat) (p : Pending) (name : Points) (rest : List Token) (nodes : Array Node) :
    readOrAbsent (n + 2) [.key, .value, .blockEnd] true true (p.to (nameToken name :: rest) nodes)
      = .ok (nodes.size, p.to rest (nodes.push ⟨.str, .scalar name⟩)) := by
  have hp : (p.to (nameToken name :: rest) nodes).tokens = nameToken name :: rest := rfl
  have hread : readNode (n + 1) true true (p.to (nameToken name :: rest) nodes)
      = .ok (nodes.size, p.to rest (nodes.push ⟨.str, .scalar name⟩)) := by
    rw [readNode_of_startsNode hp trivial, ← scalarTag_nameToken name]
    exact ran_bind.2 ⟨(), _, next_to p nodes, add_to p rest nodes _⟩
  rw [readOrAbsent_of_startsNode hp (by simp [nameToken]), hread]

mutual

/-- **The tokens of a node are read as nodes that spell it.** -/
theorem reads_node : ∀ (doc : Json) (lead : Lead) {n : Nat} (indentless : Bool) (p : Pending)
    (rest : List Token) (nodes : Array Node), doc.Whole → 4 * (nodeTokens lead doc).length + 2 ≤ n →
    (lead = .key → indentless = true) → Follows lead rest →
    ∃ nodes', readNode n true indentless (p.to (nodeTokens lead doc ++ rest) nodes)
        = .ok (nodes.size, p.to rest nodes')
      ∧ Grows nodes nodes' ∧ Spells nodes' nodes.size doc
  | .null, _, _, _, p, _, nodes, _, hn, _, _ =>
      reads_scalar .null p _ nodes ⟨_, _, rfl⟩ (Nat.zero_lt_of_lt hn)
  | .bool true, _, _, _, p, _, nodes, _, hn, _, _ =>
      reads_scalar (.bool true) p _ nodes ⟨_, _, rfl⟩ (Nat.zero_lt_of_lt hn)
  | .bool false, _, _, _, p, _, nodes, _, hn, _, _ =>
      reads_scalar (.bool false) p _ nodes ⟨_, _, rfl⟩ (Nat.zero_lt_of_lt hn)
  | .int value, _, _, _, p, _, nodes, _, hn, _, _ =>
      reads_scalar (.int value) p _ nodes ⟨_, _, rfl⟩ (Nat.zero_lt_of_lt hn)
  | .float _, _, _, _, _, _, _, hwhole, _, _, _ => absurd hwhole id
  | .str s, _, _, _, p, _, nodes, hwhole, hn, _, _ =>
      reads_scalar (.str s) p _ nodes (exists_scalarText_of_isWholeText hwhole)
        (Nat.zero_lt_of_lt hn)
  | .list [], lead, n, _, p, rest, nodes, _, hn, _, _ =>
      reads_emptyList p rest nodes ((Nat.le_add_left _ _).trans hn)
  | .object [], lead, n, _, p, rest, nodes, _, hn, _, _ =>
      reads_emptyObject p rest nodes ((Nat.le_add_left _ _).trans hn)
  | .list (item :: items), .mark, n, indentless, p, rest, nodes, hwhole, hn, _, _ => by
      -- behind a mark the items are a block of their own, between two tokens
      have hlength : (nodeTokens .mark (.list (item :: items))).length
          = (itemTokens (item :: items)).length + 2 := by
        simp [nodeTokens]
      obtain ⟨n, rfl⟩ := Nat.exists_eq_add_of_le' (show 1 ≤ n by omega)
      obtain ⟨numbers, nodes₁, hitems, hgrows, hspells⟩ := reads_blockItems (item :: items) nodes.size p
        rest (nodes.push ⟨.seq, .sequence []⟩) hwhole (show _ ≤ n by omega) (by simp)
      obtain ⟨nodes', hran, hgrows', hnode, hkeeps⟩ := collect_of_ran hitems hgrows
      refine ⟨nodes', ?_, hgrows', numbers, hnode, hspells.mono hkeeps⟩
      rw [nodeTokens, List.cons_append, List.append_assoc]
      refine (readNode_to (by exact trivial)).trans ?_
      exact ran_bind.2 ⟨(), _, next_to p nodes, hran⟩
  | .list (item :: items), .key, n, indentless, p, rest, nodes, hwhole, hn, hflag, hfollows => by
      -- behind a key no token ends the items, and what follows must be no item
      obtain rfl : indentless = true := hflag rfl
      obtain ⟨token, more, rfl, htoken⟩ := hfollows rfl
      obtain ⟨n, rfl⟩ := Nat.exists_eq_add_of_le' (show 1 ≤ n by omega)
      have hlength : (nodeTokens .key (.list (item :: items))).length
          = (itemTokens (item :: items)).length := rfl
      obtain ⟨numbers, nodes₁, hitems, hgrows, hspells⟩ := reads_indentless (item :: items) nodes.size p
        more (nodes.push ⟨.seq, .sequence []⟩) htoken hwhole (show _ ≤ n by omega) (by simp)
      obtain ⟨nodes', hran, hgrows', hnode, hkeeps⟩ := collect_of_ran hitems hgrows
      refine ⟨nodes', ?_, hgrows', numbers, hnode, hspells.mono hkeeps⟩
      rw [nodeTokens, itemTokens, List.cons_append]
      refine (readNode_to (by exact trivial)).trans ?_
      exact hran
  | .object (field :: fields), lead, n, indentless, p, rest, nodes, hwhole, hn, _, _ => by
      have hlength : (nodeTokens lead (.object (field :: fields))).length
          = (fieldTokens (field :: fields)).length + 2 := by
        simp [nodeTokens]
      obtain ⟨n, rfl⟩ := Nat.exists_eq_add_of_le' (show 1 ≤ n by omega)
      obtain ⟨entries, nodes₁, hfields, hgrows, hspells⟩ := reads_blockEntries (field :: fields)
        nodes.size p rest (nodes.push ⟨.map, .sequence []⟩) hwhole (show _ ≤ n by omega) (by simp)
      obtain ⟨nodes', hran, hgrows', hnode, hkeeps⟩ := collect_of_ran hfields hgrows
      refine ⟨nodes', ?_, hgrows', entries, hnode, hspells.mono hkeeps⟩
      rw [nodeTokens, List.cons_append, List.append_assoc]
      refine (readNode_to (by exact trivial)).trans ?_
      exact ran_bind.2 ⟨(), _, next_to p nodes, hran⟩

/-- The tokens of the items of a block are read as nodes that spell them. -/
theorem reads_blockItems : ∀ (items : List Json) {n : Nat} (above : Nat) (p : Pending)
    (rest : List Token) (nodes : Array Node), Json.WholeItems items →
    4 * (itemTokens items).length + 2 ≤ n → above < nodes.size →
    ∃ numbers nodes', readBlockItems n (p.to (itemTokens items ++ .blockEnd :: rest) nodes)
        = .ok (numbers, p.to rest nodes')
      ∧ Grows nodes nodes' ∧ SpellsItems nodes' above numbers items
  | [], n, above, p, rest, nodes, _, hn, _ => by
      obtain ⟨n, rfl⟩ := Nat.exists_eq_add_one_of_ne_zero (Nat.ne_of_gt (Nat.zero_lt_of_lt hn))
      exact ⟨[], nodes, rfl, Grows.refl nodes, rfl⟩
  | item :: items, n, above, p, rest, nodes, hwhole, hn, habove => by
      have hlength : (itemTokens (item :: items)).length
          = (nodeTokens .mark item).length + (itemTokens items).length + 1 := by
        simp [itemTokens]
      obtain ⟨n, rfl⟩ := Nat.exists_eq_add_of_le' (show 2 ≤ n by omega)
      obtain ⟨nodes₁, hitem, hgrows₁, hspells⟩ := reads_node item .mark false p
        (itemTokens items ++ .blockEnd :: rest) nodes hwhole.1 (show _ ≤ n by omega) (by decide)
        (fun he => absurd he (by decide))
      obtain ⟨numbers, nodes₂, hitems, hgrows₂, hrest⟩ := reads_blockItems items above p rest nodes₁
        hwhole.2 (show _ ≤ n + 1 by omega) (Nat.lt_of_lt_of_le habove hgrows₁.size_le)
      have horAbsent : readOrAbsent (n + 1) [.blockEntry, .blockEnd] true false _ = .ok _ :=
        readOrAbsent_of_readNode hwhole.1 (by decide) hitem
      refine ⟨nodes.size :: numbers, nodes₂, ?_, hgrows₁.trans hgrows₂, nodes.size, numbers, rfl, habove,
        hspells.mono (hgrows₂.keeps.mono (Nat.zero_le _)), hrest⟩
      rw [itemTokens, List.cons_append, List.append_assoc, readBlockItems]
      refine ran_bind.2 ⟨_, _, peek_of_tokens rfl, ran_bind.2 ⟨(), _, next_to p nodes, ?_⟩⟩
      exact ran_bind.2 ⟨_, _, horAbsent, ran_bind.2 ⟨_, _, hitems, rfl⟩⟩

/-- The tokens of the items of a list below its key are read as nodes that spell them. -/
theorem reads_indentless : ∀ (items : List Json) {n : Nat} {token : Token} (above : Nat) (p : Pending)
    (rest : List Token) (nodes : Array Node), token ≠ .blockEntry → Json.WholeItems items →
    4 * (itemTokens items).length + 1 ≤ n → above < nodes.size →
    ∃ numbers nodes', readIndentless n (p.to (itemTokens items ++ token :: rest) nodes)
        = .ok (numbers, p.to (token :: rest) nodes')
      ∧ Grows nodes nodes' ∧ SpellsItems nodes' above numbers items
  | [], n, token, above, p, rest, nodes, htoken, _, hn, _ => by
      obtain ⟨n, rfl⟩ := Nat.exists_eq_add_one_of_ne_zero (Nat.ne_of_gt (Nat.zero_lt_of_lt hn))
      refine ⟨[], nodes, ?_, Grows.refl nodes, rfl⟩
      rw [itemTokens, List.nil_append, readIndentless]
      refine ran_bind.2 ⟨_, _, peek_of_tokens rfl, ?_⟩
      cases token <;> first | rfl | exact absurd rfl htoken
  | item :: items, n, token, above, p, rest, nodes, htoken, hwhole, hn, habove => by
      have hlength : (itemTokens (item :: items)).length
          = (nodeTokens .mark item).length + (itemTokens items).length + 1 := by
        simp [itemTokens]
      obtain ⟨n, rfl⟩ := Nat.exists_eq_add_of_le' (show 2 ≤ n by omega)
      obtain ⟨nodes₁, hitem, hgrows₁, hspells⟩ := reads_node item .mark false p
        (itemTokens items ++ token :: rest) nodes hwhole.1 (show _ ≤ n by omega) (by decide)
        (fun he => absurd he (by decide))
      obtain ⟨numbers, nodes₂, hitems, hgrows₂, hrest⟩ := reads_indentless items above p rest nodes₁
        htoken hwhole.2 (show _ ≤ n + 1 by omega) (Nat.lt_of_lt_of_le habove hgrows₁.size_le)
      have horAbsent : readOrAbsent (n + 1) [.blockEntry, .key, .value, .blockEnd] true false _ = .ok _ :=
        readOrAbsent_of_readNode hwhole.1 (List.Subset.refl _) hitem
      refine ⟨nodes.size :: numbers, nodes₂, ?_, hgrows₁.trans hgrows₂, nodes.size, numbers, rfl, habove,
        hspells.mono (hgrows₂.keeps.mono (Nat.zero_le _)), hrest⟩
      rw [itemTokens, List.cons_append, List.append_assoc, readIndentless]
      refine ran_bind.2 ⟨_, _, peek_of_tokens rfl, ran_bind.2 ⟨(), _, next_to p nodes, ?_⟩⟩
      exact ran_bind.2 ⟨_, _, horAbsent, ran_bind.2 ⟨_, _, hitems, rfl⟩⟩

/-- The tokens of the fields of an object are read as nodes that spell them. -/
theorem reads_blockEntries : ∀ (fields : List (Points × Json)) {n : Nat} (above : Nat) (p : Pending)
    (rest : List Token) (nodes : Array Node), Json.WholeFields fields →
    4 * (fieldTokens fields).length + 2 ≤ n → above < nodes.size →
    ∃ entries nodes', readBlockEntries n (p.to (fieldTokens fields ++ .blockEnd :: rest) nodes)
        = .ok (entries, p.to rest nodes')
      ∧ Grows nodes nodes' ∧ SpellsFields nodes' above entries fields
  | [], n, above, p, rest, nodes, _, hn, _ => by
      obtain ⟨n, rfl⟩ := Nat.exists_eq_add_one_of_ne_zero (Nat.ne_of_gt (Nat.zero_lt_of_lt hn))
      exact ⟨[], nodes, rfl, Grows.refl nodes, rfl⟩
  | (name, value) :: fields, n, above, p, rest, nodes, hwhole, hn, habove => by
      have hlength : (fieldTokens ((name, value) :: fields)).length
          = (nodeTokens (leadOf name) value).length + (fieldTokens fields).length + 3 := by
        simp [fieldTokens]
      obtain ⟨n, rfl⟩ := Nat.exists_eq_add_of_le' (show 3 ≤ n by omega)
      -- the node of the name is made in front of those of the value
      let named : Array Node := nodes.push ⟨.str, .scalar name⟩
      have hgrows₀ : Grows nodes named := grows_push nodes _
      have hfollows : Follows (leadOf name) (fieldTokens fields ++ .blockEnd :: rest) := by
        intro _
        cases fields with
        | nil => exact ⟨_, _, rfl, by decide⟩
        | cons field fields => exact ⟨_, _, rfl, by decide⟩
      obtain ⟨nodes₁, hvalue, hgrows₁, hspells⟩ := reads_node value (leadOf name) true p
        (fieldTokens fields ++ .blockEnd :: rest) named hwhole.2.1 (show _ ≤ n by omega) (fun _ => rfl)
        hfollows
      have hgrows := hgrows₀.trans hgrows₁
      obtain ⟨entries, nodes₂, hfields, hgrows₂, hrest⟩ := reads_blockEntries fields above p rest nodes₁
        hwhole.2.2 (show _ ≤ n + 2 by omega) (Nat.lt_of_lt_of_le habove hgrows.size_le)
      have hname : SpellsScalar nodes₂ nodes.size (.str name) :=
        (spellsScalar_str hwhole.1 Array.getElem?_push_size).mono
          ((hgrows₁.trans hgrows₂).keeps.mono (Nat.zero_le _))
      refine ⟨(nodes.size, named.size) :: entries, nodes₂, ?_, hgrows.trans hgrows₂, nodes.size, named.size,
        entries, rfl, habove, Nat.lt_of_lt_of_le habove hgrows₀.size_le, hname,
        hspells.mono (hgrows₂.keeps.mono (Nat.zero_le _)), hrest⟩
      have horAbsent : readOrAbsent (n + 1) [.key, .value, .blockEnd] true true _ = .ok _ :=
        readOrAbsent_of_readNode hwhole.2.1 (by cases leadOf name <;> decide) hvalue
      have hreadValue : readValue (n + 2) [.key, .value, .blockEnd] true true
          (p.to (.value :: (nodeTokens (leadOf name) value ++ (fieldTokens fields ++ .blockEnd :: rest))) named)
          = .ok (named.size, p.to (fieldTokens fields ++ .blockEnd :: rest) nodes₁) := by
        rw [readValue]
        refine ran_bind.2 ⟨true, _, (sees_of_tokens rfl _).trans rfl, ?_⟩
        exact ran_bind.2 ⟨(), _, next_to p named, horAbsent⟩
      rw [fieldTokens]
      simp only [List.cons_append, List.append_assoc]
      rw [readBlockEntries]
      refine ran_bind.2 ⟨_, _, peek_of_tokens rfl, ran_bind.2 ⟨(), _, next_to p nodes, ?_⟩⟩
      refine ran_bind.2 ⟨_, _, reads_name n p name _ nodes, ?_⟩
      exact ran_bind.2 ⟨_, _, hreadValue, ran_bind.2 ⟨_, _, hfields, rfl⟩⟩

end

/-! ## Texts -/

/-- **The text of a document is read as nodes that spell it.** -/
theorem ofText?_of_fieldsForm {out : Text} {fields : List (Points × Json)}
    (h : FieldsForm [] 0 fields out) (hne : fields ≠ []) (hwhole : Json.WholeFields fields) :
    ∃ nodes, ofText? (out ++ ['\n']) = .ok (some ⟨nodes, 0⟩) ∧ Spells nodes 0 (.object fields) := by
  let tokens : List Token := .blockMappingStart :: (fieldTokens fields ++ [.blockEnd, .streamEnd])
  let start : Pending := { tokens, fault := none }
  have htokens : nodeTokens .mark (.object fields) ++ [.streamEnd] = tokens := by
    obtain ⟨field, fields, rfl⟩ := List.exists_cons_of_ne_nil hne
    simp [nodeTokens, tokens]
  have hlength : tokens.length = (nodeTokens .mark (.object fields)).length + 1 := by
    rw [← htokens, List.length_append]
    rfl
  obtain ⟨nodes, hread, -, hspells⟩ := reads_node (.object fields) .mark false start [.streamEnd] #[]
    hwhole (show _ ≤ 4 * tokens.length + 4 by omega) (by decide) (fun he => absurd he (by decide))
  rw [htokens] at hread
  have hroot : readRoot (4 * tokens.length + 4) start = .ok (some 0, start.to [.streamEnd] nodes) := by
    refine ran_bind.2 ⟨_, _, peek_of_tokens rfl, ?_⟩
    refine ran_bind.2 ⟨0, start.to [.streamEnd] nodes, hread, ?_⟩
    exact ran_bind.2 ⟨(), start.to [.streamEnd] nodes, rfl, rfl⟩
  refine ⟨nodes, ?_, hspells⟩
  rw [ofText?, Token.ofText_of_fieldsForm h hne]
  show (readRoot (4 * tokens.length + 4)) start >>= _ = _
  rw [hroot]
  rfl

end Document

end ApiScan.Yaml
