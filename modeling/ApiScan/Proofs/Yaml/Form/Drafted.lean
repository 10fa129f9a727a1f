import ApiScan.Proofs.Assoc
import ApiScan.Proofs.Yaml.Form.Shaped

set_option autoImplicit false

/-! # The drafts of a document

The drafts of nodes that spell a document are filled one after the other. A collection that was met
has a draft and is met once, so that each of them gets its turn, and at the end the draft of every
node that was met gives what the node holds. -/

namespace ApiScan.Yaml

variable {nodes : Nodes} {number : Nat}

namespace Drafts

variable {made made' made'' : Drafts} {node : Node}

/-! ## The invariant -/

/-- Whether the draft of a node is the value of a scalar. -/
def IsValue (nodes : Nodes) (made : Drafts) (number : Nat) : Prop :=
  ∃ tag text value, nodes[number]? = some ⟨tag, .scalar text⟩ ∧ readScalar tag text = .ok value
    ∧ made.draft? number = some (.scalar value)

/-- What holds while drafts are made: each draft is that of a node that spells a document, and the
    drafts of collections are those that were met, each of them once. -/
structure Fits (nodes : Nodes) (made : Drafts) : Prop where
  nodes_eq : made.nodes = nodes
  bound : 2 ≤ made.mergeBound
  size_eq : made.drafts.size = nodes.size
  good : ∀ number, made.draft? number ≠ none → Good nodes number
  known : ∀ number, made.draft? number ≠ none → number ∈ made.met ∨ IsValue nodes made number
  nodup : made.met.toList.Nodup
  met : ∀ number ∈ made.met, made.draft? number ≠ none
    ∧ ∀ tag text, nodes[number]? ≠ some ⟨tag, .scalar text⟩

/-- Whether the drafts stay as they are, and more nodes are met. -/
structure Goes (made made' : Drafts) : Prop where
  keeps : ∀ number draft, made.draft? number = some draft → made'.draft? number = some draft
  met : ∃ more, made'.met = made.met ++ more

theorem Goes.refl (made : Drafts) : Goes made made := ⟨fun _ _ h => h, #[], by simp⟩

theorem Goes.trans (h : Goes made made') (h' : Goes made' made'') : Goes made made'' := by
  obtain ⟨more, hmore⟩ := h.met
  obtain ⟨more', hmore'⟩ := h'.met
  refine ⟨fun number draft hd => h'.keeps _ _ (h.keeps _ _ hd), more ++ more', ?_⟩
  rw [hmore', hmore, Array.append_assoc]

theorem Goes.drafted (h : Goes made made') (hd : made.draft? number ≠ none) :
    made'.draft? number ≠ none := by
  obtain ⟨draft, hdraft⟩ := Option.ne_none_iff_exists'.1 hd
  rw [h.keeps _ _ hdraft]
  exact Option.some_ne_none draft

/-- The drafts with one more. -/
def set (number : Nat) (draft : Draft) (made : Drafts) : Drafts :=
  { made with drafts := made.drafts.setIfInBounds number (some draft) }

theorem put_eq (number : Nat) (draft : Draft) (made : Drafts) :
    put number draft made = .ok ((), made.set number draft) := rfl

theorem draft?_set (hsize : number < made.drafts.size) (draft : Draft) (other : Nat) :
    (made.set number draft).draft? other = if other = number then some draft else made.draft? other := by
  unfold draft? set
  rw [Array.getD_eq_getD_getElem?, Array.getD_eq_getD_getElem?, Array.getElem?_setIfInBounds]
  by_cases h : other = number
  · subst h
    simp [hsize]
  · simp [h, Ne.symm h]

theorem lt_size_of_getElem? (h : nodes[number]? = some node) : number < nodes.size :=
  (Array.getElem?_eq_some_iff.1 h).1

theorem tagOf_eq (h : nodes[number]? = some node) : nodes.tagOf number = node.tag := by
  rw [Nodes.tagOf, Array.getD_eq_getD_getElem?, h]
  rfl

theorem contentOf_eq (h : nodes[number]? = some node) : nodes.contentOf number = node.content := by
  rw [Nodes.contentOf, Array.getD_eq_getD_getElem?, h]
  rfl

/-! ## Meeting -/

theorem scalarOf_eq {tag : Tag} {text : Points} (h : nodes[number]? = some ⟨tag, .scalar text⟩) :
    scalarOf nodes tag number = readScalar tag text := by
  have hcontent := contentOf_eq h
  unfold scalarOf textOf
  rw [hcontent]
  cases tag <;> rfl

theorem goes_set (hnone : made.draft? number = none) (hsize : number < made.drafts.size)
    (draft : Draft) : Goes made (made.set number draft) := by
  refine ⟨fun other found hfound => ?_, #[], Array.append_empty.symm⟩
  rw [draft?_set hsize, if_neg ?_]
  · exact hfound
  · rintro rfl
    rw [hnone] at hfound
    cases hfound

/-- A scalar is met. -/
theorem fits_set (hfits : Fits nodes made) (hgood : Good nodes number)
    (hnone : made.draft? number = none) {tag : Tag} {text : Points} {value : Value}
    (hnode : nodes[number]? = some ⟨tag, .scalar text⟩) (hvalue : readScalar tag text = .ok value) :
    Fits nodes (made.set number (.scalar value)) := by
  have hsize : number < made.drafts.size := hfits.size_eq ▸ lt_size_of_getElem? hnode
  have hgoes := goes_set hnone hsize (.scalar value)
  refine ⟨hfits.nodes_eq, hfits.bound, ?_, fun other hother => ?_, fun other hother => ?_, hfits.nodup,
    fun other hother => ⟨hgoes.drafted (hfits.met other hother).1, (hfits.met other hother).2⟩⟩
  · rw [← hfits.size_eq]
    exact Array.size_setIfInBounds
  · rw [draft?_set hsize] at hother
    split at hother
    · next h => exact h ▸ hgood
    · exact hfits.good other hother
  · rw [draft?_set hsize] at hother
    split at hother
    · next h =>
        subst h
        exact .inr ⟨tag, text, value, hnode, hvalue, by rw [draft?_set hsize, if_pos rfl]⟩
    · rcases hfits.known other hother with hmet | ⟨tag, text, value, hnode, hvalue, hd⟩
      · exact .inl hmet
      · exact .inr ⟨tag, text, value, hnode, hvalue, hgoes.keeps _ _ hd⟩

/-- The drafts when a collection is met. -/
def meetEmpty (number : Nat) (draft : Draft) (made : Drafts) : Drafts :=
  { made.set number draft with met := made.met.push number }

theorem goes_meetEmpty (hnone : made.draft? number = none) (hsize : number < made.drafts.size)
    (draft : Draft) : Goes made (made.meetEmpty number draft) := by
  refine ⟨(goes_set hnone hsize draft).keeps, #[number], ?_⟩
  exact Array.push_eq_append

theorem fits_meetEmpty (hfits : Fits nodes made) (hgood : Good nodes number)
    (hnone : made.draft? number = none) (hnode : nodes[number]? = some node)
    (hcollection : ∀ tag text, node ≠ ⟨tag, .scalar text⟩) (draft : Draft) :
    Fits nodes (made.meetEmpty number draft) := by
  have hsize : number < made.drafts.size := hfits.size_eq ▸ lt_size_of_getElem? hnode
  have hgoes := goes_meetEmpty hnone hsize draft
  have hdraft (other : Nat) : (made.meetEmpty number draft).draft? other
      = if other = number then some draft else made.draft? other := draft?_set hsize draft other
  have hmet (other : Nat) : other ∈ (made.meetEmpty number draft).met ↔ other ∈ made.met ∨ other = number :=
    Array.mem_push
  refine ⟨hfits.nodes_eq, hfits.bound, ?_, fun other hother => ?_, fun other hother => ?_, ?_,
    fun other hother => ?_⟩
  · rw [← hfits.size_eq]
    exact Array.size_setIfInBounds
  · rw [hdraft] at hother
    split at hother
    · next h => exact h ▸ hgood
    · exact hfits.good other hother
  · rw [hdraft] at hother
    split at hother
    · next h => exact .inl ((hmet other).2 (.inr h))
    · rcases hfits.known other hother with hother | ⟨tag, text, value, hnode, hvalue, hd⟩
      · exact .inl ((hmet other).2 (.inl hother))
      · exact .inr ⟨tag, text, value, hnode, hvalue, hgoes.keeps _ _ hd⟩
  · show (made.met.push number).toList.Nodup
    rw [Array.toList_push]
    refine List.nodup_append.2 ⟨hfits.nodup, List.nodup_singleton number, ?_⟩
    rintro other hother _ hnumber rfl
    obtain rfl := List.mem_singleton.1 hnumber
    exact (hfits.met _ (Array.mem_toList_iff.1 hother)).1 hnone
  · rcases (hmet other).1 hother with hother | rfl
    · exact ⟨hgoes.drafted (hfits.met other hother).1, (hfits.met other hother).2⟩
    · refine ⟨by rw [hdraft, if_pos rfl]; exact Option.some_ne_none _, fun tag text he => ?_⟩
      rw [hnode] at he
      exact hcollection tag text (Option.some.inj he)

/-- **A node that spells a document is met.** -/
theorem meet_of_good (hfits : Fits nodes made) (hgood : Good nodes number) :
    ∃ draft made', meet number made = .ok (draft, made') ∧ Fits nodes made' ∧ Goes made made'
      ∧ made'.draft? number = some draft := by
  obtain ⟨node, hnode, hshape⟩ := hgood.exists_shape
  have hsize : number < made.drafts.size := hfits.size_eq ▸ lt_size_of_getElem? hnode
  have hself (draft : Draft) : (made.set number draft).draft? number = some draft := by
    rw [draft?_set hsize, if_pos rfl]
  have hnodes : nodesNow made = .ok (nodes, made) := by
    show Except.ok (made.nodes, made) = _
    rw [hfits.nodes_eq]
  have htag := tagOf_eq hnode
  cases hdraft : made.draft? number with
  | some draft =>
      refine ⟨draft, made, Document.ran_bind.2 ⟨made, made, rfl, ?_⟩, hfits, Goes.refl made, hdraft⟩
      rw [hdraft]
      rfl
  | none =>
      cases hshape with
      | @scalar tag text value hscalar hvalue =>
          refine ⟨.scalar value, made.set number (.scalar value), Document.ran_bind.2 ⟨made, made, rfl, ?_⟩,
            fits_set hfits hgood hdraft hnode hvalue, goes_set hdraft hsize _, hself _⟩
          rw [hdraft]
          refine Document.ran_bind.2 ⟨nodes, made, hnodes, ?_⟩
          have hscalarOf := scalarOf_eq hnode
          rw [htag]
          rw [hvalue] at hscalarOf
          rcases hscalar with rfl | rfl | rfl | rfl
          all_goals exact Document.ran_bind.2 ⟨value, made, by rw [hscalarOf]; rfl, rfl⟩
      | @sequence numbers h =>
          refine ⟨.list [], made.meetEmpty number (.list []), Document.ran_bind.2 ⟨made, made, rfl, ?_⟩,
            fits_meetEmpty hfits hgood hdraft hnode (by simp) _, goes_meetEmpty hdraft hsize _, hself _⟩
          rw [hdraft]
          refine Document.ran_bind.2 ⟨nodes, made, hnodes, ?_⟩
          rw [htag]
          rfl
      | @mapping entries hkeys hvalues hnodup =>
          refine ⟨.map [], made.meetEmpty number (.map []), Document.ran_bind.2 ⟨made, made, rfl, ?_⟩,
            fits_meetEmpty hfits hgood hdraft hnode (by simp) _, goes_meetEmpty hdraft hsize _, hself _⟩
          rw [hdraft]
          refine Document.ran_bind.2 ⟨nodes, made, hnodes, ?_⟩
          rw [htag]
          rfl

/-! ## Filling -/

/-- The draft of a scalar is its value. -/
theorem Fits.draft_eq (hfits : Fits nodes made) {tag : Tag} {text : Points} {value : Value} {draft : Draft}
    (hnode : nodes[number]? = some ⟨tag, .scalar text⟩) (hvalue : readScalar tag text = .ok value)
    (hdraft : made.draft? number = some draft) : draft = .scalar value := by
  have hdrafted : made.draft? number ≠ none := by
    rw [hdraft]
    exact Option.some_ne_none draft
  rcases hfits.known number hdrafted with hmet | ⟨tag', text', value', hnode', hvalue', hdraft'⟩
  · exact absurd hnode ((hfits.met number hmet).2 tag text)
  · obtain ⟨rfl, hcontent⟩ := Node.mk.inj (Option.some.inj (hnode.symm.trans hnode'))
    obtain rfl := Content.scalar.inj hcontent
    obtain rfl := Except.ok.inj (hvalue.symm.trans hvalue')
    exact Option.some.inj (hdraft.symm.trans hdraft')

/-- The items of a list are met. -/
theorem meet_items (items : List Nat) (hfits : Fits nodes made) (hgood : ∀ item ∈ items, Good nodes item) :
    ∃ made', (forIn items PUnit.unit fun item _ => do
          let _ ← meet item
          pure (ForInStep.yield PUnit.unit) : Make PUnit) made = .ok (PUnit.unit, made')
      ∧ Fits nodes made' ∧ Goes made made' ∧ ∀ item ∈ items, made'.draft? item ≠ none := by
  induction items generalizing made with
  | nil => exact ⟨made, rfl, hfits, Goes.refl made, fun _ h => absurd h List.not_mem_nil⟩
  | cons item items ih =>
      obtain ⟨hitem, hitems⟩ := List.forall_mem_cons.1 hgood
      obtain ⟨draft, made₁, hmeet, hfits₁, hgoes₁, hdraft⟩ := meet_of_good hfits hitem
      obtain ⟨made₂, hmore, hfits₂, hgoes₂, hdrafted⟩ := ih hfits₁ hitems
      refine ⟨made₂, ?_, hfits₂, hgoes₁.trans hgoes₂, List.forall_mem_cons.2 ⟨?_, hdrafted⟩⟩
      · rw [List.forIn_cons]
        refine Document.ran_bind.2 ⟨.yield PUnit.unit, made₁, ?_, hmore⟩
        exact Document.ran_bind.2 ⟨draft, made₁, hmeet, rfl⟩
      · rw [hgoes₂.keeps _ _ hdraft]
        exact Option.some_ne_none draft

/-- The key of an entry. -/
def keyOf (nodes : Nodes) (entry : Nat × Nat) : Key × Nat :=
  (⟨entry.1, .str (keyText nodes entry.1)⟩, entry.2)

/-- The entries of a mapping are met. -/
theorem meet_entries (entries : List (Nat × Nat)) (hfits : Fits nodes made)
    (hkeys : ∀ entry ∈ entries, Good nodes entry.1
      ∧ nodes[entry.1]? = some ⟨.str, .scalar (keyText nodes entry.1)⟩)
    (hvalues : ∀ entry ∈ entries, Good nodes entry.2) :
    ∃ made', (entries.mapM fun (key, value) => do
          let key ← meetKey key
          let _ ← meet value
          return (key, value) : Make (List (Key × Nat))) made = .ok (entries.map (keyOf nodes), made')
      ∧ Fits nodes made' ∧ Goes made made'
      ∧ ∀ entry ∈ entries, made'.draft? entry.1 ≠ none ∧ made'.draft? entry.2 ≠ none := by
  induction entries generalizing made with
  | nil => exact ⟨made, rfl, hfits, Goes.refl made, fun _ h => absurd h List.not_mem_nil⟩
  | cons entry entries ih =>
      obtain ⟨⟨hkey, hkeyNode⟩, hkeys⟩ := List.forall_mem_cons.1 hkeys
      obtain ⟨hvalue, hvalues⟩ := List.forall_mem_cons.1 hvalues
      obtain ⟨draft, made₁, hmeet₁, hfits₁, hgoes₁, hdraft₁⟩ := meet_of_good hfits hkey
      obtain rfl := hfits₁.draft_eq hkeyNode rfl hdraft₁
      obtain ⟨draft₂, made₂, hmeet₂, hfits₂, hgoes₂, hdraft₂⟩ := meet_of_good hfits₁ hvalue
      obtain ⟨made₃, hmore, hfits₃, hgoes₃, hdrafted⟩ := ih hfits₂ hkeys hvalues
      have hmeetKey : meetKey entry.1 made = .ok (⟨entry.1, .str (keyText nodes entry.1)⟩, made₁) :=
        Document.ran_bind.2 ⟨_, made₁, hmeet₁, rfl⟩
      refine ⟨made₃, ?_, hfits₃, (hgoes₁.trans hgoes₂).trans hgoes₃,
        List.forall_mem_cons.2 ⟨⟨?_, ?_⟩, hdrafted⟩⟩
      · rw [List.mapM_cons]
        refine Document.ran_bind.2 ⟨keyOf nodes entry, made₂, ?_, ?_⟩
        · refine Document.ran_bind.2 ⟨_, made₁, hmeetKey, ?_⟩
          exact Document.ran_bind.2 ⟨draft₂, made₂, hmeet₂, rfl⟩
        · exact Document.ran_bind.2 ⟨_, made₃, hmore, rfl⟩
      · rw [hgoes₃.keeps _ _ (hgoes₂.keeps _ _ hdraft₁)]
        exact Option.some_ne_none _
      · rw [hgoes₃.keeps _ _ hdraft₂]
        exact Option.some_ne_none _

/-- Keys of different texts are different. -/
theorem distinct_keyOf {entries : List (Nat × Nat)}
    (hnodup : (entries.map fun entry => keyText nodes entry.1).Nodup) :
    Assoc.Distinct (entries.map (keyOf nodes)) := by
  rw [Assoc.Distinct, Assoc.keys, List.map_map, List.pairwise_map]
  refine (List.pairwise_map.1 hnodup).imp fun {a b} hne => ?_
  have hnode : (a.1 == b.1) = false := by
    rw [beq_eq_false_iff_ne]
    exact fun he => hne (congrArg (keyText nodes) he)
  have hvalue : Value.sameKey (.str (keyText nodes a.1)) (.str (keyText nodes b.1)) = false :=
    decide_eq_false hne
  show (a.1 == b.1 || Value.sameKey (.str (keyText nodes a.1)) (.str (keyText nodes b.1))) = false
  rw [hnode, hvalue]
  rfl

theorem meetEntries_of_good {entries : List (Nat × Nat)} (hfits : Fits nodes made)
    (hkeys : ∀ entry ∈ entries, Good nodes entry.1
      ∧ nodes[entry.1]? = some ⟨.str, .scalar (keyText nodes entry.1)⟩)
    (hvalues : ∀ entry ∈ entries, Good nodes entry.2)
    (hnodup : (entries.map fun entry => keyText nodes entry.1).Nodup) :
    ∃ made', meetEntries entries made = .ok (entries, made') ∧ Fits nodes made' ∧ Goes made made'
      ∧ ∀ entry ∈ entries, made'.draft? entry.1 ≠ none ∧ made'.draft? entry.2 ≠ none := by
  obtain ⟨made', hmet, hfits', hgoes, hdrafted⟩ := meet_entries entries hfits hkeys hvalues
  refine ⟨made', Document.ran_bind.2 ⟨_, made', hmet, ?_⟩, hfits', hgoes, hdrafted⟩
  rw [(distinct_keyOf hnodup).ofPairs_eq, List.map_map]
  show Except.ok (entries.map id, made') = _
  rw [List.map_id]

/-- A mapping whose keys are texts merges nothing. -/
theorem flattenMapping_eq {entries : List (Nat × Nat)} {bound : Nat} (hbound : 2 ≤ bound)
    (hnode : nodes[number]? = some ⟨.map, .mapping entries⟩)
    (hkeys : ∀ entry ∈ entries, nodes.tagOf entry.1 = .str) :
    nodes.flattenMapping bound number = .ok nodes := by
  obtain ⟨bound, rfl⟩ := Nat.exists_eq_add_of_le' hbound
  have hentries : nodes.entriesOf number = entries := by
    rw [Nodes.entriesOf, contentOf_eq hnode]
  have htake : nodes.takeMerge? entries = none := by
    clear hnode hentries
    induction entries with
    | nil => rfl
    | cons entry entries ih =>
        obtain ⟨key, value⟩ := entry
        obtain ⟨hkey, hkeys⟩ := List.forall_mem_cons.1 hkeys
        have hmerge : nodes.isMerge key = false := by
          rw [Nodes.isMerge, hkey]
          rfl
        rw [Nodes.takeMerge?, hmerge, ih hkeys]
        rfl
  have hspell : entries.foldl (fun nodes entry => nodes.spellKey entry.1) nodes = nodes := by
    clear hnode hentries htake
    induction entries with
    | nil => rfl
    | cons entry entries ih =>
        obtain ⟨hkey, hkeys⟩ := List.forall_mem_cons.1 hkeys
        have hstays : nodes.spellKey entry.1 = nodes := by
          rw [Nodes.spellKey, hkey]
          rfl
        rw [List.foldl_cons, hstays, ih hkeys]
  have hmerged : nodes.takeMerged (bound + 1) number = .ok ([], nodes) := by
    rw [Nodes.takeMerged, hentries, htake]
  rw [Nodes.flattenMapping, hmerged]
  show Except.ok (if true then _ else _) = _
  rw [if_pos rfl, hentries, hspell]

theorem plainEntries_eq {entries : List (Nat × Nat)} (hfits : Fits nodes made)
    (hnode : nodes[number]? = some ⟨.map, .mapping entries⟩)
    (hkeys : ∀ entry ∈ entries, nodes.tagOf entry.1 = .str) :
    plainEntries number made = .ok (entries, made) := by
  refine Document.ran_bind.2 ⟨made, made, rfl, ?_⟩
  have hflatten : made.nodes.flattenMapping made.mergeBound number = .ok nodes := by
    rw [hfits.nodes_eq]
    exact flattenMapping_eq hfits.bound hnode hkeys
  refine Document.ran_bind.2 ⟨nodes, made, by rw [hflatten]; rfl, ?_⟩
  refine Document.ran_bind.2 ⟨(), made, ?_, ?_⟩
  · show Except.ok ((), { made with nodes }) = _
    rw [← hfits.nodes_eq]
  · show Except.ok (nodes.entriesOf number, made) = _
    rw [Nodes.entriesOf, contentOf_eq hnode]

/-- Whether the draft of a node gives all that the node holds. -/
inductive Filled (nodes : Nodes) (made : Drafts) (number : Nat) : Prop
  | scalar (h : IsValue nodes made number)
  | list {numbers : List Nat} (hnode : nodes[number]? = some ⟨.seq, .sequence numbers⟩)
      (hdraft : made.draft? number = some (.list numbers))
      (h : ∀ item ∈ numbers, made.draft? item ≠ none)
  | map {entries : List (Nat × Nat)} (hnode : nodes[number]? = some ⟨.map, .mapping entries⟩)
      (hdraft : made.draft? number = some (.map entries))
      (h : ∀ entry ∈ entries, made.draft? entry.1 ≠ none ∧ made.draft? entry.2 ≠ none)

/-- Whether the drafts of all nodes but one stay as they are, and more nodes are met. -/
structure GoesBut (number : Nat) (made made' : Drafts) : Prop where
  keeps : ∀ other draft, other ≠ number → made.draft? other = some draft →
    made'.draft? other = some draft
  drafted : ∀ other, made.draft? other ≠ none → made'.draft? other ≠ none
  met : ∃ more, made'.met = made.met ++ more

theorem Goes.set (hgoes : Goes made made') (hsize : number < made'.drafts.size) (draft : Draft) :
    GoesBut number made (made'.set number draft) := by
  refine ⟨fun other found hne hfound => ?_, fun other hother => ?_, hgoes.met⟩
  · rw [draft?_set hsize, if_neg hne]
    exact hgoes.keeps _ _ hfound
  · rw [draft?_set hsize]
    split
    · exact Option.some_ne_none draft
    · exact hgoes.drafted hother

theorem Filled.goesBut {other : Nat} (h : Filled nodes made other) (hne : other ≠ number)
    (hgoes : GoesBut number made made') : Filled nodes made' other := by
  cases h with
  | scalar h =>
      obtain ⟨tag, text, value, hnode, hvalue, hdraft⟩ := h
      exact .scalar ⟨tag, text, value, hnode, hvalue, hgoes.keeps _ _ hne hdraft⟩
  | list hnode hdraft h =>
      exact .list hnode (hgoes.keeps _ _ hne hdraft) fun item hi => hgoes.drafted _ (h item hi)
  | map hnode hdraft h =>
      exact .map hnode (hgoes.keeps _ _ hne hdraft) fun entry he =>
        ⟨hgoes.drafted _ (h entry he).1, hgoes.drafted _ (h entry he).2⟩

/-- The draft of a collection that was met may change. -/
theorem fits_set_met (hfits : Fits nodes made) (hmet : number ∈ made.met) (draft : Draft) :
    Fits nodes (made.set number draft) := by
  have hsize : number < made.drafts.size := by
    rw [hfits.size_eq]
    obtain ⟨node, hnode, -⟩ := (hfits.good number (hfits.met number hmet).1).exists_shape
    exact lt_size_of_getElem? hnode
  have hgoes := (Goes.refl made).set hsize draft
  have hgood (other : Nat) (hother : (made.set number draft).draft? other ≠ none) :
      made.draft? other ≠ none := by
    rw [draft?_set hsize] at hother
    split at hother
    · next h => exact h ▸ (hfits.met number hmet).1
    · exact hother
  refine ⟨hfits.nodes_eq, hfits.bound, ?_, fun other hother => hfits.good other (hgood other hother),
    fun other hother => ?_, hfits.nodup,
    fun other hother => ⟨hgoes.drafted other (hfits.met other hother).1, (hfits.met other hother).2⟩⟩
  · rw [← hfits.size_eq]
    exact Array.size_setIfInBounds
  · by_cases h : other = number
    · exact .inl (h ▸ hmet)
    · rcases hfits.known other (hgood other hother) with hother | ⟨tag, text, value, hnode, hvalue, hd⟩
      · exact .inl hother
      · exact .inr ⟨tag, text, value, hnode, hvalue, hgoes.keeps _ _ h hd⟩

/-- **A collection that was met is filled.** -/
theorem fill_of_met (hfits : Fits nodes made) (hmet : number ∈ made.met) :
    ∃ made', fill number made = .ok ((), made') ∧ Fits nodes made' ∧ GoesBut number made made'
      ∧ Filled nodes made' number := by
  obtain ⟨hdrafted, hcollection⟩ := hfits.met number hmet
  obtain ⟨node, hnode, hshape⟩ := (hfits.good number hdrafted).exists_shape
  have hnodes : nodesNow made = .ok (nodes, made) := by
    show Except.ok (made.nodes, made) = _
    rw [hfits.nodes_eq]
  have hget : nodes.getD number Node.absent = node := by
    rw [Array.getD_eq_getD_getElem?, hnode]
    rfl
  have hmet' {made' : Drafts} (hgoes : Goes made made') : number ∈ made'.met := by
    obtain ⟨more, hmore⟩ := hgoes.met
    rw [hmore]
    exact Array.mem_append_left more hmet
  -- the items are met while the collection is filled, and so stand behind it in the order
  cases hshape with
  | @scalar tag text value htag hvalue => exact absurd hnode (hcollection tag text)
  | @sequence numbers h =>
      obtain ⟨made', hran, hfits', hgoes, hitems⟩ := meet_items numbers hfits h
      have hsize : number < made'.drafts.size := hfits'.size_eq ▸ lt_size_of_getElem? hnode
      have hgoes' := hgoes.set hsize (.list numbers)
      refine ⟨made'.set number (.list numbers), Document.ran_bind.2 ⟨nodes, made, hnodes, ?_⟩,
        fits_set_met hfits' (hmet' hgoes) _, hgoes', .list hnode ?_ fun item hi => ?_⟩
      · rw [hget]
        exact Document.ran_bind.2 ⟨PUnit.unit, made', hran, put_eq _ _ _⟩
      · rw [draft?_set hsize, if_pos rfl]
      · exact ((Goes.refl made').set hsize _).drafted item (hitems item hi)
  | @mapping entries hkeys hvalues hnodup =>
      have htags : ∀ entry ∈ entries, nodes.tagOf entry.1 = .str := fun entry he =>
        tagOf_eq (hkeys entry he).2
      obtain ⟨made', hran, hfits', hgoes, hentries⟩ := meetEntries_of_good hfits hkeys hvalues hnodup
      have hsize : number < made'.drafts.size := hfits'.size_eq ▸ lt_size_of_getElem? hnode
      have hgoes' := hgoes.set hsize (.map entries)
      have hdrafted := ((Goes.refl made').set hsize (.map entries)).drafted
      refine ⟨made'.set number (.map entries), Document.ran_bind.2 ⟨nodes, made, hnodes, ?_⟩,
        fits_set_met hfits' (hmet' hgoes) _, hgoes', .map hnode ?_ fun entry he => ?_⟩
      · rw [hget]
        refine Document.ran_bind.2 ⟨entries, made, plainEntries_eq hfits hnode htags, ?_⟩
        exact Document.ran_bind.2 ⟨entries, made', hran, put_eq _ _ _⟩
      · rw [draft?_set hsize, if_pos rfl]
      · exact ⟨hdrafted _ (hentries entry he).1, hdrafted _ (hentries entry he).2⟩

theorem Fits.size_met_le (hfits : Fits nodes made) : made.met.size ≤ nodes.size := by
  have hsub : made.met.toList ⊆ List.range nodes.size := fun number hmem => by
    obtain ⟨hdrafted, -⟩ := hfits.met number (Array.mem_toList_iff.1 hmem)
    obtain ⟨node, hnode, -⟩ := (hfits.good number hdrafted).exists_shape
    exact List.mem_range.2 (lt_size_of_getElem? hnode)
  have hle := (hfits.nodup.subperm hsub).length_le
  rwa [Array.length_toList, List.length_range] at hle

theorem filled_of_size_le {place : Nat} (hend : made.met.size ≤ place)
    (hfilled : ∀ k number, k < place → made.met[k]? = some number → Filled nodes made number) :
    ∀ number ∈ made.met, Filled nodes made number := by
  intro number hmem
  obtain ⟨k, hk, hnumber⟩ := Array.getElem_of_mem hmem
  exact hfilled k number (Nat.lt_of_lt_of_le hk hend) (Array.getElem?_eq_some_iff.2 ⟨hk, hnumber⟩)

/-- **All collections that are met are filled**, one after the other. -/
theorem fillFrom_of_fits (n : Nat) {place : Nat} (hfits : Fits nodes made)
    (hn : nodes.size ≤ n + place)
    (hfilled : ∀ k number, k < place → made.met[k]? = some number → Filled nodes made number) :
    ∃ made', fillFrom n place made = .ok ((), made') ∧ Fits nodes made'
      ∧ (∀ number ∈ made'.met, Filled nodes made' number)
      ∧ ∀ number, made.draft? number ≠ none → made'.draft? number ≠ none := by
  -- each node is met once, so the fuel lasts until all that were met are filled
  induction n generalizing made place with
  | zero =>
      have hsize := hfits.size_met_le
      exact ⟨made, rfl, hfits, filled_of_size_le (by omega) hfilled, fun _ h => h⟩
  | succ n ih =>
      cases hmet : made.met[place]? with
      | none =>
          refine ⟨made, Document.ran_bind.2 ⟨made, made, rfl, ?_⟩, hfits,
            filled_of_size_le (Array.getElem?_eq_none_iff.1 hmet) hfilled, fun _ h => h⟩
          rw [hmet]
          rfl
      | some number =>
          obtain ⟨hplace, hnumber⟩ := Array.getElem?_eq_some_iff.1 hmet
          obtain ⟨made₁, hfill, hfits₁, hgoes, hdone⟩ :=
            fill_of_met hfits (hnumber ▸ Array.getElem_mem hplace)
          have hfilled₁ : ∀ k other, k < place + 1 → made₁.met[k]? = some other →
              Filled nodes made₁ other := by
            intro k other hk hother
            obtain ⟨more, hmore⟩ := hgoes.met
            rw [hmore, Array.getElem?_append_left (by omega)] at hother
            by_cases he : k = place
            · subst he
              obtain rfl := Option.some.inj (hmet.symm.trans hother)
              exact hdone
            · -- those filled before are other nodes, whose drafts stay
              refine (hfilled k other (by omega) hother).goesBut ?_ hgoes
              rintro rfl
              have hsame : made.met.toList[k]? = made.met.toList[place]? := by
                rw [Array.getElem?_toList, Array.getElem?_toList, hother, hmet]
              have hk : k < made.met.toList.length := by
                rw [Array.length_toList]
                omega
              exact he ((List.getElem?_inj hk hfits.nodup).1 hsame)
          obtain ⟨made₂, hrest, hfits₂, hlast, hdrafted⟩ := ih hfits₁ (by omega) hfilled₁
          refine ⟨made₂, Document.ran_bind.2 ⟨made, made, rfl, ?_⟩, hfits₂, hlast, fun other hother =>
            hdrafted other (hgoes.drafted other hother)⟩
          rw [hmet]
          exact Document.ran_bind.2 ⟨(), made₁, hfill, hrest⟩

end Drafts

end ApiScan.Yaml
