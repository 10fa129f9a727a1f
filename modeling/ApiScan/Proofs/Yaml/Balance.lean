import ApiScan.Yaml.Node

set_option autoImplicit false

/-! # Marks of flow collections

What a YAML document holds of flow collections is closed again: behind the tokens that a node is
read from, the last mark of a flow collection is one that ends a collection. -/

namespace ApiScan.Yaml

/-- Whether a token is a mark of flow collections. -/
def Token.isMark : Token → Bool
  | .flowSequenceStart | .flowMappingStart | .flowSequenceEnd | .flowMappingEnd | .flowEntry => true
  | _ => false

/-- Whether a token ends a flow collection. -/
def Token.isClosing : Token → Bool
  | .flowSequenceEnd | .flowMappingEnd => true
  | _ => false

/-- The last mark of tokens, if there is one. -/
def lastMark? (tokens : List Token) : Option Token := (tokens.filter Token.isMark).getLast?

theorem lastMark?_append (tokens more : List Token) :
    lastMark? (tokens ++ more) = (lastMark? more).or (lastMark? tokens) := by
  rw [lastMark?, List.filter_append, List.getLast?_append]
  rfl

namespace Document

variable {α β : Type} {p p' p'' : Pending}

/-! ## Readers -/

theorem ran_bind {σ : Type} {read : StateT σ (Except Fault) α} {next : α → StateT σ (Except Fault) β}
    {p p'' : σ} {b : β} :
    (read >>= next) p = .ok (b, p'') ↔
      ∃ a p', read p = .ok (a, p') ∧ next a p' = .ok (b, p'') := by
  show (read p >>= fun found => next found.1 found.2) = _ ↔ _
  cases read p with
  | error fault => exact ⟨fun h => (nomatch h), fun ⟨_, _, h, _⟩ => (nomatch h)⟩
  | ok found =>
      constructor
      · exact fun h => ⟨found.1, found.2, rfl, h⟩
      · rintro ⟨a, p', h, hnext⟩
        obtain rfl := Except.ok.inj h
        exact hnext

theorem ran_pure {a b : α} : (pure a : Read α) p = .ok (b, p') ↔ a = b ∧ p = p' := by
  constructor
  · intro h
    exact Prod.mk.inj (Except.ok.inj h)
  · rintro ⟨rfl, rfl⟩
    rfl

theorem not_ran_malformed {a : α} : ¬ (malformed : Read α) p = .ok (a, p') := fun h => nomatch h

theorem ran_map {read : Read α} {f : α → β} {b : β} (h : (f <$> read) p = .ok (b, p')) :
    ∃ a, read p = .ok (a, p') := by
  rw [map_eq_pure_bind, ran_bind] at h
  obtain ⟨a, p₁, hread, hpure⟩ := h
  obtain ⟨-, rfl⟩ := ran_pure.1 hpure
  exact ⟨a, hread⟩

theorem ran_peek {token : Token} (h : peek p = .ok (token, p')) :
    p' = p ∧ ∃ more, p.tokens = token :: more := by
  obtain ⟨_, _, hget, hmatch⟩ := ran_bind.1 h
  obtain ⟨rfl, rfl⟩ := Prod.mk.inj (Except.ok.inj hget)
  cases hp : p.tokens with
  | nil =>
      rw [hp] at hmatch
      exact nomatch hmatch
  | cons first more =>
      rw [hp] at hmatch
      obtain ⟨rfl, rfl⟩ := ran_pure.1 hmatch
      exact ⟨rfl, more, rfl⟩

theorem ran_sees {tokens : List Token} {b : Bool} (h : sees tokens p = .ok (b, p')) :
    p' = p ∧ ∃ token more, p.tokens = token :: more ∧ b = decide (token ∈ tokens) := by
  obtain ⟨token, _, hpeek, hpure⟩ := ran_bind.1 h
  obtain ⟨rfl, more, hp⟩ := ran_peek hpeek
  obtain ⟨rfl, rfl⟩ := ran_pure.1 hpure
  exact ⟨rfl, token, more, hp, rfl⟩

/-! ## Tokens that are read -/

/-- There is no mark, or the last one ends a collection. -/
def Closed (mark? : Option Token) : Prop := ∀ mark, mark? = some mark → mark.isClosing = true

/-- There is a mark that ends a collection. -/
def Ends (mark? : Option Token) : Prop := ∃ mark, mark? = some mark ∧ mark.isClosing = true

theorem Ends.closed {mark? : Option Token} (h : Ends mark?) : Closed mark? := by
  obtain ⟨mark, rfl, hclosing⟩ := h
  exact fun _ he => Option.some.inj he ▸ hclosing

/-- The tokens at the front are read, and the last mark among them is of a kind. -/
def Takes (kind : Option Token → Prop) (tokens rest : List Token) : Prop :=
  ∃ used, tokens = used ++ rest ∧ kind (lastMark? used)

variable {tokens rest rest' : List Token}

theorem takes_refl (tokens : List Token) : Takes Closed tokens tokens :=
  ⟨[], rfl, fun _ he => nomatch he⟩

theorem Takes.trans (h : Takes Closed tokens rest) (h' : Takes Closed rest rest') :
    Takes Closed tokens rest' := by
  obtain ⟨used, rfl, hclosed⟩ := h
  obtain ⟨used', rfl, hclosed'⟩ := h'
  refine ⟨used ++ used', (List.append_assoc _ _ _).symm, ?_⟩
  rw [lastMark?_append]
  cases hmark : lastMark? used' with
  | none => exact hclosed
  | some mark =>
      rw [hmark] at hclosed'
      exact hclosed'

/-- Whatever came before, what ends with the end of a collection does. -/
theorem Takes.ends_of_append {used : List Token} (h : tokens = used ++ rest)
    (h' : Takes Ends rest rest') : Takes Ends tokens rest' := by
  obtain ⟨used', rfl, mark, hmark, hclosing⟩ := h'
  refine ⟨used ++ used', by rw [h, List.append_assoc], mark, ?_, hclosing⟩
  rw [lastMark?_append, hmark]
  rfl

theorem Takes.then_ends (h : Takes Closed tokens rest) (h' : Takes Ends rest rest') :
    Takes Ends tokens rest' := by
  obtain ⟨used, hp, -⟩ := h
  exact Takes.ends_of_append hp h'

theorem Takes.of_ends (h : Takes Ends tokens rest) : Takes Closed tokens rest := by
  obtain ⟨used, hp, hends⟩ := h
  exact ⟨used, hp, hends.closed⟩

theorem takes_token {token : Token} (hmark : token.isMark = false) :
    Takes Closed (token :: rest) rest := by
  refine ⟨[token], rfl, ?_⟩
  rw [lastMark?, List.filter_cons_of_neg (by rw [hmark]; exact Bool.false_ne_true)]
  exact fun _ he => nomatch he

theorem takes_closing {token : Token} (hmark : token.isClosing = true) :
    Takes Ends (token :: rest) rest := by
  have his : token.isMark = true := by
    cases token <;> first | rfl | exact nomatch hmark
  refine ⟨[token], rfl, token, ?_, hmark⟩
  rw [lastMark?, List.filter_cons_of_pos his]
  rfl

/-- Whatever a token is, behind the end of a collection it does not matter. -/
theorem takes_cons {token : Token} (h : Takes Ends rest rest') : Takes Ends (token :: rest) rest' := by
  have happend : token :: rest = [token] ++ rest := rfl
  exact Takes.ends_of_append happend h

theorem ran_next {token : Token} {more : List Token} {done : Unit} (hp : p.tokens = token :: more)
    (h : next p = .ok (done, p')) : p'.tokens = more := by
  obtain ⟨-, rfl⟩ := Prod.mk.inj (Except.ok.inj h)
  show p.tokens.drop 1 = more
  rw [hp]
  rfl

/-! ## Parts of nodes -/

theorem ran_add {anchor : Option Text} {node : Node} {number : Nat}
    (h : add anchor node p = .ok (number, p')) : p'.tokens = p.tokens := by
  obtain ⟨_, p₁, hpush, hname⟩ := ran_bind.1 h
  obtain ⟨rfl, rfl⟩ := Prod.mk.inj (Except.ok.inj hpush)
  cases anchor with
  | none =>
      obtain ⟨-, rfl⟩ := ran_pure.1 hname
      rfl
  | some name =>
      obtain ⟨_, _, hget, hname⟩ := ran_bind.1 hname
      obtain ⟨rfl, rfl⟩ := Prod.mk.inj (Except.ok.inj hget)
      split at hname
      · exact nomatch hname
      · obtain ⟨_, _, hset, hpure⟩ := ran_bind.1 hname
        obtain ⟨-, rfl⟩ := Prod.mk.inj (Except.ok.inj hset)
        obtain ⟨-, rfl⟩ := ran_pure.1 hpure
        rfl

theorem ran_collect {anchor : Option Text} {tag : Tag} {content : Read Content} {number : Nat}
    (h : collect anchor tag content p = .ok (number, p')) :
    ∃ found p₁ p₂, content p₁ = .ok (found, p₂) ∧ p₁.tokens = p.tokens
      ∧ p'.tokens = p₂.tokens := by
  obtain ⟨_, p₁, hadd, h⟩ := ran_bind.1 h
  obtain ⟨found, p₂, hcontent, h⟩ := ran_bind.1 h
  obtain ⟨_, _, hset, hpure⟩ := ran_bind.1 h
  obtain ⟨-, rfl⟩ := Prod.mk.inj (Except.ok.inj hset)
  obtain ⟨-, rfl⟩ := ran_pure.1 hpure
  exact ⟨found, p₁, p₂, hcontent, ran_add hadd, rfl⟩

theorem ran_fullTag {tag : Option Text × Text} {name : Text}
    (h : fullTag tag p = .ok (name, p')) : p' = p := by
  obtain ⟨handle?, suffix⟩ := tag
  cases handle? with
  | none => exact (ran_pure.1 h).2.symm
  | some handle =>
      obtain ⟨_, _, hget, hfound⟩ := ran_bind.1 h
      obtain ⟨rfl, rfl⟩ := Prod.mk.inj (Except.ok.inj hget)
      cases hstart : p.handles.lookup handle with
      | none =>
          rw [hstart] at hfound
          exact nomatch hfound
      | some start =>
          rw [hstart] at hfound
          exact (ran_pure.1 hfound).2.symm

/-- A token in front that is no mark may be read or left. -/
theorem takes_optional {read : Token → Read α} {a : α}
    (hread : ∀ token, (∃ b, read token = pure b)
      ∨ token.isMark = false ∧ ∃ b, read token = (do next; return b))
    (h : (peek >>= read) p = .ok (a, p')) : Takes Closed p.tokens p'.tokens := by
  obtain ⟨token, _, hpeek, hrest⟩ := ran_bind.1 h
  obtain ⟨rfl, more, hp⟩ := ran_peek hpeek
  obtain ⟨b, hb⟩ | ⟨hmark, b, hb⟩ := hread token
  · rw [hb] at hrest
    obtain ⟨-, rfl⟩ := ran_pure.1 hrest
    exact takes_refl _
  · rw [hb] at hrest
    obtain ⟨_, p₁, hnext, hpure⟩ := ran_bind.1 hrest
    obtain ⟨-, rfl⟩ := ran_pure.1 hpure
    rw [hp, ran_next hp hnext]
    exact takes_token hmark

theorem takes_anchor? {anchor : Option Text} (h : anchor? p = .ok (anchor, p')) :
    Takes Closed p.tokens p'.tokens := by
  refine takes_optional (fun token => ?_) h
  split
  · exact .inr ⟨rfl, _, rfl⟩
  · exact .inl ⟨_, rfl⟩

theorem takes_tag? {tag : Option (Option Text × Text)} (h : tag? p = .ok (tag, p')) :
    Takes Closed p.tokens p'.tokens := by
  refine takes_optional (fun token => ?_) h
  split
  · exact .inr ⟨rfl, _, rfl⟩
  · exact .inl ⟨_, rfl⟩

theorem takes_properties {found : Option Text × Option Text}
    (h : properties p = .ok (found, p')) : Takes Closed p.tokens p'.tokens := by
  obtain ⟨anchor, p₁, hanchor, h⟩ := ran_bind.1 h
  refine (takes_anchor? hanchor).trans ?_
  cases anchor with
  | some name =>
      obtain ⟨tag, p₂, htag, h⟩ := ran_bind.1 h
      refine (takes_tag? htag).trans ?_
      obtain ⟨full, p₃, hfull, hpure⟩ := ran_bind.1 h
      obtain ⟨-, rfl⟩ := ran_pure.1 hpure
      cases tag with
      | none =>
          obtain ⟨-, rfl⟩ := ran_pure.1 hfull
          exact takes_refl _
      | some tag =>
          have hsome : (some <$> fullTag tag) p₂ = .ok (full, p₃) := hfull
          obtain ⟨name, hname⟩ := ran_map hsome
          rw [ran_fullTag hname]
          exact takes_refl _
  | none =>
      obtain ⟨tag, p₂, htag, h⟩ := ran_bind.1 h
      refine (takes_tag? htag).trans ?_
      cases tag with
      | none =>
          obtain ⟨-, rfl⟩ := ran_pure.1 h
          exact takes_refl _
      | some tag =>
          obtain ⟨anchor, p₃, hanchor', h⟩ := ran_bind.1 h
          obtain ⟨_, _, hname, hpure⟩ := ran_bind.1 h
          obtain ⟨-, rfl⟩ := ran_pure.1 hpure
          rw [ran_fullTag hname]
          exact takes_anchor? hanchor'

/-! ## Nodes -/

/-- What the readers of nodes take, with a bound on their work. -/
structure Balanced (n : Nat) : Prop where
  node : ∀ {block indentless p number p'}, readNode n block indentless p = .ok (number, p') →
    Takes Closed p.tokens p'.tokens
  orAbsent : ∀ {stops block indentless p number p'},
    readOrAbsent n stops block indentless p = .ok (number, p') → Takes Closed p.tokens p'.tokens
  value : ∀ {stops block indentless p number p'},
    readValue n stops block indentless p = .ok (number, p') → Takes Closed p.tokens p'.tokens
  blockItems : ∀ {p items p'}, readBlockItems n p = .ok (items, p') →
    Takes Closed p.tokens p'.tokens
  indentless : ∀ {p items p'}, readIndentless n p = .ok (items, p') →
    Takes Closed p.tokens p'.tokens
  blockEntries : ∀ {p entries p'}, readBlockEntries n p = .ok (entries, p') →
    Takes Closed p.tokens p'.tokens
  flowItems : ∀ {first p items p'}, readFlowItems n first p = .ok (items, p') →
    Takes Ends p.tokens p'.tokens
  flowEntries : ∀ {first p entries p'}, readFlowEntries n first p = .ok (entries, p') →
    Takes Ends p.tokens p'.tokens

variable {n : Nat} {block indentless : Bool} {stops : List Token}

theorem Balanced.of_collect {anchor : Option Text} {tag : Tag} {read : Read α} {f : α → Content}
    {kind : Option Token → Prop} {number : Nat}
    (hread : ∀ {p a p'}, read p = .ok (a, p') → Takes kind p.tokens p'.tokens)
    (h : collect anchor tag (f <$> read) p = .ok (number, p')) : Takes kind p.tokens p'.tokens := by
  obtain ⟨_, p₁, p₂, hcontent, hbefore, hafter⟩ := ran_collect h
  obtain ⟨a, hran⟩ := ran_map hcontent
  have htakes := hread hran
  rwa [hbefore, ← hafter] at htakes

theorem Balanced.orAbsent_succ (h : Balanced n) {number : Nat}
    (hran : readOrAbsent (n + 1) stops block indentless p = .ok (number, p')) :
    Takes Closed p.tokens p'.tokens := by
  obtain ⟨b, _, hsees, hrest⟩ := ran_bind.1 hran
  obtain ⟨rfl, -⟩ := ran_sees hsees
  cases b with
  | true =>
      rw [if_pos rfl] at hrest
      rw [ran_add hrest]
      exact takes_refl _
  | false => exact h.node hrest

theorem Balanced.value_succ (h : Balanced n) {number : Nat}
    (hran : readValue (n + 1) stops block indentless p = .ok (number, p')) :
    Takes Closed p.tokens p'.tokens := by
  obtain ⟨b, _, hsees, hrest⟩ := ran_bind.1 hran
  obtain ⟨rfl, token, more, hp, hb⟩ := ran_sees hsees
  cases b with
  | true =>
      obtain ⟨_, p₁, hnext, hlast⟩ := ran_bind.1 hrest
      have htoken : token = .value := List.mem_singleton.1 (of_decide_eq_true hb.symm)
      have htakes := h.orAbsent hlast
      rw [ran_next hp hnext] at htakes
      rw [hp, htoken]
      exact (takes_token rfl).trans htakes
  | false =>
      rw [if_neg Bool.false_ne_true] at hrest
      rw [ran_add hrest]
      exact takes_refl _

theorem Balanced.blockItems_succ (h : Balanced n) {items : List Nat}
    (hran : readBlockItems (n + 1) p = .ok (items, p')) : Takes Closed p.tokens p'.tokens := by
  obtain ⟨token, _, hpeek, hrest⟩ := ran_bind.1 hran
  obtain ⟨rfl, more, hp⟩ := ran_peek hpeek
  split at hrest
  · obtain ⟨_, p₁, hnext, hrest⟩ := ran_bind.1 hrest
    obtain ⟨_, p₂, hitem, hrest⟩ := ran_bind.1 hrest
    obtain ⟨_, p₃, hmore, hpure⟩ := ran_bind.1 hrest
    obtain ⟨-, rfl⟩ := ran_pure.1 hpure
    have htakes := (h.orAbsent hitem).trans (h.blockItems hmore)
    rw [ran_next hp hnext] at htakes
    rw [hp]
    exact (takes_token rfl).trans htakes
  · obtain ⟨_, p₁, hnext, hpure⟩ := ran_bind.1 hrest
    obtain ⟨-, rfl⟩ := ran_pure.1 hpure
    rw [hp, ran_next hp hnext]
    exact takes_token rfl
  · exact absurd hrest not_ran_malformed

theorem Balanced.indentless_succ (h : Balanced n) {items : List Nat}
    (hran : readIndentless (n + 1) p = .ok (items, p')) : Takes Closed p.tokens p'.tokens := by
  obtain ⟨token, _, hpeek, hrest⟩ := ran_bind.1 hran
  obtain ⟨rfl, more, hp⟩ := ran_peek hpeek
  split at hrest
  · obtain ⟨_, p₁, hnext, hrest⟩ := ran_bind.1 hrest
    obtain ⟨_, p₂, hitem, hrest⟩ := ran_bind.1 hrest
    obtain ⟨_, p₃, hmore, hpure⟩ := ran_bind.1 hrest
    obtain ⟨-, rfl⟩ := ran_pure.1 hpure
    have htakes := (h.orAbsent hitem).trans (h.indentless hmore)
    rw [ran_next hp hnext] at htakes
    rw [hp]
    exact (takes_token rfl).trans htakes
  · obtain ⟨-, rfl⟩ := ran_pure.1 hrest
    exact takes_refl _

theorem Balanced.blockEntries_succ (h : Balanced n) {entries : List (Nat × Nat)}
    (hran : readBlockEntries (n + 1) p = .ok (entries, p')) : Takes Closed p.tokens p'.tokens := by
  obtain ⟨token, _, hpeek, hrest⟩ := ran_bind.1 hran
  obtain ⟨rfl, more, hp⟩ := ran_peek hpeek
  split at hrest
  · obtain ⟨_, p₁, hnext, hrest⟩ := ran_bind.1 hrest
    obtain ⟨_, p₂, hkey, hrest⟩ := ran_bind.1 hrest
    obtain ⟨_, p₃, hvalue, hrest⟩ := ran_bind.1 hrest
    obtain ⟨_, p₄, hmore, hpure⟩ := ran_bind.1 hrest
    obtain ⟨-, rfl⟩ := ran_pure.1 hpure
    have htakes := ((h.orAbsent hkey).trans (h.value hvalue)).trans (h.blockEntries hmore)
    rw [ran_next hp hnext] at htakes
    rw [hp]
    exact (takes_token rfl).trans htakes
  · obtain ⟨_, p₁, hnext, hpure⟩ := ran_bind.1 hrest
    obtain ⟨-, rfl⟩ := ran_pure.1 hpure
    rw [hp, ran_next hp hnext]
    exact takes_token rfl
  · exact absurd hrest not_ran_malformed

theorem Balanced.node_succ (h : Balanced n) {number : Nat}
    (hran : readNode (n + 1) block indentless p = .ok (number, p')) :
    Takes Closed p.tokens p'.tokens := by
  obtain ⟨token, _, hpeek, hrest⟩ := ran_bind.1 hran
  obtain ⟨rfl, more, hp⟩ := ran_peek hpeek
  split at hrest
  · obtain ⟨_, p₁, hnext, hrest⟩ := ran_bind.1 hrest
    obtain ⟨_, _, hget, hrest⟩ := ran_bind.1 hrest
    obtain ⟨rfl, rfl⟩ := Prod.mk.inj (Except.ok.inj hget)
    have hp' : p' = p₁ := by
      cases hnumber : p₁.anchors.lookup _ with
      | none =>
          rw [hnumber] at hrest
          exact absurd hrest not_ran_malformed
      | some number =>
          rw [hnumber] at hrest
          exact (ran_pure.1 hrest).2.symm
    rw [hp, hp', ran_next hp hnext]
    exact takes_token rfl
  · obtain ⟨⟨anchor, tag⟩, p₁, hproperties, hrest⟩ := ran_bind.1 hrest
    refine (takes_properties hproperties).trans ?_
    obtain ⟨token, _, hpeek', hrest⟩ := ran_bind.1 hrest
    obtain ⟨rfl, more, hp₁⟩ := ran_peek hpeek'
    rw [hp₁]
    -- an absent scalar takes nothing
    have habsent {p p' : Pending} {number : Nat}
        (hran : (if anchor.isSome || tag.isSome then
          add anchor ⟨scalarTag tag [] true, .scalar []⟩ else malformed) p = .ok (number, p')) :
        p'.tokens = p.tokens := by
      split at hran
      · exact ran_add hran
      · exact absurd hran not_ran_malformed
    cases token
    case scalar text plain =>
      obtain ⟨_, p₂, hnext, hadd⟩ := ran_bind.1 hrest
      rw [ran_add hadd, ran_next hp₁ hnext]
      exact takes_token rfl
    case flowSequenceStart =>
      obtain ⟨_, p₂, hnext, hcollect⟩ := ran_bind.1 hrest
      have htakes := Balanced.of_collect (fun hran => h.flowItems hran) hcollect
      rw [ran_next hp₁ hnext] at htakes
      exact (takes_cons htakes).of_ends
    case flowMappingStart =>
      obtain ⟨_, p₂, hnext, hcollect⟩ := ran_bind.1 hrest
      have htakes := Balanced.of_collect (fun hran => h.flowEntries hran) hcollect
      rw [ran_next hp₁ hnext] at htakes
      exact (takes_cons htakes).of_ends
    case blockEntry =>
      cases indentless with
      | true =>
          rw [← hp₁]
          exact Balanced.of_collect (fun hran => h.indentless hran) hrest
      | false =>
          rw [habsent hrest, hp₁]
          exact takes_refl _
    case blockSequenceStart =>
      cases block with
      | true =>
          obtain ⟨_, p₂, hnext, hcollect⟩ := ran_bind.1 hrest
          have htakes := Balanced.of_collect (fun hran => h.blockItems hran) hcollect
          rw [ran_next hp₁ hnext] at htakes
          exact (takes_token rfl).trans htakes
      | false =>
          rw [habsent hrest, hp₁]
          exact takes_refl _
    case blockMappingStart =>
      cases block with
      | true =>
          obtain ⟨_, p₂, hnext, hcollect⟩ := ran_bind.1 hrest
          have htakes := Balanced.of_collect (fun hran => h.blockEntries hran) hcollect
          rw [ran_next hp₁ hnext] at htakes
          exact (takes_token rfl).trans htakes
      | false =>
          rw [habsent hrest, hp₁]
          exact takes_refl _
    all_goals
      rw [habsent hrest, hp₁]
      exact takes_refl _

/-- The items of a flow sequence behind the comma after an item. -/
def flowItemsBehind (n : Nat) : Read (List Nat) := do
  match ← peek with
  | .flowSequenceEnd =>
    next
    return []
  | .key =>
    next
    let item ← collect none .map do
      let key ← readOrAbsent n [.value, .flowEntry, .flowSequenceEnd] false false
      let value ← readValue n [.flowEntry, .flowSequenceEnd] false false
      return .mapping [(key, value)]
    return item :: (← readFlowItems n false)
  | _ =>
    let item ← readNode n false false
    return item :: (← readFlowItems n false)

theorem Balanced.flowItemsBehind (h : Balanced n) {items : List Nat}
    (hran : flowItemsBehind n p = .ok (items, p')) : Takes Ends p.tokens p'.tokens := by
  obtain ⟨token, _, hpeek, hrest⟩ := ran_bind.1 hran
  obtain ⟨rfl, more, hp⟩ := ran_peek hpeek
  split at hrest
  · obtain ⟨_, p₁, hnext, hpure⟩ := ran_bind.1 hrest
    obtain ⟨-, rfl⟩ := ran_pure.1 hpure
    rw [hp, ran_next hp hnext]
    exact takes_closing rfl
  · obtain ⟨_, p₁, hnext, hrest⟩ := ran_bind.1 hrest
    obtain ⟨_, p₂, hitem, hrest⟩ := ran_bind.1 hrest
    obtain ⟨_, p₃, hmore, hpure⟩ := ran_bind.1 hrest
    obtain ⟨-, rfl⟩ := ran_pure.1 hpure
    obtain ⟨_, q, q', hpair, hbefore, hafter⟩ := ran_collect hitem
    obtain ⟨_, q₁, hkey, hpair⟩ := ran_bind.1 hpair
    obtain ⟨_, q₂, hvalue, hpure⟩ := ran_bind.1 hpair
    obtain ⟨-, rfl⟩ := ran_pure.1 hpure
    have htakes := (h.orAbsent hkey).trans (h.value hvalue)
    rw [hbefore, ← hafter, ran_next hp hnext] at htakes
    rw [hp]
    exact ((takes_token rfl).trans htakes).then_ends (h.flowItems hmore)
  · obtain ⟨_, p₁, hitem, hrest⟩ := ran_bind.1 hrest
    obtain ⟨_, p₂, hmore, hpure⟩ := ran_bind.1 hrest
    obtain ⟨-, rfl⟩ := ran_pure.1 hpure
    exact (h.node hitem).then_ends (h.flowItems hmore)

theorem Balanced.flowItems_succ (h : Balanced n) {first : Bool} {items : List Nat}
    (hran : readFlowItems (n + 1) first p = .ok (items, p')) : Takes Ends p.tokens p'.tokens := by
  obtain ⟨b, _, hsees, hrest⟩ := ran_bind.1 hran
  obtain ⟨rfl, token, more, hp, hb⟩ := ran_sees hsees
  cases b with
  | true =>
      obtain ⟨_, p₁, hnext, hpure⟩ := ran_bind.1 hrest
      obtain ⟨-, rfl⟩ := ran_pure.1 hpure
      rw [hp, ran_next hp hnext, List.mem_singleton.1 (of_decide_eq_true hb.symm)]
      exact takes_closing rfl
  | false =>
      cases first with
      | true => exact h.flowItemsBehind hrest
      | false =>
          obtain ⟨comma, _, hsees, hrest⟩ := ran_bind.1 hrest
          obtain ⟨rfl, -⟩ := ran_sees hsees
          cases comma with
          | true =>
              obtain ⟨_, p₁, hnext, hrest⟩ := ran_bind.1 hrest
              have htakes := h.flowItemsBehind hrest
              rw [ran_next hp hnext] at htakes
              rw [hp]
              exact takes_cons htakes
          | false =>
              obtain ⟨_, _, hfail, -⟩ := ran_bind.1 hrest
              exact absurd hfail not_ran_malformed

/-- The entries of a flow mapping behind the comma after an entry. -/
def flowEntriesBehind (n : Nat) : Read (List (Nat × Nat)) := do
  match ← peek with
  | .flowMappingEnd =>
    next
    return []
  | .key =>
    next
    let key ← readOrAbsent n [.value, .flowEntry, .flowMappingEnd] false false
    let value ← readValue n [.flowEntry, .flowMappingEnd] false false
    return (key, value) :: (← readFlowEntries n false)
  | _ =>
    let key ← readNode n false false
    let value ← add none Node.absent
    return (key, value) :: (← readFlowEntries n false)

theorem Balanced.flowEntriesBehind (h : Balanced n) {entries : List (Nat × Nat)}
    (hran : flowEntriesBehind n p = .ok (entries, p')) : Takes Ends p.tokens p'.tokens := by
  obtain ⟨token, _, hpeek, hrest⟩ := ran_bind.1 hran
  obtain ⟨rfl, more, hp⟩ := ran_peek hpeek
  split at hrest
  · obtain ⟨_, p₁, hnext, hpure⟩ := ran_bind.1 hrest
    obtain ⟨-, rfl⟩ := ran_pure.1 hpure
    rw [hp, ran_next hp hnext]
    exact takes_closing rfl
  · obtain ⟨_, p₁, hnext, hrest⟩ := ran_bind.1 hrest
    obtain ⟨_, p₂, hkey, hrest⟩ := ran_bind.1 hrest
    obtain ⟨_, p₃, hvalue, hrest⟩ := ran_bind.1 hrest
    obtain ⟨_, p₄, hmore, hpure⟩ := ran_bind.1 hrest
    obtain ⟨-, rfl⟩ := ran_pure.1 hpure
    have htakes := ((h.orAbsent hkey).trans (h.value hvalue)).then_ends (h.flowEntries hmore)
    rw [ran_next hp hnext] at htakes
    rw [hp]
    exact (takes_token rfl).then_ends htakes
  · obtain ⟨_, p₁, hkey, hrest⟩ := ran_bind.1 hrest
    obtain ⟨_, p₂, hvalue, hrest⟩ := ran_bind.1 hrest
    obtain ⟨_, p₃, hmore, hpure⟩ := ran_bind.1 hrest
    obtain ⟨-, rfl⟩ := ran_pure.1 hpure
    have htakes := h.flowEntries hmore
    rw [ran_add hvalue] at htakes
    exact (h.node hkey).then_ends htakes

theorem Balanced.flowEntries_succ (h : Balanced n) {first : Bool} {entries : List (Nat × Nat)}
    (hran : readFlowEntries (n + 1) first p = .ok (entries, p')) :
    Takes Ends p.tokens p'.tokens := by
  obtain ⟨b, _, hsees, hrest⟩ := ran_bind.1 hran
  obtain ⟨rfl, token, more, hp, hb⟩ := ran_sees hsees
  cases b with
  | true =>
      obtain ⟨_, p₁, hnext, hpure⟩ := ran_bind.1 hrest
      obtain ⟨-, rfl⟩ := ran_pure.1 hpure
      rw [hp, ran_next hp hnext, List.mem_singleton.1 (of_decide_eq_true hb.symm)]
      exact takes_closing rfl
  | false =>
      cases first with
      | true => exact h.flowEntriesBehind hrest
      | false =>
          obtain ⟨comma, _, hsees, hrest⟩ := ran_bind.1 hrest
          obtain ⟨rfl, -⟩ := ran_sees hsees
          cases comma with
          | true =>
              obtain ⟨_, p₁, hnext, hrest⟩ := ran_bind.1 hrest
              have htakes := h.flowEntriesBehind hrest
              rw [ran_next hp hnext] at htakes
              rw [hp]
              exact takes_cons htakes
          | false =>
              obtain ⟨_, _, hfail, -⟩ := ran_bind.1 hrest
              exact absurd hfail not_ran_malformed

/-- **Behind the tokens of a node, the last mark of flow collections ends one.** -/
theorem balanced (n : Nat) : Balanced n := by
  induction n with
  | zero =>
      exact ⟨fun h => absurd h not_ran_malformed, fun h => absurd h not_ran_malformed,
        fun h => absurd h not_ran_malformed, fun h => absurd h not_ran_malformed,
        fun h => absurd h not_ran_malformed, fun h => absurd h not_ran_malformed,
        fun h => absurd h not_ran_malformed, fun h => absurd h not_ran_malformed⟩
  | succ n ih =>
      exact ⟨ih.node_succ, ih.orAbsent_succ, ih.value_succ, ih.blockItems_succ, ih.indentless_succ,
        ih.blockEntries_succ, ih.flowItems_succ, ih.flowEntries_succ⟩

/-! ## Documents -/

theorem takes_readDirectives {versioned : Bool} {handles found : Handles}
    (h : readDirectives n versioned handles p = .ok (found, p')) :
    Takes Closed p.tokens p'.tokens := by
  induction n generalizing versioned handles p with
  | zero => exact absurd h not_ran_malformed
  | succ n ih =>
      obtain ⟨token, _, hpeek, hrest⟩ := ran_bind.1 h
      obtain ⟨rfl, more, hp⟩ := ran_peek hpeek
      split at hrest
      · obtain ⟨_, p₁, hnext, hrest⟩ := ran_bind.1 hrest
        split at hrest
        · exact absurd hrest not_ran_malformed
        · have htakes := ih hrest
          rw [ran_next hp hnext] at htakes
          rw [hp]
          exact (takes_token rfl).trans htakes
      · obtain ⟨_, p₁, hnext, hrest⟩ := ran_bind.1 hrest
        split at hrest
        · exact absurd hrest not_ran_malformed
        · have htakes := ih hrest
          rw [ran_next hp hnext] at htakes
          rw [hp]
          exact (takes_token rfl).trans htakes
      · obtain ⟨_, p₁, hnext, hrest⟩ := ran_bind.1 hrest
        have htakes := ih hrest
        rw [ran_next hp hnext] at htakes
        rw [hp]
        exact (takes_token rfl).trans htakes
      · obtain ⟨-, rfl⟩ := ran_pure.1 hrest
        exact takes_refl _

theorem takes_readStart {done : Unit} (h : readStart n p = .ok (done, p')) :
    Takes Closed p.tokens p'.tokens := by
  obtain ⟨handles, p₁, hdirectives, hrest⟩ := ran_bind.1 h
  refine (takes_readDirectives hdirectives).trans ?_
  obtain ⟨b, _, hsees, hrest⟩ := ran_bind.1 hrest
  obtain ⟨rfl, token, more, hp, hb⟩ := ran_sees hsees
  cases b with
  | true =>
      obtain ⟨_, p₂, hnext, hmodify⟩ := ran_bind.1 hrest
      obtain ⟨-, rfl⟩ := Prod.mk.inj (Except.ok.inj hmodify)
      show Takes Closed _ p₂.tokens
      rw [hp, ran_next hp hnext, List.mem_singleton.1 (of_decide_eq_true hb.symm)]
      exact takes_token rfl
  | false => exact absurd hrest not_ran_malformed

theorem takes_skipEnds {done : Unit} (h : skipEnds n p = .ok (done, p')) :
    Takes Closed p.tokens p'.tokens := by
  induction n generalizing p with
  | zero => exact absurd h not_ran_malformed
  | succ n ih =>
      obtain ⟨b, _, hsees, hrest⟩ := ran_bind.1 h
      obtain ⟨rfl, token, more, hp, hb⟩ := ran_sees hsees
      cases b with
      | true =>
          obtain ⟨_, p₁, hnext, hrest⟩ := ran_bind.1 hrest
          have htakes := ih hrest
          rw [ran_next hp hnext] at htakes
          rw [hp, List.mem_singleton.1 (of_decide_eq_true hb.symm)]
          exact (takes_token rfl).trans htakes
      | false =>
          obtain ⟨-, rfl⟩ := ran_pure.1 hrest
          exact takes_refl _

/-- What has to follow the root of a document. -/
def endRoot (n root : Nat) : Read (Option Nat) := do
  skipEnds n
  if ← sees [.streamEnd] then return some root
  readStart n
  malformed

theorem takes_endRoot {root : Nat} {root? : Option Nat} (h : endRoot n root p = .ok (root?, p')) :
    ∃ more, Takes Closed p.tokens (.streamEnd :: more) := by
  obtain ⟨_, p₁, hskip, hrest⟩ := ran_bind.1 h
  obtain ⟨b, _, hsees, hrest⟩ := ran_bind.1 hrest
  obtain ⟨rfl, last, more, hp, hb⟩ := ran_sees hsees
  cases b with
  | true =>
      have htakes := takes_skipEnds hskip
      rw [hp, List.mem_singleton.1 (of_decide_eq_true hb.symm)] at htakes
      exact ⟨more, htakes⟩
  | false =>
      obtain ⟨_, p₂, -, hfail⟩ := ran_bind.1 hrest
      exact absurd hfail not_ran_malformed

theorem takes_root {read : Read Nat} {root? : Option Nat}
    (hread : ∀ {p number p'}, read p = .ok (number, p') → Takes Closed p.tokens p'.tokens)
    (h : (read >>= endRoot n) p = .ok (root?, p')) :
    ∃ more, Takes Closed p.tokens (.streamEnd :: more) := by
  obtain ⟨root, p₁, hroot, hrest⟩ := ran_bind.1 h
  obtain ⟨more, htakes⟩ := takes_endRoot hrest
  exact ⟨more, (hread hroot).trans htakes⟩

/-- The tokens of a text with a document end the text, and the last mark before its end closes a
    collection. -/
theorem takes_readRoot {root : Option Nat} (h : readRoot n p = .ok (root, p')) :
    ∃ more, Takes Closed p.tokens (.streamEnd :: more) := by
  obtain ⟨token, _, hpeek, hrest⟩ := ran_bind.1 h
  obtain ⟨rfl, more, hp⟩ := ran_peek hpeek
  by_cases hend : token = .streamEnd
  · rw [hp, hend]
    exact ⟨more, takes_refl _⟩
  · rw [if_neg hend] at hrest
    have hstarted {q : Pending} (hran : (do
        readStart n
        if endsDocument (← peek) then add none Node.absent >>= endRoot n
        else readNode n true false >>= endRoot n : Read (Option Nat)) q = .ok (root, p')) :
        ∃ more, Takes Closed q.tokens (.streamEnd :: more) := by
      obtain ⟨_, q₁, hstart, hran₁⟩ := ran_bind.1 hran
      obtain ⟨_, q₂, hpeek₁, hran₂⟩ := ran_bind.1 hran₁
      have hlast : ∃ more, Takes Closed q₂.tokens (.streamEnd :: more) := by
        split at hran₂
        · exact takes_root (fun hran => ran_add hran ▸ takes_refl _) hran₂
        · exact takes_root (balanced n).node hran₂
      obtain ⟨more, htakes⟩ := hlast
      rw [(ran_peek hpeek₁).1] at htakes
      exact ⟨more, (takes_readStart hstart).trans htakes⟩
    cases token
    case directive value => exact hstarted hrest
    case documentStart => exact hstarted hrest
    all_goals exact takes_root (balanced n).node hrest

/-- **A text with a document is read to its end, and its last mark of flow collections closes
    one.** -/
theorem closed_of_ofText? {text : Text} {doc? : Option Document} (h : ofText? text = .ok doc?) :
    Token.streamEnd ∈ (Token.ofText text).1 ∧ ∃ used more,
      (Token.ofText text).1 = used ++ .streamEnd :: more ∧ Closed (lastMark? used) := by
  unfold ofText? at h
  rcases htokens : Token.ofText text with ⟨tokens, fault⟩
  rw [htokens] at h
  cases hroot : readRoot (4 * tokens.length + 4) { tokens, fault } with
  | error fault =>
      simp only [StateT.run, hroot] at h
      exact nomatch h
  | ok found =>
      obtain ⟨more, used, hused, hclosed⟩ := takes_readRoot hroot
      have hsplit : tokens = used ++ .streamEnd :: more := hused
      exact ⟨by rw [hsplit]; simp, used, more, hsplit, hclosed⟩

end Document

end ApiScan.Yaml
