import ApiScan.Proofs.Yaml.Form.Plain
import ApiScan.Yaml.Token.Scan

set_option autoImplicit false

/-! # How a reader of tokens moves on

One state of a reader reaches another if it reads the same tokens to the end of the text, in no more
steps than there are characters between the two. So white space can be passed before it is read,
and a block can be closed or opened before the token that does so. -/

namespace ApiScan.Yaml

variable {gap tail : Text} {broke : Bool} {c : Char}

/-! ## White space -/

/-- Whether a text starts with a token that can stand behind white space. -/
def StartsToken (tail : Text) : Prop := ∀ c ∈ tail.head?, c ≠ ' ' ∧ c ≠ '#' ∧ TakesColumn c

theorem startsToken_cons (hc : c ≠ ' ' ∧ c ≠ '#' ∧ TakesColumn c) : StartsToken (c :: tail) := by
  intro d hd
  exact Option.some.inj hd ▸ hc

/-- The white space in front of a token, and whether it breaks the line. -/
inductive TokenGap : Text → Bool → Prop
  | nil : TokenGap [] false
  | blank : TokenGap [' '] false
  | line (indent : Nat) : TokenGap (lineStart indent) true

namespace Scan

variable {at_ : Cursor} {s s' s'' : Scan} {keyAllowed : Bool} {tokens : List Token} {indent : Int}
  {outer : List Int}

theorem nextPlace_of_startsToken (htail : StartsToken tail) (hat : at_.ahead = tail) :
    nextPlace false broke tail at_ = (at_, broke) := by
  cases tail with
  | nil => rfl
  | cons c tail =>
      obtain ⟨hblank, hhash, hcolumn⟩ := htail c rfl
      simp [nextPlace, hcolumn.1, hblank, hhash]

theorem nextPlace_replicate {n : Nat} (htail : StartsToken tail)
    (hat : at_.ahead = List.replicate n ' ' ++ tail) :
    nextPlace false broke (List.replicate n ' ' ++ tail) at_ = (at_.skip n, broke) := by
  have hbreak : isBreak ' ' = false := by decide
  induction n generalizing at_ with
  | zero => exact nextPlace_of_startsToken htail hat
  | succ n ih =>
      rw [List.replicate_succ, List.cons_append] at hat ⊢
      rw [nextPlace]
      simpa [hbreak, Cursor.skip_succ] using ih (Cursor.next_ahead hat)

/-- White space is passed. -/
theorem nextPlace_of_tokenGap (hgap : TokenGap gap broke) (htail : StartsToken tail)
    (hat : at_.ahead = gap ++ tail) :
    nextPlace false false (gap ++ tail) at_ = (at_.skip gap.length, broke) := by
  cases hgap with
  | nil => exact nextPlace_of_startsToken htail hat
  | blank => exact nextPlace_replicate (n := 1) htail hat
  | line indent =>
      have hbreak : isBreak '\n' = true := by decide
      rw [length_lineStart]
      rw [lineStart, List.cons_append] at hat ⊢
      rw [nextPlace, if_pos hbreak]
      exact nextPlace_replicate htail (Cursor.next_ahead hat)

theorem toNextToken_of_tokenGap (hgap : TokenGap gap broke) (htail : StartsToken tail)
    (hat : s.place.ahead = gap ++ tail) :
    s.toNextToken = { s with place := s.place.skip gap.length,
                             keyAllowed := s.keyAllowed || (broke && s.flow = 0) } := by
  have hmark : s.place.peek ≠ some '\uFEFF' := by
    rw [Cursor.peek, hat]
    cases hgap with
    | nil => exact fun he => absurd rfl (htail '\uFEFF' he).2.2.2
    | blank => simp
    | line indent => simp [lineStart]
  unfold toNextToken
  simp only [hmark, decide_false, Bool.and_false, Bool.false_eq_true, if_false, hat,
    nextPlace_of_tokenGap hgap htail hat]

/-! ## Steps -/

/-- One round of reading: a step without the possible keys that are stale before it. -/
def round (s : Scan) : Except Fault Scan := s.dropStaleKeys >>= step

/-- What is done at the place of a token. -/
def act (s : Scan) : Except Fault Scan :=
  match (s.unindent s.place.column).place.peek with
  | none => (s.unindent s.place.column).streamEnd
  | some c => (s.unindent s.place.column).readToken c

theorem step_eq (s : Scan) : s.step = s.toNextToken.dropStaleKeys >>= act := rfl

theorem toEnd_succ_of_round {n : Nat} (hended : s.ended = false) (h : s.round = .ok s') :
    toEnd (n + 1) s = toEnd n s' := by
  rw [toEnd, if_neg (by simp [hended])]
  unfold round at h
  cases hdrop : s.dropStaleKeys with
  | error fault =>
      rw [hdrop] at h
      cases h
  | ok s₁ =>
      rw [hdrop] at h
      have hstep : s₁.step = .ok s' := h
      simp only [hstep]

/-- Reading that does not stop short goes on with a round. -/
theorem exists_round {n : Nat} (hended : s.ended = false) (h : toEnd (n + 1) s = (tokens, none)) :
    ∃ s', s.round = .ok s' := by
  rw [toEnd, if_neg (by simp [hended])] at h
  unfold round
  cases hdrop : s.dropStaleKeys with
  | error fault =>
      rw [hdrop] at h
      cases h
  | ok s₁ =>
      rw [hdrop] at h
      show ∃ s', s₁.step = .ok s'
      cases hstep : s₁.step with
      | error fault =>
          simp only [hstep] at h
          cases h
      | ok s₂ => exact ⟨s₂, rfl⟩

/-! ## Reaching a state -/

/-- Whether reading goes on to the end from one state as from another, with no more steps between
    them than characters. -/
def Reaches (s s' : Scan) : Prop :=
  ∃ k, k + s'.place.ahead.length ≤ s.place.ahead.length
    ∧ ∀ n tokens, toEnd n s' = (tokens, none) → toEnd (n + k) s = (tokens, none)

theorem Reaches.trans (h : Reaches s s') (h' : Reaches s' s'') : Reaches s s'' := by
  obtain ⟨k, hk, hread⟩ := h
  obtain ⟨k', hk', hread'⟩ := h'
  refine ⟨k' + k, by omega, fun n tokens hn => ?_⟩
  rw [← Nat.add_assoc]
  exact hread _ _ (hread' _ _ hn)

theorem Reaches.of_round (hended : s.ended = false) (h : s.round = .ok s')
    (hlength : s'.place.ahead.length < s.place.ahead.length) : Reaches s s' := by
  refine ⟨1, by omega, fun n tokens hn => ?_⟩
  rw [toEnd_succ_of_round hended h]
  exact hn

/-- Two states that do the same next reach the same. -/
theorem Reaches.of_round_eq (hended : s.ended = false) (hended' : s'.ended = false)
    (h : s.round = s'.round) (hlength : s'.place.ahead.length ≤ s.place.ahead.length) :
    Reaches s s' := by
  refine ⟨0, by omega, fun n tokens hn => ?_⟩
  cases n with
  | zero => cases hn
  | succ n =>
      obtain ⟨next, hnext⟩ := exists_round hended' hn
      rw [toEnd_succ_of_round hended' hnext] at hn
      exact (toEnd_succ_of_round hended (h.trans hnext)).trans hn

/-! ## Between tokens -/

/-- A reader outside flow collections in front of a token, without a possible key. -/
def between (keyAllowed : Bool) (place : Cursor) (tokens : List Token) (indent : Int)
    (outer : List Int) : Scan :=
  { place, tokens, count := tokens.length, indent, outer, keyAllowed }

/-- Whether the possible keys of a reader are given up on the way to the next token. -/
def Forgets (s : Scan) : Prop :=
  ∀ key ∈ s.keys, key.2.required = false ∧ key.2.line ≠ s.toNextToken.place.line

theorem dropStaleKeys_of_not_required (h : ∀ key ∈ s.keys, key.2.required = false) :
    ∃ keys, s.dropStaleKeys = .ok { s with keys } ∧ ∀ key ∈ keys, key ∈ s.keys := by
  unfold dropStaleKeys
  refine ⟨_, if_neg ?_, fun key hkey => List.mem_of_mem_filter hkey⟩
  simp only [List.any_eq_true, Bool.and_eq_true, not_exists, not_and]
  intro key hkey _
  simp [h key hkey]

theorem dropStaleKeys_of_line (h : ∀ key ∈ s.keys, key.2.required = false ∧ key.2.line ≠ s.place.line) :
    s.dropStaleKeys = .ok { s with keys := [] } := by
  have hfilter : s.keys.filter (fun key => !(decide (key.2.line ≠ s.place.line)
      || decide (1024 < s.place.index - key.2.index))) = [] := by
    rw [List.filter_eq_nil_iff]
    intro key hkey
    simp [(h key hkey).2]
  unfold dropStaleKeys
  rw [if_neg]
  · exact congrArg (fun keys => Except.ok { s with keys }) hfilter
  · simp only [List.any_eq_true, Bool.and_eq_true, not_exists, not_and]
    intro key hkey _
    simp [(h key hkey).1]

theorem round_of_forgets (h : s.Forgets) : s.round = act { s.toNextToken with keys := [] } := by
  obtain ⟨keys, hkeys, hsub⟩ := dropStaleKeys_of_not_required fun key hkey => (h key hkey).1
  have hstale : ({ s with keys } : Scan).toNextToken.dropStaleKeys
      = .ok { s.toNextToken with keys := [] } :=
    dropStaleKeys_of_line fun key hkey => h key (hsub key hkey)
  rw [round, hkeys]
  show ({ s with keys } : Scan).step = _
  rw [step_eq, hstale]
  rfl

@[simp]
theorem forgets_between (at_ : Cursor) : (between keyAllowed at_ tokens indent outer).Forgets := by
  simp [Forgets, between]

theorem toNextToken_between (htail : StartsToken tail) (hat : at_.ahead = tail) :
    (between keyAllowed at_ tokens indent outer).toNextToken
      = between keyAllowed at_ tokens indent outer := by
  rw [toNextToken_of_tokenGap .nil htail hat]
  simp [between, Cursor.skip]

theorem round_between (htail : StartsToken tail) (hat : at_.ahead = tail) :
    (between keyAllowed at_ tokens indent outer).round
      = act (between keyAllowed at_ tokens indent outer) := by
  rw [round_of_forgets (forgets_between at_), toNextToken_between htail hat]
  rfl

/-- White space can be passed before the token behind it is read. -/
theorem reaches_of_tokenGap (hforgets : s.Forgets) (hgap : TokenGap gap broke)
    (htail : StartsToken tail) (hat : s.place.ahead = gap ++ tail) (hflow : s.flow = 0)
    (hcount : s.count = s.tokens.length) (hended : s.ended = false) :
    Reaches s (between (s.keyAllowed || broke) (s.place.skip gap.length) s.tokens s.indent s.outer) := by
  have hahead : (s.place.skip gap.length).ahead = tail := Cursor.ahead_skip_length hat
  refine .of_round_eq hended rfl ?_ ?_
  · rw [round_of_forgets hforgets, round_between htail hahead, toNextToken_of_tokenGap hgap htail hat]
    simp [between, hflow, hcount, hended]
  · show (s.place.skip gap.length).ahead.length ≤ _
    rw [hahead, hat, List.length_append]
    omega

theorem between_reaches_of_tokenGap (hgap : TokenGap gap broke) (htail : StartsToken tail)
    (hat : at_.ahead = gap ++ tail) :
    Reaches (between keyAllowed at_ tokens indent outer)
      (between (keyAllowed || broke) (at_.skip gap.length) tokens indent outer) :=
  reaches_of_tokenGap (forgets_between at_) hgap htail hat rfl rfl rfl

/-! ## Blocks -/

theorem unindent_of_le {column : Int} (h : s.indent ≤ column) : s.unindent column = s := by
  have hnot : ¬column < s.indent := by omega
  have hclose : closeBlocks column s.outer s = s := by
    cases s.outer with
    | nil => rfl
    | cons o outer => rw [closeBlocks, if_neg hnot]
  unfold unindent
  rw [hclose, ite_self]

/-- Where no block is closed, the token at the place is read. -/
theorem act_of_le (hat : s.place.ahead = c :: tail) (hcolumn : s.indent ≤ s.place.column) :
    act s = s.readToken c := by
  have hpeek : s.place.peek = some c := by rw [Cursor.peek, hat]; rfl
  unfold act
  rw [unindent_of_le hcolumn, hpeek]

/-- A token is read where the block goes on. -/
theorem reaches_of_readToken (htail : StartsToken (c :: tail)) (hat : at_.ahead = c :: tail)
    (hcolumn : indent ≤ at_.column)
    (hread : (between keyAllowed at_ tokens indent outer).readToken c = .ok s')
    (hlength : s'.place.ahead.length ≤ tail.length) :
    Reaches (between keyAllowed at_ tokens indent outer) s' := by
  refine .of_round rfl ?_ ?_
  · rw [round_between htail hat, act_of_le hat hcolumn, hread]
  · show _ < at_.ahead.length
    rw [hat, List.length_cons]
    omega

/-- A block that is indented further than the next token can be closed before the token is read. -/
theorem reaches_blockEnd {inner : Int} (htail : StartsToken tail) (hat : at_.ahead = tail)
    (hcolumn : at_.column < inner) :
    Reaches (between keyAllowed at_ tokens inner (indent :: outer))
      (between keyAllowed at_ (.blockEnd :: tokens) indent outer) := by
  refine .of_round_eq rfl rfl ?_ (Nat.le_refl _)
  rw [round_between htail hat, round_between htail hat]
  have hclose : (between keyAllowed at_ tokens inner (indent :: outer)).unindent at_.column
      = (between keyAllowed at_ (.blockEnd :: tokens) indent outer).unindent at_.column := by
    show closeBlocks _ (indent :: outer) _ = closeBlocks _ outer _
    rw [closeBlocks]
    exact if_pos hcolumn
  unfold act
  have hplace (tokens : List Token) (indent : Int) (outer : List Int) :
      (between keyAllowed at_ tokens indent outer).place = at_ := rfl
  rw [hplace, hplace, hclose]

/-- Whether the entries at a column stand in the block that is open, or open one. -/
inductive Opens (start : Token) (column : Nat) (tokens : List Token) (indent : Int) (outer : List Int) :
    List Token → List Int → Prop
  | inside (h : indent = column) : Opens start column tokens indent outer tokens outer
  | opening (h : indent < column) :
      Opens start column tokens indent outer (start :: tokens) (indent :: outer)

variable {start : Token} {tokens' : List Token} {outer' : List Int}

theorem Opens.le {column : Nat} (h : Opens start column tokens indent outer tokens' outer') :
    indent ≤ column := by
  cases h with
  | inside h => exact Int.le_of_eq h
  | opening h => exact Int.le_of_lt h

theorem startBlock_of_opens (h : Opens start at_.column tokens indent outer tokens' outer') :
    (between true at_ tokens indent outer).startBlock start
      = .ok (between true at_ tokens' at_.column outer') := by
  have hplace : (between true at_ tokens indent outer).place = at_ := rfl
  unfold startBlock
  cases h with
  | inside h =>
      subst h
      simp [between, opensBlock]
  | opening h =>
      simp [between, opensBlock, h, openBlock, push]

end Scan

end ApiScan.Yaml
