import ApiScan.Proofs.Yaml.Form.Reach
import ApiScan.Proofs.Yaml.Form.Scalar

set_option autoImplicit false

/-! # Reading scalars, marks and keys

A scalar form is read as one token, which becomes a key when a colon follows it on its line. A mark
or a key opens a block where it stands further in than the block around it. -/

namespace ApiScan.Yaml

variable {s body rest tail : Text} {indent n : Nat} {plain broke : Bool} {c : Char} {at_ : Cursor}
  {tokens tokens' : List Token} {outer outer' : List Int} {keyAllowed : Bool}

namespace Scan

/-! ## Scalars -/

/-- The state behind the tokens of a node of a length, with the key that it may be. -/
def behind (keyAllowed : Bool) (at_ : Cursor) (length : Nat) (broke : Bool) (node tokens : List Token)
    (indent : Int) (outer : List Int) : Scan where
  place := at_.skip length
  tokens := node ++ tokens
  count := (node ++ tokens).length
  indent := indent
  outer := outer
  keyAllowed := broke
  keys :=
    if keyAllowed then
      [(0, ⟨tokens.length, indent = at_.column, at_.index, at_.line, at_.column⟩)]
    else []

theorem saveKey_between (indent : Int) :
    (between keyAllowed at_ tokens indent outer).saveKey
      = .ok { between keyAllowed at_ tokens indent outer with
          keys := if keyAllowed then
            [(0, ⟨tokens.length, indent = at_.column, at_.index, at_.line, at_.column⟩)] else [] } := by
  cases keyAllowed <;> rfl

/-- The second character of a plain form goes on with its word if that of the text does. -/
theorem endsToken_of_plainForm {t u : Text} (h : PlainForm indent (c :: t) (c :: u))
    (ht : endsToken t.head? = false) : endsToken (u ++ rest).head? = false := by
  obtain ⟨d, t, rfl⟩ : ∃ d t', t = d :: t' := by
    cases t with
    | nil => exact absurd ht (by decide)
    | cons d t => exact ⟨d, t, rfl⟩
  suffices hu : u.head? = some d by
    obtain ⟨u, rfl⟩ := List.head?_eq_some_iff.1 hu
    exact ht
  generalize hs : c :: d :: t = s at h
  generalize hout : c :: u = out at h
  cases h with
  | word hw =>
      obtain rfl := (List.cons.inj (hs.trans hout.symm)).2
      rfl
  | @words w g g' s out hw hg hs' h =>
      obtain ⟨b, w, rfl⟩ := List.exists_cons_of_ne_nil hw.ne_nil
      cases w with
      | nil =>
          -- the word would end behind its first character
          obtain ⟨-, hdt⟩ := List.cons.inj hs
          have hblank : d = ' ' := by
            cases hg with
            | blanks n => exact (List.cons.inj hdt).1
            | fold => exact (List.cons.inj hdt).1
          subst hblank
          simp [endsToken] at ht
      | cons e w =>
          obtain ⟨-, hdt⟩ := List.cons.inj hs
          obtain ⟨-, rfl⟩ := List.cons.inj hout
          rw [(List.cons.inj hdt).1]
          rfl

/-- How a text starts that is written plain. -/
theorem allowsPlain_start {t : Text} (h : Style.allowsPlain (c :: t) = true) :
    c ∉ "#,[]\x7b\x7d&*!|>'\"%@\x60".toList
      ∧ ((c = '?' ∨ c = ':' ∨ c = '-') → endsToken t.head? = false) := by
  have hmarks : Style.hasLeadingMark (c :: t) = false := by
    simp only [Style.allowsPlain, Bool.not_eq_true', Bool.or_eq_false_iff] at h
    exact h.1.2
  simp only [Style.hasLeadingMark, Bool.or_eq_false_iff, decide_eq_false_iff_not,
    Bool.and_eq_false_imp, Bool.or_eq_true, decide_eq_true_eq, or_assoc] at hmarks
  exact hmarks.2

theorem startsPlain_of_allowsPlain {t u : Text} (hallows : Style.allowsPlain (c :: t) = true)
    (h : PlainForm indent (c :: t) (c :: u)) : startsPlain false c (u ++ rest).head? = true := by
  obtain ⟨hmarks, hindicator⟩ := allowsPlain_start hallows
  obtain ⟨hword, -⟩ := goesPlain_of_allowsPlain hallows
  by_cases hc : c = '?' ∨ c = ':' ∨ c = '-'
  · have hafter : endsToken (u ++ rest).head? = false := endsToken_of_plainForm h (hindicator hc)
    simp only [startsPlain, hafter, Bool.not_false, Bool.true_and, Bool.or_eq_true,
      decide_eq_true_eq]
    tauto
  · have hchar : c ∉ " \t-?:,[]\x7b\x7d#&*!|>'\"%@\x60".toList := by
      simp only [not_or] at hc
      simp at hmarks ⊢
      simp [hword.ne_blank, hword.ne_tab, hmarks, hc]
    simp only [startsPlain, hword.takesColumn.1, hchar]
    rfl

/-- No mark between documents stands at a place. -/
theorem not_atMark (hmark : at_.column = 0 → at_.atSeparator = false) :
    ¬(at_.column = 0 ∧ at_.atMark '-' = true) ∧ ¬(at_.column = 0 ∧ at_.atMark '.' = true) := by
  refine ⟨fun h => ?_, fun h => ?_⟩
  all_goals
    have hnone := hmark h.1
    rw [Cursor.atSeparator, h.2] at hnone
    simp at hnone

/-- The character that starts a plain form starts a plain scalar. -/
theorem readToken_of_allowsPlain {t u : Text} {indent' : Int} (hallows : Style.allowsPlain (c :: t) = true)
    (h : PlainForm indent (c :: t) (c :: u)) (hat : at_.ahead = c :: u ++ rest)
    (hmark : at_.column = 0 → at_.atSeparator = false) :
    (between keyAllowed at_ tokens indent' outer).readToken c
      = (between keyAllowed at_ tokens indent' outer).plainScalar := by
  obtain ⟨hmarks, hindicator⟩ := allowsPlain_start hallows
  have hstart : startsPlain false c (u ++ rest).head? = true := startsPlain_of_allowsPlain hallows h
  have hafter : at_.peekAt 1 = (u ++ rest).head? := Cursor.peekAt_one hat
  have hends (hc : c = '?' ∨ c = ':' ∨ c = '-') : endsToken (at_.peekAt 1) = false := by
    rw [hafter]
    exact endsToken_of_plainForm h (hindicator hc)
  have hdash : ¬(c = '-' ∧ endsToken (at_.peekAt 1) = true) := by
    rintro ⟨hc, he⟩
    simp [hends (.inr (.inr hc))] at he
  have hquestion : ¬(c = '?' ∧ endsToken (at_.peekAt 1) = true) := by
    rintro ⟨hc, he⟩
    simp [hends (.inl hc)] at he
  have hcolon : ¬(c = ':' ∧ endsToken (at_.peekAt 1) = true) := by
    rintro ⟨hc, he⟩
    simp [hends (.inr (.inl hc))] at he
  obtain ⟨hnot, hnot'⟩ := not_atMark hmark
  rw [← hafter] at hstart
  simp at hmarks
  simp [readToken, between, hmarks, hnot, hnot', hdash, hquestion, hcolon, hstart]

theorem readToken_quote {indent' : Int} (double : Bool)
    (hmark : at_.column = 0 → at_.atSeparator = false) :
    (between keyAllowed at_ tokens indent' outer).readToken (quoteOf double)
      = (between keyAllowed at_ tokens indent' outer).quotedScalar double := by
  obtain ⟨hnot, hnot'⟩ := not_atMark hmark
  cases double <;> simp [readToken, between, quoteOf, hnot, hnot']

/-- A scalar between quotes is read at its place. -/
theorem quotedScalar_between {double : Bool} {out : Text} {indent' : Int}
    (h : ReadsAs double out (Points.ofText s))
    (hat : at_.ahead = quoteOf double :: (out ++ quoteOf double :: rest))
    (hrest : rest.head? ≠ some '\'') :
    (between keyAllowed at_ tokens indent' outer).quotedScalar double
      = .ok (behind keyAllowed at_ (out.length + 2) false [.scalar (Points.ofText s) false] tokens
          indent' outer) := by
  have hread : Yaml.quotedScalar double at_ = .ok (Points.ofText s, at_.skip (out.length + 2)) :=
    quotedScalar_of_readsAs h hat fun _ => hrest
  rw [quotedScalar, saveKey_between]
  show Yaml.quotedScalar double at_ >>= _ = _
  rw [hread]
  rfl

/-- **A scalar form is read as its text.** -/
theorem readToken_of_scalarForm {indent' : Int} {k : Nat} (keyAllowed : Bool) (tokens : List Token)
    (outer : List Int) (h : ScalarForm indent plain s body)
    (hindent : indent' < indent) (hcolumn : indent' ≤ at_.column) (hat : at_.ahead = body ++ rest)
    (hstop : StopsPlain (indent' + 1) rest k broke) (hrest : rest.head? ≠ some '\'')
    (hpositive : 0 < indent) (hmark : at_.column = 0 → at_.atSeparator = false) :
    ∃ c u, body = c :: u ∧ (between keyAllowed at_ tokens indent' outer).readToken c
      = .ok (behind keyAllowed at_ (body.length + if plain then k else 0) (plain && broke)
          [.scalar (Points.ofText s) plain] tokens indent' outer) := by
  cases h with
  | plain hallows h =>
      obtain ⟨c, t, u, rfl, rfl, hc⟩ := h.exists_cons
      refine ⟨c, u, rfl, ?_⟩
      obtain ⟨-, hhash, -⟩ := goesPlain_of_allowsPlain hallows
      have hlength : (c :: u).length < at_.ahead.length + 1 := by
        rw [hat, List.length_append]
        omega
      have hread : Yaml.plainScalar false indent' at_
          = (c :: t, at_.skip ((c :: u).length + k), broke) := by
        have hplain : plainFrom false (indent' + 1) (at_.ahead.length + 1) [] at_
            = ([] ++ c :: t, at_.skip ((c :: u).length + k), broke) :=
          plainFrom_of_form h (by simpa using hhash) hpositive (by omega) hstop hat (by omega) hlength
        exact hplain
      rw [readToken_of_allowsPlain hallows h hat hmark, plainScalar, saveKey_between]
      simp only [between, bind, Except.bind, ne_eq, not_true_eq_false, decide_false, hread]
      rfl
  | @single s out _ h =>
      refine ⟨'\'', _, rfl, ?_⟩
      refine (readToken_quote false hmark).trans ?_
      have hat' : at_.ahead = quoteOf false :: (out ++ quoteOf false :: rest) := by
        rw [hat]
        simp [quoteOf]
      rw [quotedScalar_between (h.readsAs hpositive) hat' hrest]
      simp
  | @double s out h =>
      refine ⟨'"', _, rfl, ?_⟩
      refine (readToken_quote true hmark).trans ?_
      have hat' : at_.ahead = quoteOf true :: (out ++ quoteOf true :: rest) := by
        rw [hat]
        simp [quoteOf]
      rw [quotedScalar_between (h.readsAs hpositive) hat' hrest]
      simp

theorem startsToken_of_scalarForm (h : ScalarForm indent plain s body) (rest : Text) :
    StartsToken (body ++ rest) := by
  have hsingle : TakesColumn '\'' := by decide
  have hdouble : TakesColumn '"' := by decide
  intro c hc
  cases h with
  | plain hallows h =>
      obtain ⟨d, t, u, rfl, rfl, hd⟩ := h.exists_cons
      obtain rfl : d = c := Option.some.inj hc
      obtain ⟨-, hhash, -⟩ := goesPlain_of_allowsPlain hallows
      exact ⟨hd.ne_blank, hhash, hd.takesColumn⟩
  | single _ h =>
      obtain rfl : '\'' = c := Option.some.inj hc
      exact ⟨by decide, by decide, hsingle⟩
  | double h =>
      obtain rfl : '"' = c := Option.some.inj hc
      exact ⟨by decide, by decide, hdouble⟩

/-- A node that is further in than the block around it is no key if its line ends behind it. -/
theorem behind_reaches {gap : Text} {gapBroke : Bool} {length : Nat} {node : List Token} {indent' : Int}
    (hgap : TokenGap gap gapBroke) (htail : StartsToken tail)
    (hat : (at_.skip length).ahead = gap ++ tail) (hindent : indent' < at_.column)
    (hline : at_.line < (at_.skip (length + gap.length)).line) :
    Reaches (behind keyAllowed at_ length broke node tokens indent' outer)
      (between (broke || gapBroke) (at_.skip (length + gap.length)) (node ++ tokens) indent' outer) := by
  have hforgets : (behind keyAllowed at_ length broke node tokens indent' outer).Forgets := by
    intro key hkey
    rw [toNextToken_of_tokenGap hgap htail hat]
    show _ ∧ key.2.line ≠ ((at_.skip length).skip gap.length).line
    rw [← Cursor.skip_add]
    cases keyAllowed with
    | false => exact absurd hkey List.not_mem_nil
    | true =>
        obtain rfl := List.mem_singleton.1 hkey
        exact ⟨decide_eq_false (Int.ne_of_lt hindent), Nat.ne_of_lt hline⟩
  have hreach := reaches_of_tokenGap hforgets hgap htail hat rfl rfl rfl
  rw [Cursor.skip_add]
  exact hreach

theorem line_lt_skip_lineStart {length : Nat} (hat : (at_.skip length).ahead = lineStart n ++ tail) :
    at_.line < (at_.skip (length + (n + 1))).line := by
  have hline := Cursor.line_le_skip length at_
  rw [Cursor.skip_add, Cursor.skip_lineStart hat]
  show at_.line < (at_.skip length).line + 1
  omega

/-- A scalar further in than the block around it, up to the next line. -/
theorem reaches_scalar {indent' : Int} (h : ScalarForm indent plain s body) (hindent : indent' < indent)
    (hcolumn : indent' < at_.column) (hpositive : 0 < indent) (hfirst : 0 < at_.column)
    (hat : at_.ahead = body ++ (lineStart n ++ tail)) (hn : (n : Int) ≤ indent')
    (htail : StartsLine tail) :
    Reaches (between keyAllowed at_ tokens indent' outer)
      (between true (at_.skip (body.length + (n + 1))) (.scalar (Points.ofText s) plain :: tokens)
        indent' outer) := by
  have hstop : StopsPlain (indent' + 1) (lineStart n ++ tail) (n + 1) true :=
    stopsPlain_lineStart htail (by omega)
  have hquote : (lineStart n ++ tail).head? ≠ some '\'' := by simp [lineStart]
  obtain ⟨c, u, rfl, hread⟩ := readToken_of_scalarForm keyAllowed tokens outer h hindent
    (Int.le_of_lt hcolumn) hat hstop hquote hpositive (by omega)
  have hrest : (at_.skip (c :: u).length).ahead = lineStart n ++ tail := Cursor.ahead_skip_length hat
  have hline := line_lt_skip_lineStart hrest
  refine (reaches_of_readToken (startsToken_of_scalarForm h _) hat (Int.le_of_lt hcolumn) hread ?_).trans ?_
  · show (at_.skip _).ahead.length ≤ (u ++ (lineStart n ++ tail)).length
    rw [Cursor.skip_ahead, hat]
    simp only [List.cons_append, List.length_cons, List.length_drop, List.length_append]
    omega
  · cases plain with
    | true =>
        have hend : (at_.skip ((c :: u).length + (n + 1))).ahead = [] ++ tail := by
          rw [Cursor.skip_add, Cursor.skip_lineStart hrest]
          rfl
        exact behind_reaches .nil htail.head hend hcolumn hline
    | false =>
        have hline' : at_.line < (at_.skip ((c :: u).length + (lineStart n).length)).line := by
          rw [length_lineStart]
          exact hline
        rw [← length_lineStart n]
        exact behind_reaches (.line n) htail.head hrest hcolumn hline'

/-! ## Marks -/

/-- A mark may start a line. -/
theorem startsLine_mark {m : Char} {u : Text} (hm : m ∈ ['-', '?', ':'])
    (hu : endsToken u.head? = true) : StartsLine (m :: u) := by
  have hnot {d : Char} (hd : endsToken (some d) = false) : u.head? ≠ some d := by
    intro he
    rw [he, hd] at hu
    cases hu
  have hchar : ∀ m ∈ ['-', '?', ':'], m ≠ ' ' ∧ m ≠ '#' ∧ TakesColumn m := by decide
  refine ⟨startsToken_cons (hchar m hm), ?_, ?_⟩
  all_goals
    intro he
    cases u with
    | nil => cases he
    | cons d u =>
        have hd := (List.cons.inj (List.cons.inj he).2).1
        exact hnot (by decide) (congrArg some hd)

/-- The mark in front of an item. -/
theorem reaches_blockEntry {indent' : Int} (hat : at_.ahead = '-' :: rest)
    (hrest : endsToken rest.head? = true) (hcolumn : at_.column = indent)
    (hopens : Opens .blockSequenceStart indent tokens indent' outer tokens' outer') :
    Reaches (between true at_ tokens indent' outer)
      (between true at_.next (.blockEntry :: tokens') indent outer') := by
  subst hcolumn
  have hmark : at_.column = 0 → at_.atSeparator = false := fun _ =>
    (startsLine_mark (by decide) hrest).atSeparator_eq_false (n := 0) hat
  have hafter := Cursor.peekAt_one hat
  obtain ⟨hnot, hnot'⟩ := not_atMark hmark
  refine reaches_of_readToken (c := '-') (startsToken_cons (by decide)) hat hopens.le ?_ ?_
  · have hread : (between true at_ tokens indent' outer).readToken '-'
        = (between true at_ tokens indent' outer).blockEntry := by
      simp [readToken, between, hnot, hnot', hafter, hrest]
    rw [hread, blockEntry, startBlock_of_opens hopens]
    rfl
  · show at_.next.ahead.length ≤ _
    rw [Cursor.next_ahead hat]

/-- The mark in front of a name that is a node of its own. -/
theorem reaches_explicitKey {indent' : Int} (hat : at_.ahead = '?' :: rest)
    (hrest : endsToken rest.head? = true) (hcolumn : at_.column = indent)
    (hopens : Opens .blockMappingStart indent tokens indent' outer tokens' outer') :
    Reaches (between true at_ tokens indent' outer)
      (between true at_.next (.key :: tokens') indent outer') := by
  subst hcolumn
  have hafter := Cursor.peekAt_one hat
  refine reaches_of_readToken (c := '?') (startsToken_cons (by decide)) hat hopens.le ?_ ?_
  · have hread : (between true at_ tokens indent' outer).readToken '?'
        = (between true at_ tokens indent' outer).explicitKey := by
      simp [readToken, between, Cursor.atMark, hat, hafter, hrest]
    rw [hread, explicitKey, startBlock_of_opens hopens]
    rfl
  · show at_.next.ahead.length ≤ _
    rw [Cursor.next_ahead hat]

/-- The mark in front of the value of such a name. -/
theorem reaches_explicitValue (hat : at_.ahead = ':' :: rest) (hrest : endsToken rest.head? = true)
    (hcolumn : at_.column = indent) :
    Reaches (between true at_ tokens indent outer)
      (between true at_.next (.value :: tokens) indent outer) := by
  subst hcolumn
  have hafter := Cursor.peekAt_one hat
  refine reaches_of_readToken (c := ':') (startsToken_cons (by decide)) hat (Int.le_refl _) ?_ ?_
  · have hread : (between true at_ tokens at_.column outer).readToken ':'
        = (between true at_ tokens at_.column outer).value := by
      simp [readToken, between, Cursor.atMark, hat, hafter, hrest]
    have hkey : (between true at_ tokens at_.column outer).key? = none := rfl
    have hopens : (between true at_ tokens at_.column outer).startBlock .blockMappingStart = .ok _ :=
      startBlock_of_opens (.inside rfl)
    rw [hread, value, hkey]
    simp only [hopens]
    rfl
  · show at_.next.ahead.length ≤ _
    rw [Cursor.next_ahead hat]

/-! ## Keys -/

/-- A possible key is kept on its line. -/
theorem dropStaleKeys_of_near {s : Scan} {key : KeyStart} (hkeys : s.keys = [(0, key)])
    (hline : key.line = s.place.line) (hnear : s.place.index ≤ key.index + 1024) :
    s.dropStaleKeys = .ok s := by
  have hindex : ¬1024 < s.place.index - key.index := by omega
  obtain ⟨place, tokens, count, flow, indent, outer, keyAllowed, keys, ended⟩ := s
  obtain rfl : keys = [(0, key)] := hkeys
  simp only at hline hindex
  simp [dropStaleKeys, hline, hindex]

/-- A colon puts the tokens of a key in front of what was read as a scalar. -/
theorem value_behind {length : Nat} {node : Token} {indent' : Int}
    (hopens : Opens .blockMappingStart at_.column tokens indent' outer tokens' outer') :
    (behind true at_ length false [node] tokens indent' outer).value
      = .ok (between false (at_.skip length).next (.value :: node :: .key :: tokens') at_.column
          outer') := by
  cases hopens with
  | inside h =>
      subst h
      simp [value, behind, key?, insertAt, opensBlock, between, push]
  | opening h =>
      have hsince : tokens.length + 1 + 1 - tokens.length = 2 := by omega
      simp [value, behind, key?, insertAt, opensBlock, openBlock, between, push, h, hsince]

/-- The round at the colon behind a key that is not too far back. -/
theorem round_colon {indent' : Int} {key : Scan}
    (hkey : key = behind true at_ body.length false [.scalar (Points.ofText s) (isPlainText s)] tokens
      indent' outer)
    (hchars : ∀ c ∈ body, TakesColumn c) (hlength : body.length ≤ 1024)
    (hat : at_.ahead = body ++ ':' :: rest) (hrest : endsToken rest.head? = true)
    (hopens : Opens .blockMappingStart at_.column tokens indent' outer tokens' outer') :
    key.place.ahead = ':' :: rest
      ∧ key.round = .ok (between false (at_.skip (body.length + 1))
        (.value :: .scalar (Points.ofText s) (isPlainText s) :: .key :: tokens') at_.column outer') := by
  subst hkey
  let key : Scan := behind true at_ body.length false [.scalar (Points.ofText s) (isPlainText s)] tokens
    indent' outer
  have hplace : key.place = ⟨':' :: rest, at_.index + body.length, at_.line, at_.column + body.length⟩ :=
    Cursor.skip_of_takesColumn hat hchars
  have hahead : key.place.ahead = ':' :: rest := by rw [hplace]
  refine ⟨hahead, ?_⟩
  have hkeep : key.dropStaleKeys = .ok key := by
    refine dropStaleKeys_of_near rfl ?_ ?_
    · rw [hplace]
    · rw [hplace]
      show at_.index + body.length ≤ at_.index + 1024
      omega
  have hnext : key.toNextToken = key := by
    rw [toNextToken_of_tokenGap .nil (startsToken_cons (by decide)) hahead]
    rfl
  have hafter := Cursor.peekAt_one hahead
  have hcolumn : key.indent ≤ key.place.column := by
    rw [hplace]
    have := hopens.le
    show indent' ≤ ((at_.column + body.length : Nat) : Int)
    omega
  have hreadColon : key.readToken ':' = key.value := by
    have hflow : key.flow = 0 := rfl
    simp [readToken, Cursor.atMark, hahead, hafter, hrest, hflow]
  show key.round = _
  rw [round, hkeep]
  show key.step = _
  rw [step_eq, hnext, hkeep]
  show act key = _
  rw [act_of_le hahead hcolumn, hreadColon, value_behind hopens, Cursor.skip_add]
  rfl

/-- **A key and its colon.** The tokens in front of the key are put there when the colon is read. -/
theorem reaches_key {indent' : Int} (h : KeyForm indent s body) (hindent : indent' < indent)
    (hpositive : 0 < indent) (hat : at_.ahead = body ++ ':' :: rest)
    (hrest : endsToken rest.head? = true) (hcolumn : at_.column = n)
    (hopens : Opens .blockMappingStart n tokens indent' outer tokens' outer') :
    Reaches (between true at_ tokens indent' outer)
      (between false (at_.skip (body.length + 1))
        (.value :: .scalar (Points.ofText s) (isPlainText s) :: .key :: tokens') n outer') := by
  subst hcolumn
  have hquote : (':' :: rest).head? ≠ some '\'' := by simp
  have hmark : at_.column = 0 → at_.atSeparator = false := fun _ =>
    (h.startsLine.append_colon rest).atSeparator_eq_false (n := 0) hat
  obtain ⟨c, u, hbody, hread⟩ := readToken_of_scalarForm true tokens outer h.form hindent hopens.le hat
    (stopsPlain_colon _ hrest) hquote hpositive hmark
  let key : Scan := behind true at_ body.length false [.scalar (Points.ofText s) (isPlainText s)] tokens
    indent' outer
  have hread' : (between true at_ tokens indent' outer).readToken c = .ok key := by
    rw [hread, ite_self, Bool.and_false]
    rfl
  -- the key is still possible at the colon
  obtain ⟨hahead, hvalue⟩ := round_colon rfl h.chars h.length_le hat hrest hopens
  have hscalar : Reaches (between true at_ tokens indent' outer) key := by
    have hstart := startsToken_of_scalarForm h.form (':' :: rest)
    rw [hbody] at hat hstart
    refine reaches_of_readToken hstart hat hopens.le hread' ?_
    rw [hahead]
    show _ ≤ (u ++ ':' :: rest).length
    rw [List.length_append]
    omega
  refine hscalar.trans (.of_round rfl hvalue ?_)
  rw [hahead]
  show (at_.skip (body.length + 1)).ahead.length < _
  rw [Cursor.skip_ahead, hat]
  simp

/-! ## Empty collections -/

/-- The brackets of a collection, and their tokens. -/
inductive Brackets : Char → Char → Token → Token → Prop
  | list : Brackets '[' ']' .flowSequenceStart .flowSequenceEnd
  | object : Brackets '\x7b' '\x7d' .flowMappingStart .flowMappingEnd

/-- An empty collection further in than the block around it, up to the next line. -/
theorem reaches_brackets {c d : Char} {start stop : Token} {indent' : Int} (h : Brackets c d start stop)
    (hcolumn : indent' < at_.column) (hfirst : 0 < at_.column)
    (hat : at_.ahead = c :: d :: (lineStart n ++ tail)) (htail : StartsLine tail) :
    Reaches (between keyAllowed at_ tokens indent' outer)
      (between true (at_.skip (2 + (n + 1))) (stop :: start :: tokens) indent' outer) := by
  have hc : c ≠ ' ' ∧ c ≠ '#' ∧ TakesColumn c := by cases h <;> decide
  have hd : d ≠ ' ' ∧ d ≠ '#' ∧ TakesColumn d := by cases h <;> decide
  have hnext := Cursor.next_of_takesColumn hat hc.2.2
  have hfar : at_.column ≠ 0 := Nat.ne_of_gt hfirst
  -- between the brackets the scanner is in flow context, where a key is possible
  let inside : Scan := { behind keyAllowed at_ 1 true [start] tokens indent' outer with flow := 1 }
  have hplace : inside.place = at_.next := rfl
  have hahead : inside.place.ahead = d :: (lineStart n ++ tail) := Cursor.next_ahead hat
  have hopening : Reaches (between keyAllowed at_ tokens indent' outer) inside := by
    refine reaches_of_readToken (startsToken_cons hc) hat (Int.le_of_lt hcolumn) ?_ ?_
    · have hread : (between keyAllowed at_ tokens indent' outer).readToken c
          = (between keyAllowed at_ tokens indent' outer).flowStart start := by
        cases h <;> simp [readToken, between, hfar]
      rw [hread, flowStart, saveKey_between]
      rfl
    · rw [hahead]
  have hclosing : inside.round = .ok (behind keyAllowed at_ 2 false [stop, start] tokens indent' outer) := by
    have hkeep : inside.dropStaleKeys = .ok inside := by
      cases keyAllowed with
      | false => rfl
      | true =>
          refine dropStaleKeys_of_near rfl ?_ ?_
          · rw [hplace, hnext]
          · rw [hplace, hnext]
            show at_.index + 1 ≤ at_.index + 1024
            omega
    have hstay : inside.toNextToken = inside := by
      rw [toNextToken_of_tokenGap .nil (startsToken_cons hd) hahead]
      rfl
    have hindent : inside.indent ≤ inside.place.column := by
      rw [hplace, hnext]
      show indent' ≤ ((at_.column + 1 : Nat) : Int)
      omega
    have hread : inside.readToken d = inside.flowEnd stop := by
      have hfar' : inside.place.column ≠ 0 := by
        rw [hplace, hnext]
        exact Nat.succ_ne_zero _
      cases h <;> simp [readToken, hfar']
    rw [round, hkeep]
    show inside.step = _
    rw [step_eq, hstay, hkeep]
    show act inside = _
    rw [act_of_le hahead hindent, hread]
    cases keyAllowed <;> rfl
  have hend : (at_.skip 2).ahead = lineStart n ++ tail := by
    rw [Cursor.skip_ahead, hat]
    rfl
  have hline := line_lt_skip_lineStart hend
  rw [← length_lineStart n] at hline ⊢
  refine (hopening.trans (.of_round rfl hclosing ?_)).trans
    (behind_reaches (.line n) htail.head hend hcolumn hline)
  rw [hahead]
  show (at_.skip 2).ahead.length < _
  rw [hend, List.length_cons]
  omega

end Scan

end ApiScan.Yaml
