import ApiScan.Proofs.Yaml.Form.Drafted

set_option autoImplicit false

/-! # Texts that start with a plain scalar

A plain scalar at the start of a text is a key only if its colon stands on the same line. If the line
ends without one, the scalar is the whole document, whatever comes behind it: either the text goes on
in a way that no YAML text does, or it stands for the value of that scalar. -/

namespace ApiScan.Yaml

/-! ## Lines of a plain scalar -/

namespace Cursor

variable {at_ after : Cursor} {c : Char}

theorem line_le_lineBreak? (h : at_.lineBreak? = some (c, after)) : at_.line ≤ after.line := by
  unfold lineBreak? at h
  split at h
  · obtain ⟨-, rfl⟩ := Prod.mk.inj (Option.some.inj h)
    exact line_le_skip 2 at_
  · split at h
    · obtain ⟨-, rfl⟩ := Prod.mk.inj (Option.some.inj h)
      exact line_le_next at_
    · split at h
      · obtain ⟨-, rfl⟩ := Prod.mk.inj (Option.some.inj h)
        exact line_le_next at_
      · exact nomatch h
  · exact nomatch h

theorem line_le_plainBreaks (n : Nat) (at_ : Cursor) : at_.line ≤ (plainBreaks n at_).2.1.line := by
  induction n generalizing at_ with
  | zero => exact Nat.le_refl _
  | succ n ih =>
      unfold plainBreaks
      split
      · exact (line_le_next at_).trans (ih at_.next)
      · split
        · exact Nat.le_refl _
        · next hbreak =>
            split
            · exact line_le_lineBreak? hbreak
            · exact (line_le_lineBreak? hbreak).trans (ih _)

theorem line_le_plainGap (at_ : Cursor) : at_.line ≤ (plainGap at_).2.1.line := by
  have hrun : at_.line ≤ (at_.run (· = ' ')).2.line := line_le_skip _ at_
  unfold plainGap
  dsimp only
  split
  · exact hrun
  · next hbreak =>
      have hline := hrun.trans (line_le_lineBreak? hbreak)
      split
      · exact hline
      · split
        · exact hline.trans (line_le_plainBreaks _ _)
        · exact hline.trans (line_le_plainBreaks _ _)

/-- A plain scalar ends behind the gap after its first run, or further on. -/
theorem line_plainGap_le {inFlow : Bool} {least : Int} {n count : Nat} {gap : Text}
    (hmore : ∀ next after, after.line ≤ (plainFrom inFlow least n next after).2.1.line)
    (hcount : (if at_.peek = some '#' then 0 else plainRun inFlow at_.ahead) = count)
    (hne : count ≠ 0) :
    (plainGap (at_.skip count)).2.1.line ≤ (plainFrom inFlow least (n + 1) gap at_).2.1.line := by
  unfold plainFrom
  rw [hcount, if_neg hne]
  rcases plainGap (at_.skip count) with ⟨next, after, broke⟩
  dsimp only
  split
  · exact Nat.le_refl _
  · have hline := hmore next after
    rcases hfrom : plainFrom inFlow least n next after with ⟨more, last, ended⟩
    rw [hfrom] at hline
    cases more <;> exact hline

theorem line_le_plainFrom {inFlow : Bool} {least : Int} (n : Nat) (gap : Text) (at_ : Cursor) :
    at_.line ≤ (plainFrom inFlow least n gap at_).2.1.line := by
  induction n generalizing gap at_ with
  | zero => exact Nat.le_refl _
  | succ n ih =>
      obtain ⟨count, hcount⟩ :
          ∃ count, (if at_.peek = some '#' then 0 else plainRun inFlow at_.ahead) = count := ⟨_, rfl⟩
      by_cases hne : count = 0
      · unfold plainFrom
        rw [hcount, if_pos hne]
      · have hgap := (line_le_skip count at_).trans (line_le_plainGap (at_.skip count))
        exact hgap.trans (line_plainGap_le ih hcount hne)

end Cursor

/-! ## The first token -/

namespace Scan

variable {s s' : Scan} {token added : Token} {c : Char}

/-- A token is the first of those read so far, and no possible key is in front of it. -/
structure Begins (token : Token) (s : Scan) : Prop where
  first : s.tokens.getLast? = some token
  count : s.count = s.tokens.length
  behind : ∀ key ∈ s.keys, 1 ≤ key.2.token

namespace Begins

theorem length_pos (h : Begins token s) : 1 ≤ s.tokens.length := by
  rw [Nat.one_le_iff_ne_zero, Ne, List.length_eq_zero_iff]
  intro hnil
  have hfirst := h.first
  rw [hnil] at hfirst
  exact nomatch hfirst

theorem of_subset (h : Begins token s) (htokens : s'.tokens = s.tokens) (hcount : s'.count = s.count)
    (hkeys : s'.keys ⊆ s.keys) : Begins token s' :=
  ⟨htokens ▸ h.first, by rw [hcount, htokens, h.count], fun key hkey => h.behind key (hkeys hkey)⟩

theorem push (h : Begins token s) (added : Token) : Begins token (s.push added) where
  first := by
    show (added :: s.tokens).getLast? = some token
    rw [List.getLast?_cons, h.first]
    rfl
  count := congrArg (· + 1) h.count
  behind := h.behind

theorem insertAt (h : Begins token s) {number : Nat} (hnumber : 1 ≤ number) (added : Token) :
    Begins token (s.insertAt number added) where
  first := by
    have hlength := h.length_pos
    have hcount := h.count
    show (s.tokens.take (s.count - number) ++ added :: s.tokens.drop (s.count - number)).getLast? = _
    rw [List.getLast?_append, List.getLast?_cons, List.getLast?_drop, if_neg (by omega), h.first]
    rfl
  count := by
    show s.count + 1
      = (s.tokens.take (s.count - number) ++ added :: s.tokens.drop (s.count - number)).length
    rw [List.length_append, List.length_cons, ← Nat.add_assoc, ← List.length_append,
      List.take_append_drop, h.count]
  behind := h.behind

theorem dropStaleKeys (h : Begins token s) (hran : s.dropStaleKeys = .ok s') : Begins token s' := by
  unfold Scan.dropStaleKeys at hran
  dsimp only at hran
  split at hran
  · cases hran
  · obtain rfl := Except.ok.inj hran
    exact h.of_subset rfl rfl (List.filter_subset_self _)

theorem dropKey (h : Begins token s) (hran : s.dropKey = .ok s') : Begins token s' := by
  unfold Scan.dropKey at hran
  split at hran
  · cases hran
  · obtain rfl := Except.ok.inj hran
    exact h.of_subset rfl rfl (List.filter_subset_self _)

theorem saveKey (h : Begins token s) (hran : s.saveKey = .ok s') : Begins token s' := by
  unfold Scan.saveKey at hran
  split at hran
  · obtain ⟨between, hdrop, hpure⟩ := bind_eq_ok hran
    obtain rfl := Except.ok.inj hpure
    have hbetween := h.dropKey hdrop
    refine ⟨hbetween.first, hbetween.count, List.forall_mem_cons.2 ⟨?_, hbetween.behind⟩⟩
    show 1 ≤ between.count
    rw [hbetween.count]
    exact hbetween.length_pos
  · obtain rfl := Except.ok.inj hran
    exact h

theorem closeBlocks (column : Int) (outer : List Int) (h : Begins token s) :
    Begins token (Scan.closeBlocks column outer s) := by
  induction outer generalizing s with
  | nil => exact h
  | cons indent outer ih =>
      unfold Scan.closeBlocks
      split
      · exact ih ((h.push .blockEnd).of_subset rfl rfl (List.Subset.refl _))
      · exact h

theorem unindent (column : Int) (h : Begins token s) : Begins token (s.unindent column) := by
  unfold Scan.unindent
  split
  · exact h.closeBlocks column s.outer
  · exact h

theorem openBlock (column : Nat) (h : Begins token s) : Begins token (s.openBlock column) :=
  h.of_subset rfl rfl (List.Subset.refl _)

theorem startBlock (h : Begins token s) (hran : s.startBlock added = .ok s') : Begins token s' := by
  unfold Scan.startBlock at hran
  split at hran
  · obtain rfl := Except.ok.inj hran
    exact h
  · split at hran
    · cases hran
    · split at hran
      · obtain rfl := Except.ok.inj hran
        exact (h.openBlock s.place.column).push added
      · obtain rfl := Except.ok.inj hran
        exact h

/-! ### One token -/

/-- A token is put behind the others, at a place further on. -/
theorem read (h : Begins token s) (place : Cursor) (flow : Nat) (keyAllowed : Bool) (added : Token) :
    Begins token ({ s with place, flow, keyAllowed }.push added) := by
  have hplace : Begins token { s with place, flow, keyAllowed } :=
    h.of_subset rfl rfl (List.Subset.refl _)
  exact hplace.push added

theorem endDocument (h : Begins token s) (hran : s.endDocument = .ok s') : Begins token s' := by
  obtain ⟨between, hdrop, hpure⟩ := bind_eq_ok hran
  obtain rfl := Except.ok.inj hpure
  exact ((h.unindent (-1)).dropKey hdrop).of_subset rfl rfl (List.Subset.refl _)

theorem documentMark (h : Begins token s) (hran : s.documentMark added = .ok s') : Begins token s' := by
  obtain ⟨between, hend, hpure⟩ := bind_eq_ok hran
  obtain rfl := Except.ok.inj hpure
  exact (h.endDocument hend).read _ _ _ added

theorem flowStart (h : Begins token s) (hran : s.flowStart added = .ok s') : Begins token s' := by
  obtain ⟨between, hsave, hpure⟩ := bind_eq_ok hran
  obtain rfl := Except.ok.inj hpure
  exact (h.saveKey hsave).read _ _ _ added

theorem flowEnd (h : Begins token s) (hran : s.flowEnd added = .ok s') : Begins token s' := by
  obtain ⟨between, hdrop, hrest⟩ := bind_eq_ok hran
  split at hrest
  · cases hrest
  · obtain rfl := Except.ok.inj hrest
    exact (h.dropKey hdrop).read _ _ _ added

theorem allowed (h : Begins token s) (keyAllowed : Bool) : Begins token { s with keyAllowed } :=
  h.of_subset rfl rfl (List.Subset.refl _)

theorem flowEntry (h : Begins token s) (hran : s.flowEntry = .ok s') : Begins token s' := by
  obtain ⟨between, hdrop, hpure⟩ := bind_eq_ok hran
  obtain rfl := Except.ok.inj hpure
  exact ((h.allowed true).dropKey hdrop).read _ _ _ .flowEntry

theorem blockEntry (h : Begins token s) (hran : s.blockEntry = .ok s') : Begins token s' := by
  obtain ⟨started, hstart, hrest⟩ := bind_eq_ok hran
  obtain ⟨between, hdrop, hpure⟩ := bind_eq_ok hrest
  obtain rfl := Except.ok.inj hpure
  exact (((h.startBlock hstart).allowed true).dropKey hdrop).read _ _ _ .blockEntry

theorem explicitKey (h : Begins token s) (hran : s.explicitKey = .ok s') : Begins token s' := by
  obtain ⟨started, hstart, hrest⟩ := bind_eq_ok hran
  obtain ⟨between, hdrop, hpure⟩ := bind_eq_ok hrest
  obtain rfl := Except.ok.inj hpure
  exact (((h.startBlock hstart).allowed _).dropKey hdrop).read _ _ _ .key

/-- A key that is known by its colon does not come in front of the first token. -/
theorem value (h : Begins token s) (hran : s.value = .ok s') : Begins token s' := by
  unfold Scan.value at hran
  dsimp only at hran
  split at hran
  · next key hkey =>
      -- the key and its mapping are put in at the place of the possible key
      obtain ⟨before, after, hkeys, -⟩ := List.lookup_eq_some_iff.1 hkey
      have hnumber : 1 ≤ key.token := h.behind (s.flow, key) (by rw [hkeys]; simp)
      obtain ⟨between, hbetween, hpure⟩ := bind_eq_ok hran
      obtain rfl := Except.ok.inj hbetween
      obtain rfl := Except.ok.inj hpure
      have hdropped {keys : List (Nat × KeyStart)} (hkeys : keys ⊆ s.keys) :
          Begins token ({ s with keys }.insertAt key.token .key) := by
        have hkept : Begins token { s with keys } := h.of_subset rfl rfl hkeys
        exact hkept.insertAt hnumber .key
      refine Begins.read (Begins.allowed ?_ false) _ _ _ .value
      split
      · exact ((hdropped (List.filter_subset_self _)).openBlock _).insertAt hnumber .blockMappingStart
      · exact hdropped (List.filter_subset_self _)
  · obtain ⟨started, hstart, hrest⟩ := bind_eq_ok hran
    obtain ⟨between, hdrop, hpure⟩ := bind_eq_ok hrest
    obtain rfl := Except.ok.inj hpure
    exact (((h.startBlock hstart).allowed _).dropKey hdrop).read _ _ _ .value

theorem nodePart {read : Cursor → Option (Token × Cursor)} (h : Begins token s)
    (hran : s.nodePart read = .ok s') : Begins token s' := by
  obtain ⟨between, hsave, hrest⟩ := bind_eq_ok hran
  split at hrest
  · obtain rfl := Except.ok.inj hrest
    exact (h.saveKey hsave).read _ _ _ _
  · cases hrest

theorem blockScalar {fold : Bool} (h : Begins token s) (hran : s.blockScalar fold = .ok s') :
    Begins token s' := by
  obtain ⟨between, hdrop, hrest⟩ := bind_eq_ok hran
  obtain ⟨⟨text, place⟩, -, hpure⟩ := bind_eq_ok hrest
  obtain rfl := Except.ok.inj hpure
  exact ((h.allowed true).dropKey hdrop).read _ _ _ _

theorem quotedScalar {double : Bool} (h : Begins token s) (hran : s.quotedScalar double = .ok s') :
    Begins token s' := by
  obtain ⟨between, hsave, hrest⟩ := bind_eq_ok hran
  obtain ⟨⟨text, place⟩, -, hpure⟩ := bind_eq_ok hrest
  obtain rfl := Except.ok.inj hpure
  exact (h.saveKey hsave).read _ _ _ _

theorem plainScalar (h : Begins token s) (hran : s.plainScalar = .ok s') : Begins token s' := by
  obtain ⟨between, hsave, hpure⟩ := bind_eq_ok hran
  obtain rfl := Except.ok.inj hpure
  exact (h.saveKey hsave).read _ _ _ _

theorem of_ite {p : Prop} [Decidable p] {read other : Except Fault Scan}
    (hread : read = .ok s' → Begins token s') (hother : other = .ok s' → Begins token s')
    (hran : (if p then read else other) = .ok s') : Begins token s' := by
  split at hran
  · exact hread hran
  · exact hother hran

theorem readDirective (h : Begins token s) (hran : (do
      let s ← s.endDocument
      let (value, place) ← directive s.place
      return { s with place }.push (.directive value) : Except Fault Scan) = .ok s') :
    Begins token s' := by
  obtain ⟨between, hend, hrest⟩ := bind_eq_ok hran
  obtain ⟨⟨value, place⟩, -, hpure⟩ := bind_eq_ok hrest
  obtain rfl := Except.ok.inj hpure
  exact (h.endDocument hend).read _ _ _ _

/-- Whatever token is read, it does not come first. -/
theorem readToken (h : Begins token s) : s.readToken c = .ok s' → Begins token s' := by
  unfold Scan.readToken
  refine of_ite h.readDirective ?_
  refine of_ite h.documentMark (of_ite h.documentMark ?_)
  refine of_ite h.flowStart (of_ite h.flowStart (of_ite h.flowEnd (of_ite h.flowEnd ?_)))
  refine of_ite h.flowEntry (of_ite h.blockEntry (of_ite h.explicitKey (of_ite h.value ?_)))
  refine of_ite h.nodePart (of_ite h.nodePart (of_ite h.nodePart ?_))
  refine of_ite h.blockScalar (of_ite h.blockScalar ?_)
  exact of_ite h.quotedScalar (of_ite h.quotedScalar (of_ite h.plainScalar nofun))

theorem step (h : Begins token s) (hran : s.step = .ok s') : Begins token s' := by
  obtain ⟨between, hdrop, hread⟩ := bind_eq_ok hran
  have hnext : Begins token s.toNextToken := h.of_subset rfl rfl (List.Subset.refl _)
  have hplace := (hnext.dropStaleKeys hdrop).unindent between.place.column
  dsimp only at hread
  split at hread
  · obtain ⟨last, hlast, hpure⟩ := bind_eq_ok hread
    obtain rfl := Except.ok.inj hpure
    have hend := ((hplace.unindent (-1)).dropKey hlast).push .streamEnd
    exact hend.of_subset rfl rfl (List.Subset.refl _)
  · exact hplace.readToken hread

/-- **The first token stays the first.** -/
theorem head?_toEnd (n : Nat) (h : Begins token s) :
    ∀ first ∈ (toEnd n s).1.head?, first = token := by
  have hfirst {s : Scan} (h : Begins token s) : s.tokens.reverse.head? = some token := by
    rw [List.head?_reverse, h.first]
  induction n generalizing s with
  | zero => exact fun _ hnone => absurd hnone (Option.not_mem_none _)
  | succ n ih =>
      unfold toEnd
      split
      · rw [hfirst h]
        exact fun _ hsome => (Option.some.inj hsome).symm
      · split
        · exact fun _ hnone => absurd hnone (Option.not_mem_none _)
        · next between hdrop =>
            have hbetween := h.dropStaleKeys hdrop
            split
            · -- of the tokens before a fault, the first ones are given out
              unfold released
              rw [List.head?_take, hfirst hbetween]
              split
              · exact fun _ hnone => absurd hnone (Option.not_mem_none _)
              · exact fun _ hsome => (Option.some.inj hsome).symm
            · next hstep => exact ih (hbetween.step hstep)

end Begins

/-- Possible keys that started on an earlier line are given up. -/
theorem toEnd_of_line (h : ∀ key ∈ s.keys, key.2.required = false ∧ key.2.line ≠ s.place.line)
    (n : Nat) : toEnd n s = toEnd n { s with keys := [] } := by
  cases n with
  | zero => rfl
  | succ n =>
      have hnone : ({ s with keys := [] } : Scan).dropStaleKeys = .ok { s with keys := [] } := rfl
      rw [toEnd, toEnd, dropStaleKeys_of_line h, hnone]

end Scan

/-! ## A word on a line of its own -/

section
variable {w rest : Text} {c : Char} {at_ : Cursor} {n : Nat}

theorem line_lt_plainGap (hat : at_.ahead = List.replicate n ' ' ++ '\n' :: rest) :
    at_.line < (plainGap at_).2.1.line := by
  have hrun : at_.run (· = ' ') = (List.replicate n ' ', at_.skip n) :=
    Cursor.run_replicate (by simp) (by simp) hat
  have hahead : (at_.skip n).ahead = '\n' :: rest := by
    rw [Cursor.skip_ahead, hat, List.drop_left' (by simp)]
  have hnext : (at_.skip n).next.line = (at_.skip n).line + 1 := by
    rw [Cursor.next_of_lineFeed hahead]
  have hline : at_.line < (at_.skip n).next.line := by
    have hskip := Cursor.line_le_skip n at_
    omega
  unfold plainGap
  rw [hrun]
  simp only [Cursor.lineBreak?_lineFeed hahead]
  split
  · exact hline
  · have hbreaks := Cursor.line_le_plainBreaks ((at_.skip n).next.ahead.length + 1) (at_.skip n).next
    split <;> exact hline.trans_le hbreaks

/-- A plain scalar goes on behind its line, or ends there. -/
theorem line_lt_plainScalar {indent : Int} (hword : IsWord w) (hhash : w.head? ≠ some '#')
    (hat : at_.ahead = w ++ (List.replicate n ' ' ++ '\n' :: rest)) :
    at_.line < (plainScalar false indent at_).2.1.line := by
  have hstop : plainRun false (List.replicate n ' ' ++ '\n' :: rest) = 0 := by
    cases n with
    | zero => rfl
    | succ n => rfl
  have hne : w.length ≠ 0 := fun hnil => hword.ne_nil (List.length_eq_zero_iff.1 hnil)
  have hgap := line_lt_plainGap (Cursor.ahead_skip_length hat)
  have hskip := Cursor.line_le_skip w.length at_
  have hend : (plainGap (at_.skip w.length)).2.1.line ≤ (plainScalar false indent at_).2.1.line :=
    Cursor.line_plainGap_le (Cursor.line_le_plainFrom _) (count_of_isWord hword hhash hstop hat) hne
  exact (hskip.trans_lt hgap).trans_le hend

/-- Behind a word on a line of its own, its possible key is on an earlier line. -/
theorem Scan.round_plain (hword : IsWord (c :: w)) (hplain : Style.allowsPlain (c :: w) = true)
    (hc : c ≠ '-' ∧ c ≠ '.') (hat : at_.ahead = c :: w ++ (List.replicate n ' ' ++ '\n' :: rest)) :
    ∃ text place keyAllowed key, (between true at_ [] (-1) []).round
        = .ok { place, tokens := [.scalar text true], count := 1, keyAllowed, keys := [key] }
      ∧ key.2.required = false ∧ key.2.line ≠ place.line := by
  have hchar := hword.chars c List.mem_cons_self
  obtain ⟨-, hhash, -⟩ := goesPlain_of_allowsPlain hplain
  have hstart : StartsToken (c :: w ++ (List.replicate n ' ' ++ '\n' :: rest)) :=
    startsToken_cons ⟨hchar.ne_blank, hhash, hchar.takesColumn⟩
  have hmark : at_.atSeparator = false := Cursor.atSeparator_of_head? (by simpa [hat] using hc)
  have hline : at_.line < (Yaml.plainScalar false (-1) at_).2.1.line :=
    line_lt_plainScalar hword (by simpa using hhash) hat
  rcases hscalar : Yaml.plainScalar false (-1) at_ with ⟨text, place, broke⟩
  rw [hscalar] at hline
  -- no block is open yet, so that the key is only a possible one
  have hcolumn : (-1 : Int) ≠ at_.column := by omega
  refine ⟨text, place, broke, (0, ⟨0, (-1 : Int) = at_.column, at_.index, at_.line, at_.column⟩), ?_,
    decide_eq_false hcolumn, Nat.ne_of_lt hline⟩
  have hindent : (-1 : Int) ≤ at_.column := by omega
  have hword' : PlainForm 0 (c :: w) (c :: w) := .word hword
  rw [round_between hstart hat, act_of_le hat hindent,
    readToken_of_allowsPlain hplain hword' hat fun _ => hmark, plainScalar, saveKey_between]
  simp only [between, bind, Except.bind, ne_eq, not_true_eq_false, decide_false, hscalar]
  rfl

/-- **A word on the first line of a text is the first token.** Its line ends before a colon could make
    it a key. -/
theorem Scan.head?_ofText (hword : IsWord (c :: w)) (hplain : Style.allowsPlain (c :: w) = true)
    (hc : c ≠ '-' ∧ c ≠ '.') : ∃ text,
      ∀ first ∈ (Token.ofText (c :: w ++ (List.replicate n ' ' ++ '\n' :: rest))).1.head?,
        first = .scalar text true := by
  have hat : (⟨c :: w ++ (List.replicate n ' ' ++ '\n' :: rest), 0, 0, 0⟩ : Cursor).ahead
      = c :: w ++ (List.replicate n ' ' ++ '\n' :: rest) := rfl
  obtain ⟨text, place, keyAllowed, key, hround, hkey⟩ := round_plain hword hplain hc hat
  refine ⟨text, ?_⟩
  unfold Token.ofText
  split
  · show ∀ first ∈ (toEnd (_ + 1) (between true _ [] (-1) [])).1.head?, _
    have hstale : ∀ stale ∈ [key], stale.2.required = false ∧ stale.2.line ≠ place.line :=
      List.forall_mem_singleton.2 hkey
    rw [toEnd_succ_of_round rfl hround, toEnd_of_line hstale]
    exact Begins.head?_toEnd _ ⟨rfl, rfl, fun _ hnone => absurd hnone List.not_mem_nil⟩
  · exact fun _ hnone => absurd hnone (Option.not_mem_none _)

end

/-! ## The document of a scalar -/

namespace Document

variable {p p' : Pending} {points : Points} {tag : Tag}

theorem nodes_of_skipEnds {n : Nat} {done : Unit} (h : skipEnds n p = .ok (done, p')) :
    p'.nodes = p.nodes := by
  induction n generalizing p with
  | zero => exact absurd h not_ran_malformed
  | succ n ih =>
      obtain ⟨b, _, hsees, hrest⟩ := ran_bind.1 h
      obtain ⟨rfl, -⟩ := ran_sees hsees
      cases b with
      | true =>
          obtain ⟨_, p₁, hnext, hrest⟩ := ran_bind.1 hrest
          obtain ⟨-, rfl⟩ := Prod.mk.inj (Except.ok.inj hnext)
          have hnodes := ih hrest
          exact hnodes
      | false =>
          obtain ⟨-, rfl⟩ := ran_pure.1 hrest
          rfl

/-- Nothing is added to a document behind its root. -/
theorem nodes_of_endRoot {n root : Nat} {root? : Option Nat} (h : endRoot n root p = .ok (root?, p')) :
    root? = some root ∧ p'.nodes = p.nodes := by
  obtain ⟨_, p₁, hskip, hrest⟩ := ran_bind.1 h
  obtain ⟨b, _, hsees, hrest⟩ := ran_bind.1 hrest
  obtain ⟨rfl, -⟩ := ran_sees hsees
  cases b with
  | true =>
      obtain ⟨rfl, rfl⟩ := ran_pure.1 hrest
      exact ⟨rfl, nodes_of_skipEnds hskip⟩
  | false =>
      obtain ⟨_, p₂, -, hfail⟩ := ran_bind.1 hrest
      exact absurd hfail not_ran_malformed

/-- **A text whose first token is a plain scalar has the document of that scalar, or none.** -/
theorem ofText?_of_head? {text : Text} {doc? : Option Document}
    (hfirst : ∀ first ∈ (Token.ofText text).1.head?, first = .scalar points true)
    (h : ofText? text = .ok doc?) :
    doc? = some ⟨#[⟨Tag.ofPoints points, .scalar points⟩], 0⟩ := by
  unfold ofText? at h
  rcases htokens : Token.ofText text with ⟨tokens, fault⟩
  rw [htokens] at h hfirst
  cases hroot : readRoot (4 * tokens.length + 4) { tokens, fault } with
  | error fault =>
      simp only [StateT.run, hroot] at h
      exact nomatch h
  | ok found =>
      simp only [StateT.run, hroot] at h
      obtain rfl := Except.ok.inj h
      obtain ⟨token, _, hpeek, hrest⟩ := ran_bind.1 hroot
      obtain ⟨rfl, more, hp⟩ := ran_peek hpeek
      have htokens' : tokens = token :: more := hp
      obtain rfl := hfirst token (by rw [htokens']; rfl)
      rw [if_neg (by simp)] at hrest
      obtain ⟨number, p₁, hnode, hend⟩ := ran_bind.1 hrest
      rw [readNode_of_startsNode hp trivial] at hnode
      obtain ⟨rfl, rfl⟩ := Prod.mk.inj (Except.ok.inj hnode)
      obtain ⟨hroot, hnodes⟩ := nodes_of_endRoot hend
      rw [hroot, hnodes]
      rfl

end Document

/-! ## The value of a scalar -/

theorem Drafts.ran_meet_scalar {made made' : Drafts} {number : Nat} {tag : Tag} {points : Points}
    {draft : Draft} (hnone : made.draft? number = none)
    (hnode : made.nodes[number]? = some ⟨tag, .scalar points⟩) (htag : emptyOf? tag = none)
    (h : meet number made = .ok (draft, made')) :
    ∃ value, readScalar tag points = .ok value ∧ draft = .scalar value ∧ made' = made.set number draft := by
  obtain ⟨_, _, hget, hmeet⟩ := Document.ran_bind.1 h
  obtain ⟨rfl, rfl⟩ := Prod.mk.inj (Except.ok.inj hget)
  rw [hnone] at hmeet
  dsimp only at hmeet
  obtain ⟨_, _, hnodes, hmeet⟩ := Document.ran_bind.1 hmeet
  obtain ⟨rfl, rfl⟩ := Prod.mk.inj (Except.ok.inj hnodes)
  simp only [tagOf_eq hnode, htag, scalarOf_eq hnode] at hmeet
  split at hmeet
  · obtain ⟨_, _, hfail, -⟩ := Document.ran_bind.1 hmeet
    exact nomatch hfail
  · obtain ⟨found, _, hread, hmeet⟩ := Document.ran_bind.1 hmeet
    cases hvalue : readScalar tag points with
    | error fault =>
        rw [hvalue] at hread
        exact nomatch hread
    | ok value =>
        rw [hvalue] at hread
        obtain ⟨rfl, rfl⟩ := Prod.mk.inj (Except.ok.inj hread)
        obtain ⟨rfl, rfl⟩ := Prod.mk.inj (Except.ok.inj hmeet)
        exact ⟨value, rfl, rfl, rfl⟩

/-- A document that is a scalar stands for the value of that scalar. -/
theorem Document.readScalar_of_value {tag : Tag} {points : Points} {value : Value}
    (htag : Drafts.emptyOf? tag = none)
    (h : Document.value ⟨#[⟨tag, .scalar points⟩], 0⟩ = .ok value) :
    readScalar tag points = .ok value := by
  obtain ⟨⟨_, made⟩, hmake, hvalue⟩ := bind_eq_ok h
  obtain ⟨draft, made₁, hmeet, hfill⟩ := ran_bind.1 hmake
  obtain ⟨found, hread, rfl, rfl⟩ := Drafts.ran_meet_scalar rfl rfl htag hmeet
  -- no collection was met that would have to be filled
  obtain ⟨-, rfl⟩ := Prod.mk.inj (Except.ok.inj hfill)
  exact hread.trans hvalue

/-- No spelling of a plain scalar is that of a collection. -/
theorem Tag.emptyOf?_ofPoints (points : Points) : Drafts.emptyOf? (Tag.ofPoints points) = none := by
  unfold Tag.ofPoints Tag.ofPlain Tag.ofSpelling
  split
  · split_ifs <;> rfl
  · rfl

theorem entries?_of_map {α : Type} {f : α → Value} (hf : ∀ a, (f a).entries? = none)
    {read : Except Fault α} {value : Value} (h : read.map f = .ok value) : value.entries? = none := by
  cases read with
  | error fault => exact nomatch h
  | ok a => exact Except.ok.inj h ▸ hf a

theorem entries?_of_floatSize {points : Points} {value : Value} (h : floatSize points = .ok value) :
    value.entries? = none := by
  unfold floatSize at h
  split at h
  · exact Except.ok.inj h ▸ rfl
  · split at h
    · exact Except.ok.inj h ▸ rfl
    · split at h
      · obtain ⟨digits, -, hrest⟩ := bind_eq_ok h
        obtain ⟨sum, -, hpure⟩ := bind_eq_ok hrest
        exact Except.ok.inj hpure ▸ rfl
      · exact entries?_of_map (fun _ => rfl) h

theorem entries?_of_readFloat {points : Points} {value : Value} (h : readFloat points = .ok value) :
    value.entries? = none := by
  unfold readFloat at h
  dsimp only at h
  split at h
  · exact nomatch h
  · obtain ⟨size, hsize, hrest⟩ := bind_eq_ok h
    split at hrest
    · exact Except.ok.inj hrest ▸ rfl
    · exact Except.ok.inj hrest ▸ entries?_of_floatSize hsize

theorem entries?_of_timeValue {date : Tag.DateParts} {time : Option Tag.TimeParts} {value : Value}
    (h : timeValue date time = .ok value) : value.entries? = none := by
  cases time with
  | none =>
      obtain ⟨_, -, hpure⟩ := bind_eq_ok h
      exact Except.ok.inj hpure ▸ rfl
  | some time =>
      obtain ⟨_, -, hdate⟩ := bind_eq_ok h
      obtain ⟨_, -, htime⟩ := bind_eq_ok hdate
      obtain ⟨_, -, hpure⟩ := bind_eq_ok htime
      exact Except.ok.inj hpure ▸ rfl

theorem entries?_of_readTimestamp {points : Points} {value : Value}
    (h : readTimestamp points = .ok value) : value.entries? = none := by
  unfold readTimestamp at h
  split at h
  · exact nomatch h
  · next date time _ =>
      cases htime : timeValue date time with
      | error fault =>
          rw [htime] at h
          exact nomatch h
      | ok found =>
          rw [htime] at h
          obtain rfl := Except.ok.inj h
          exact entries?_of_timeValue htime

theorem entries?_of_readBytes {points : Points} {value : Value} (h : readBytes points = .ok value) :
    value.entries? = none := by
  unfold readBytes at h
  split at h
  · exact nomatch h
  · split at h
    · split at h
      · exact Except.ok.inj h ▸ rfl
      · exact nomatch h
    · exact nomatch h

/-- **A scalar is no mapping.** -/
theorem entries?_of_readScalar {tag : Tag} {points : Points} {value : Value}
    (h : readScalar tag points = .ok value) : value.entries? = none := by
  unfold readScalar at h
  split at h
  · exact Except.ok.inj h ▸ rfl
  · unfold readBool at h
    dsimp only at h
    split at h
    · exact Except.ok.inj h ▸ rfl
    · split at h
      · exact Except.ok.inj h ▸ rfl
      · exact nomatch h
  · exact entries?_of_map (fun _ => rfl) h
  · exact entries?_of_readFloat h
  · exact entries?_of_readBytes h
  · exact entries?_of_readTimestamp h
  · exact Except.ok.inj h ▸ rfl
  · exact nomatch h

/-- **A text whose first line is a word is no mapping**, whatever follows. -/
theorem Value.entries?_of_word {w rest : Text} {c : Char} {n : Nat} {value : Value}
    (hword : IsWord (c :: w)) (hplain : Style.allowsPlain (c :: w) = true) (hc : c ≠ '-' ∧ c ≠ '.')
    (h : Value.ofText (c :: w ++ (List.replicate n ' ' ++ '\n' :: rest)) = .ok value) :
    value.entries? = none := by
  obtain ⟨doc?, hdoc, hvalue⟩ := bind_eq_ok h
  obtain ⟨text, hfirst⟩ := Scan.head?_ofText hword hplain hc
  obtain rfl := Document.ofText?_of_head? hfirst hdoc
  exact entries?_of_readScalar
    (Document.readScalar_of_value (Tag.emptyOf?_ofPoints _) hvalue)

end ApiScan.Yaml
