import ApiScan.Proofs.Yaml.Balance
import ApiScan.Proofs.Yaml.Quoted

set_option autoImplicit false

/-! # Texts of flow collections

A text of brackets, commas, colons and quoted scalars may start and end anywhere, as a part cut out
of a larger text does. The tokens of such a text hold its marks in order, so that a text whose last
mark leaves a collection open is no YAML text. -/

namespace ApiScan.Yaml

/-! ## Pieces -/

/-- A mark of flow collections in a text. -/
inductive Mark where
  | listStart
  | listEnd
  | objectStart
  | objectEnd
  | comma

/-- The character of a mark. -/
def Mark.char : Mark → Char
  | .listStart => '['
  | .listEnd => ']'
  | .objectStart => '\x7b'
  | .objectEnd => '\x7d'
  | .comma => ','

/-- The token of a mark. -/
def Mark.token : Mark → Token
  | .listStart => .flowSequenceStart
  | .listEnd => .flowSequenceEnd
  | .objectStart => .flowMappingStart
  | .objectEnd => .flowMappingEnd
  | .comma => .flowEntry

/-- A piece of a text of flow collections. -/
inductive Piece where
  | blank
  | lineBreak
  | colon
  | mark (mark : Mark)
  | quoted (body : Text) (h : Sealed body)

/-- The text of a piece. -/
def Piece.text : Piece → Text
  | .blank => [' ']
  | .lineBreak => ['\n']
  | .colon => [':', ' ']
  | .mark m => [m.char]
  | .quoted body _ => '"' :: (body ++ ['"'])

/-- The token of a piece that is a mark. -/
def Piece.mark? : Piece → Option Token
  | .mark m => some m.token
  | _ => none

/-- The text of pieces. -/
def textOf (pieces : List Piece) : Text := pieces.flatMap Piece.text

/-- The marks of pieces. -/
def marksOf (pieces : List Piece) : List Token := pieces.filterMap Piece.mark?

theorem textOf_cons (piece : Piece) (pieces : List Piece) :
    textOf (piece :: pieces) = piece.text ++ textOf pieces := List.flatMap_cons

theorem textOf_append (pieces more : List Piece) :
    textOf (pieces ++ more) = textOf pieces ++ textOf more := List.flatMap_append

theorem marksOf_append (pieces more : List Piece) :
    marksOf (pieces ++ more) = marksOf pieces ++ marksOf more := List.filterMap_append

theorem isMark_of_mem_marksOf {token : Token} {pieces : List Piece} (h : token ∈ marksOf pieces) :
    token.isMark = true := by
  obtain ⟨piece, -, hpiece⟩ := List.mem_filterMap.1 h
  cases piece with
  | mark m =>
      obtain rfl := Option.some.inj hpiece
      cases m <;> rfl
  | _ => exact absurd hpiece.symm (Option.some_ne_none token)

/-- Whether a token is a mark of flow collections or ends the text. -/
def Token.isLandmark : Token → Bool
  | .streamEnd => true
  | token => token.isMark

theorem Token.isLandmark_of_isMark {token : Token} (h : token.isMark = true) :
    token.isLandmark = true := by
  cases token
  all_goals first | rfl | exact absurd h Bool.false_ne_true

namespace Scan

variable {s s' s'' : Scan} {token : Token} {c : Char} {rest : Text} {all : List Token}
  {pieces : List Piece}

/-! ## What a step keeps -/

/-- The landmarks among the tokens read so far, the last one first. -/
def landmarks (s : Scan) : List Token := s.tokens.filter Token.isLandmark

theorem landmarks_push (h : token.isLandmark = false) : (s.push token).landmarks = s.landmarks :=
  List.filter_cons_of_neg (by rw [h]; exact Bool.false_ne_true)

theorem landmarks_push_landmark (h : token.isLandmark = true) :
    (s.push token).landmarks = token :: s.landmarks :=
  List.filter_cons_of_pos h

theorem landmarks_insertAt {number : Nat} (h : token.isLandmark = false) :
    (s.insertAt number token).landmarks = s.landmarks := by
  show (s.tokens.take _ ++ token :: s.tokens.drop _).filter Token.isLandmark = s.landmarks
  rw [List.filter_append, List.filter_cons_of_neg (by rw [h]; exact Bool.false_ne_true),
    ← List.filter_append, List.take_append_drop]
  rfl

/-- Nothing of the text is read between two states, and no landmark added. -/
structure Keeps (s s' : Scan) : Prop where
  place : s'.place = s.place
  landmarks : s'.landmarks = s.landmarks
  ended : s'.ended = s.ended

theorem Keeps.refl : Keeps s s := ⟨rfl, rfl, rfl⟩

theorem Keeps.trans (h : Keeps s s') (h' : Keeps s' s'') : Keeps s s'' :=
  ⟨h'.place.trans h.place, h'.landmarks.trans h.landmarks, h'.ended.trans h.ended⟩

theorem keeps_dropStaleKeys (h : s.dropStaleKeys = .ok s') : Keeps s s' := by
  unfold dropStaleKeys at h
  dsimp only at h
  split at h
  · cases h
  · obtain rfl := Except.ok.inj h
    exact ⟨rfl, rfl, rfl⟩

theorem keeps_dropKey (h : s.dropKey = .ok s') : Keeps s s' := by
  unfold dropKey at h
  split at h
  · cases h
  · obtain rfl := Except.ok.inj h
    exact ⟨rfl, rfl, rfl⟩

theorem keeps_saveKey (h : s.saveKey = .ok s') : Keeps s s' := by
  unfold saveKey at h
  split at h
  · obtain ⟨_, hdrop, hpure⟩ := bind_eq_ok h
    obtain rfl := Except.ok.inj hpure
    have hkeeps := keeps_dropKey hdrop
    exact ⟨hkeeps.place, hkeeps.landmarks, hkeeps.ended⟩
  · obtain rfl := Except.ok.inj h
    exact .refl

theorem keeps_closeBlocks (column : Int) (outer : List Int) (s : Scan) :
    Keeps s (closeBlocks column outer s) := by
  induction outer generalizing s with
  | nil => exact .refl
  | cons indent outer ih =>
      unfold closeBlocks
      split
      · have hclosed : Keeps s { s.push .blockEnd with indent, outer } := ⟨rfl, landmarks_push rfl, rfl⟩
        exact hclosed.trans (ih _)
      · exact .refl

theorem keeps_unindent (column : Int) (s : Scan) : Keeps s (s.unindent column) := by
  unfold unindent
  split
  · exact keeps_closeBlocks column s.outer s
  · exact .refl

theorem keeps_startBlock (htoken : token.isLandmark = false) (h : s.startBlock token = .ok s') :
    Keeps s s' := by
  unfold startBlock at h
  split at h
  · obtain rfl := Except.ok.inj h
    exact .refl
  · split at h
    · cases h
    · split at h
      · obtain rfl := Except.ok.inj h
        exact ⟨rfl, landmarks_push htoken, rfl⟩
      · obtain rfl := Except.ok.inj h
        exact .refl

/-! ## Reading pieces -/

/-- A step that reads a text, and adds landmarks. -/
structure Reads (s s' : Scan) (rest : Text) (added : List Token) : Prop where
  ahead : s'.place.ahead = rest
  landmarks : s'.landmarks = added ++ s.landmarks
  ended : s'.ended = s.ended

theorem reads_flowStart (hat : s.place.ahead = c :: rest) (htoken : token.isLandmark = true)
    (h : s.flowStart token = .ok s') : Reads s s' rest [token] := by
  obtain ⟨_, hsave, hpure⟩ := bind_eq_ok h
  obtain rfl := Except.ok.inj hpure
  have hkeeps := keeps_saveKey hsave
  exact ⟨Cursor.next_ahead (hkeeps.place ▸ hat),
    (landmarks_push_landmark htoken).trans (congrArg _ hkeeps.landmarks), hkeeps.ended⟩

theorem reads_flowEnd (hat : s.place.ahead = c :: rest) (htoken : token.isLandmark = true)
    (h : s.flowEnd token = .ok s') : Reads s s' rest [token] := by
  obtain ⟨between, hdrop, hrest⟩ := bind_eq_ok h
  have hkeeps := keeps_dropKey hdrop
  split at hrest
  · cases hrest
  · obtain rfl := Except.ok.inj hrest
    exact ⟨Cursor.next_ahead (hkeeps.place ▸ hat),
      (landmarks_push_landmark htoken).trans (congrArg _ hkeeps.landmarks), hkeeps.ended⟩

theorem reads_flowEntry (hat : s.place.ahead = c :: rest) (h : s.flowEntry = .ok s') :
    Reads s s' rest [.flowEntry] := by
  obtain ⟨_, hdrop, hpure⟩ := bind_eq_ok h
  obtain rfl := Except.ok.inj hpure
  have hkeeps := keeps_dropKey hdrop
  exact ⟨Cursor.next_ahead (hkeeps.place ▸ hat),
    (landmarks_push_landmark rfl).trans (congrArg _ hkeeps.landmarks), hkeeps.ended⟩

/-- A colon puts tokens in front of others, none of which is a landmark. -/
theorem reads_value (hat : s.place.ahead = c :: rest) (h : s.value = .ok s') :
    Reads s s' rest [] := by
  have hreads {between : Scan} (hkeeps : Keeps s between) :
      Reads s ({ between with place := between.place.next }.push .value) rest [] :=
    ⟨Cursor.next_ahead (hkeeps.place ▸ hat), (landmarks_push rfl).trans hkeeps.landmarks,
      hkeeps.ended⟩
  unfold value at h
  dsimp only at h
  split at h
  · obtain ⟨_, hkey, hpure⟩ := bind_eq_ok h
    obtain rfl := Except.ok.inj hkey
    obtain rfl := Except.ok.inj hpure
    refine hreads ?_
    split
    · exact ⟨rfl, (landmarks_insertAt rfl).trans (landmarks_insertAt rfl), rfl⟩
    · exact ⟨rfl, landmarks_insertAt rfl, rfl⟩
  · obtain ⟨_, hstart, hafter⟩ := bind_eq_ok h
    obtain ⟨_, hdrop, hpure⟩ := bind_eq_ok hafter
    obtain rfl := Except.ok.inj hpure
    have hdropped := keeps_dropKey hdrop
    exact hreads ((keeps_startBlock rfl hstart).trans
      ⟨hdropped.place, hdropped.landmarks, hdropped.ended⟩)

theorem reads_quotedScalar {body : Text} (hbody : Sealed body)
    (hat : s.place.ahead = '"' :: (body ++ '"' :: rest)) (h : s.quotedScalar true = .ok s') :
    Reads s s' rest [] := by
  obtain ⟨between, hsave, hread⟩ := bind_eq_ok h
  obtain ⟨⟨points, place⟩, hscalar, hpure⟩ := bind_eq_ok hread
  obtain rfl := Except.ok.inj hpure
  have hkeeps := keeps_saveKey hsave
  exact ⟨quotedScalar_sealed hbody (hkeeps.place ▸ hat) hscalar,
    (landmarks_push rfl).trans hkeeps.landmarks, hkeeps.ended⟩

theorem atMark_eq_false {sign : Char} (hat : s.place.ahead = c :: rest) (hc : c ≠ sign) :
    s.place.atMark sign = false := by
  unfold Cursor.atMark
  rw [hat, Bool.and_eq_false_iff]
  exact Or.inl (decide_eq_false fun he => hc (List.cons.inj he).1)

theorem reads_readToken_mark {m : Mark} (hat : s.place.ahead = m.char :: rest)
    (h : s.readToken m.char = .ok s') : Reads s s' rest [m.token] := by
  have hdash : s.place.atMark '-' = false := atMark_eq_false hat (by cases m <;> decide)
  have hdot : s.place.atMark '.' = false := atMark_eq_false hat (by cases m <;> decide)
  unfold readToken at h
  cases m
  all_goals simp only [Mark.char, Char.reduceEq, false_and, and_false, if_false, if_true, hdash, hdot,
    Bool.false_eq_true] at h
  · exact reads_flowStart hat rfl h
  · exact reads_flowEnd hat rfl h
  · exact reads_flowStart hat rfl h
  · exact reads_flowEnd hat rfl h
  · exact reads_flowEntry hat h

theorem reads_readToken_colon (hat : s.place.ahead = ':' :: ' ' :: rest)
    (h : s.readToken ':' = .ok s') : Reads s s' (' ' :: rest) [] := by
  have hdash : s.place.atMark '-' = false := atMark_eq_false hat (by decide)
  have hdot : s.place.atMark '.' = false := atMark_eq_false hat (by decide)
  have hafter : endsToken (s.place.peekAt 1) = true := by
    rw [Cursor.peekAt, hat]
    rfl
  unfold readToken at h
  simp only [Char.reduceEq, false_and, and_false, if_false, if_true, hdash, hdot, hafter,
    Bool.false_eq_true, or_true, and_self] at h
  exact reads_value hat h

theorem reads_readToken_quoted {body : Text} (hbody : Sealed body)
    (hat : s.place.ahead = '"' :: (body ++ '"' :: rest)) (h : s.readToken '"' = .ok s') :
    Reads s s' rest [] := by
  have hdash : s.place.atMark '-' = false := atMark_eq_false hat (by decide)
  have hdot : s.place.atMark '.' = false := atMark_eq_false hat (by decide)
  unfold readToken at h
  simp only [Char.reduceEq, false_and, and_false, if_false, if_true, hdash, hdot,
    Bool.false_eq_true] at h
  exact reads_quotedScalar hbody hat h

/-! ## On the way to the next piece -/

/-- Whether a piece is passed over on the way to a token. -/
def isGap : Piece → Bool
  | .blank | .lineBreak => true
  | _ => false

/-- A piece that is not passed over starts with a character that is not. -/
theorem exists_cons_of_not_isGap {piece : Piece} (h : isGap piece = false) :
    ∃ c s, piece.text = c :: s ∧ isBreak c = false ∧ c ≠ '#' ∧ c ≠ ' ' := by
  cases piece with
  | blank => exact absurd h (by decide)
  | lineBreak => exact absurd h (by decide)
  | colon => exact ⟨':', [' '], rfl, by decide⟩
  | mark m => exact ⟨m.char, [], rfl, by cases m <;> decide⟩
  | quoted body _ => exact ⟨'"', body ++ ['"'], rfl, by decide⟩

theorem nextPlace_textOf (broke : Bool) (pieces : List Piece) {at_ : Cursor}
    (hat : at_.ahead = textOf pieces) :
    ∃ more, (nextPlace false broke (textOf pieces) at_).1.ahead = textOf more
      ∧ marksOf more = marksOf pieces ∧ ∀ piece ∈ more.head?, isGap piece = false := by
  induction pieces generalizing broke at_ with
  | nil => exact ⟨[], hat, rfl, fun _ hm => absurd hm (Option.not_mem_none _)⟩
  | cons piece pieces ih =>
      cases hgap : isGap piece with
      | true =>
          cases piece with
          | blank => exact ih broke (Cursor.next_ahead hat)
          | lineBreak => exact ih true (Cursor.next_ahead hat)
          | _ => exact absurd hgap Bool.false_ne_true
      | false =>
          obtain ⟨c, s, hpiece, hbreak, hcomment, hblank⟩ := exists_cons_of_not_isGap hgap
          have htext : textOf (piece :: pieces) = c :: (s ++ textOf pieces) := by
            rw [textOf_cons, hpiece, List.cons_append]
          refine ⟨piece :: pieces, ?_, rfl, fun _ hm => Option.some.inj hm ▸ hgap⟩
          rw [htext, nextPlace, hbreak]
          simpa [hcomment, hblank] using hat.trans htext

/-! ## Whole texts -/

/-- The landmarks read so far and the marks ahead make up the marks of a text. -/
structure Covers (all : List Token) (s : Scan) : Prop where
  ahead : ∃ pieces, s.place.ahead = textOf pieces ∧ s.landmarks.reverse ++ marksOf pieces = all
  ended : s.ended = false

/-- The text is read to its end, and its marks are among the tokens. -/
structure Ended (all : List Token) (s : Scan) : Prop where
  landmarks : s.landmarks.reverse = all ++ [.streamEnd]
  ended : s.ended = true

theorem Covers.of_keeps (h : Covers all s) (hkeeps : Keeps s s') : Covers all s' := by
  obtain ⟨⟨pieces, hat, hall⟩, hended⟩ := h
  exact ⟨⟨pieces, hkeeps.place ▸ hat, hkeeps.landmarks ▸ hall⟩, hkeeps.ended.trans hended⟩

theorem Reads.covers {added : List Token} (hended : s.ended = false)
    (hall : s.landmarks.reverse ++ (added ++ marksOf pieces) = all) (hadded : added.reverse = added)
    (h : Reads s s' (textOf pieces) added) : Covers all s' := by
  refine ⟨⟨pieces, h.ahead, ?_⟩, h.ended.trans hended⟩
  rw [h.landmarks, List.reverse_append, hadded, List.append_assoc, hall]

/-- The token of the next piece. -/
theorem covers_readToken {piece : Piece} (hgap : isGap piece = false) (hended : s.ended = false)
    (hat : s.place.ahead = textOf (piece :: pieces))
    (hall : s.landmarks.reverse ++ marksOf (piece :: pieces) = all)
    (hpeek : s.place.peek = some c) (h : s.readToken c = .ok s') : Covers all s' := by
  have hc {d : Char} {rest : Text} (hd : s.place.ahead = d :: rest) : d = c := by
    rw [Cursor.peek, hd] at hpeek
    exact Option.some.inj hpeek
  cases piece with
  | blank => exact absurd hgap (by decide)
  | lineBreak => exact absurd hgap (by decide)
  | colon =>
      obtain rfl := hc hat
      have hreads : Reads s s' (textOf (.blank :: pieces)) [] := reads_readToken_colon hat h
      exact hreads.covers hended hall rfl
  | mark m =>
      obtain rfl := hc hat
      exact (reads_readToken_mark hat h).covers hended hall rfl
  | quoted body hbody =>
      obtain rfl := hc hat
      have hat' : s.place.ahead = '"' :: (body ++ '"' :: textOf pieces) := by
        rw [hat, textOf_cons]
        simp [Piece.text]
      exact (reads_readToken_quoted hbody hat' h).covers hended hall rfl

theorem ended_streamEnd (hall : s.landmarks.reverse = all)
    (h : s.streamEnd = .ok s') : Ended all s' := by
  obtain ⟨_, hdrop, hpure⟩ := bind_eq_ok h
  obtain rfl := Except.ok.inj hpure
  have hkeeps := (keeps_unindent (-1) s).trans (keeps_dropKey hdrop)
  refine ⟨?_, rfl⟩
  show (push .streamEnd _).landmarks.reverse = all ++ [.streamEnd]
  rw [landmarks_push_landmark rfl, List.reverse_cons, hkeeps.landmarks, hall]

theorem covers_toNextToken (h : Covers all s) :
    Covers all s.toNextToken ∧ ∃ pieces, s.toNextToken.place.ahead = textOf pieces
      ∧ s.landmarks.reverse ++ marksOf pieces = all ∧ ∀ piece ∈ pieces.head?, isGap piece = false := by
  obtain ⟨⟨pieces, hat, hall⟩, hended⟩ := h
  have hmark : s.place.peek ≠ some '\uFEFF' := by
    rw [Cursor.peek, hat]
    cases pieces with
    | nil => exact (Option.some_ne_none _).symm
    | cons piece pieces =>
        cases piece with
        | mark m => cases m <;> exact fun he => absurd (Option.some.inj he) (by decide)
        | _ => exact fun he => absurd (Option.some.inj he) (by decide)
  have hplace : s.toNextToken.place = (nextPlace false false (textOf pieces) s.place).1 := by
    unfold toNextToken
    simp [hmark, hat]
  obtain ⟨more, hmore, hmarks, hhead⟩ := nextPlace_textOf false pieces hat
  rw [← hplace] at hmore
  rw [← hmarks] at hall
  exact ⟨⟨⟨more, hmore, hall⟩, hended⟩, more, hmore, hall, hhead⟩

/-- **A step reads the next piece, or ends the text.** -/
theorem covers_step (h : Covers all s) (hstep : s.step = .ok s') : Covers all s' ∨ Ended all s' := by
  obtain ⟨hcovers, pieces, hat, hall, hhead⟩ := covers_toNextToken h
  obtain ⟨between, hdrop, hread⟩ := bind_eq_ok hstep
  have hkeeps := (keeps_dropStaleKeys hdrop).trans (keeps_unindent between.place.column between)
  have hended := (hcovers.of_keeps hkeeps).ended
  have hlandmarks : s.toNextToken.landmarks = s.landmarks := rfl
  rw [← hlandmarks, ← hkeeps.landmarks] at hall
  rw [← hkeeps.place] at hat
  dsimp only at hread
  split at hread
  · next hpeek =>
      right
      cases pieces with
      | nil => exact ended_streamEnd (by simpa [marksOf] using hall) hread
      | cons piece pieces =>
          obtain ⟨c, t, hpiece, -⟩ := exists_cons_of_not_isGap (hhead piece rfl)
          rw [Cursor.peek, hat, textOf_cons, hpiece] at hpeek
          exact absurd hpeek (Option.some_ne_none c)
  · next c hpeek =>
      left
      cases pieces with
      | nil =>
          rw [Cursor.peek, hat] at hpeek
          exact absurd hpeek.symm (Option.some_ne_none c)
      | cons piece pieces =>
          exact covers_readToken (hhead piece rfl) hended hat hall hpeek hread

/-- Tokens that are given out before the end of the text is read do not end it. -/
theorem not_mem_released (h : Covers all s) (hend : Token.streamEnd ∉ all) :
    Token.streamEnd ∉ s.released := by
  obtain ⟨⟨pieces, -, rfl⟩, -⟩ := h
  intro hm
  have htokens := List.mem_reverse.1 (List.mem_of_mem_take hm)
  refine hend (List.mem_append_left _ (List.mem_reverse.2 ?_))
  exact List.mem_filter.2 ⟨htokens, rfl⟩

/-- **The tokens of a text that is read to its end hold its marks in order.** -/
theorem landmarks_toEnd {n : Nat} (h : Covers all s) (hend : Token.streamEnd ∉ all)
    (hm : Token.streamEnd ∈ (toEnd n s).1) :
    (toEnd n s).1.filter Token.isLandmark = all ++ [.streamEnd] := by
  induction n generalizing s with
  | zero => exact absurd hm List.not_mem_nil
  | succ n ih =>
      unfold toEnd at hm ⊢
      rw [h.ended, if_neg Bool.false_ne_true] at hm ⊢
      cases hdrop : s.dropStaleKeys with
      | error fault =>
          rw [hdrop] at hm
          exact absurd hm List.not_mem_nil
      | ok between =>
          have hbetween := h.of_keeps (keeps_dropStaleKeys hdrop)
          simp only [hdrop] at hm ⊢
          cases hstep : between.step with
          | error fault =>
              rw [hstep] at hm
              exact absurd hm (not_mem_released hbetween hend)
          | ok s' =>
              simp only [hstep] at hm ⊢
              rcases covers_step hbetween hstep with hcovers | ⟨hlandmarks, hended⟩
              · exact ih hcovers hm
              · cases n with
                | zero => exact absurd hm List.not_mem_nil
                | succ n =>
                    unfold toEnd
                    rw [hended, if_pos rfl]
                    show s'.tokens.reverse.filter Token.isLandmark = all ++ [.streamEnd]
                    rw [List.filter_reverse]
                    exact hlandmarks

end Scan

/-- **A text of pieces that is a YAML text leaves no collection open at its end.** -/
theorem closed_of_ofText?_textOf {pieces : List Piece} {doc? : Option Document}
    (h : Document.ofText? (textOf pieces) = .ok doc?) : Document.Closed (marksOf pieces).getLast? := by
  obtain ⟨hm, used, more, hsplit, hclosed⟩ := Document.closed_of_ofText? h
  have hend : Token.streamEnd ∉ marksOf pieces := fun hm =>
    absurd (isMark_of_mem_marksOf hm) Bool.false_ne_true
  have hlandmarks : (Token.ofText (textOf pieces)).1.filter Token.isLandmark
      = marksOf pieces ++ [.streamEnd] := by
    unfold Token.ofText at hm ⊢
    split at hm
    · next hprintable =>
        rw [if_pos hprintable]
        exact Scan.landmarks_toEnd ⟨⟨pieces, rfl, rfl⟩, rfl⟩ hend hm
    · exact absurd hm List.not_mem_nil
  rw [hsplit, List.filter_append, List.filter_cons_of_pos rfl] at hlandmarks
  have hused : used.filter Token.isLandmark = marksOf pieces := by
    rcases List.append_eq_append_iff.1 hlandmarks with ⟨rest, hrest, hlast⟩ | ⟨rest, hrest, hlast⟩
    · cases rest with
      | nil => rw [hrest, List.append_nil]
      | cons token rest =>
          obtain ⟨rfl, -⟩ := List.cons.inj hlast
          exact absurd (hrest ▸ List.mem_append_right _ List.mem_cons_self) hend
    · cases rest with
      | nil => rw [hrest, List.append_nil]
      | cons token rest => simp at hlast
  have hmarks : used.filter Token.isMark = marksOf pieces := by
    calc used.filter Token.isMark
      _ = (used.filter Token.isLandmark).filter Token.isMark := by
          rw [List.filter_filter]
          refine List.filter_congr fun token _ => ?_
          cases hmark : token.isMark with
          | false => rfl
          | true => rw [Token.isLandmark_of_isMark hmark]; rfl
      _ = marksOf pieces := by
          rw [hused]
          exact List.filter_eq_self.2 fun token ht => isMark_of_mem_marksOf ht
  rw [lastMark?, hmarks] at hclosed
  exact hclosed

end ApiScan.Yaml
