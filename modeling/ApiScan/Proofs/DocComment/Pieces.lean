import ApiScan.Proofs.DocComment
import ApiScan.Proofs.Text.Lines
import ApiScan.Proofs.Yaml.Pieces

set_option autoImplicit false

/-! # Blocks in texts of flow collections

In a text of flow collections the marks of comments can stand between quotes only. A block that is
cut out of such a text, from the line of one mark to that of another, is no YAML text if the last of
its lines leave a collection open. -/

namespace ApiScan.DocComment

open Yaml

variable {mark front rest : Text} {pieces above row : List Piece} {rows : List (List Piece)}

/-! ## Without the decoration -/

/-- Whether a character stands around quoted texts, or bounds or escapes in them. -/
def isOuter (c : Char) : Bool :=
  c = '"' || c = '\\' || c = ' ' || c = '\n' || c = ':' || c = ',' || c = '[' || c = ']'
    || c = '\x7b' || c = '\x7d'

/-- What is taken out of a line: a text that can stand between quotes only, and is no part of an
    escape there. -/
structure Decoration (mark : Text) : Prop where
  starts : ∃ c s, mark = c :: s ∧ (c = '@' ∨ c = '*')
  inner : mark.any isOuter = false

theorem decoration_mark : Decoration DocComment.mark := ⟨⟨'@', _, rfl, Or.inl rfl⟩, by decide⟩

theorem decoration_closing : Decoration closing := ⟨⟨'*', _, rfl, Or.inr rfl⟩, by decide⟩

theorem decoration_asterisk : Decoration ['*'] := ⟨⟨'*', _, rfl, Or.inr rfl⟩, by decide⟩

theorem Decoration.not_mem (h : Decoration mark) {c : Char} (hc : isOuter c = true) : c ∉ mark :=
  fun hm => absurd (List.any_eq_true.2 ⟨c, hm, hc⟩) (by rw [h.inner]; exact Bool.false_ne_true)

/-- Between quotes a decoration can be taken out. -/
theorem Decoration.sealed_append (h : Decoration mark) (hs : Sealed (front ++ mark ++ rest)) :
    Sealed (front ++ rest) := by
  obtain ⟨c, s, hmark, hc⟩ := h.starts
  rw [List.append_assoc, hmark, List.cons_append] at hs
  obtain ⟨hfront, hrest⟩ := hs.split hc
  rw [← List.cons_append, ← hmark] at hrest
  refine hfront.append (hrest.of_append ?_)
  rintro c hc rfl
  exact h.not_mem (by decide) hc

/-- A piece ends with a character that no decoration holds, and what is in front of it holds no
    decoration either, unless it is quoted. -/
theorem exists_eq_append_text (piece : Piece) :
    ∃ s c, piece.text = s ++ [c] ∧ isOuter c = true
      ∧ ((∀ d ∈ s, isOuter d = true)
        ∨ ∃ body h, piece = .quoted body h ∧ s = '"' :: body ∧ c = '"') := by
  have hnil : ∀ d ∈ ([] : Text), isOuter d = true := fun _ hd => absurd hd List.not_mem_nil
  cases piece with
  | blank => exact ⟨[], ' ', rfl, by decide, Or.inl hnil⟩
  | lineBreak => exact ⟨[], '\n', rfl, by decide, Or.inl hnil⟩
  | colon => exact ⟨[':'], ' ', rfl, by decide, Or.inl (List.forall_mem_singleton.2 (by decide))⟩
  | mark m => exact ⟨[], m.char, rfl, by cases m <;> decide, Or.inl hnil⟩
  | quoted body h => exact ⟨'"' :: body, '"', rfl, by decide, Or.inr ⟨body, h, rfl, rfl, rfl⟩⟩

/-- A text stands on one side of a character that it does not hold. -/
theorem append_cons_eq_append {s t : Text} {c : Char} (hc : c ∉ mark)
    (h : s ++ c :: t = front ++ mark ++ rest) :
    (∃ more, s = front ++ mark ++ more ∧ rest = more ++ c :: t)
      ∨ ∃ more, front = s ++ c :: more ∧ t = more ++ mark ++ rest := by
  rcases List.append_eq_append_iff.1 h with ⟨more, hmore, hct⟩ | ⟨more, hs, hrest⟩
  · cases more with
    | nil => exact Or.inl ⟨[], by simpa using hmore.symm, hct.symm⟩
    | cons d more =>
        obtain ⟨rfl, rfl⟩ := List.cons.inj hct
        right
        rcases List.append_eq_append_iff.1 hmore with ⟨last, hlast, hmark⟩ | ⟨last, hlast, hmark⟩
        · exact absurd (hmark ▸ List.mem_append_right _ List.mem_cons_self) hc
        · cases last with
          | nil =>
              obtain rfl : mark = c :: more := hmark.symm
              exact absurd List.mem_cons_self hc
          | cons d last =>
              obtain ⟨rfl, rfl⟩ := List.cons.inj hmark
              exact ⟨last, hlast, rfl⟩
  · exact Or.inl ⟨more, hs, hrest⟩

/-- A decoration can be taken out of a text of pieces. -/
theorem Decoration.exists_pieces (h : Decoration mark) (htext : textOf pieces = front ++ mark ++ rest) :
    ∃ more, front ++ rest = textOf more ∧ marksOf more = marksOf pieces := by
  obtain ⟨c, s, hmark, hc⟩ := h.starts
  have houter : isOuter c = false := by
    rcases hc with rfl | rfl <;> decide
  induction pieces generalizing front with
  | nil =>
      rw [hmark] at htext
      simp [textOf] at htext
  | cons piece pieces ih =>
      obtain ⟨t, d, hpiece, hd, ht⟩ := exists_eq_append_text piece
      rw [textOf_cons, hpiece, List.append_assoc] at htext
      rcases append_cons_eq_append (h.not_mem hd) htext with ⟨last, hlast, hrest⟩ | ⟨last, hfront, hrest⟩
      · -- the decoration stands in the piece, which is a quoted one
        rcases ht with hall | ⟨body, hbody, rfl, rfl, rfl⟩
        · refine absurd (hall c ?_) (by rw [houter]; exact Bool.false_ne_true)
          rw [hlast, hmark]
          exact List.mem_append_left _ (List.mem_append_right _ List.mem_cons_self)
        · cases front with
          | nil =>
              rw [hmark] at hlast
              obtain ⟨rfl, -⟩ := List.cons.inj hlast
              exact absurd hc (by decide)
          | cons e front =>
              obtain ⟨rfl, rfl⟩ := List.cons.inj hlast
              refine ⟨.quoted (front ++ last) (h.sealed_append hbody) :: pieces, ?_, rfl⟩
              rw [textOf_cons, hrest]
              simp [Piece.text]
      · -- the decoration stands behind the piece
        obtain ⟨more, hmore, hmarks⟩ := ih hrest
        refine ⟨piece :: more, ?_, ?_⟩
        · rw [textOf_cons, ← hmore, hfront, hpiece]
          simp
        · show marksOf ([piece] ++ more) = marksOf ([piece] ++ pieces)
          rw [marksOf_append, marksOf_append, hmarks]

theorem Decoration.exists_pieces_replaceFirst (h : Decoration mark) (pieces : List Piece) :
    ∃ more, Text.replaceFirst mark [] (textOf pieces) = textOf more
      ∧ marksOf more = marksOf pieces := by
  unfold Text.replaceFirst
  split
  · next front rest hcut =>
      rw [List.append_nil]
      exact h.exists_pieces (Text.eq_of_cut?_eq_some hcut)
  · exact ⟨pieces, rfl, rfl⟩

/-- A line without its decoration has the same marks. -/
theorem exists_pieces_undecorate (pieces : List Piece) :
    ∃ more, undecorate (textOf pieces) = textOf more ∧ marksOf more = marksOf pieces := by
  obtain ⟨first, hfirst, hmarks₁⟩ := decoration_mark.exists_pieces_replaceFirst pieces
  obtain ⟨second, hsecond, hmarks₂⟩ := decoration_closing.exists_pieces_replaceFirst first
  obtain ⟨third, hthird, hmarks₃⟩ := decoration_asterisk.exists_pieces_replaceFirst second
  exact ⟨third, by rw [undecorate, hfirst, hsecond, hthird], by rw [hmarks₃, hmarks₂, hmarks₁]⟩

/-- A block of lines has the marks of its lines. -/
theorem exists_pieces_blockText (rows : List (List Piece)) :
    ∃ more, blockText (rows.map textOf) = textOf more ∧ marksOf more = marksOf rows.flatten := by
  have hjoined : ∃ more, Text.joinWith ['\n'] ((rows.map textOf).map undecorate) = textOf more
      ∧ marksOf more = marksOf rows.flatten := by
    induction rows with
    | nil => exact ⟨[], rfl, rfl⟩
    | cons row rows ih =>
        obtain ⟨line, hline, hmarks⟩ := exists_pieces_undecorate row
        obtain ⟨more, hmore, hrest⟩ := ih
        cases rows with
        | nil => exact ⟨line, hline, by simpa using hmarks⟩
        | cons next rows =>
            refine ⟨line ++ .lineBreak :: more, ?_, ?_⟩
            · rw [textOf_append, textOf_cons, ← hmore, ← hline]
              exact List.append_assoc _ _ _
            · rw [marksOf_append, hmarks, List.flatten_cons, marksOf_append, ← hrest]
              rfl
  obtain ⟨more, hmore, hmarks⟩ := hjoined
  refine ⟨more ++ [.lineBreak], ?_, ?_⟩
  · rw [blockText, hmore, textOf_append]
    rfl
  · rw [marksOf_append, hmarks]
    exact List.append_nil _

/-! ## Lines -/

/-- The last of some marks leaves a collection open. -/
def Unclosed (marks : List Token) : Prop := ¬ Document.Closed marks.getLast?

theorem unclosed_append_singleton (marks : List Token) {token : Token}
    (h : token.isClosing = false) : Unclosed (marks ++ [token]) := by
  intro hclosed
  have hclosing := hclosed token List.getLast?_concat
  rw [h] at hclosing
  exact absurd hclosing Bool.false_ne_true

theorem Unclosed.append {marks : List Token} (h : Unclosed marks) (before : List Token) :
    Unclosed (before ++ marks) := by
  intro hclosed
  refine h fun token htoken => hclosed token ?_
  rw [List.getLast?_append, htoken]
  rfl

/-- A line that can close a comment leaves a collection open, together with the line above it. -/
def Guarded (above row : List Piece) : Prop :=
  '*' ∈ textOf row → Unclosed (marksOf above ++ marksOf row)

/-- Each line of some pieces that can close a comment leaves a collection open, together with the
    line above it. `row` holds the pieces of the first line that are read already, and `above` is the
    line above that. -/
def AllGuarded (above row : List Piece) : List Piece → Prop
  | [] => Guarded above row
  | .lineBreak :: more => Guarded above row ∧ AllGuarded row [] more
  | piece :: more => AllGuarded above (row ++ [piece]) more

theorem not_mem_lineBreak {piece : Piece} (h : piece ≠ .lineBreak) : '\n' ∉ piece.text := by
  cases piece with
  | blank => decide
  | lineBreak => exact absurd rfl h
  | colon => decide
  | mark m => cases m <;> decide
  | quoted body hbody =>
      intro hm
      rcases List.mem_cons.1 hm with hquote | hm
      · exact absurd hquote (by decide)
      · rcases List.mem_append.1 hm with hm | hm
        · exact absurd (hbody.isBreak_of_mem _ hm) (by decide)
        · exact absurd (List.mem_singleton.1 hm) (by decide)

/-- The lines of a text of pieces are the texts of lines of pieces. -/
theorem AllGuarded.exists_rows (h : AllGuarded above row pieces) (hrow : '\n' ∉ textOf row) :
    ∃ rows, Text.lines (textOf row ++ textOf pieces) = rows.map textOf
      ∧ (above :: rows).IsChain Guarded := by
  induction pieces generalizing above row with
  | nil =>
      refine ⟨[row], ?_, ?_⟩
      · exact (congrArg Text.lines (List.append_nil _)).trans (Text.lines_of_not_mem hrow)
      · exact List.isChain_cons_cons.2 ⟨h, .singleton _⟩
  | cons piece pieces ih =>
      by_cases hbreak : piece = .lineBreak
      · subst hbreak
        obtain ⟨hguarded, hmore⟩ := h
        obtain ⟨rows, hrows, hchain⟩ := ih hmore List.not_mem_nil
        refine ⟨row :: rows, ?_, List.isChain_cons_cons.2 ⟨hguarded, hchain⟩⟩
        rw [List.map_cons, ← hrows]
        exact Text.lines_append_cons hrow _
      · have hmore : AllGuarded above (row ++ [piece]) pieces := by
          cases piece
          case lineBreak => exact absurd rfl hbreak
          all_goals exact h
        have hrow' : '\n' ∉ textOf (row ++ [piece]) := by
          rw [textOf_append, List.mem_append, not_or]
          refine ⟨hrow, ?_⟩
          rw [textOf_cons, List.mem_append, not_or]
          exact ⟨not_mem_lineBreak hbreak, List.not_mem_nil⟩
        obtain ⟨rows, hrows, hchain⟩ := ih hmore hrow'
        refine ⟨rows, ?_, hchain⟩
        rw [← hrows, textOf_append, List.append_assoc]
        simp [textOf]

/-! ## Blocks -/

/-- Each block of guarded lines leaves a collection open. `earlier?` holds the lines of a block that
    is not closed yet, without the line above. -/
theorem unclosed_of_mem_blocksFrom (earlier? : Option (List (List Piece))) {block : Text}
    (h : (above :: rows).IsChain Guarded)
    (hm : block ∈ blocksFrom (earlier?.map fun earlier => (above :: earlier).map textOf)
      (rows.map textOf)) :
    ∃ pieces, block = textOf pieces ∧ Unclosed (marksOf pieces) := by
  induction rows generalizing above earlier? with
  | nil => exact absurd hm List.not_mem_nil
  | cons row rows ih =>
      obtain ⟨hguarded, hchain⟩ := List.isChain_cons_cons.1 h
      rw [List.map_cons] at hm
      unfold blocksFrom at hm
      by_cases hmark : Text.holds DocComment.mark (textOf row) = true
      · rw [if_pos hmark] at hm
        exact ih (some []) hchain hm
      rw [if_neg hmark] at hm
      cases earlier? with
      | none => exact ih none hchain hm
      | some earlier =>
          simp only [Option.map_some] at hm
          by_cases hclosing : Text.holds closing (textOf row) = true
          · rw [if_pos hclosing] at hm
            rcases List.mem_cons.1 hm with rfl | hm
            · have hstar : '*' ∈ textOf row :=
                (Text.holds_iff.1 hclosing).subset List.mem_cons_self
              obtain ⟨pieces, hpieces, hmarks⟩ :=
                exists_pieces_blockText (row :: above :: earlier).reverse
              refine ⟨pieces, by rw [← hpieces, List.map_reverse]; rfl, ?_⟩
              have hlast := (hguarded hstar).append (marksOf earlier.reverse.flatten)
              rw [hmarks]
              simpa [marksOf_append] using hlast
            · exact ih none hchain hm
          · rw [if_neg hclosing] at hm
            exact ih (some (above :: earlier)) hchain hm

/-- **A text of pieces whose lines are guarded documents nothing.** -/
theorem itemsOf_textOf (h : AllGuarded above [] pieces) : itemsOf (textOf pieces) = [] := by
  obtain ⟨rows, hrows, hchain⟩ := h.exists_rows List.not_mem_nil
  have hnone : ∀ block ∈ blocks (textOf pieces), mapping? block = none := by
    intro block hblock
    have hlines : Text.lines (textOf pieces) = rows.map textOf := hrows
    rw [blocks, hlines] at hblock
    obtain ⟨found, rfl, hunclosed⟩ := unclosed_of_mem_blocksFrom none hchain hblock
    have hread : ∀ value, Yaml.Value.ofText (textOf found) ≠ .ok value := by
      intro value hvalue
      obtain ⟨doc?, hdoc, -⟩ := bind_eq_ok hvalue
      exact hunclosed (closed_of_ofText?_textOf hdoc)
    unfold mapping?
    split
    · next value hvalue => exact absurd hvalue (hread value)
    · rfl
  have hall (texts : List Text) (hnone : ∀ block ∈ texts, mapping? block = none) :
      texts.foldl mergeNext [] = [] := by
    induction texts with
    | nil => rfl
    | cons block texts ih =>
        rw [List.forall_mem_cons] at hnone
        rw [List.foldl_cons, mergeNext, hnone.1]
        exact ih hnone.2
  exact hall _ hnone

end ApiScan.DocComment
