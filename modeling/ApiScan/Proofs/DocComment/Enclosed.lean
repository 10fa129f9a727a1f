import ApiScan.Proofs.DocComment.Source

set_option autoImplicit false

/-! # Blocks and the comments around them

A source text is a sequence of complete comments and lines of code. A comment ends on its last line,
but a block does not end there if that line holds the mark as well: the end of a comment is looked
for on lines without a mark only. So each block belongs to one comment exactly if no comment has the
mark on its last line. -/

namespace ApiScan.DocComment

/-! ## Comments -/

/-- A complete comment, with what stands around it on its first line and on its last one. -/
structure BlockComment where
  before : Text
  inner : Text
  behind : Text
  unmarked_before : Unmarked before
  unmarked_behind : Unmarked behind
  unclosed : ¬ closing <:+: inner

namespace BlockComment

variable (comment : BlockComment)

/-- A comment as it is written. -/
def text : Text :=
  comment.before ++ "/*".toList ++ (comment.inner ++ (closing ++ comment.behind))

/-- The lines of a comment. -/
def lines : List Text := Text.lines comment.text

/-- The line on which a comment ends. -/
def lastLine : Text := comment.lines.getLast (Text.pieces_ne_nil _)

/-- Whether a comment holds the mark. -/
def isMarked : Bool := Text.holds mark comment.inner

end BlockComment

/-- The lines from the last one with a mark on. -/
def fromMark : List Text → List Text
  | [] => []
  | line :: more => if more.any (Text.holds mark) then fromMark more else line :: more

/-- The block of a comment alone. -/
def BlockComment.block (comment : BlockComment) : Text := blockText (fromMark comment.lines)

/-- A stretch of a source text: a line of code, or a comment. -/
inductive Stretch where
  | code (line : Text) (unmarked : Unmarked line)
  | enclosed (comment : BlockComment)

/-- The lines of a stretch. -/
def Stretch.lines : Stretch → List Text
  | .code line _ => [line]
  | .enclosed comment => comment.lines

/-- The comment that a stretch is. -/
def Stretch.comment? : Stretch → Option BlockComment
  | .code _ _ => none
  | .enclosed comment => some comment

/-- The source text of some stretches. -/
def textOfStretches (stretches : List Stretch) : Text :=
  Text.joinWith ['\n'] (stretches.flatMap Stretch.lines)

variable {front lines more : List Text} {line last block : Text}

/-! ## The lines of a comment -/

namespace BlockComment

variable {comment : BlockComment}

/-- Only the first line of a comment may end a comment in front of it, as that of `/*/ … */` does. -/
theorem exists_lines_eq (comment : BlockComment) : ∃ front, comment.lines = front ++ [comment.lastLine]
    ∧ (∀ line ∈ front.tail, Text.holds closing line = false)
    ∧ Text.holds closing comment.lastLine = true := by
  have hplain {s : Text} (h : '\n' ∉ s) : ∀ c ∈ s, decide (c = '\n') = false := fun c hc =>
    decide_eq_false fun he => h (he ▸ hc)
  have hbehind : '\n' ∉ closing ++ comment.behind := by
    rw [List.mem_append, not_or]
    exact ⟨by decide, comment.unmarked_behind.oneLine⟩
  have hbefore : '\n' ∉ comment.before ++ "/*".toList := by
    rw [List.mem_append, not_or]
    exact ⟨comment.unmarked_before.oneLine, by decide⟩
  obtain ⟨rows, row, hinner, hrows⟩ := Text.exists_pieces_append (hplain hbehind) comment.inner
  have hends (s : Text) : Text.holds closing (s ++ (closing ++ comment.behind)) = true :=
    Text.holds_iff.2 ((List.prefix_append _ _).isInfix.trans (List.suffix_append s _).isInfix)
  have hlast {front : List Text} {last : Text} (h : comment.lines = front ++ [last]) :
      comment.lastLine = last := by
    simp only [lastLine, h, List.getLast_append_singleton]
  -- the comment is on one line, or what is inside it ends the first line and starts the last one
  cases rows with
  | nil =>
      have hlines : comment.lines
          = [] ++ [comment.before ++ "/*".toList ++ (row ++ (closing ++ comment.behind))] :=
        Text.pieces_append_first (hplain hbefore) hrows
      refine ⟨[], hlast hlines ▸ hlines, fun _ h => absurd h List.not_mem_nil, ?_⟩
      rw [hlast hlines, ← List.append_assoc _ row]
      exact hends _
  | cons first rows =>
      have hlines : comment.lines = (comment.before ++ "/*".toList ++ first) :: rows
          ++ [row ++ (closing ++ comment.behind)] :=
        Text.pieces_append_first (hplain hbefore) hrows
      refine ⟨_, hlast hlines ▸ hlines, fun line hline => ?_, hlast hlines ▸ hends row⟩
      rw [Text.holds_eq_false_iff]
      refine fun h => comment.unclosed (h.trans (Text.isInfix_of_mem_pieces (p := (· = '\n')) ?_))
      rw [hinner]
      exact List.mem_append_left _ (List.mem_cons_of_mem _ hline)

theorem infix_text_iff : mark <:+: comment.text ↔ mark <:+: comment.inner := by
  -- no character of the delimiters is one of the mark, so that the mark is on one side of each
  have htext : comment.text = comment.before ++ '/' :: ([] ++ '*' :: (comment.inner
      ++ '*' :: ([] ++ '/' :: comment.behind))) := by
    show comment.before ++ "/*".toList ++ _ = _
    rw [List.append_assoc]
    rfl
  have hstar : '*' ∉ mark := by decide
  have hslash : '/' ∉ mark := by decide
  have hnil : ¬ mark <:+: [] := by decide
  rw [htext, Text.infix_append_cons_iff hslash, Text.infix_append_cons_iff hstar,
    Text.infix_append_cons_iff hstar, Text.infix_append_cons_iff hslash]
  simp only [comment.unmarked_before.noMark, comment.unmarked_behind.noMark, hnil, false_or, or_false]

/-- A comment holds the mark if one of its lines does. -/
theorem any_lines (comment : BlockComment) :
    comment.lines.any (Text.holds mark) = comment.isMarked := by
  rw [Bool.eq_iff_iff, List.any_eq_true, isMarked, Text.holds_iff, ← infix_text_iff]
  constructor
  · rintro ⟨line, hline, h⟩
    exact (Text.holds_iff.1 h).trans (Text.isInfix_of_mem_pieces hline)
  · intro h
    obtain ⟨line, hline, h⟩ := Text.exists_line_of_infix (by decide) h
    exact ⟨line, hline, Text.holds_iff.2 h⟩

theorem lastLine_mem (comment : BlockComment) : comment.lastLine ∈ comment.lines :=
  List.getLast_mem _

theorem oneLine_of_mem_lines (h : line ∈ comment.lines) : '\n' ∉ line := fun hc =>
  of_decide_eq_false (Text.forall_mem_pieces h '\n' hc) rfl

end BlockComment

/-! ## Going over the lines of a comment -/

theorem fromMark_append_singleton (h : Text.holds mark last = true) (front : List Text) :
    fromMark (front ++ [last]) = [last] := by
  induction front with
  | nil => rfl
  | cons line front ih =>
      have hany : (front ++ [last]).any (Text.holds mark) = true :=
        List.any_eq_true.2 ⟨last, by simp, h⟩
      rw [List.cons_append, fromMark, if_pos hany, ih]

theorem fromMark_cons_append (h : ¬ Text.holds mark last = true) (line : Text) (front : List Text) :
    fromMark (line :: front ++ [last])
      = if front.any (Text.holds mark) then fromMark (front ++ [last]) else line :: (front ++ [last]) := by
  simp [fromMark, h]

/-- **An open block ends with its comment if the last line holds no mark**, and it starts over where
    a line does. -/
theorem blocksFrom_some (opened : List Text)
    (hfront : ∀ line ∈ front, Text.holds closing line = false)
    (hclosing : Text.holds closing last = true) (more : List Text) :
    blocksFrom (some opened) (front ++ last :: more)
      = if Text.holds mark last then blocksFrom (some [last]) more
        else blockText (if front.any (Text.holds mark) then fromMark (front ++ [last])
          else opened.reverse ++ (front ++ [last])) :: blocksFrom none more := by
  -- on the lines that end no comment, with any lines of the open block in front of them
  induction front generalizing opened with
  | nil =>
      rw [List.nil_append, blocksFrom]
      by_cases hlast : Text.holds mark last = true
      · rw [if_pos hlast, if_pos hlast]
      · rw [if_neg hlast, if_neg hlast, List.nil_append, ← List.reverse_cons]
        simp [hclosing]
  | cons line front ih =>
      obtain ⟨hline, hmore⟩ := List.forall_mem_cons.1 hfront
      rw [List.cons_append, blocksFrom, List.any_cons]
      by_cases hmark : Text.holds mark line = true
      · rw [if_pos hmark, ih [line] hmore, hmark]
        by_cases hlast : Text.holds mark last = true
        · rw [if_pos hlast, if_pos hlast]
        · rw [if_neg hlast, if_neg hlast, fromMark_cons_append hlast]
          rfl
      · rw [if_neg hmark]
        simp only [hline, Bool.false_eq_true, if_false, hmark, Bool.false_or]
        rw [ih (line :: opened) hmore]
        by_cases hlast : Text.holds mark last = true
        · rw [if_pos hlast, if_pos hlast]
        · rw [if_neg hlast, if_neg hlast, fromMark_cons_append hlast]
          cases front.any (Text.holds mark) <;> simp

theorem blocksFrom_none (hfront : ∀ line ∈ front.tail, Text.holds closing line = false)
    (hclosing : Text.holds closing last = true) (more : List Text) :
    blocksFrom none (front ++ last :: more)
      = if Text.holds mark last then blocksFrom (some [last]) more
        else if front.any (Text.holds mark) then
          blockText (fromMark (front ++ [last])) :: blocksFrom none more
        else blocksFrom none more := by
  induction front with
  | nil =>
      rw [List.nil_append, blocksFrom]
      rfl
  | cons line front ih =>
      rw [List.cons_append, blocksFrom, List.any_cons]
      by_cases hmark : Text.holds mark line = true
      · have hbehind : ∀ line ∈ front, Text.holds closing line = false := hfront
        rw [if_pos hmark, blocksFrom_some [line] hbehind hclosing, hmark]
        by_cases hlast : Text.holds mark last = true
        · rw [if_pos hlast, if_pos hlast]
        · rw [if_neg hlast, if_neg hlast, fromMark_cons_append hlast]
          rfl
      · rw [if_neg hmark]
        simp only [hmark, Bool.false_or]
        rw [ih fun line hline => hfront line (List.mem_of_mem_tail hline)]
        by_cases hlast : Text.holds mark last = true
        · rw [if_pos hlast, if_pos hlast]
        · rw [if_neg hlast, if_neg hlast, fromMark_cons_append hlast]
          cases front.any (Text.holds mark) <;> rfl

/-- **What is read of a comment.** A comment whose last line holds the mark leaves a block open. -/
theorem blocksFrom_lines (comment : BlockComment) (more : List Text) :
    blocksFrom none (comment.lines ++ more)
      = if Text.holds mark comment.lastLine then blocksFrom (some [comment.lastLine]) more
        else if comment.isMarked then comment.block :: blocksFrom none more
        else blocksFrom none more := by
  obtain ⟨front, hlines, hfront, hclosing⟩ := comment.exists_lines_eq
  have hmarked := comment.any_lines
  rw [hlines, List.any_append] at hmarked
  rw [BlockComment.block, hlines, List.append_assoc, List.singleton_append,
    blocksFrom_none hfront hclosing]
  by_cases hlast : Text.holds mark comment.lastLine = true
  · rw [if_pos hlast, if_pos hlast]
  · rw [if_neg hlast, if_neg hlast, ← hmarked]
    simp [hlast]

/-! ## Blocks have two lines -/

/-- A block takes in the line that ends it, behind the line that opens it. -/
theorem exists_of_mem_blocksFrom {opened : Option (List Text)} (hopened : opened ≠ some [])
    (h : block ∈ blocksFrom opened lines) :
    ∃ first second more, block = blockText (first :: second :: more) := by
  induction lines generalizing opened with
  | nil => exact absurd h List.not_mem_nil
  | cons line lines ih =>
      unfold blocksFrom at h
      split at h
      · exact ih (by simp) h
      · cases opened with
        | none => exact ih (by simp) h
        | some opened =>
            simp only at h
            split at h
            · rcases List.mem_cons.1 h with rfl | h
              · obtain ⟨first, front, hsplit⟩ : ∃ first front, opened.reverse = first :: front :=
                  List.exists_cons_of_ne_nil (by simpa using hopened)
                rw [List.reverse_cons, hsplit]
                cases front with
                | nil => exact ⟨first, line, [], rfl⟩
                | cons second front => exact ⟨first, second, front ++ [line], rfl⟩
              · exact ih (by simp) h
            · exact ih (by simp) h

/-- One line is no block. -/
theorem blockText_singleton_ne (hline : '\n' ∉ line) (first second : Text) :
    blockText [line] ≠ blockText (first :: second :: more) := by
  have hplain : '\n' ∉ undecorate line := by
    intro h
    have hnil : '\n' ∉ ([] : Text) := List.not_mem_nil
    have hend := (Text.mem_of_mem_replaceFirst h).resolve_left hnil
    have hmark := (Text.mem_of_mem_replaceFirst hend).resolve_left hnil
    exact hline ((Text.mem_of_mem_replaceFirst hmark).resolve_left hnil)
  intro h
  have hjoined : undecorate line = undecorate first ++ '\n'
      :: Text.joinWith ['\n'] (undecorate second :: more.map undecorate) :=
    (List.append_cancel_right h).trans (Text.joinWith_cons_cons _ _ _ _)
  rw [hjoined] at hplain
  exact hplain (by simp)

/-! ## Source texts -/

/-- The comments of some stretches. -/
def commentsOf (stretches : List Stretch) : List BlockComment := stretches.filterMap Stretch.comment?

theorem blocks_textOfStretches (stretches : List Stretch) :
    blocks (textOfStretches stretches) = blocksFrom none (stretches.flatMap Stretch.lines) := by
  by_cases hlines : stretches.flatMap Stretch.lines = []
  · -- a text without stretches has one line, which is empty
    rw [blocks, textOfStretches, hlines]
    decide
  · rw [blocks, textOfStretches, Text.lines_joinWith hlines]
    intro line hline
    obtain ⟨stretch, -, hstretch⟩ := List.mem_flatMap.1 hline
    cases stretch with
    | code line' h => exact List.mem_singleton.1 hstretch ▸ h.oneLine
    | enclosed comment => exact BlockComment.oneLine_of_mem_lines hstretch

theorem blocksFrom_stretches {stretches : List Stretch}
    (h : ∀ comment ∈ commentsOf stretches, Text.holds mark comment.lastLine = false) :
    blocksFrom none (stretches.flatMap Stretch.lines)
      = ((commentsOf stretches).filter BlockComment.isMarked).map BlockComment.block := by
  induction stretches with
  | nil => rfl
  | cons stretch stretches ih =>
      rw [List.flatMap_cons]
      cases stretch with
      | code line hline =>
          show blocksFrom none (line :: stretches.flatMap Stretch.lines) = _
          rw [blocksFrom, Text.holds_eq_false_iff.2 hline.noMark]
          exact ih h
      | enclosed comment =>
          obtain ⟨hlast, hmore⟩ := List.forall_mem_cons.1
            (h : ∀ other ∈ comment :: commentsOf stretches, Text.holds mark other.lastLine = false)
          show blocksFrom none (comment.lines ++ stretches.flatMap Stretch.lines)
            = ((comment :: commentsOf stretches).filter BlockComment.isMarked).map BlockComment.block
          rw [blocksFrom_lines, hlast, ih hmore, List.filter_cons]
          cases comment.isMarked <;> rfl

/-- **Each marked comment gives one block, of its own lines, exactly if none has the mark on its last
    line.** Such a comment opens a block that takes in the lines behind the comment, up to the next line
    without a mark on which any comment ends; if there is none, no block is read. -/
theorem blocks_eq_map_block_iff (stretches : List Stretch) :
    (blocks (textOfStretches stretches)
        = ((commentsOf stretches).filter BlockComment.isMarked).map BlockComment.block
      ↔ ∀ comment ∈ commentsOf stretches, ¬ mark <:+: comment.lastLine)
    ∧ ∀ comment : BlockComment, mark <:+: comment.lastLine →
        ∀ code, (∀ line ∈ code, ¬ mark <:+: line ∧ ¬ closing <:+: line) →
          blocksFrom none (comment.lines ++ code) = []
          ∧ ∀ last more, ¬ mark <:+: last → closing <:+: last →
              blocksFrom none (comment.lines ++ (code ++ last :: more))
                = blockText (comment.lastLine :: (code ++ [last])) :: blocksFrom none more := by
  constructor
  · rw [blocks_textOfStretches]
    constructor
    · intro h comment hcomment hlast
      have hmark := Text.holds_iff.2 hlast
      have hmarked : comment.isMarked = true := by
        rw [← comment.any_lines, List.any_eq_true]
        exact ⟨_, comment.lastLine_mem, hmark⟩
      -- the block of the comment would be its last line alone
      have hblock : comment.block = blockText [comment.lastLine] := by
        obtain ⟨front, hlines, -⟩ := comment.exists_lines_eq
        rw [BlockComment.block, hlines, fromMark_append_singleton hmark]
      have hmem : comment.block ∈ blocksFrom none (stretches.flatMap Stretch.lines) := by
        rw [h]
        exact List.mem_map_of_mem (List.mem_filter.2 ⟨hcomment, hmarked⟩)
      obtain ⟨first, second, more, htwo⟩ := exists_of_mem_blocksFrom (by simp) hmem
      have hone := BlockComment.oneLine_of_mem_lines comment.lastLine_mem
      exact blockText_singleton_ne hone first second (hblock.symm.trans htwo)
    · exact fun h => blocksFrom_stretches fun comment hcomment =>
        Text.holds_eq_false_iff.2 (h comment hcomment)
  · intro comment hlast code hcode
    have hopen (more : List Text) : blocksFrom none (comment.lines ++ (code ++ more))
        = blocksFrom (some (code.reverse ++ [comment.lastLine])) more := by
      rw [blocksFrom_lines, if_pos (Text.holds_iff.2 hlast), blocksFrom_append fun line hline => ?_]
      exact ⟨Text.holds_eq_false_iff.2 (hcode line hline).1,
        Text.holds_eq_false_iff.2 (hcode line hline).2⟩
    refine ⟨by simpa [blocksFrom] using hopen [], fun last more hmark hclosing => ?_⟩
    rw [hopen, blocksFrom, Text.holds_eq_false_iff.2 hmark]
    simp [Text.holds_iff.2 hclosing]

theorem unmarked_nil : Unmarked [] := by decide

/-- A comment with nothing around it. -/
def BlockComment.alone (inner : Text) (h : ¬ closing <:+: inner) : BlockComment :=
  ⟨[], inner, [], unmarked_nil, unmarked_nil, h⟩

/-- A comment on one line, a line of code, and a comment without a mark. -/
def oneLineStretches : List Stretch :=
  [.enclosed (.alone "* @swagger ".toList (by decide)), .code "const a = 1;".toList (by decide),
    .enclosed (.alone " b ".toList (by decide))]

/-- The line of code and the other comment come into the block. -/
theorem blocks_oneLineStretches :
    blocks (textOfStretches oneLineStretches)
        ≠ ((commentsOf oneLineStretches).filter BlockComment.isMarked).map BlockComment.block
      ∧ blocks (textOfStretches oneLineStretches) = ["/*  \nconst a = 1;\n/ b \n".toList] :=
  ⟨fun h => absurd ((blocks_eq_map_block_iff oneLineStretches).1.1 h) (by decide +kernel),
    by decide +kernel⟩

end ApiScan.DocComment
