import ApiScan.OpenApi.Document
import ApiScan.Proofs.DocComment
import ApiScan.Proofs.Text.Lines

set_option autoImplicit false

/-! # Comments between lines of code

A source text is laid out as documentation comments with any lines of code between them. Its blocks are
the contents of the comments, each behind the indentation of its comment. The blocks that are mappings
are merged in the way in which the documents of routes are, and the others are told, one by one. -/

/-! ## Merging by entries

Path items are merged in the same way whatever values stand in them. -/

namespace ApiScan.Assoc

variable {κ ν : Type} [BEq κ]

/-- Merge a value into the one that stands under its key. Two values that have entries merge entry by
    entry, and otherwise the new value takes the place. -/
def mergeValue (entries? : ν → Option (List (κ × ν))) (ofEntries : List (κ × ν) → ν) (new : ν)
    (old : Option ν) : ν :=
  match old.bind entries?, entries? new with
  | some entries, some more => ofEntries (update entries more)
  | _, _ => new

/-- Merge values into those that stand under their keys, in order. -/
def merge (entries? : ν → Option (List (κ × ν))) (ofEntries : List (κ × ν) → ν)
    (target incoming : List (κ × ν)) : List (κ × ν) :=
  incoming.foldl (fun merged (key, new) => alter key (mergeValue entries? ofEntries new) merged) target

end ApiScan.Assoc

namespace ApiScan

/-- The fields of an object. -/
def Json.entries? : Json → Option Json.Fields
  | .object fields => some fields
  | _ => none

theorem OpenApi.mergePaths_eq_merge :
    OpenApi.mergePaths = Assoc.merge Json.entries? Json.object := by
  have hitem : mergeItem = Assoc.mergeValue Json.entries? Json.object := by
    funext new old
    cases old with
    | none => rfl
    | some old => cases old <;> cases new <;> rfl
  funext target incoming
  rw [mergePaths, hitem]
  rfl

namespace DocComment

theorem mergeBlock_eq_merge : mergeBlock = Assoc.merge Yaml.Value.entries? Yaml.Value.map := by
  have hitem : mergeItem = Assoc.mergeValue Yaml.Value.entries? Yaml.Value.map := by
    funext new old
    unfold mergeItem Assoc.mergeValue
    cases old.bind Yaml.Value.entries? <;> cases new.entries? <;> rfl
  funext items block
  rw [mergeBlock, hitem]
  rfl

/-! ## Lines and comments -/

/-- A line that does not hold the mark of a documentation comment. -/
structure Unmarked (line : Text) : Prop where
  oneLine : '\n' ∉ line
  noMark : ¬ mark <:+: line

instance (line : Text) : Decidable (Unmarked line) :=
  decidable_of_iff ('\n' ∉ line ∧ ¬ mark <:+: line) ⟨fun h => ⟨h.1, h.2⟩, fun h => ⟨h.1, h.2⟩⟩

/-- A documentation comment: what its lines start with, and the lines behind its mark. -/
structure Comment where
  indentation : Text
  content : List Text
  unmarked_indentation : Unmarked indentation
  noAsterisk : '*' ∉ indentation
  unmarked : ∀ line ∈ content, Unmarked line
  unclosed : ∀ line ∈ content, ¬ closing <:+: line

namespace Comment

variable (comment : Comment)

/-- A line of the content as it stands in the comment. -/
def contentLine (line : Text) : Text := comment.indentation ++ " * ".toList ++ line

/-- The lines of a comment. -/
def lines : List Text :=
  (comment.indentation ++ "/**".toList) :: (comment.indentation ++ " * @swagger".toList)
    :: (comment.content.map comment.contentLine ++ [comment.indentation ++ " */".toList])

/-- What is read of a comment: its content behind two blanks, between two blank lines. -/
def text : Text :=
  Text.joinWith ['\n'] ((comment.indentation ++ "  ".toList)
    :: (comment.content.map (fun line => comment.indentation ++ "  ".toList ++ line)
      ++ [comment.indentation ++ " ".toList])) ++ ['\n']

end Comment

/-- A part of a source text: a line of code, or a documentation comment. -/
inductive Part where
  | code (line : Text) (unmarked : Unmarked line)
  | doc (comment : Comment)

/-- The lines of a part. -/
def Part.lines : Part → List Text
  | .code line _ => [line]
  | .doc comment => comment.lines

/-- The comment that a part is. -/
def Part.comment? : Part → Option Comment
  | .code _ _ => none
  | .doc comment => some comment

/-- The source text of some parts. -/
def sourceText (parts : List Part) : Text := Text.joinWith ['\n'] (parts.flatMap Part.lines)

/-! ## One line -/

namespace Comment

variable {comment : Comment} {line : Text}

theorem not_closing_indentation (comment : Comment) : ¬ closing <:+: comment.indentation :=
  fun h => comment.noAsterisk (h.subset List.mem_cons_self)

theorem contentLine_eq (comment : Comment) (line : Text) :
    comment.contentLine line = comment.indentation ++ ' ' :: (['*'] ++ ' ' :: line) :=
  List.append_assoc comment.indentation " * ".toList line

/-- Behind its indentation a line of a comment loses its decoration. -/
theorem undecorate_append (comment : Comment) (rest : Text) :
    undecorate (comment.indentation ++ ' ' :: rest)
      = comment.indentation ++ ' ' :: undecorate rest := by
  have hasterisk : ¬ ['*'] <:+: comment.indentation := fun h =>
    comment.noAsterisk (h.subset List.mem_cons_self)
  unfold undecorate
  rw [Text.replaceFirst_append_cons (by decide) comment.unmarked_indentation.noMark,
    Text.replaceFirst_append_cons (by decide) comment.not_closing_indentation,
    Text.replaceFirst_append_cons (by decide) hasterisk]

/-- An asterisk behind the decoration stays. -/
theorem undecorate_contentLine (hmark : ¬ mark <:+: line) (hclosing : ¬ closing <:+: line) :
    undecorate (comment.contentLine line) = comment.indentation ++ "  ".toList ++ line := by
  have hline : undecorate (['*'] ++ ' ' :: line) = ' ' :: line := by
    unfold undecorate
    rw [Text.replaceFirst_append_cons (by decide) (by decide), Text.replaceFirst_of_not_infix hmark,
      Text.replaceFirst_append_cons (by decide) (by decide), Text.replaceFirst_of_not_infix hclosing]
    rfl
  rw [contentLine_eq, undecorate_append, hline]
  exact (List.append_assoc comment.indentation "  ".toList line).symm

/-- A line of the content neither starts a block nor ends one. -/
theorem holds_contentLine {sought : Text} (hblank : ' ' ∉ sought) (hstar : ¬ sought <:+: ['*'])
    (hindentation : ¬ sought <:+: comment.indentation) (hline : ¬ sought <:+: line) :
    Text.holds sought (comment.contentLine line) = false := by
  rw [contentLine_eq, Text.holds_append_cons hblank hindentation, Text.holds_append_cons hblank hstar]
  exact Text.holds_eq_false_iff.2 hline

/-- The lines from the mark on, without their decoration. -/
theorem blockText_lines (comment : Comment) : blockText comment.lines.tail = comment.text := by
  have hmark : undecorate (comment.indentation ++ " * @swagger".toList)
      = comment.indentation ++ "  ".toList := comment.undecorate_append "* @swagger".toList
  have hcontent : (comment.content.map comment.contentLine).map undecorate
      = comment.content.map fun line => comment.indentation ++ "  ".toList ++ line := by
    rw [List.map_map]
    exact List.map_congr_left fun line hline =>
      undecorate_contentLine (comment.unmarked line hline).noMark (comment.unclosed line hline)
  have hend : undecorate (comment.indentation ++ " */".toList)
      = comment.indentation ++ " ".toList := comment.undecorate_append "*/".toList
  rw [blockText, lines, List.tail_cons, List.map_cons, List.map_append, List.map_singleton, hmark,
    hcontent, hend, text]

end Comment

/-! ## One comment -/

/-- Lines between the mark and the end of a comment come into its block. -/
theorem blocksFrom_append {lines : List Text}
    (h : ∀ line ∈ lines, Text.holds mark line = false ∧ Text.holds closing line = false)
    (opened more : List Text) :
    blocksFrom (some opened) (lines ++ more) = blocksFrom (some (lines.reverse ++ opened)) more := by
  induction lines generalizing opened with
  | nil => rfl
  | cons line lines ih =>
      obtain ⟨⟨hmark, hclosing⟩, hlines⟩ := List.forall_mem_cons.1 h
      rw [List.cons_append, blocksFrom, hmark]
      simp only [hclosing, Bool.false_eq_true, if_false]
      rw [ih hlines, List.reverse_cons, List.append_assoc]
      rfl

/-- **A comment is read as one block.** -/
theorem blocksFrom_comment (comment : Comment) (more : List Text) :
    blocksFrom none (comment.lines ++ more) = comment.text :: blocksFrom none more := by
  have hindentation := comment.unmarked_indentation.noMark
  have hstart : Text.holds mark (comment.indentation ++ "/**".toList) = false :=
    (Text.holds_append_cons (by decide) hindentation _).trans (by decide)
  have hmark : Text.holds mark (comment.indentation ++ " * @swagger".toList) = true :=
    (Text.holds_append_cons (by decide) hindentation _).trans (by decide)
  have hinside : ∀ line ∈ comment.content.map comment.contentLine,
      Text.holds mark line = false ∧ Text.holds closing line = false := by
    refine List.forall_mem_map.2 fun line hline => ⟨?_, ?_⟩
    · exact Comment.holds_contentLine (by decide) (by decide) hindentation
        (comment.unmarked line hline).noMark
    · exact Comment.holds_contentLine (by decide) (by decide) comment.not_closing_indentation
        (comment.unclosed line hline)
  have hunmarked : Text.holds mark (comment.indentation ++ " */".toList) = false :=
    (Text.holds_append_cons (by decide) hindentation _).trans (by decide)
  have hend : Text.holds closing (comment.indentation ++ " */".toList) = true :=
    (Text.holds_append_cons (by decide) comment.not_closing_indentation _).trans (by decide)
  rw [← comment.blockText_lines, Comment.lines, List.cons_append, List.cons_append, List.append_assoc,
    blocksFrom, hstart]
  simp only [Bool.false_eq_true, if_false]
  -- the mark opens the block, the content comes into it, and the last line ends it
  rw [blocksFrom, hmark, if_pos rfl, blocksFrom_append hinside, List.cons_append, blocksFrom, hunmarked]
  simp only [hend, Bool.false_eq_true, if_false, if_true]
  rw [List.reverse_cons, List.reverse_append, List.reverse_reverse]
  rfl

/-! ## A source text -/

theorem blocksFrom_parts (parts : List Part) :
    blocksFrom none (parts.flatMap Part.lines) = (parts.filterMap Part.comment?).map Comment.text := by
  induction parts with
  | nil => rfl
  | cons part parts ih =>
      rw [List.flatMap_cons]
      cases part with
      | code line h =>
          show blocksFrom none (line :: parts.flatMap Part.lines) = _
          rw [blocksFrom, Text.holds_eq_false_iff.2 h.noMark]
          exact ih
      | doc comment => exact (blocksFrom_comment comment _).trans (congrArg _ ih)

theorem Comment.oneLine_of_mem_lines {comment : Comment} {line : Text} (h : line ∈ comment.lines) :
    '\n' ∉ line := by
  have hindentation := comment.unmarked_indentation.oneLine
  have hbehind {rest : Text} (hrest : '\n' ∉ rest) : '\n' ∉ comment.indentation ++ rest := by
    rw [List.mem_append, not_or]
    exact ⟨hindentation, hrest⟩
  rw [Comment.lines, List.mem_cons, List.mem_cons, List.mem_append, List.mem_map] at h
  rcases h with rfl | rfl | ⟨content, hcontent, rfl⟩ | h
  · exact hbehind (by decide)
  · exact hbehind (by decide)
  · rw [Comment.contentLine, List.mem_append, not_or]
    exact ⟨hbehind (by decide), (comment.unmarked content hcontent).oneLine⟩
  · rw [List.mem_singleton.1 h]
    exact hbehind (by decide)

/-- **Of a source text one block is read for each comment.** -/
theorem blocks_sourceText (parts : List Part) :
    blocks (sourceText parts) = (parts.filterMap Part.comment?).map Comment.text := by
  rw [← blocksFrom_parts]
  by_cases hlines : parts.flatMap Part.lines = []
  · -- a text without parts has one line, which is empty
    rw [blocks, sourceText, hlines]
    decide
  · rw [blocks, sourceText, Text.lines_joinWith hlines]
    intro line hline
    obtain ⟨part, -, hpart⟩ := List.mem_flatMap.1 hline
    cases part with
    | code line' h =>
        rw [List.mem_singleton.1 hpart]
        exact h.oneLine
    | doc comment => exact Comment.oneLine_of_mem_lines hpart

/-! ## Its documentation -/

/-- What is told of a block that is no mapping. -/
def warning (block : Text) : Event :=
  match Yaml.Value.ofText block with
  | .error _ => .malformedDocBlock
  | .ok _ => .docBlockNotMapping

theorem level_warning (block : Text) : (warning block).level = .warning := by
  unfold warning
  cases Yaml.Value.ofText block <;> rfl

theorem told?_eq (block : Text) :
    told? block = if (mapping? block).isNone then some (warning block) else none := by
  unfold told? mapping? warning
  cases Yaml.Value.ofText block with
  | error fault => rfl
  | ok value => cases hentries : value.entries? <;> simp [hentries]

/-- The warnings are those about the blocks that are no mappings. -/
theorem filterMap_told? (texts : List Text) :
    texts.filterMap told? = (texts.filter fun block => (mapping? block).isNone).map warning := by
  induction texts with
  | nil => rfl
  | cons block texts ih =>
      rw [List.filterMap_cons, told?_eq, List.filter_cons, ih]
      cases (mapping? block).isNone <;> rfl

theorem foldl_mergeNext (texts : List Text) (items : Entries) :
    texts.foldl mergeNext items
      = (texts.filterMap mapping?).foldl (Assoc.merge Yaml.Value.entries? .map) items := by
  rw [← mergeBlock_eq_merge]
  induction texts generalizing items with
  | nil => rfl
  | cons block texts ih =>
      rw [List.foldl_cons, ih, List.filterMap_cons, mergeNext]
      cases mapping? block <;> rfl

theorem load_eq {text : Text} (h : ∀ block ∈ blocks text, ∀ fault, ¬ Fatal block fault) :
    load text
      = (((blocks text).filter fun block => (mapping? block).isNone).map warning,
          .ok (((blocks text).filterMap mapping?).foldl
            (Assoc.merge Yaml.Value.entries? .map) [])) := by
  rw [load, loadBlocks_eq h, filterMap_told?, foldl_mergeNext]

/-- **The comments of a source text are read one by one and merged as path items are.** One block is
    read for each comment, in their order and with the content as it was written. Of any text whose
    blocks do not end the reading, those that are mappings are merged from left to right, and there is
    one warning about each other block. -/
theorem blocks_sourceText_and_load_eq (parts : List Part) :
    blocks (sourceText parts) = (parts.filterMap Part.comment?).map Comment.text
      ∧ OpenApi.mergePaths = Assoc.merge Json.entries? .object
      ∧ ∀ text, (∀ block ∈ blocks text, ∀ fault, ¬ Fatal block fault) →
          (load text).2 = .ok (((blocks text).filterMap mapping?).foldl
            (Assoc.merge Yaml.Value.entries? .map) [])
          ∧ (load text).1 = ((blocks text).filter fun block => (mapping? block).isNone).map warning
          ∧ ∀ event ∈ (load text).1, event.level = .warning := by
  refine ⟨blocks_sourceText parts, OpenApi.mergePaths_eq_merge, fun text h => ?_⟩
  rw [load_eq h]
  exact ⟨rfl, rfl, List.forall_mem_map.2 fun block _ => level_warning block⟩

/-- The comment of a path whose content has an asterisk. -/
def petsComment : Comment where
  indentation := "  ".toList
  content := ["/pets:", "  get:", "    produces: image/*"].map String.toList
  unmarked_indentation := by decide +kernel
  noAsterisk := by decide +kernel
  unmarked := by decide +kernel
  unclosed := by decide +kernel

/-- A comment with one line. -/
def lineComment (line : Text) (h : Unmarked line ∧ ¬ closing <:+: line) : Comment where
  indentation := []
  content := [line]
  unmarked_indentation := by decide
  noAsterisk := List.not_mem_nil
  unmarked := List.forall_mem_singleton.2 h.1
  unclosed := List.forall_mem_singleton.2 h.2

/-- A router file with a path, a text that is no YAML text, and a list. -/
def petsParts : List Part :=
  [.code "/* the pets */".toList (by decide +kernel), .doc petsComment,
    .code "router.get('/pets', list);".toList (by decide +kernel),
    .doc (lineComment "/pets: [".toList (by decide +kernel)),
    .doc (lineComment "- pets".toList (by decide +kernel))]

/-- The path is documented, and there are two warnings. -/
theorem load_petsParts :
    (∀ block ∈ blocks (sourceText petsParts), ∀ fault, ¬ Fatal block fault)
      ∧ (load (sourceText petsParts)).1 = [.malformedDocBlock, .docBlockNotMapping]
      ∧ ∃ items, (load (sourceText petsParts)).2 = .ok items
        ∧ (documented? items (.str (Points.ofText "/pets".toList))
          (.str (Points.ofText "get".toList))).isSome := by
  obtain ⟨hblocks, -, hload⟩ := blocks_sourceText_and_load_eq petsParts
  have hnone : ∀ block ∈ blocks (sourceText petsParts), ∀ fault, ¬ Fatal block fault := by
    rw [hblocks]
    decide +kernel
  obtain ⟨hitems, hwarnings, -⟩ := hload _ hnone
  refine ⟨hnone, ?_, _, hitems, ?_⟩
  · rw [hwarnings, hblocks]
    decide +kernel
  · rw [hblocks]
    decide +kernel

end DocComment

end ApiScan
