import ApiScan.Log
import ApiScan.Yaml.Draft

set_option autoImplicit false

/-! # Documentation comments

Paths can be documented by hand, in YAML, inside block comments of route files:

    /**
     * @swagger
     * /users:
     *   get:
     *     summary: List users
     */

A block goes from the line of its mark to the line that closes the comment, and its text is those
lines without the decoration of the comment. The blocks of a file are merged path by path. A block
that is no YAML text, or no mapping, is told and passed over. -/

namespace ApiScan.DocComment

/-- The mark of a documentation comment. -/
def mark : Text := "@swagger".toList

/-- The end of a comment. -/
def closing : Text := ['*', '/']

/-- A line of a block without the decoration of the comment: the first mark, the first end of a
    comment, and then the first asterisk. -/
def undecorate (line : Text) : Text :=
  Text.replaceFirst ['*'] [] (Text.replaceFirst closing [] (Text.replaceFirst mark [] line))

/-- The text of a block of lines. -/
def blockText (lines : List Text) : Text :=
  Text.joinWith ['\n'] (lines.map undecorate) ++ ['\n']

/-- The blocks in lines. `opened` holds the lines of a block that is not closed yet, the last one
    first; a mark starts over. -/
def blocksFrom (opened : Option (List Text)) : List Text → List Text
  | [] => []
  | line :: more =>
    if Text.holds mark line then blocksFrom (some [line]) more
    else
      match opened with
      | none => blocksFrom none more
      | some lines =>
        if Text.holds closing line then
          blockText (line :: lines).reverse :: blocksFrom none more
        else blocksFrom (some (line :: lines)) more

/-- The documentation blocks of a source text, in order. -/
def blocks (text : Text) : List Text := blocksFrom none (Text.lines text)

/-- The entries of a mapping. -/
abbrev Entries := List (Yaml.Value × Yaml.Value)

/-- Merge a documented item into the one that stands at its path. Two mappings merge entry by entry,
    and otherwise the new item takes the place. -/
def mergeItem (new : Yaml.Value) (old : Option Yaml.Value) : Yaml.Value :=
  match old.bind Yaml.Value.entries?, new.entries? with
  | some old, some entries => .map (Assoc.update old entries)
  | _, _ => new

/-- Merge the items of a block into those of the blocks before it. -/
def mergeBlock (items block : Entries) : Entries :=
  block.foldl (fun items (path, item) => Assoc.alter path (mergeItem item) items) items

/-- The merged items of blocks, and what was told on the way. A scalar that stands for no value ends
    the reading. -/
def loadBlocks (items : Entries) : List Text → Log × Except Yaml.Fault Entries
  | [] => ([], .ok items)
  | block :: more =>
    match Yaml.Value.ofText block with
    | .error .malformed =>
      let (log, result) := loadBlocks items more
      (.malformedDocBlock :: log, result)
    | .error fault => ([], .error fault)
    | .ok value =>
      match value.entries? with
      | some entries => loadBlocks (mergeBlock items entries) more
      | none =>
        let (log, result) := loadBlocks items more
        (.docBlockNotMapping :: log, result)

/-- The documented items of a source text. -/
def load (text : Text) : Log × Except Yaml.Fault Entries := loadBlocks [] (blocks text)

end ApiScan.DocComment
