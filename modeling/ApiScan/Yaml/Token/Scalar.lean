import ApiScan.Text.CodePoint
import ApiScan.Text.Digits
import ApiScan.Yaml.Cursor
import ApiScan.Yaml.Fault

set_option autoImplicit false

/-! # Scalars in a YAML text

The three ways to write a scalar: plain, quoted, and as a block behind a header. In each of them a
single line break between two lines of text counts as a blank, and further breaks count as
themselves. -/

namespace ApiScan.Yaml

/-- What a fold of lines leaves in a scalar: a first break that is a line feed counts as a blank
    when no other break follows, and as nothing otherwise. -/
def folded (first : Char) (breaks : Text) : Text :=
  (if first ≠ '\n' then [first] else if breaks.isEmpty then [' '] else []) ++ breaks

/-! ## Plain scalars -/

/-- How many characters of a plain scalar stand on one line from a place on. The scalar ends at a
    blank, at a colon that ends a key, and inside a flow collection at its punctuation. -/
def plainRun (inFlow : Bool) : Text → Nat
  | [] => 0
  | c :: cs =>
    let after := cs.head?
    if c = ' ' || c = '\t' || isBreak c then 0
    else if c = ':' && (endsToken after ||
        (inFlow && after.any fun c => c = ',' || c = '[' || c = ']' || c = '\x7b' || c = '\x7d'))
      then 0
    else if inFlow && (c = ',' || c = '?' || c = '[' || c = ']' || c = '\x7b' || c = '\x7d') then 0
    else plainRun inFlow cs + 1

/-- The blanks and line breaks behind the first break inside a plain scalar: the breaks, and whether
    a document mark was met. -/
def plainBreaks : Nat → Cursor → Text × Cursor × Bool
  | 0, at_ => ([], at_, false)
  | n + 1, at_ =>
    if at_.peek = some ' ' then plainBreaks n at_.next
    else
      match at_.lineBreak? with
      | none => ([], at_, false)
      | some (first, at_) =>
        if at_.atSeparator then ([], at_, true)
        else
          let (breaks, at_, marked) := plainBreaks n at_
          (first :: breaks, at_, marked)

/-- The gap after a run of a plain scalar: the text that it counts as if the scalar goes on, the
    place after it, and whether it broke the line. An empty text ends the scalar. -/
def plainGap (at_ : Cursor) : Text × Cursor × Bool :=
  let (blanks, at_) := at_.run (· = ' ')
  match at_.lineBreak? with
  | none => (blanks, at_, false)
  | some (first, at_) =>
    if at_.atSeparator then ([], at_, true)
    else
      let (breaks, at_, marked) := plainBreaks (at_.ahead.length + 1) at_
      if marked then ([], at_, true) else (folded first breaks, at_, true)

/-- The runs of a plain scalar from a place on, joined by their gaps. The result tells whether the
    scalar ended at the start of a line. -/
def plainFrom (inFlow : Bool) (indent : Int) : Nat → Text → Cursor → Text × Cursor × Bool
  | 0, _, at_ => ([], at_, false)
  | n + 1, gap, at_ =>
    let count := if at_.peek = some '#' then 0 else plainRun inFlow at_.ahead
    if count = 0 then ([], at_, true)
    else
      let text := at_.ahead.take count
      let (next, at_, broke) := plainGap (at_.skip count)
      if next.isEmpty || at_.peek = some '#' || (!inFlow && (at_.column : Int) < indent) then
        (gap ++ text, at_, broke)
      else
        match plainFrom inFlow indent n next at_ with
        | ([], at_, _) => (gap ++ text, at_, broke)
        | (more, at_, broke) => (gap ++ text ++ more, at_, broke)

/-- The plain scalar at a place, and whether it ended at the start of a line. -/
def plainScalar (inFlow : Bool) (indent : Int) (at_ : Cursor) : Text × Cursor × Bool :=
  plainFrom inFlow (indent + 1) (at_.ahead.length + 1) [] at_

/-! ## Quoted scalars -/

/-- The character named by the letter after a backslash. -/
def shortEscape? : Char → Option Char
  | '0' => some '\x00'
  | 'a' => some '\x07'
  | 'b' => some '\x08'
  | 't' => some '\t'
  | '\t' => some '\t'
  | 'n' => some '\n'
  | 'v' => some '\x0b'
  | 'f' => some '\x0c'
  | 'r' => some '\r'
  | 'e' => some '\x1b'
  | ' ' => some ' '
  | '"' => some '"'
  | '\\' => some '\\'
  | '/' => some '/'
  | 'N' => some '\x85'
  | '_' => some '\xa0'
  | 'L' => some '\u2028'
  | 'P' => some '\u2029'
  | _ => none

/-- How many hexadecimal digits follow the letter after a backslash. -/
def codeWidth? : Char → Option Nat
  | 'x' => some 2
  | 'u' => some 4
  | 'U' => some 8
  | _ => none

/-- The code point of a number. -/
def codePoint (n : Nat) : Except Fault CodePoint :=
  match CodePoint.ofNat? n with
  | some c => .ok c
  | none => .error (if n < 0x80000000 then .codeTooHigh else .codeTooLong)

/-- The line breaks at the start of the lines of a quoted scalar, with the white space between them
    left out. -/
def quotedBreaks : Nat → Cursor → Except Fault (Text × Cursor)
  | 0, at_ => .ok ([], at_)
  | n + 1, at_ =>
    if at_.atSeparator then .error .malformed
    else
      let at_ := at_.skipRun fun c => c = ' ' || c = '\t'
      match at_.lineBreak? with
      | none => .ok ([], at_)
      | some (first, at_) => do
        let (breaks, at_) ← quotedBreaks n at_
        return (first :: breaks, at_)

/-- One step inside a quoted scalar: a piece of text, or nothing at the closing quote. -/
def quotedPiece? (double : Bool) (at_ : Cursor) : Except Fault (Option (Points × Cursor)) :=
  match at_.ahead with
  | [] => .error .malformed
  | c :: rest =>
    if c = ' ' || c = '\t' then
      let (blanks, at_) := at_.run fun c => c = ' ' || c = '\t'
      match at_.lineBreak? with
      | none => if at_.ahead.isEmpty then .error .malformed else .ok (some (blanks, at_))
      | some (first, at_) => do
        let (breaks, at_) ← quotedBreaks (at_.ahead.length + 1) at_
        return some (folded first breaks, at_)
    else if isBreak c then
      match at_.lineBreak? with
      | none => .error .malformed
      | some (first, at_) => do
        let (breaks, at_) ← quotedBreaks (at_.ahead.length + 1) at_
        return some (folded first breaks, at_)
    else if !double && c = '\'' then
      if rest.head? = some '\'' then .ok (some ([.char '\''], at_.skip 2)) else .ok none
    else if double && c = '"' then .ok none
    else if double && c = '\\' then
      match rest with
      | [] => .error .malformed
      | letter :: digits =>
        match shortEscape? letter, codeWidth? letter with
        | some c, _ => .ok (some ([.char c], at_.skip 2))
        | none, some width =>
          let code := digits.take width
          if code.length = width && code.all (Text.isDigitOf 16) then do
            let c ← codePoint (Text.toNat 16 code)
            return some ([c], at_.skip (2 + width))
          else .error .malformed
        | none, none =>
          match at_.next.lineBreak? with
          | none => .error .malformed
          | some (_, at_) => do
            let (breaks, at_) ← quotedBreaks (at_.ahead.length + 1) at_
            return some (breaks, at_)
    else .ok (some ([.char c], at_.next))

/-- The rest of a quoted scalar, up to and including its closing quote. -/
def quotedFrom (double : Bool) : Nat → Cursor → Except Fault (Points × Cursor)
  | 0, _ => .error .malformed
  | n + 1, at_ => do
    match ← quotedPiece? double at_ with
    | none => return ([], at_.next)
    | some (piece, at_) =>
      let (more, at_) ← quotedFrom double n at_
      return (piece ++ more, at_)

/-- The quoted scalar at a place. -/
def quotedScalar (double : Bool) (at_ : Cursor) : Except Fault (Points × Cursor) :=
  quotedFrom double (at_.ahead.length + 1) at_.next

/-! ## Block scalars -/

/-- What becomes of the line breaks at the end of a block scalar. -/
inductive Chomping where
  | strip
  | clip
  | keep
  deriving DecidableEq, Repr

/-- The chomping sign at a place, if there is one. -/
def chomping? (at_ : Cursor) : Option (Chomping × Cursor) :=
  match at_.peek with
  | some '+' => some (.keep, at_.next)
  | some '-' => some (.strip, at_.next)
  | _ => none

/-- The indentation digit at a place, if there is one; it is not zero. -/
def indentDigit? (at_ : Cursor) : Except Fault (Option (Nat × Cursor)) :=
  match at_.peek with
  | some c =>
    if Text.isDigit c then
      if c = '0' then .error .malformed else .ok (some (c.toNat - 48, at_.next))
    else .ok none
  | none => .ok none

/-- The header of a block scalar: a chomping sign and an indentation digit in either order, both of
    them optional, and the end of the line. -/
def blockHeader (at_ : Cursor) : Except Fault (Chomping × Option Nat × Cursor) := do
  let finish (chomping : Chomping) (digit : Option Nat) (at_ : Cursor) :
      Except Fault (Chomping × Option Nat × Cursor) :=
    if endsWord at_.peek then
      match at_.endLine? with
      | some at_ => .ok (chomping, digit, at_)
      | none => .error .malformed
    else .error .malformed
  match chomping? at_ with
  | some (chomping, at_) =>
    match ← indentDigit? at_ with
    | some (digit, at_) => finish chomping (some digit) at_
    | none => finish chomping none at_
  | none =>
    match ← indentDigit? at_ with
    | some (digit, at_) =>
      match chomping? at_ with
      | some (chomping, at_) => finish chomping (some digit) at_
      | none => finish .clip (some digit) at_
    | none => finish .clip none at_

/-- The empty lines in front of a block scalar whose indentation is not given: their breaks and the
    greatest column met. -/
def leadingLines : Nat → Nat → Cursor → Text × Nat × Cursor
  | 0, widest, at_ => ([], widest, at_)
  | n + 1, widest, at_ =>
    if at_.peek = some ' ' then leadingLines n (max widest at_.next.column) at_.next
    else
      match at_.lineBreak? with
      | none => ([], widest, at_)
      | some (first, at_) =>
        let (breaks, widest, at_) := leadingLines n widest at_
        (first :: breaks, widest, at_)

/-- Up to the given column over blanks. -/
def indentTo (column : Nat) : Nat → Cursor → Cursor
  | 0, at_ => at_
  | n + 1, at_ =>
    if at_.column < column ∧ at_.peek = some ' ' then indentTo column n at_.next else at_

/-- The empty lines at a place of a block scalar: their breaks, and the place at the indentation of
    the next line. -/
def emptyLines (column : Nat) : Nat → Cursor → Text × Cursor
  | 0, at_ => ([], at_)
  | n + 1, at_ =>
    let at_ := indentTo column column at_
    match at_.lineBreak? with
    | none => ([], at_)
    | some (first, at_) =>
      let (breaks, at_) := emptyLines column n at_
      (first :: breaks, at_)

/-- The lines of a block scalar from one that is indented as the block is. `breaks` are the empty
    lines before it. The result gives the text, its last break and the empty lines at the end. More
    characters than are ahead bound the number of the lines and of the empty lines behind each. -/
def blockLines (fold : Bool) (column : Nat) : Nat → Text → Text → Cursor →
    Text × Text × Text × Cursor
  | 0, last, breaks, at_ => ([], last, breaks, at_)
  | n + 1, last, breaks, at_ =>
    if at_.column = column ∧ at_.peek.isSome then
      let flush := at_.peek.all fun c => c ≠ ' ' && c ≠ '\t'
      let (line, after) := at_.run fun c => !isBreak c
      let (first, after) :=
        match after.lineBreak? with
        | some (first, after) => ([first], after)
        | none => ([], after)
      let (next, after) := emptyLines column n after
      let goesOn := after.column = column ∧ after.peek.isSome
      let joint : Text :=
        if goesOn then
          if fold && first = ['\n'] && flush && after.peek.all (fun c => c ≠ ' ' && c ≠ '\t') then
            if next.isEmpty then [' '] else []
          else first
        else []
      let (more, last, next, after) := blockLines fold column n first next after
      (breaks ++ line ++ joint ++ more, last, next, after)
    else ([], last, breaks, at_)

/-- The block scalar whose sign stands at a place, inside a block of the given indentation. -/
def blockScalar (fold : Bool) (indent : Int) (at_ : Cursor) : Except Fault (Text × Cursor) := do
  let (chomping, digit, at_) ← blockHeader at_.next
  let least := max (indent + 1) 1
  let (column, breaks, at_) :=
    match digit with
    | some digit =>
      let column := (least + digit - 1).toNat
      (column, emptyLines column (at_.ahead.length + 1) at_)
    | none =>
      let (breaks, widest, at_) := leadingLines (at_.ahead.length + 1) 0 at_
      (max least.toNat widest, breaks, at_)
  let (text, last, tail, at_) := blockLines fold column (at_.ahead.length + 1) [] breaks at_
  let ending :=
    match chomping with
    | .strip => []
    | .clip => last
    | .keep => last ++ tail
  return (text ++ ending, at_)

end ApiScan.Yaml
