import ApiScan.Model.SchemaFile
import ApiScan.Proofs.Model.Layout
import ApiScan.Proofs.Text.Words

set_option autoImplicit false

/-! # Blocks of a schema file

A schema file is written as blocks below each other: a keyword and a name with an opening brace, some
lines, and a closing brace on a line of its own. The lines may hold comments and literals, also ones
that go on over the ends of blocks. Without its comments the file is written as blocks again: a
comment that starts between the braces of a block ends between the braces of that block or of one
behind it, as there are no comment marks anywhere else. -/

namespace ApiScan.SchemaFile

open Text Source DocumentSchema

variable {s t rest : Text} {c : Char}

/-! ## Blocks as they are written -/

/-- A block of a schema file. -/
structure Block where
  kind : Word
  name : Word
  lines : List Text
  plain : ∀ line ∈ lines, NoBrace line ∧ '\n' ∉ line

/-- Lines, each with a line break in front of it. -/
def broken (lines : List Text) : Text := lines.flatMap ('\n' :: ·)

namespace Block

/-- The line that opens a block. -/
def head (block : Block) : Text := block.kind.text ++ ' ' :: (block.name.text ++ [' ', '{'])

/-- The text of a block behind its first line. -/
def body (block : Block) : Text := broken block.lines ++ ['\n', '}']

/-- The text of a block. -/
def text (block : Block) : Text := block.head ++ block.body

/-- What a block is called: its keyword and its name. -/
def title (block : Block) : Word × Word := (block.kind, block.name)

/-- Whether a block defines a model. -/
def IsModel (block : Block) : Prop := block.kind.text = "model".toList

instance (block : Block) : Decidable block.IsModel :=
  inferInstanceAs (Decidable (block.kind.text = "model".toList))

end Block

/-- Blocks in the order in which they are written, each with the white space in front of it. -/
abbrev Written := List (Gap × Block)

/-- The blocks behind another one, each on a line of its own. -/
def behind : Written → Text
  | [] => []
  | (gap, block) :: more => '\n' :: (gap.text ++ block.text ++ behind more)

/-- The text of blocks from the first one on. -/
def written : Written → Text
  | [] => []
  | (gap, block) :: more => gap.text ++ block.text ++ behind more

/-- What blocks are called. -/
def titles (blocks : Written) : List (Word × Word) := blocks.map fun block => block.2.title

theorem behind_append (blocks more : Written) : behind (blocks ++ more) = behind blocks ++ behind more := by
  induction blocks with
  | nil => rfl
  | cons item blocks ih =>
      obtain ⟨gap, block⟩ := item
      simp only [List.cons_append, behind, ih, List.append_assoc]

/-! ## Marks outside the braces -/

theorem noMark_head (block : Block) : NoMark block.head :=
  noMark_append (noMark_of_allWord block.kind.allWord)
    (noMark_append (s := [' ']) (by decide)
      (noMark_append (noMark_of_allWord block.name.allWord) (by decide)))

theorem noMark_broken {lines : List Text} (h : ∀ line ∈ lines, NoMark line) : NoMark (broken lines) := by
  intro c hc
  obtain ⟨line, hline, hc⟩ := List.mem_flatMap.1 hc
  rcases List.mem_cons.1 hc with rfl | hc
  · decide
  · exact h line hline c hc

theorem noMark_behind {blocks : Written}
    (h : ∀ block ∈ blocks, ∀ line ∈ block.2.lines, NoMark line) : NoMark (behind blocks) := by
  induction blocks with
  | nil => exact fun _ hc => absurd hc List.not_mem_nil
  | cons item blocks ih =>
      obtain ⟨gap, block⟩ := item
      obtain ⟨hfirst, hmore⟩ := List.forall_mem_cons.1 h
      exact noMark_append (s := ['\n']) (by decide) (noMark_append (noMark_append
        (noMark_of_allBlank gap.blank) (noMark_append (noMark_head block)
          (noMark_append (noMark_broken hfirst) (by decide)))) (ih hmore))

theorem noMark_written {blocks : Written}
    (h : ∀ block ∈ blocks, ∀ line ∈ block.2.lines, NoMark line) : NoMark (written blocks) := by
  cases blocks with
  | nil => exact fun _ hc => absurd hc List.not_mem_nil
  | cons item blocks =>
      have hbehind : NoMark ('\n' :: written (item :: blocks)) := noMark_behind h
      exact (List.forall_mem_cons.1 hbehind).2

/-! ## Texts between the braces -/

/-- The end of a block and the first line of the next one. -/
def boundary (gap : Gap) (kind name : Word) : Text :=
  '\n' :: '}' :: '\n' :: (gap.text ++ (kind.text ++ ' ' :: (name.text ++ [' ', '{'])))

theorem noMark_boundary (gap : Gap) (kind name : Word) : NoMark (boundary gap kind name) :=
  noMark_append (s := ['\n', '}', '\n']) (by decide)
    (noMark_append (noMark_of_allBlank gap.blank) (noMark_head ⟨kind, name, [], by simp⟩))

/-- `Inside rest titles s`: a text that starts between the braces of a block, goes on with blocks
    that have these titles, and ends with `rest` behind the last closing brace. -/
inductive Inside (rest : Text) : List (Word × Word) → Text → Prop
  /-- The last block ends. -/
  | close : Inside rest [] ('\n' :: '}' :: rest)
  /-- The block goes on. -/
  | char {titles : List (Word × Word)} {s : Text} (c : Char) (hc : c ≠ '{' ∧ c ≠ '}')
      (h : Inside rest titles s) : Inside rest titles (c :: s)
  /-- The block ends, and another one starts. -/
  | next {titles : List (Word × Word)} {s : Text} (gap : Gap) (kind name : Word)
      (h : Inside rest titles ('\n' :: s)) :
      Inside rest ((kind, name) :: titles) (boundary gap kind name ++ '\n' :: s)

namespace Inside

variable {heads : List (Word × Word)}

theorem append (hs : NoBrace s) (h : Inside rest heads t) : Inside rest heads (s ++ t) := by
  induction s with
  | nil => exact h
  | cons c s ih =>
      obtain ⟨hc, hs⟩ := List.forall_mem_cons.1 hs
      exact (ih hs).char c hc

/-- A comment up to the end of its line ends between the same braces. -/
theorem dropLine (h : Inside rest heads s) : Inside rest heads (s.dropWhile (· ≠ '\n')) := by
  induction h with
  | close => exact close
  | @char heads s c hc h ih =>
      by_cases hbreak : c = '\n'
      · subst hbreak
        exact h.char '\n' hc
      · rw [List.dropWhile_cons_of_pos (by simpa using hbreak)]
        exact ih
  | next gap kind name h ih => exact h.next gap kind name

/-- The characters that end a literal or a comment over several lines. -/
def IsEnd (c : Char) : Prop := ¬ NoMark [c]

instance (c : Char) : Decidable (IsEnd c) := inferInstanceAs (Decidable (¬ NoMark [c]))

/-- **Such a character stands between braces**: the text goes on between braces behind it, and it may
    go on in another way there. -/
theorem split (h : Inside rest heads s) (hrest : NoMark rest) (hc : IsEnd c) {front back : Text}
    (hs : s = front ++ c :: back) :
    ∃ left right, heads = left ++ right ∧ Inside rest right back ∧
      ∀ right' back', Inside rest right' back' → Inside rest (left ++ right') (front ++ c :: back') := by
  have hmark {s : Text} (hs : NoMark s) : c ∉ s := fun hmem =>
    hc (List.forall_mem_singleton.2 (hs c hmem))
  have hno : c ≠ '\n' := by
    rintro rfl
    exact hc (by decide)
  induction h generalizing front with
  | close =>
      have hmem : c ∈ '\n' :: '}' :: rest := hs ▸ by simp
      exact absurd hmem (hmark (noMark_append (s := ['\n', '}']) (by decide) hrest))
  | @char heads s d hd h ih =>
      cases front with
      | nil =>
          obtain ⟨rfl, rfl⟩ := List.cons.inj hs
          exact ⟨[], heads, rfl, h, fun right' back' h' => h'.char d hd⟩
      | cons e front =>
          obtain ⟨rfl, hs'⟩ := List.cons.inj hs
          obtain ⟨left, right, hheads, hback, hreplace⟩ := ih hs'
          exact ⟨left, right, hheads, hback, fun right' back' h' => (hreplace _ _ h').char d hd⟩
  | @next heads s gap kind name h ih =>
      -- the first line of the next block has no such character
      have hline := noMark_boundary gap kind name
      rcases List.append_eq_append_iff.1 hs with ⟨more, hfront, hback⟩ | ⟨more, hfront, hback⟩
      · cases more with
        | nil => exact absurd (List.cons.inj hback).1.symm hno
        | cons d more =>
            obtain ⟨rfl, hback'⟩ := List.cons.inj hback
            obtain ⟨left, right, hheads, hinside, hreplace⟩ := ih hback
            refine ⟨(kind, name) :: left, right, by rw [hheads]; rfl, hinside, ?_⟩
            intro right' back' h'
            have hnext := (hreplace right' back' h').next gap kind name
            rw [hfront, List.append_assoc]
            exact hnext
      · cases more with
        | nil => exact absurd (List.cons.inj hback).1 hno
        | cons d more =>
            obtain ⟨rfl, -⟩ := List.cons.inj hback
            exact absurd (by rw [hfront]; simp) (hmark hline)

end Inside

/-! ## Removing comments -/

theorem eq_append_of_literal? {quote : Char} {body : Text} (h : literal? quote s = some (body, rest)) :
    ∃ front, body = front ++ [quote] := by
  fun_induction literal? quote s generalizing body with
  | case1 => simp at h
  | case2 c cs ih =>
      obtain ⟨⟨body', rest'⟩, hbody, he⟩ := Option.map_eq_some_iff.1 h
      obtain ⟨rfl, rfl⟩ := Prod.mk.inj he
      obtain ⟨front, rfl⟩ := ih hbody
      exact ⟨'\\' :: c :: front, rfl⟩
  | case3 cs =>
      obtain ⟨rfl, -⟩ := Prod.mk.inj (Option.some.inj h)
      exact ⟨[], rfl⟩
  | case4 => simp at h
  | case5 c cs _ _ _ ih =>
      obtain ⟨⟨body', rest'⟩, hbody, he⟩ := Option.map_eq_some_iff.1 h
      obtain ⟨rfl, rfl⟩ := Prod.mk.inj he
      obtain ⟨front, rfl⟩ := ih hbody
      exact ⟨c :: front, rfl⟩

/-- What is recognised is a comment up to the end of the line, or it ends with a mark: then it is
    a comment that is dropped or a literal that is kept. -/
theorem eq_of_kept? {new back : Text} (h : kept? s = some (new, back)) :
    (∃ line, s = '/' :: '/' :: line ∧ new = [] ∧ back = line.dropWhile (· ≠ '\n')) ∨
      ∃ front mark, Inside.IsEnd mark ∧ s = front ++ mark :: back ∧ (new = [] ∨ new = front ++ [mark]) := by
  unfold kept? at h
  split at h
  · next line =>
      obtain ⟨rfl, rfl⟩ := Prod.mk.inj (Option.some.inj h)
      exact Or.inl ⟨line, rfl, rfl, rfl⟩
  · next line =>
      obtain ⟨⟨front, rest⟩, hcut, he⟩ := Option.map_eq_some_iff.1 h
      obtain ⟨rfl, rfl⟩ := Prod.mk.inj he
      refine Or.inr ⟨'/' :: '*' :: (front ++ ['*']), '/', by decide, ?_, Or.inl rfl⟩
      rw [eq_of_cut?_eq_some hcut]
      simp
  · next quote s _ _ =>
      split at h
      · next hquote =>
          obtain ⟨⟨body, rest⟩, hbody, he⟩ := Option.map_eq_some_iff.1 h
          obtain ⟨rfl, rfl⟩ := Prod.mk.inj he
          obtain ⟨front, rfl⟩ := eq_append_of_literal? hbody
          refine Or.inr ⟨quote :: front, quote, fun hno => ?_, ?_, Or.inr rfl⟩
          · exact nomatch hquote.symm.trans (hno quote List.mem_cons_self).2
          · rw [(eq_of_literal? hbody).1]
            simp
      · exact nomatch h
  · exact nomatch h

/-- **Removing comments between braces leaves a text between braces**, and of the blocks behind it
    some may go. -/
theorem inside_stripComments {heads : List (Word × Word)} (hrest : NoMark rest)
    (h : Inside rest heads s) :
    ∃ left, left.Sublist heads ∧ Inside rest left (stripComments s) := by
  -- a comment or a literal is passed over as a whole, and so the induction is on the length
  induction hn : s.length using Nat.strong_induction_on generalizing s heads with
  | h n ih =>
      subst hn
      cases h with
      | close =>
          have hplain : NoMark ('\n' :: '}' :: rest) :=
            noMark_append (s := ['\n', '}']) (by decide) hrest
          rw [hplain.kept.stripComments_eq]
          exact ⟨[], List.Sublist.refl [], Inside.close⟩
      | @char _ s c hc h =>
          cases hkept : kept? (c :: s) with
          | none =>
              obtain ⟨left, hleft, hinside⟩ := ih s.length (by simp) h rfl
              refine ⟨left, hleft, ?_⟩
              rw [stripComments, replaceAll_of_not_found hkept]
              exact hinside.char c hc
          | some found =>
              obtain ⟨new, back⟩ := found
              have hshort := kept?_consumes _ _ _ hkept
              rw [stripComments, replaceAll_of_found kept?_consumes hkept]
              rcases eq_of_kept? hkept with ⟨line, htext, rfl, rfl⟩ | ⟨front, mark, hmark, htext, hnew⟩
              · -- a comment up to the end of the line
                have hline : Inside rest heads (line.dropWhile (· ≠ '\n')) := by
                  have hdrop := (h.char c hc).dropLine
                  rwa [htext] at hdrop
                exact ih _ hshort hline rfl
              · obtain ⟨left, right, rfl, hback, hreplace⟩ := (h.char c hc).split hrest hmark htext
                obtain ⟨right', hright, hinside⟩ := ih _ hshort hback rfl
                rcases hnew with rfl | rfl
                · -- a comment takes along the blocks that start in it
                  exact ⟨right', hright.trans (List.sublist_append_right left right), hinside⟩
                · -- a literal is kept, and so are the blocks that start in it
                  refine ⟨left ++ right', hright.append_left left, ?_⟩
                  have hinside := hreplace right' _ hinside
                  rwa [List.append_assoc]
      | @next heads s gap kind name h =>
          have hbreak : stripComments ('\n' :: s) = '\n' :: stripComments s :=
            NoMark.kept (s := ['\n']) (by decide) s
          obtain ⟨left, hleft, hinside⟩ := ih ('\n' :: s).length (by simp [boundary]; omega) h rfl
          rw [hbreak] at hinside
          refine ⟨(kind, name) :: left, hleft.cons_cons _, ?_⟩
          have hnext := hinside.next gap kind name
          rw [(noMark_boundary gap kind name).kept, hbreak]
          exact hnext

/-! ## Blocks from texts between braces -/

/-- A text between braces is written as lines and blocks. -/
theorem exists_written_of_inside {heads : List (Word × Word)} (h : Inside rest heads s) :
    ∃ (line : Text) (lines : List Text) (blocks : Written),
      (∀ line' ∈ line :: lines, NoBrace line' ∧ '\n' ∉ line') ∧ titles blocks = heads ∧
        s = line ++ (broken lines ++ ['\n', '}']) ++ (behind blocks ++ rest) := by
  induction h with
  | close => exact ⟨[], [], [], by simp [NoBrace], rfl, rfl⟩
  | @char heads s c hc h ih =>
      obtain ⟨line, lines, blocks, hplain, hheads, rfl⟩ := ih
      by_cases hbreak : c = '\n'
      · subst hbreak
        refine ⟨[], line :: lines, blocks, ?_, hheads, by simp [broken]⟩
        exact List.forall_mem_cons.2 ⟨by simp [NoBrace], hplain⟩
      · obtain ⟨⟨hline, hno⟩, hlines⟩ := List.forall_mem_cons.1 hplain
        refine ⟨c :: line, lines, blocks, List.forall_mem_cons.2 ⟨⟨?_, ?_⟩, hlines⟩, hheads, rfl⟩
        · exact List.forall_mem_cons.2 ⟨hc, hline⟩
        · rw [List.mem_cons, not_or]
          exact ⟨Ne.symm hbreak, hno⟩
  | @next heads s gap kind name h ih =>
      obtain ⟨line, lines, blocks, hplain, hheads, htext⟩ := ih
      obtain ⟨hline, hlines⟩ := List.forall_mem_cons.1 hplain
      -- the rest of the line with the opening brace is empty
      obtain rfl : line = [] := by
        cases line with
        | nil => rfl
        | cons c line =>
            obtain ⟨rfl, -⟩ := List.cons.inj htext
            exact absurd List.mem_cons_self hline.2
      refine ⟨[], [], (gap, ⟨kind, name, lines, hlines⟩) :: blocks, by simp [NoBrace], ?_, ?_⟩
      · rw [← hheads]
        rfl
      · rw [htext]
        simp [boundary, broken, behind, Block.text, Block.head, Block.body]

theorem noBrace_broken (block : Block) : NoBrace (broken block.lines) := by
  intro c hc
  obtain ⟨line, hline, hc⟩ := List.mem_flatMap.1 hc
  rcases List.mem_cons.1 hc with rfl | hc
  · decide
  · exact (block.plain line hline).1 c hc

theorem exists_body_eq_cons (block : Block) : ∃ s, block.body = '\n' :: s := by
  unfold Block.body
  cases block.lines with
  | nil => exact ⟨['}'], rfl⟩
  | cons line lines => exact ⟨line ++ broken lines ++ ['\n', '}'], by simp [broken]⟩

/-- The lines of a block and the blocks behind it are a text between braces. -/
theorem inside_body (block : Block) (blocks : Written) :
    Inside rest (titles blocks) (block.body ++ (behind blocks ++ rest)) := by
  induction blocks generalizing block with
  | nil =>
      have hinside : Inside rest [] (broken block.lines ++ ('\n' :: '}' :: rest)) :=
        Inside.close.append (noBrace_broken block)
      rw [Block.body, List.append_assoc]
      exact hinside
  | cons item blocks ih =>
      obtain ⟨gap, next⟩ := item
      obtain ⟨s, hs⟩ := exists_body_eq_cons next
      have hnext := ih next
      rw [hs, List.cons_append] at hnext
      have hinside := (hnext.next gap next.kind next.name).append (noBrace_broken block)
      have htext : block.body ++ (behind ((gap, next) :: blocks) ++ rest)
          = broken block.lines ++ (boundary gap next.kind next.name
            ++ '\n' :: (s ++ (behind blocks ++ rest))) := by
        rw [behind, Block.text, hs]
        simp [boundary, Block.body, Block.head]
      rw [htext]
      exact hinside

/-- **A file of blocks is written as blocks without its comments**: the first block stays, and of the
    others those whose opening brace is not in a comment. -/
theorem stripComments_blocks (gap : Gap) (block : Block) (blocks : Written) (hrest : NoMark rest) :
    ∃ (bare : Block) (left : Written), bare.title = block.title ∧ (titles left).Sublist (titles blocks) ∧
      stripComments (written ((gap, block) :: blocks) ++ rest) = written ((gap, bare) :: left) ++ rest := by
  obtain ⟨heads, hheads, hinside⟩ := inside_stripComments hrest (inside_body block blocks)
  obtain ⟨line, lines, left, hplain, rfl, htext⟩ := exists_written_of_inside hinside
  obtain ⟨hline, hlines⟩ := List.forall_mem_cons.1 hplain
  obtain ⟨s, hs⟩ := exists_body_eq_cons block
  -- the lines start below the opening brace
  obtain rfl : line = [] := by
    have hbreak : stripComments (block.body ++ (behind blocks ++ rest))
        = '\n' :: stripComments (s ++ (behind blocks ++ rest)) := by
      rw [hs]
      exact NoMark.kept (s := ['\n']) (by decide) _
    rw [hbreak] at htext
    cases line with
    | nil => rfl
    | cons c line =>
        obtain ⟨rfl, -⟩ := List.cons.inj htext
        exact absurd List.mem_cons_self hline.2
  refine ⟨⟨block.kind, block.name, lines, hlines⟩, left, rfl, hheads, ?_⟩
  have hhead : Kept (gap.text ++ block.head) :=
    ((noMark_of_allBlank gap.blank).kept).append (noMark_head block).kept
  have hfront : written ((gap, block) :: blocks) ++ rest
      = gap.text ++ block.head ++ (block.body ++ (behind blocks ++ rest)) := by
    simp [written, Block.text]
  rw [hfront, hhead, htext]
  simp [written, Block.text, Block.head, Block.body]

end ApiScan.SchemaFile
