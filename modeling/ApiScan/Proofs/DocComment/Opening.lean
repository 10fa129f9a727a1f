import ApiScan.Proofs.DocComment.Enclosed
import ApiScan.Proofs.Yaml.PlainText

set_option autoImplicit false

/-! # Marks on the opening line

A comment can have its mark on the line that opens it, or on a line of its own. Of the opening line
two characters are left in the block, since only one asterisk is taken out of a line. They are a word,
so the block is a scalar, or no YAML text, and nothing of the content is documented. -/

namespace ApiScan.DocComment

variable {content : List Text} {line rest : Text} {items : Entries} {fault : Yaml.Fault}

/-! ## Layouts -/

/-- A line of the content of a comment as it is written. -/
def starred (line : Text) : Text := " * ".toList ++ line

/-- The lines of a comment behind its mark. -/
def linesBehind (content : List Text) : List Text := content.map starred ++ [" */".toList]

/-- A comment with the mark on its opening line. -/
def markedOnOpening (content : List Text) : Text :=
  Text.joinWith ['\n'] ("/** @swagger".toList :: linesBehind content)

/-- A comment with the mark on a line of its own. -/
def markedOnOwnLine (content : List Text) : Text :=
  Text.joinWith ['\n'] ("/**".toList :: " * @swagger".toList :: linesBehind content)

/-- A line of content: it does not end the comment. -/
structure IsContent (line : Text) : Prop where
  oneLine : '\n' ∉ line
  unclosed : ¬ closing <:+: line

instance (line : Text) : Decidable (IsContent line) :=
  decidable_of_iff ('\n' ∉ line ∧ ¬ closing <:+: line) ⟨fun h => ⟨h.1, h.2⟩, fun h => ⟨h.1, h.2⟩⟩

/-- Whether the mark is repeated in the content. -/
def Repeats (content : List Text) : Prop := ∃ line ∈ content, mark <:+: line

/-! ## Blocks -/

theorem holds_starred {sought : Text} (hblank : ' ' ∉ sought) (hstar : ¬ sought <:+: [' ', '*'])
    (line : Text) : Text.holds sought (starred line) = Text.holds sought line :=
  Text.holds_append_cons hblank hstar line

theorem any_starred (content : List Text) :
    (content.map starred).any (Text.holds mark) = true ↔ Repeats content := by
  simp only [List.any_map, List.any_eq_true, Function.comp, Repeats,
    holds_starred (by decide : ' ' ∉ mark) (by decide), Text.holds_iff]

theorem oneLine_linesBehind (h : ∀ line ∈ content, IsContent line) :
    ∀ line ∈ linesBehind content, '\n' ∉ line := by
  intro line hline
  rcases List.mem_append.1 hline with hline | hline
  · obtain ⟨inner, hinner, rfl⟩ := List.mem_map.1 hline
    rw [starred, List.mem_append, not_or]
    exact ⟨by decide, (h inner hinner).oneLine⟩
  · rw [List.mem_singleton.1 hline]
    decide

/-- From the line of the mark on, or from the last line of the content that repeats it. -/
theorem blocksFrom_linesBehind (h : ∀ line ∈ content, IsContent line) (line : Text) :
    blocksFrom (some [line]) (linesBehind content)
      = [blockText (if (content.map starred).any (Text.holds mark) then fromMark (linesBehind content)
          else line :: linesBehind content)] := by
  have hinside : ∀ row ∈ content.map starred, Text.holds closing row = false := by
    refine List.forall_mem_map.2 fun inner hinner => ?_
    rw [holds_starred (by decide) (by decide)]
    exact Text.holds_eq_false_iff.2 (h inner hinner).unclosed
  have hend : Text.holds mark " */".toList = false := by decide
  rw [linesBehind, blocksFrom_some [line] hinside (by decide : Text.holds closing " */".toList = true),
    hend]
  rfl

theorem blocks_markedOnOpening (h : ∀ line ∈ content, IsContent line) :
    blocks (markedOnOpening content) = blocksFrom (some ["/** @swagger".toList]) (linesBehind content) := by
  have hmark : Text.holds mark "/** @swagger".toList = true := by decide
  rw [blocks, markedOnOpening, Text.lines_joinWith (List.cons_ne_nil _ _)
    (List.forall_mem_cons.2 ⟨by decide, oneLine_linesBehind h⟩), blocksFrom, if_pos hmark]

theorem blocks_markedOnOwnLine (h : ∀ line ∈ content, IsContent line) :
    blocks (markedOnOwnLine content) = blocksFrom (some [" * @swagger".toList]) (linesBehind content) := by
  have hopening : Text.holds mark "/**".toList = false := by decide
  have hmark : Text.holds mark " * @swagger".toList = true := by decide
  rw [blocks, markedOnOwnLine, Text.lines_joinWith (List.cons_ne_nil _ _)
    (List.forall_mem_cons.2 ⟨by decide, List.forall_mem_cons.2 ⟨by decide, oneLine_linesBehind h⟩⟩),
    blocksFrom, hopening]
  simp only [Bool.false_eq_true, if_false]
  rw [blocksFrom, if_pos hmark]

/-! ## Documentation -/

/-- What is left of the opening line makes a block a scalar. -/
theorem mapping?_opening (rest : Text) : mapping? ("/* \n".toList ++ rest) = none := by
  have hchar {c : Char} (hc : c = '/' ∨ c = '*') : Yaml.IsWordChar c := by
    rcases hc with rfl | rfl
    all_goals exact ⟨by decide, by decide, by decide⟩
  have hword : Yaml.IsWord ['/', '*'] := ⟨by decide, by
    intro c hc
    exact hchar (by simpa using hc), by decide⟩
  unfold mapping?
  split
  · next value hvalue =>
      exact Yaml.Value.entries?_of_word (n := 1) (w := ['*']) hword (by decide) (by decide) hvalue
  · rfl

theorem mapping?_blockText_opening (content : List Text) :
    mapping? (blockText ("/** @swagger".toList :: linesBehind content)) = none := by
  obtain ⟨row, rows, hrows⟩ : ∃ row rows, (linesBehind content).map undecorate = row :: rows :=
    List.exists_cons_of_ne_nil (by simp [linesBehind])
  have hopening : undecorate "/** @swagger".toList = "/* ".toList := by decide
  rw [blockText, List.map_cons, hrows, hopening, Text.joinWith_cons_cons, List.append_assoc]
  exact mapping?_opening (Text.joinWith ['\n'] (row :: rows) ++ ['\n'])

/-- A block that is no mapping is told, or ends the reading. -/
theorem load_of_mapping?_eq_none {text block : Text} (hblocks : blocks text = [block])
    (hnone : mapping? block = none) (hitems : (load text).2 = .ok items) :
    items = [] ∧ (load text).1 = [warning block] := by
  rw [load, hblocks] at hitems ⊢
  by_cases hfatal : ∀ fault, ¬ Fatal block fault
  · rw [loadBlocks_cons hfatal] at hitems ⊢
    have hmerge : mergeNext [] block = [] := by rw [mergeNext, hnone]
    rw [hmerge] at hitems
    rw [told?_eq, hnone]
    exact ⟨(Except.ok.inj hitems).symm, rfl⟩
  · obtain ⟨fault, hfault⟩ := not_forall_not.1 hfatal
    rw [loadBlocks_cons_of_fatal hfault] at hitems
    cases hitems

/-- **A mark on the opening line documents nothing.** The comment is read as the one with the mark on a
    line of its own only if a line of its content repeats the mark, or if that one documents nothing
    either, or if both end the reading with the same fault. -/
theorem load_markedOnOpening_iff (content : List Text) (h : ∀ line ∈ content, IsContent line) :
    (Repeats content → load (markedOnOpening content) = load (markedOnOwnLine content))
    ∧ (¬ Repeats content → ∀ items, (load (markedOnOpening content)).2 = .ok items →
        items = [] ∧ ∃ event, (load (markedOnOpening content)).1 = [event] ∧ event.level = .warning)
    ∧ ((load (markedOnOpening content)).2 = (load (markedOnOwnLine content)).2 ↔
        Repeats content
        ∨ ((load (markedOnOpening content)).2 = .ok [] ∧ (load (markedOnOwnLine content)).2 = .ok [])
        ∨ ∃ fault, (load (markedOnOpening content)).2 = .error fault
          ∧ (load (markedOnOwnLine content)).2 = .error fault) := by
  have hopening := (blocks_markedOnOpening h).trans (blocksFrom_linesBehind h _)
  have hownLine := (blocks_markedOnOwnLine h).trans (blocksFrom_linesBehind h _)
  have hsame : Repeats content → load (markedOnOpening content) = load (markedOnOwnLine content) := by
    intro hrepeats
    rw [if_pos ((any_starred content).2 hrepeats)] at hopening hownLine
    rw [load, load, hopening, hownLine]
  have hnothing : ¬ Repeats content → ∀ items, (load (markedOnOpening content)).2 = .ok items →
      items = [] ∧ ∃ event, (load (markedOnOpening content)).1 = [event] ∧ event.level = .warning := by
    intro hrepeats items hitems
    rw [if_neg (mt (any_starred content).1 hrepeats)] at hopening
    obtain ⟨hnil, hlog⟩ := load_of_mapping?_eq_none hopening (mapping?_blockText_opening content) hitems
    exact ⟨hnil, _, hlog, level_warning _⟩
  refine ⟨hsame, hnothing, fun hequal => ?_, ?_⟩
  · by_cases hrepeats : Repeats content
    · exact Or.inl hrepeats
    · refine Or.inr ?_
      cases hresult : (load (markedOnOpening content)).2 with
      | error fault => exact Or.inr ⟨fault, rfl, hequal.symm.trans hresult⟩
      | ok items =>
          obtain ⟨rfl, -⟩ := hnothing hrepeats items hresult
          exact Or.inl ⟨rfl, hequal.symm.trans hresult⟩
  · rintro (hrepeats | ⟨hopen, hown⟩ | ⟨fault, hopen, hown⟩)
    · rw [hsame hrepeats]
    · rw [hopen, hown]
    · rw [hopen, hown]

/-- The content of a documented path. -/
def usersContent : List Text := ["/users:", "  get:", "    summary: List users"].map String.toList

/-- The path is documented if the mark is on a line of its own, and nothing is if it is on the opening
    line. -/
theorem load_markedOnOpening_usersContent :
    (load (markedOnOpening usersContent)).2 = .ok []
      ∧ (load (markedOnOpening usersContent)).2 ≠ (load (markedOnOwnLine usersContent)).2 := by
  have hcontent : ∀ line ∈ usersContent, IsContent line := by decide +kernel
  have hrepeats : ¬ Repeats usersContent := by
    unfold Repeats
    decide +kernel
  obtain ⟨-, hnothing, hequal⟩ := load_markedOnOpening_iff usersContent hcontent
  have hopening : (load (markedOnOpening usersContent)).2.toOption.isSome = true := by decide +kernel
  have hownLine : (load (markedOnOwnLine usersContent)).2.toOption.map List.isEmpty = some false := by
    decide +kernel
  have hopen : (load (markedOnOpening usersContent)).2 = .ok [] := by
    cases hresult : (load (markedOnOpening usersContent)).2 with
    | error fault =>
        rw [hresult] at hopening
        exact absurd hopening Bool.false_ne_true
    | ok items => rw [(hnothing hrepeats items hresult).1]
  refine ⟨hopen, fun he => ?_⟩
  rw [← he, hopen] at hownLine
  exact absurd hownLine (by decide)

end ApiScan.DocComment
