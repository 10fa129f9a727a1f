import ApiScan.Proofs.Model.SchemaFile.Chunks

set_option autoImplicit false

/-! # The models of a file of blocks

A chunk goes from the name of a model to the next model, and closing braces are passed over. So a
model has the fields of its own lines and those of the blocks behind it up to the next model, and what
a model is given is its own exactly if no other block behind a model has a line of two words. -/

namespace ApiScan.SchemaFile

open Text Source DocumentSchema

variable {s t gap line : Text}

/-! ## Fields of lines -/

/-- The field that a line of a block gives: a line of two words gives one. -/
def fieldOf? (line : Text) : Option Field :=
  match words line with
  | [name, type] => some ⟨name, Field.lowerType type⟩
  | _ => none

/-- The fields of a block. -/
def Block.fields (block : Block) : List Field := block.lines.filterMap fieldOf?

/-- The field that a line of a chunk gives; lines with a closing brace are passed over. -/
def lineField? (line : Text) : Option Field := if line.contains '}' then none else fieldOf? line

/-- The fields of all lines of a text. -/
def fieldsIn (s : Text) : List Field := (lines s).filterMap lineField?

/-- Behind the name of its chunk every line is read for itself. -/
theorem parseLines_of_ne_nil {table : Text} (h : table ≠ []) (lines : List Text) :
    parseLines table lines = (table, lines.filterMap lineField?) := by
  have htable : table.isEmpty = false := by simpa using h
  induction lines with
  | nil => rfl
  | cons line lines ih =>
      rw [parseLines, htable, Bool.false_and, if_neg Bool.false_ne_true, ih]
      by_cases hclose : line.contains '}' = true
      · have hnone : lineField? line = none := if_pos hclose
        rw [if_pos hclose, List.filterMap_cons, hnone]
      · have hline : lineField? line = fieldOf? line := if_neg hclose
        rw [if_neg hclose, List.filterMap_cons, hline, fieldOf?]
        match words line with
        | [] => rfl
        | [_] => rfl
        | [_, _] => rfl
        | _ :: _ :: _ :: _ => rfl

theorem fieldsIn_append (s t : Text) : fieldsIn (s ++ '\n' :: t) = fieldsIn s ++ fieldsIn t := by
  rw [fieldsIn, lines_append_break, List.filterMap_append]
  rfl

theorem fieldsIn_of_not_mem (h : '\n' ∉ s) : fieldsIn s = (lineField? s).toList := by
  rw [fieldsIn, lines_of_not_mem h, List.filterMap_cons]
  cases lineField? s <;> rfl

/-- White space in front adds no field, however it is broken into lines. -/
theorem fieldsIn_blank (hgap : AllBlank gap) (s : Text) : fieldsIn (gap ++ s) = fieldsIn s := by
  induction gap with
  | nil => rfl
  | cons c gap ih =>
      obtain ⟨hc, hgap⟩ := List.forall_mem_cons.1 hgap
      rw [← ih hgap, List.cons_append]
      by_cases hbreak : c = '\n'
      · subst hbreak
        exact fieldsIn_append [] (gap ++ s)
      · -- the first line has one more blank
        have hsame (line : Text) : lineField? (c :: line) = lineField? line := by
          have hclose : '}' ≠ c := by
            rintro rfl
            exact absurd hc (by decide)
          have hcontains : (c :: line).contains '}' = line.contains '}' := by
            rw [List.contains_cons, beq_false_of_ne hclose, Bool.false_or]
          rw [lineField?, hcontains, fieldOf?, words_cons_of_isBlank hc]
          rfl
        have hlines : fieldsIn (c :: (gap ++ s)) = ((pieces (· = '\n') (c :: (gap ++ s))).filterMap
            lineField?) := rfl
        rw [hlines, pieces, if_neg (by simpa using hbreak), fieldsIn, lines]
        cases pieces (· = '\n') (gap ++ s) with
        | nil => exact congrArg (fun found => [found].filterMap id) (hsame [])
        | cons first more =>
            dsimp only
            rw [List.filterMap_cons, List.filterMap_cons, hsame]

theorem fieldsIn_head (block : Block) : fieldsIn block.head = [] := by
  have hword (word : Word) : IsToken word.text := isToken_of_allWord word.allWord word.ne_nil
  have hbrace : words ['{'] = [['{']] := rfl
  have hwords : words block.head = [block.kind.text, block.name.text, ['{']] := by
    rw [Block.head, words_token_cons (hword block.kind) rfl, words_token_cons (hword block.name) rfl,
      hbrace]
  have hline : '\n' ∉ block.head := by
    have hbreak : isWord '\n' = false := by decide
    simp [Block.head, not_mem_of_allWord block.kind.allWord hbreak,
      not_mem_of_allWord block.name.allWord hbreak]
  rw [fieldsIn_of_not_mem hline, lineField?, fieldOf?, hwords, ite_self]
  rfl

theorem fieldsIn_broken {lines : List Text} (h : ∀ line ∈ lines, NoBrace line ∧ '\n' ∉ line)
    (s t : Text) : fieldsIn (s ++ (broken lines ++ '\n' :: t))
      = fieldsIn s ++ (lines.filterMap fieldOf? ++ fieldsIn t) := by
  induction lines generalizing s with
  | nil => exact fieldsIn_append s t
  | cons line lines ih =>
      obtain ⟨⟨hbrace, hbreak⟩, hlines⟩ := List.forall_mem_cons.1 h
      have hline : lineField? line = fieldOf? line := by
        refine if_neg fun hclose => ?_
        exact (hbrace '}' (List.contains_iff_mem.1 hclose)).2 rfl
      have htext : s ++ (broken (line :: lines) ++ '\n' :: t)
          = s ++ '\n' :: (line ++ (broken lines ++ '\n' :: t)) := by
        simp [broken]
      rw [htext, fieldsIn_append, ih hlines, fieldsIn_of_not_mem hbreak, hline, List.filterMap_cons]
      cases fieldOf? line <;> rfl

/-- **The lines of a block give its fields.** -/
theorem fieldsIn_body (s : Text) (block : Block) :
    fieldsIn (s ++ block.body) = fieldsIn s ++ block.fields := by
  have hclose : fieldsIn ['}'] = [] := by decide +kernel
  have htext := fieldsIn_broken block.plain s ['}']
  rwa [hclose, List.append_nil] at htext

/-- Behind the line break in front of them the lines of a block give its fields, too. -/
theorem exists_body_eq_cons_fieldsIn (block : Block) :
    ∃ s, block.body = '\n' :: s ∧ fieldsIn s = block.fields := by
  obtain ⟨s, hs⟩ := exists_body_eq_cons block
  have hfields := fieldsIn_body [] block
  rw [hs] at hfields
  exact ⟨s, hs, hfields⟩

theorem fieldsIn_block (s : Text) (gap : Gap) (block : Block) :
    fieldsIn (s ++ '\n' :: (gap.text ++ block.text)) = fieldsIn s ++ block.fields := by
  rw [fieldsIn_append, fieldsIn_blank gap.blank, Block.text, fieldsIn_body, fieldsIn_head]
  rfl

/-! ## Parsing chunks -/

/-- The name of a chunk stands in front of the brace on its first line. -/
theorem parseLines_first {front : Text} (hbrace : NoBrace front) (hline : '\n' ∉ front)
    (hne : strip front ≠ []) (s : Text) :
    parseLines [] (lines (front ++ '{' :: '\n' :: s)) = (strip front, fieldsIn s) := by
  have hbreak : '\n' ∉ front ++ ['{'] := by simp [hline]
  have hopen : (front ++ ['{']).contains '{' = true := by simp
  have htable : (front ++ ['{']).takeWhile (· ≠ '{') = front :=
    takeWhile_ne_append_cons (fun hopen => (hbrace '{' hopen).1 rfl) []
  rw [List.append_cons, lines_append_cons hbreak, parseLines, hopen, List.isEmpty_nil, Bool.and_true,
    if_pos rfl, htable, parseLines_of_ne_nil hne]
  rfl

/-- The model of a chunk has the fields of all its lines. -/
theorem parseChunk_opening (source : Text) (name : Word) (s : Text) :
    parseChunk source (opening name ++ '\n' :: s) = ⟨[⟨name.text, source, fieldsIn s⟩], []⟩ := by
  have hall : name.text.all isWord = true := List.all_eq_true.2 name.allWord
  have hbrace : NoBrace (name.text ++ [' ']) :=
    noBrace_append (noBrace_of_allWord name.allWord) (by decide)
  have hline : '\n' ∉ name.text ++ [' '] := by
    simp [not_mem_of_allWord name.allWord (by decide : isWord '\n' = false)]
  have hstrip : strip (name.text ++ [' ']) = name.text := by
    rw [strip_append_of_blank (by decide), strip_of_allWord name.allWord]
  have hlines := parseLines_first hbrace hline (by rw [hstrip]; exact name.ne_nil) s
  have htext : opening name ++ '\n' :: s = name.text ++ [' '] ++ '{' :: '\n' :: s := by
    simp [opening]
  rw [parseChunk, htext, hlines, hstrip]
  simp [name.ne_nil, hall]

/-- A chunk that starts with another block is passed over: two words are no name. -/
theorem parseChunk_head (source : Text) (block : Block) (s : Text) :
    parseChunk source (block.head ++ '\n' :: s) = .skipped .otherBlock := by
  have hbrace : NoBrace (block.kind.text ++ ' ' :: (block.name.text ++ [' '])) :=
    noBrace_append (noBrace_of_allWord block.kind.allWord) (noBrace_append (s := [' ']) (by decide)
      (noBrace_append (noBrace_of_allWord block.name.allWord) (by decide)))
  have hline : '\n' ∉ block.kind.text ++ ' ' :: (block.name.text ++ [' ']) := by
    have hbreak : isWord '\n' = false := by decide
    simp [not_mem_of_allWord block.kind.allWord hbreak, not_mem_of_allWord block.name.allWord hbreak]
  have hstrip : strip (block.kind.text ++ ' ' :: (block.name.text ++ [' ']))
      = block.kind.text ++ ' ' :: block.name.text := by
    have hstart : stripStart (block.kind.text ++ ' ' :: block.name.text)
        = block.kind.text ++ ' ' :: block.name.text :=
      stripStart_append_of_allWord block.kind.allWord block.kind.ne_nil
    obtain ⟨front, c, hname⟩ : ∃ front c, block.name.text = front ++ [c] :=
      ⟨_, _, (List.dropLast_append_getLast block.name.ne_nil).symm⟩
    have hends : block.kind.text ++ ' ' :: block.name.text
        = block.kind.text ++ ' ' :: front ++ [c] := by
      simp [hname]
    have hc : isBlank c = false :=
      isBlank_eq_false_of_isWord (block.name.allWord c (by rw [hname]; simp))
    rw [← List.cons_append, ← List.append_assoc, strip_append_of_blank (by decide),
      strip_of_ends hstart hends hc]
  have hlines := parseLines_first hbrace hline (by rw [hstrip]; simp) s
  have hword : (block.kind.text ++ ' ' :: block.name.text).all isWord = false := by
    simp [show isWord ' ' = false from rfl]
  have htext : block.head ++ '\n' :: s
      = block.kind.text ++ ' ' :: (block.name.text ++ [' ']) ++ '{' :: '\n' :: s := by
    simp [Block.head]
  rw [parseChunk, htext, hlines, hstrip]
  simp [hword]

/-- What the chunks of a file give. -/
def parsed (source : Text) (chunks : List Text) : Findings Model :=
  .join ((chunks.filter fun chunk => !allBlank chunk).map (parseChunk source))

theorem parsed_blank {source chunk : Text} (hchunk : AllBlank chunk) (more : List Text) :
    parsed source (chunk :: more) = parsed source more := by
  have hall : allBlank chunk = true := List.all_eq_true.2 hchunk
  rw [parsed, List.filter_cons_of_neg (by simp [hall])]
  rfl

/-! ## The models of blocks -/

/-- The fields that the blocks up to the next model leave to the model in front of them. -/
def strayFields (blocks : List Block) : List Field :=
  (blocks.takeWhile fun block => ¬ block.IsModel).flatMap Block.fields

/-- The models of blocks. -/
def models (source : Text) : List Block → List Model
  | [] => []
  | block :: more =>
    if block.IsModel then
      ⟨block.name.text, source, block.fields ++ strayFields more⟩ :: models source more
    else models source more

/-- What a chunk gives that starts with a line, by the fields of its other lines. -/
structure Gives (source start : Text) (result : List Field → List Model) (log : Log) : Prop where
  parse : ∀ s, parseChunk source (start ++ '\n' :: s) = ⟨result (fieldsIn s), log⟩
  not_blank : ∀ s, allBlank (start ++ s) = false

theorem allBlank_word (word : Word) (s : Text) : allBlank (word.text ++ s) = false := by
  obtain ⟨c, letters, hword⟩ := List.exists_cons_of_ne_nil word.ne_nil
  have hc : isBlank c = false := isBlank_eq_false_of_isWord (word.allWord c (by simp [hword]))
  simp [allBlank, hword, hc]

theorem gives_opening (source : Text) (name : Word) :
    Gives source (opening name) (fun fields => [⟨name.text, source, fields⟩]) [] where
  parse := parseChunk_opening source name
  not_blank s := by
    rw [opening, List.append_assoc]
    exact allBlank_word name _

theorem gives_head (source : Text) (block : Block) :
    Gives source block.head (fun _ => []) [.otherBlock] where
  parse := parseChunk_head source block
  not_blank s := by
    rw [Block.head, List.append_assoc]
    exact allBlank_word block.kind _

theorem Gives.parsed_cons {source start : Text} {result : List Field → List Model} {log : Log}
    (h : Gives source start result log) (s : Text) (more : List Text) :
    parsed source ((start ++ '\n' :: s) :: more)
      = ⟨result (fieldsIn s) ++ (parsed source more).found, log ++ (parsed source more).log⟩ := by
  rw [parsed, List.filter_cons_of_pos (by rw [h.not_blank]; rfl), List.map_cons, h.parse]
  rfl

/-- **A chunk goes on over the blocks up to the next model**, and the models behind it are found. -/
theorem Gives.parsed_extend {source start : Text} {result : List Field → List Model} {log : Log}
    (h : Gives source start result log) (s : Text) (blocks : Written) :
    parsed source (extend (start ++ '\n' :: s) (chunksFrom false (behind blocks)))
      = ⟨result (fieldsIn s ++ strayFields (blocks.map Prod.snd))
          ++ models source (blocks.map Prod.snd), log⟩ := by
  induction blocks generalizing start s result log with
  | nil =>
      have hchunks : extend (start ++ '\n' :: s) (chunksFrom false (behind []))
          = [start ++ '\n' :: s] := by
        rw [behind, chunksFrom_nil, extend, List.append_nil]
      rw [hchunks, h.parsed_cons]
      simp [parsed, strayFields, models, Findings.join]
  | cons item blocks ih =>
      obtain ⟨gap, block⟩ := item
      by_cases hmodel : block.IsModel
      · -- the next model starts a chunk of its own
        obtain ⟨body, hbody, hfields⟩ := exists_body_eq_cons_fieldsIn block
        have hbreak : fieldsIn (s ++ ['\n']) = fieldsIn s := by
          have hin := fieldsIn_append s []
          rwa [show fieldsIn [] = [] by decide +kernel, List.append_nil] at hin
        have hchunks : extend (start ++ '\n' :: s) (chunksFrom false (behind ((gap, block) :: blocks)))
            = (start ++ '\n' :: (s ++ ['\n']))
              :: extend (opening block.name ++ '\n' :: body) (chunksFrom false (behind blocks)) := by
          rw [chunksFrom_behind_model gap hmodel, hbody]
          simp [extend]
        rw [hchunks, h.parsed_cons, ih (gives_opening source block.name), hbreak, hfields]
        simp [strayFields, models, hmodel]
      · -- the lines of another block belong to the chunk
        have hchunks : extend (start ++ '\n' :: s) (chunksFrom false (behind ((gap, block) :: blocks)))
            = extend (start ++ '\n' :: (s ++ '\n' :: (gap.text ++ block.text)))
              (chunksFrom false (behind blocks)) := by
          rw [chunksFrom_behind_other gap hmodel, extend_extend]
          simp
        rw [hchunks, ih h, fieldsIn_block]
        simp [strayFields, models, hmodel]

/-! ## Files -/

/-- What is told about a file: the blocks in front of its first model, if there are any. -/
def told : List Block → Log
  | [] => []
  | block :: _ => if block.IsModel then [] else [.otherBlock]

theorem exists_written_eq_append (blocks : Written) (hne : blocks ≠ []) :
    ∃ front, written blocks = front ++ ['}'] := by
  have hbehind (blocks : Written) (s : Text) :
      ∃ front, s ++ ['}'] ++ behind blocks = front ++ ['}'] := by
    induction blocks generalizing s with
    | nil => exact ⟨s, by simp [behind]⟩
    | cons item blocks ih =>
        obtain ⟨gap, block⟩ := item
        obtain ⟨front, hfront⟩ := ih (s ++ ['}'] ++ '\n' :: (gap.text ++ block.head
          ++ broken block.lines ++ ['\n']))
        refine ⟨front, ?_⟩
        rw [← hfront]
        simp [behind, Block.text, Block.body]
  obtain ⟨⟨gap, block⟩, more, rfl⟩ := List.exists_cons_of_ne_nil hne
  obtain ⟨front, hfront⟩ := hbehind more (gap.text ++ block.head ++ broken block.lines ++ ['\n'])
  refine ⟨front, ?_⟩
  rw [← hfront]
  simp [written, Block.text, Block.body]

/-- White space around a file is passed over. -/
theorem strip_written (gap : Gap) (block : Block) (blocks : Written) (trail : Gap) :
    strip (written ((gap, block) :: blocks) ++ trail.text) = block.text ++ behind blocks := by
  have hstart : stripStart (block.text ++ behind blocks) = block.text ++ behind blocks := by
    rw [Block.text, Block.head, List.append_assoc, List.append_assoc]
    exact stripStart_append_of_allWord block.kind.allWord block.kind.ne_nil
  obtain ⟨front, hfront⟩ := exists_written_eq_append ((⟨[], by decide⟩, block) :: blocks) (by simp)
  have hend : block.text ++ behind blocks = front ++ ['}'] := hfront
  rw [strip_append_of_blank trail.blank, written, List.append_assoc, strip_blank_append gap.blank,
    strip_of_ends hstart hend rfl]

/-- **A file that is written as blocks without its comments gives its models.** -/
theorem extract_of_stripComments {text : Text} {blocks : Written} {trail : Gap} (file : Text)
    (htext : stripComments text = written blocks ++ trail.text) :
    extract file text = ⟨models (stripExtension file) (blocks.map Prod.snd),
      told (blocks.map Prod.snd)⟩ := by
  have hextract (s : Text) (h : strip (stripComments text) = s) :
      extract file text = parsed (stripExtension file) (chunksFrom true s) := by
    rw [← h]
    rfl
  cases blocks with
  | nil =>
      have hempty : strip (stripComments text) = [] := by
        rw [htext, written, List.nil_append]
        exact strip_append_of_blank trail.blank []
      rw [hextract _ hempty]
      rfl
  | cons item blocks =>
      obtain ⟨gap, block⟩ := item
      obtain ⟨body, hbody, hfields⟩ := exists_body_eq_cons_fieldsIn block
      have hstrip : strip (stripComments text) = block.text ++ behind blocks := by
        rw [htext, strip_written]
      rw [hextract _ hstrip]
      by_cases hmodel : block.IsModel
      · have hchunks := chunksFrom_model ⟨[], by decide⟩ hmodel (behind blocks)
        rw [List.nil_append, hbody] at hchunks
        rw [hchunks, parsed_blank (by decide), (gives_opening _ block.name).parsed_extend, hfields]
        simp [models, told, hmodel]
      · have hchunks : chunksFrom true ([] ++ block.text ++ behind blocks)
            = extend ([] ++ block.text) (chunksFrom false (behind blocks)) :=
          chunksFrom_other ⟨[], by decide⟩ hmodel (behind blocks)
        rw [List.nil_append, Block.text, hbody] at hchunks
        rw [Block.text, hbody, hchunks, (gives_head _ block).parsed_extend]
        simp [models, told, hmodel]

/-! ## Fields of other blocks -/

/-- The models of blocks, each with the fields of its own lines. -/
def ownModels (source : Text) (blocks : List Block) : List Model :=
  (blocks.filter fun block => block.IsModel).map fun block => ⟨block.name.text, source, block.fields⟩

/-- From the first model on, no other block gives a field. -/
def NoStray (blocks : List Block) : Prop :=
  ∀ block ∈ blocks.dropWhile fun block => ¬ block.IsModel, ¬ block.IsModel → block.fields = []

theorem strayFields_eq_nil_iff (blocks : List Block) :
    strayFields blocks = [] ∧ NoStray blocks ↔ ∀ block ∈ blocks, ¬ block.IsModel → block.fields = [] := by
  have hstray : strayFields blocks = [] ↔
      ∀ block ∈ blocks.takeWhile (fun block => ¬ block.IsModel), ¬ block.IsModel → block.fields = [] := by
    rw [strayFields, List.flatMap_eq_nil_iff]
    refine forall₂_congr fun block hblock => ?_
    have hother : ¬ block.IsModel := by simpa using List.mem_takeWhile_imp hblock
    exact ⟨fun h _ => h, fun h => h hother⟩
  rw [hstray, NoStray, ← List.forall_mem_append, List.takeWhile_append_dropWhile]

/-- **The models have their own fields only, exactly if no other block behind one of them gives a
    field.** -/
theorem models_eq_ownModels_iff (source : Text) (blocks : List Block) :
    models source blocks = ownModels source blocks ↔ NoStray blocks := by
  induction blocks with
  | nil => exact ⟨fun _ _ h => absurd h List.not_mem_nil, fun _ => rfl⟩
  | cons block blocks ih =>
      by_cases hmodel : block.IsModel
      · have hown : ownModels source (block :: blocks)
            = ⟨block.name.text, source, block.fields⟩ :: ownModels source blocks := by
          simp [ownModels, hmodel]
        have hno : NoStray (block :: blocks) ↔
            ∀ other ∈ blocks, ¬ other.IsModel → other.fields = [] := by
          simp [NoStray, hmodel]
        rw [hno, ← strayFields_eq_nil_iff, ← ih, models, if_pos hmodel, hown, List.cons.injEq]
        simp
      · have hown : ownModels source (block :: blocks) = ownModels source blocks := by
          simp [ownModels, hmodel]
        have hno : NoStray (block :: blocks) ↔ NoStray blocks := by
          rw [NoStray, List.dropWhile_cons_of_pos (by simpa using hmodel)]
          rfl
        rw [hno, ← ih, models, if_neg hmodel, hown]

/-- **Every file of blocks, with comments and literals between its braces**: without its comments it
    is written as blocks, of which none is new, and its models are the models of these blocks. They
    have the fields of their own lines, and no others exactly if no other block behind a model gives a
    field. -/
theorem extract_written (file : Text) (blocks : Written) (trail : Gap) :
    ∃ bare : Written, (titles bare).Sublist (titles blocks) ∧
      ((∀ block ∈ blocks, ∀ line ∈ block.2.lines, NoMark line) → bare = blocks) ∧
      stripComments (written blocks ++ trail.text) = written bare ++ trail.text ∧
      (extract file (written blocks ++ trail.text)).found
        = models (stripExtension file) (bare.map Prod.snd) ∧
      ((extract file (written blocks ++ trail.text)).found
        = ownModels (stripExtension file) (bare.map Prod.snd) ↔ NoStray (bare.map Prod.snd)) := by
  obtain ⟨bare, htitles, hsame, hbare⟩ : ∃ bare : Written, (titles bare).Sublist (titles blocks) ∧
      ((∀ block ∈ blocks, ∀ line ∈ block.2.lines, NoMark line) → bare = blocks) ∧
      stripComments (written blocks ++ trail.text) = written bare ++ trail.text := by
    by_cases hplain : ∀ block ∈ blocks, ∀ line ∈ block.2.lines, NoMark line
    · have htext : NoMark (written blocks ++ trail.text) :=
        noMark_append (noMark_written hplain) (noMark_of_allBlank trail.blank)
      exact ⟨blocks, List.Sublist.refl _, fun _ => rfl, htext.kept.stripComments_eq⟩
    · cases blocks with
      | nil => exact absurd (by simp) hplain
      | cons item blocks =>
          obtain ⟨gap, block⟩ := item
          obtain ⟨bare, left, hbare, hleft, htext⟩ :=
            stripComments_blocks gap block blocks (noMark_of_allBlank trail.blank)
          refine ⟨(gap, bare) :: left, ?_, fun h => absurd h hplain, htext⟩
          rw [titles, titles, List.map_cons, List.map_cons, hbare]
          exact hleft.cons_cons _
  have hfound := congrArg Findings.found (extract_of_stripComments file hbare)
  refine ⟨bare, htitles, hsame, hbare, hfound, ?_⟩
  rw [hfound]
  exact models_eq_ownModels_iff _ _

/-- A type behind a model leaves its field to the model. -/
example : (extract "shop.prisma".toList
    "model User \x7b\n  name String\n\x7d\n\ntype Address \x7b\n  street String\n\x7d\n".toList).found
      = [⟨"User".toList, "shop".toList, [⟨"name".toList, "string".toList⟩,
        ⟨"street".toList, "string".toList⟩]⟩] := by
  decide +kernel

end ApiScan.SchemaFile
