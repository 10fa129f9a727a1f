import ApiScan.Proofs.Model.SchemaFile.Models

set_option autoImplicit false

/-! # Schema files that define models

A schema file with other blocks first and models behind them gives back the models. A field is a line
of two tokens, whatever they are: fields that are called like the keyword of a model start no model, and
the blocks in front may hold any lines, with comments and literals. -/

namespace ApiScan.SchemaFile

open Text Source DocumentSchema

variable {c : Char}

/-! ## Lines of a model -/

/-- The characters of tokens that are no word characters. -/
def tokenMarks : Text := "@().?[]".toList

/-- The characters of tokens. -/
def isTokenChar (c : Char) : Bool := isWord c || c ∈ tokenMarks

/-- A token, such as `@default(autoincrement())`. -/
structure Token where
  text : Text
  ne_nil : text ≠ []
  plain : ∀ c ∈ text, isTokenChar c = true

/-- White space on one line. -/
structure Space where
  text : Text
  blank : AllBlank text
  noBreak : '\n' ∉ text

/-- White space between two tokens of a line. -/
structure Separator extends Space where
  ne_nil : text ≠ []

/-- A line between the braces of a model. -/
inductive Row where
  /-- A line without tokens. -/
  | empty (space : Space)
  /-- A line of one token or more. -/
  | tokens (indent : Space) (first : Token) (more : List (Separator × Token)) (trail : Space)

/-- Tokens, each with white space in front of it. -/
def spaced (tokens : List (Separator × Token)) : Text :=
  tokens.flatMap fun token => token.1.text ++ token.2.text

namespace Row

/-- The text of a line. -/
def text : Row → Text
  | empty space => space.text
  | tokens indent first more trail => indent.text ++ (first.text ++ (spaced more ++ trail.text))

/-- The field that a line gives: there is one if it has exactly two tokens. -/
def field? : Row → Option Field
  | empty _ => none
  | tokens _ name [(_, type)] _ => some ⟨name.text, Field.lowerType type.text⟩
  | tokens _ _ _ _ => none

end Row

theorem isWord_or_mem_of_isTokenChar (h : isTokenChar c = true) : isWord c = true ∨ c ∈ tokenMarks :=
  (Bool.or_eq_true_iff.1 h).imp_right of_decide_eq_true

theorem isBlank_eq_false_of_isTokenChar (h : isTokenChar c = true) : isBlank c = false := by
  rcases isWord_or_mem_of_isTokenChar h with hword | hmark
  · exact isBlank_eq_false_of_isWord hword
  · have hall : tokenMarks.all (fun c => !isBlank c) = true := by decide
    simpa using List.all_eq_true.1 hall c hmark

theorem Token.isToken (token : Token) : IsToken token.text :=
  ⟨token.ne_nil, fun c hc => isBlank_eq_false_of_isTokenChar (token.plain c hc)⟩

/-- **The words of a line are its tokens.** -/
theorem words_tokens (first : Token) (more : List (Separator × Token)) (trail : Space) :
    words (first.text ++ (spaced more ++ trail.text))
      = first.text :: more.map fun token => token.2.text := by
  induction more generalizing first with
  | nil =>
      have hspaced : spaced [] = [] := rfl
      rw [hspaced, List.nil_append]
      by_cases htrail : trail.text = []
      · rw [htrail, List.append_nil]
        exact words_of_isToken first.isToken
      · have hwords := words_token_append first.isToken trail.blank htrail []
        rwa [List.append_nil, words_nil] at hwords
  | cons token more ih =>
      obtain ⟨space, token⟩ := token
      have hspaced : spaced ((space, token) :: more) ++ trail.text
          = space.text ++ (token.text ++ (spaced more ++ trail.text)) := by
        simp [spaced]
      rw [hspaced, words_token_append first.isToken space.blank space.ne_nil, ih]
      rfl

/-- **A line gives a field if it has two tokens.** -/
theorem fieldOf?_text (row : Row) : fieldOf? row.text = row.field? := by
  cases row with
  | empty space =>
      rw [fieldOf?, Row.text, words_of_blank space.blank]
      rfl
  | tokens indent first more trail =>
      rw [fieldOf?, Row.text, words_append_of_blank indent.blank, words_tokens]
      rcases more with - | ⟨second, - | ⟨third, more⟩⟩
      · rfl
      · rfl
      · rfl

/-- A line is made of word characters, of a few others and of white space on one line. -/
theorem Row.of_mem {row : Row} {P : Char → Prop} (hword : ∀ c, isWord c = true → P c)
    (hmark : ∀ c ∈ tokenMarks, P c) (hblank : ∀ c, isBlank c = true → c ≠ '\n' → P c) :
    ∀ c ∈ row.text, P c := by
  have hspace (space : Space) : ∀ c ∈ space.text, P c := fun c hc =>
    hblank c (space.blank c hc) fun he => space.noBreak (he ▸ hc)
  have htoken (token : Token) : ∀ c ∈ token.text, P c := fun c hc =>
    (isWord_or_mem_of_isTokenChar (token.plain c hc)).elim (hword c) (hmark c)
  intro c hc
  cases row with
  | empty space => exact hspace space c hc
  | tokens indent first more trail =>
      simp only [Row.text, spaced, List.mem_append, List.mem_flatMap] at hc
      rcases hc with hc | hc | ⟨⟨space, token⟩, -, hc | hc⟩ | hc
      · exact hspace indent c hc
      · exact htoken first c hc
      · exact hspace space.toSpace c hc
      · exact htoken token c hc
      · exact hspace trail c hc

theorem Row.noMark (row : Row) : NoMark row.text := by
  refine Row.of_mem (fun c hc => ?_) (show NoMark tokenMarks by decide) fun c hc _ => ?_
  · exact noMark_of_allWord (w := [c]) (by simpa [AllWord] using hc) c List.mem_cons_self
  · exact noMark_of_allBlank (s := [c]) (by simpa [AllBlank] using hc) c List.mem_cons_self

theorem Row.plain (row : Row) : NoBrace row.text ∧ '\n' ∉ row.text := by
  have hbreak : ∀ c ∈ row.text, c ≠ '\n' := by
    refine Row.of_mem (fun c hc => ?_) (fun c hc => ?_) fun _ _ hne => hne
    all_goals
      rintro rfl
      exact absurd hc (by decide)
  refine ⟨Row.of_mem (fun c hc => ?_) (show NoBrace tokenMarks by decide) fun c hc _ => ?_,
    fun hc => hbreak _ hc rfl⟩
  · exact noBrace_of_allWord (s := [c]) (by simpa [AllWord] using hc) c List.mem_cons_self
  · exact noBrace_of_allBlank (s := [c]) (by simpa [AllBlank] using hc) c List.mem_cons_self

/-! ## Files -/

/-- A model as it is defined. -/
structure Definition where
  name : Word
  rows : List Row

/-- The keyword of a model. -/
def keyword : Word := ⟨"model".toList, by decide, by decide⟩

namespace Definition

/-- The block that defines a model. -/
def block (definition : Definition) : Block where
  kind := keyword
  name := definition.name
  lines := definition.rows.map Row.text
  plain line hline := by
    obtain ⟨row, -, rfl⟩ := List.mem_map.1 hline
    exact row.plain

/-- The model that is defined. -/
def model (source : Text) (definition : Definition) : Model :=
  ⟨definition.name.text, source, definition.rows.filterMap Row.field?⟩

theorem isModel_block (definition : Definition) : definition.block.IsModel := rfl

theorem fields_block (definition : Definition) :
    definition.block.fields = definition.rows.filterMap Row.field? := by
  rw [Block.fields, block, List.filterMap_map]
  exact List.filterMap_congr fun row _ => fieldOf?_text row

end Definition

/-- A schema file: other blocks first, and models behind them. -/
structure SchemaText where
  preamble : Written
  other : ∀ block ∈ preamble, ¬ block.2.IsModel
  definitions : List (Gap × Definition)
  trail : Gap

namespace SchemaText

/-- The models of a file as blocks. -/
def defining (schema : SchemaText) : Written :=
  schema.definitions.map fun definition => (definition.1, definition.2.block)

/-- The text of a file. -/
def text (schema : SchemaText) : Text :=
  written (schema.preamble ++ schema.defining) ++ schema.trail.text

/-- The models of a file hold no comments and no literals. -/
theorem noMark_defining (schema : SchemaText) :
    ∀ block ∈ schema.defining, ∀ line ∈ block.2.lines, NoMark line := by
  intro block hblock line hline
  obtain ⟨definition, -, rfl⟩ := List.mem_map.1 hblock
  obtain ⟨row, -, rfl⟩ := List.mem_map.1 hline
  exact row.noMark

end SchemaText

theorem models_append_of_other {source : Text} {front : List Block} (h : ∀ block ∈ front, ¬ block.IsModel)
    (blocks : List Block) : models source (front ++ blocks) = models source blocks := by
  induction front with
  | nil => rfl
  | cons block front ih =>
      obtain ⟨hblock, hfront⟩ := List.forall_mem_cons.1 h
      rw [List.cons_append, models, if_neg hblock, ih hfront]

/-- Models below each other leave each other no field. -/
theorem models_blocks (source : Text) (definitions : List Definition) :
    models source (definitions.map Definition.block) = definitions.map (Definition.model source) := by
  have hstray (definitions : List Definition) :
      strayFields (definitions.map Definition.block) = [] := by
    cases definitions <;> simp [strayFields, Definition.isModel_block]
  induction definitions with
  | nil => rfl
  | cons definition definitions ih =>
      rw [List.map_cons, models, if_pos definition.isModel_block, hstray, ih, List.append_nil,
        definition.fields_block]
      rfl

/-- The blocks in front stay blocks other than models without their comments. -/
theorem exists_other_of_titles {blocks left : Written} (h : (titles left).Sublist (titles blocks))
    (hother : ∀ block ∈ blocks, ¬ block.2.IsModel) : ∀ block ∈ left.map Prod.snd, ¬ block.IsModel := by
  intro block hblock hmodel
  obtain ⟨item, hitem, rfl⟩ := List.mem_map.1 hblock
  obtain ⟨other, hmem, htitle⟩ := List.mem_map.1 (h.subset (List.mem_map_of_mem hitem))
  have hkind : other.2.kind = item.2.kind := congrArg Prod.fst htitle
  refine hother other hmem ?_
  rw [Block.IsModel, hkind]
  exact hmodel

/-- **A schema file gives back the models that it defines**, in order and with a field for each line of
    two tokens, and nothing for the blocks in front of them. -/
theorem extract_schemaText (file : Text) (schema : SchemaText) :
    extract file schema.text
      = ⟨schema.definitions.map fun definition => definition.2.model (stripExtension file),
        if schema.preamble = [] then [] else [.otherBlock]⟩ := by
  have hmodels (front : List Block) (hfront : ∀ block ∈ front, ¬ block.IsModel) :
      models (stripExtension file) (front ++ schema.defining.map Prod.snd)
        = schema.definitions.map fun definition => definition.2.model (stripExtension file) := by
    have hblocks : schema.defining.map Prod.snd
        = (schema.definitions.map Prod.snd).map Definition.block := by
      simp [SchemaText.defining]
    rw [models_append_of_other hfront, hblocks, models_blocks, List.map_map]
    rfl
  have hmark : NoMark schema.trail.text := noMark_of_allBlank schema.trail.blank
  cases hpreamble : schema.preamble with
  | nil =>
      have htext : schema.text = written schema.defining ++ schema.trail.text := by
        rw [SchemaText.text, hpreamble, List.nil_append]
      have hstrip : stripComments schema.text = written schema.defining ++ schema.trail.text := by
        rw [htext]
        exact (noMark_append (noMark_written schema.noMark_defining) hmark).kept.stripComments_eq
      have htold : told (schema.defining.map Prod.snd) = [] := by
        rw [SchemaText.defining]
        cases schema.definitions with
        | nil => rfl
        | cons definition definitions =>
            rw [List.map_cons, List.map_cons, told, if_pos definition.2.isModel_block]
      rw [extract_of_stripComments file hstrip, htold, if_pos rfl]
      exact congrArg (Findings.mk · []) (hmodels [] (by simp))
  | cons item blocks =>
      obtain ⟨gap, block⟩ := item
      have hother := schema.other
      rw [hpreamble] at hother
      have happend (first : Block) (blocks : Written) :
          written ((gap, first) :: blocks ++ schema.defining) ++ schema.trail.text
            = written ((gap, first) :: blocks) ++ (behind schema.defining ++ schema.trail.text) := by
        simp [written, behind_append]
      obtain ⟨bare, left, hbare, hleft, htext⟩ := stripComments_blocks gap block blocks
        (noMark_append (noMark_behind schema.noMark_defining) hmark)
      have hstrip : stripComments schema.text
          = written ((gap, bare) :: left ++ schema.defining) ++ schema.trail.text := by
        rw [SchemaText.text, hpreamble, happend, htext, happend]
      have htitles : (titles ((gap, bare) :: left)).Sublist (titles ((gap, block) :: blocks)) := by
        rw [titles, titles, List.map_cons, List.map_cons, hbare]
        exact hleft.cons_cons _
      have hfront := exists_other_of_titles htitles hother
      have htold : told (((gap, bare) :: left ++ schema.defining).map Prod.snd) = [.otherBlock] :=
        if_neg (hfront bare (by simp))
      rw [extract_of_stripComments file hstrip, htold, if_neg (by simp), List.map_append,
        hmodels _ hfront]

end ApiScan.SchemaFile
