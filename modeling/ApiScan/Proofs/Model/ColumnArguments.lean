import ApiScan.Proofs.Model.TableCalls
import ApiScan.Proofs.Source.Segment
import ApiScan.Proofs.Text.Case

set_option autoImplicit false

/-! # Columns with arguments

A column is read up to the first comma of its declaration. A call that makes an array counts if it is
written in front of that comma, in the chain of the column or inside the arguments of a call, and one
behind the comma does not. What stands behind a comma is read as a column of its own where it looks like
one. -/

namespace ApiScan.ColumnTable

open Text Source DocumentSchema

variable {s t : Text} {c : Char}

/-! ## Columns as they are written -/

/-- A call in a chain, such as `.default(sql.now())`. -/
structure ChainCall where
  name : Text
  identifier : ∀ c ∈ name, isNameChar c = true
  arguments : ClosedSource

/-- A column, such as `tags: varchar("tags", options).array()`. -/
structure BuiltColumn where
  name : Word
  builder : Word
  arguments : ClosedSource
  calls : List ChainCall

/-- The text of a call, with its arguments as `view` shows them. -/
def ChainCall.spell (view : ClosedSource → Text) (call : ChainCall) : Text :=
  '.' :: (call.name ++ '(' :: (view call.arguments ++ [')']))

/-- The text of a chain of calls. -/
def spellChain (view : ClosedSource → Text) (calls : List ChainCall) : Text :=
  calls.flatMap (ChainCall.spell view)

/-- The text in front of the first comma. -/
def beforeComma (s : Text) : Text := s.takeWhile (· ≠ ',')

/-- The calls of a chain up to the first one with a comma among its arguments. -/
def upToComma : List ChainCall → List ChainCall
  | [] => []
  | call :: calls => call :: if ',' ∈ call.arguments.code then [] else upToComma calls

/-- Whether a call that makes an array is written in a text. White space may stand in front of its
    parenthesis. -/
def WritesArray (s : Text) : Prop := ∃ gap : Gap, ".array".toList ++ (gap.text ++ ['(']) <:+: s

instance (s : Text) : Decidable (WritesArray s) := decidable_of_iff _ isSome_find?_arrayCall?_iff

namespace BuiltColumn

/-- The text of a column, with its arguments as `view` shows them. -/
def spell (view : ClosedSource → Text) (column : BuiltColumn) : Text :=
  column.name.text ++ ':' :: ' ' :: (column.builder.text
    ++ '(' :: (view column.arguments ++ ')' :: spellChain view column.calls))

/-- The text of a column. -/
def text (column : BuiltColumn) : Text := column.spell ClosedSource.text

/-- The text of a column without its comments. -/
def code (column : BuiltColumn) : Text := column.spell ClosedSource.code

/-- The calls of the chain that stand in front of the first comma, at least with their names. -/
def shownCalls (column : BuiltColumn) : List ChainCall :=
  if ',' ∈ column.arguments.code then [] else upToComma column.calls

/-- The arguments that stand in front of the first comma, or their parts that do. -/
def shownArguments (column : BuiltColumn) : List Text :=
  (column.arguments :: column.shownCalls.map ChainCall.arguments).map fun arguments =>
    beforeComma arguments.code

/-- Whether the chain of a column makes an array. -/
def ChainsArray (column : BuiltColumn) : Prop := ∃ call ∈ column.calls, call.name = "array".toList

instance (column : BuiltColumn) : Decidable column.ChainsArray :=
  inferInstanceAs (Decidable (∃ call ∈ column.calls, call.name = "array".toList))

/-- What is read of a column behind the parenthesis of its builder. -/
def shown (column : BuiltColumn) : Text :=
  beforeComma (column.arguments.code ++ ')' :: spellChain ClosedSource.code column.calls)

/-- Whether no argument of a column holds a comma or writes a call that makes an array. -/
def HasPlainArguments (column : BuiltColumn) : Prop :=
  ∀ arguments ∈ column.arguments :: column.calls.map ChainCall.arguments,
    ',' ∉ arguments.code ∧ ¬ WritesArray arguments.code

instance (column : BuiltColumn) : Decidable column.HasPlainArguments :=
  List.decidableBAll (fun arguments : ClosedSource => ',' ∉ arguments.code ∧ ¬ WritesArray arguments.code) _

/-- The field that a column gives. -/
def field (column : BuiltColumn) : Field :=
  ⟨column.name.text, Field.lowerType column.builder.text
    ++ if (find? arrayCall? column.shown).isSome then Field.arrayMark else []⟩

/-- The fields that the text behind the first comma of a column gives. -/
def leftover (column : BuiltColumn) : List Field :=
  (pieces (· = ',') column.code).tail.filterMap parseColumn?

end BuiltColumn

/-! ## Calls in front of a comma -/

theorem writesArray_iff : WritesArray s ↔ (find? arrayCall? s).isSome = true :=
  isSome_find?_arrayCall?_iff.symm

theorem beforeComma_cons (hc : c ≠ ',') : beforeComma (c :: s) = c :: beforeComma s :=
  List.takeWhile_cons_of_pos (by simpa using hc)

/-- A text with a comma is shown up to it, and one without is shown as a whole. -/
theorem beforeComma_append (s t : Text) :
    beforeComma (s ++ t) = if ',' ∈ s then beforeComma s else s ++ beforeComma t := by
  induction s with
  | nil => rfl
  | cons c s ih =>
      by_cases hc : c = ','
      · subst hc
        rw [if_pos List.mem_cons_self]
        rfl
      · rw [List.cons_append, beforeComma_cons hc, beforeComma_cons hc, ih]
        simp only [List.mem_cons, Ne.symm hc, false_or, apply_ite (List.cons c), List.cons_append]

theorem beforeComma_of_not_mem (hs : ',' ∉ s) : beforeComma s = s := by
  have hall := beforeComma_append s []
  rwa [if_neg hs, List.append_nil, show beforeComma [] = [] from rfl, List.append_nil] at hall

/-- The first fragment of a text is what stands in front of its first comma. -/
theorem pieces_comma (s : Text) :
    pieces (· = ',') s = beforeComma s :: (pieces (· = ',') s).tail := by
  induction s with
  | nil => rfl
  | cons c s ih =>
      rw [pieces]
      by_cases hc : c = ','
      · subst hc
        rfl
      · rw [ih, if_neg (by simpa using hc), beforeComma_cons hc]
        rfl

/-- An array call is written on one side of the parenthesis that closes the arguments. -/
theorem writesArray_append_paren : WritesArray (s ++ ')' :: t) ↔ WritesArray s ∨ WritesArray t := by
  rw [writesArray_iff, writesArray_iff, writesArray_iff,
    isSome_find?_arrayCall?_append_cons (by decide) rfl, Bool.or_eq_true]

/-- What is shown of arguments and of a text behind them. -/
theorem writesArray_arguments (s t : Text) : WritesArray (beforeComma (s ++ ')' :: t))
    ↔ WritesArray (beforeComma s) ∨ (',' ∉ s ∧ WritesArray (beforeComma t)) := by
  have hparen : beforeComma (')' :: t) = ')' :: beforeComma t := rfl
  by_cases hcomma : ',' ∈ s
  · rw [beforeComma_append, if_pos hcomma]
    simp only [hcomma, not_true_eq_false, false_and, or_false]
  · rw [beforeComma_append, if_neg hcomma, hparen, writesArray_append_paren,
      beforeComma_of_not_mem hcomma]
    simp only [hcomma, not_false_eq_true, true_and]

/-- A call writes an array call if it makes an array or if its arguments or the text behind them do. -/
theorem writesArray_call (call : ChainCall) (rest : Text) :
    WritesArray (beforeComma (call.spell ClosedSource.code ++ rest))
      ↔ call.name = "array".toList ∨ WritesArray (beforeComma (call.arguments.code ++ ')' :: rest)) := by
  have hcomma : ',' ∉ '.' :: (call.name ++ ['(']) := by
    simp [not_mem_name call.identifier (by decide : isNameChar ',' = false)]
  have htext : call.spell ClosedSource.code ++ rest
      = '.' :: (call.name ++ ['(']) ++ (call.arguments.code ++ ')' :: rest) := by
    simp [ChainCall.spell]
  have hshown : beforeComma (call.spell ClosedSource.code ++ rest)
      = '.' :: (call.name ++ '(' :: beforeComma (call.arguments.code ++ ')' :: rest)) := by
    rw [htext, beforeComma_append, if_neg hcomma]
    simp
  rw [hshown, writesArray_iff, isSome_find?_arrayCall?_name call.identifier, Bool.or_eq_true,
    decide_eq_true_eq, writesArray_iff]

/-- **The array calls of a chain**, up to the first comma, are the calls with the right name and the ones
    that are written inside arguments. -/
theorem writesArray_chain (calls : List ChainCall) :
    WritesArray (beforeComma (spellChain ClosedSource.code calls))
      ↔ ∃ call ∈ upToComma calls,
        call.name = "array".toList ∨ WritesArray (beforeComma call.arguments.code) := by
  induction calls with
  | nil =>
      rw [writesArray_iff]
      simp [spellChain, upToComma, beforeComma, find?, first?, arrayCall?, after?]
  | cons call calls ih =>
      rw [spellChain, List.flatMap_cons, writesArray_call, writesArray_arguments, upToComma,
        List.exists_mem_cons_iff, or_assoc]
      refine or_congr_right (or_congr_right ?_)
      rw [show List.flatMap (ChainCall.spell ClosedSource.code) calls
        = spellChain ClosedSource.code calls from rfl, ih]
      by_cases hcomma : ',' ∈ call.arguments.code
      · simp [hcomma]
      · simp [hcomma]

namespace BuiltColumn

variable (column : BuiltColumn)

/-- What stands in front of the first comma of a column. -/
theorem beforeComma_code : beforeComma column.code
    = column.name.text ++ ':' :: ' ' :: (column.builder.text ++ '(' :: column.shown) := by
  have hhead : ',' ∉ column.name.text ++ ':' :: ' ' :: (column.builder.text ++ ['(']) := by
    have hcomma : isWord ',' = false := by decide
    simp [not_mem_of_allWord column.name.allWord hcomma, not_mem_of_allWord column.builder.allWord hcomma]
  have htext : column.code = column.name.text ++ ':' :: ' ' :: (column.builder.text ++ ['('])
      ++ (column.arguments.code ++ ')' :: spellChain ClosedSource.code column.calls) := by
    simp [code, spell]
  rw [htext, beforeComma_append, if_neg hhead, shown]
  simp

/-- **The array calls of a column**, up to the first comma, are those of the chain and those that are
    written inside arguments. -/
theorem writesArray_shown : WritesArray column.shown
    ↔ (∃ call ∈ column.shownCalls, call.name = "array".toList)
      ∨ ∃ arguments ∈ column.shownArguments, WritesArray arguments := by
  rw [shown, writesArray_arguments, writesArray_chain, shownArguments, shownCalls]
  by_cases hcomma : ',' ∈ column.arguments.code
  · simp [hcomma]
  · simp only [hcomma, not_false_eq_true, true_and, if_false, List.map_cons, List.map_map,
      List.exists_mem_cons_iff, and_or_left, exists_or, List.mem_map, Function.comp_apply,
      exists_exists_and_eq_and]
    exact or_left_comm

/-- The mark of an array is no part of a type. -/
theorem isArray_field : column.field.isArray = true ↔ WritesArray column.shown := by
  have hbracket : ']' ∉ Field.lowerType column.builder.text := by
    intro hmem
    rw [Field.lowerType, strip_of_allWord column.builder.allWord] at hmem
    exact absurd (column.builder.allWord ']' ((of_mem_lower hmem).2 (Or.inr rfl))) (by decide)
  rw [writesArray_iff, field, Field.isArray, endsWith_iff]
  split
  · next hsome => exact iff_of_true (List.suffix_append _ _) hsome
  · next hnone =>
      refine iff_of_false (fun hsuffix => hbracket ?_) hnone
      rw [List.append_nil] at hsuffix
      exact hsuffix.subset (by decide)

/-- **A column gives its field**, and what its first comma leaves over. -/
theorem columnsIn_code : columnsIn column.code = column.field :: column.leftover := by
  have hparse : parseColumn? (beforeComma column.code) = some column.field := by
    rw [beforeComma_code]
    exact parseColumn?_named ⟨[], by decide⟩ column.name column.builder column.shown
  rw [columnsIn, pieces_comma, List.filterMap_cons, hparse]
  rfl

theorem upToComma_of_plain {calls : List ChainCall} (h : ∀ call ∈ calls, ',' ∉ call.arguments.code) :
    upToComma calls = calls := by
  induction calls with
  | nil => rfl
  | cons call calls ih =>
      obtain ⟨hcall, hcalls⟩ := List.forall_mem_cons.1 h
      rw [upToComma, if_neg hcall, ih hcalls]

variable {column}

/-- **Plain arguments leave nothing over**, and only the chain of the column makes an array. -/
theorem of_hasPlainArguments (h : column.HasPlainArguments) :
    column.leftover = [] ∧ (WritesArray column.shown ↔ column.ChainsArray) := by
  obtain ⟨⟨hfirst, hfirst'⟩, hmore⟩ := List.forall_mem_cons.1 h
  have hcalls : ∀ call ∈ column.calls, ',' ∉ call.arguments.code := fun call hcall =>
    (hmore _ (List.mem_map_of_mem hcall)).1
  have hshown : column.shownCalls = column.calls := by
    rw [shownCalls, if_neg hfirst, upToComma_of_plain hcalls]
  have hnone : ¬ ∃ arguments ∈ column.shownArguments, WritesArray arguments := by
    rintro ⟨_, harguments, hwrites⟩
    rw [shownArguments, hshown] at harguments
    obtain ⟨arguments, hmem, rfl⟩ := List.mem_map.1 harguments
    obtain ⟨hcomma, hno⟩ := h arguments hmem
    rw [beforeComma_of_not_mem hcomma] at hwrites
    exact hno hwrites
  have hchain : ',' ∉ spellChain ClosedSource.code column.calls := by
    intro hmem
    obtain ⟨call, hcall, hmem⟩ := List.mem_flatMap.1 hmem
    have hname : ',' ∉ call.name := not_mem_name call.identifier (by decide)
    simp [ChainCall.spell, hname, hcalls call hcall] at hmem
  have hcode : ',' ∉ column.code := by
    have hcomma : isWord ',' = false := by decide
    simp [code, spell, not_mem_of_allWord column.name.allWord hcomma,
      not_mem_of_allWord column.builder.allWord hcomma, hfirst, hchain]
  constructor
  · rw [leftover, pieces_of_forall fun c hc => decide_eq_false (ne_of_mem_of_not_mem hc hcode)]
    rfl
  · rw [writesArray_shown, hshown]
    exact or_iff_left hnone

end BuiltColumn

/-! ## Removing the comments -/

/-- Whether a text becomes another one when comments are removed, whatever follows it. -/
def StripsTo (s t : Text) : Prop := ∀ rest, stripComments (s ++ rest) = t ++ stripComments rest

theorem StripsTo.append {s' t' : Text} (hs : StripsTo s t) (hs' : StripsTo s' t') :
    StripsTo (s ++ s') (t ++ t') := by
  intro rest
  rw [List.append_assoc, hs, hs', List.append_assoc]

theorem stripsTo_of_noMark (hs : NoMark s) : StripsTo s s := hs.kept

/-- Arguments lose their comments, up to the parenthesis that closes them. -/
theorem stripsTo_arguments (arguments : ClosedSource) :
    StripsTo (arguments.text ++ [')']) (arguments.code ++ [')']) := by
  intro rest
  have hparen : stripComments (')' :: rest) = ')' :: stripComments rest :=
    NoMark.kept (s := [')']) (by decide) rest
  rw [List.append_assoc, List.singleton_append,
    arguments.stripComments_append (by simp) (by simp), hparen]
  simp

theorem stripsTo_call (call : ChainCall) :
    StripsTo (call.spell ClosedSource.text) (call.spell ClosedSource.code) := by
  have hhead : NoMark ('.' :: (call.name ++ ['('])) :=
    noMark_append (s := ['.']) (by decide) (noMark_append (noMark_name call.identifier) (by decide))
  have hall := (stripsTo_of_noMark hhead).append (stripsTo_arguments call.arguments)
  simpa [ChainCall.spell] using hall

theorem stripsTo_chain (calls : List ChainCall) :
    StripsTo (spellChain ClosedSource.text calls) (spellChain ClosedSource.code calls) := by
  induction calls with
  | nil => exact fun _ => rfl
  | cons call calls ih => exact (stripsTo_call call).append ih

theorem stripsTo_column (column : BuiltColumn) : StripsTo column.text column.code := by
  have hhead : NoMark (column.name.text ++ ':' :: ' ' :: (column.builder.text ++ ['('])) :=
    noMark_append (noMark_of_allWord column.name.allWord) (noMark_append (s := [':', ' ']) (by decide)
      (noMark_append (noMark_of_allWord column.builder.allWord) (by decide)))
  have hall := ((stripsTo_of_noMark hhead).append (stripsTo_arguments column.arguments)).append
    (stripsTo_chain column.calls)
  simpa [BuiltColumn.text, BuiltColumn.code, BuiltColumn.spell] using hall

theorem stripsTo_listed {sep : Text} (hsep : NoMark sep) (columns : List (Gap × BuiltColumn)) :
    StripsTo (listed BuiltColumn.text sep columns) (listed BuiltColumn.code sep columns) := by
  induction columns generalizing sep with
  | nil => exact fun _ => rfl
  | cons column columns ih =>
      exact ((stripsTo_of_noMark (noMark_append hsep (noMark_of_allBlank column.1.blank))).append
        (stripsTo_column column.2)).append (ih (by decide))

/-- The fragments of a block of columns give the fields of the columns, each with what its first comma
    leaves over. -/
theorem filterMap_fragments_built (columns : List (Gap × BuiltColumn)) (tail : Tail) :
    (fragments ('{' :: (listed BuiltColumn.text [] columns ++ tail.text ++ ['}']))).filterMap parseColumn?
      = columns.flatMap fun column => column.2.field :: column.2.leftover := by
  have hopen : StripsTo ['{'] ['{'] := stripsTo_of_noMark (by decide)
  have hclose : NoMark (tail.text ++ ['}']) := noMark_append (noMark_tail tail) (by decide)
  have hblock := (hopen.append (stripsTo_listed (by decide : NoMark []) columns)).append
    (stripsTo_of_noMark hclose) []
  rw [List.append_nil, show stripComments [] = [] from rfl, List.append_nil] at hblock
  have hstrip : stripComments ('{' :: (listed BuiltColumn.text [] columns ++ tail.text ++ ['}']))
      = '{' :: (listed BuiltColumn.code [] columns ++ tail.text ++ ['}']) := by
    simpa using hblock
  rw [filterMap_fragments hstrip, columnsIn_listed]
  simp only [BuiltColumn.columnsIn_code]

/-! ## Nested braces -/

/-- Whether the braces of a text are nested, in its literals and comments too: none is closed before it
    is opened, and none is left open. -/
structure Nested (s : Text) : Prop where
  opened : ∀ front, front <+: s → front.count '}' ≤ front.count '{'
  closed : s.count '}' = s.count '{'

instance (s : Text) : Decidable (Nested s) :=
  decidable_of_iff ((∀ front ∈ s.inits, front.count '}' ≤ front.count '{') ∧ s.count '}' = s.count '{')
    ⟨fun h => ⟨fun front hfront => h.1 front ((List.mem_inits front s).2 hfront), h.2⟩,
      fun h => ⟨fun front hfront => h.opened front ((List.mem_inits front s).1 hfront), h.closed⟩⟩

/-- A block goes on while more braces are opened than closed. -/
theorem blockBody?_append {owed : Int}
    (h : ∀ front, front <+: s → (front.count '}' : Int) < owed + front.count '{') (rest : Text) :
    blockBody? owed (s ++ rest) = (blockBody? (owed + s.count '{' - s.count '}') rest).map
      fun found => (s ++ found.1, found.2) := by
  have hnone : blockBody? owed s = none := blockBody?_eq_none_iff.2 fun front hfront _ => by
    have hopen := h front hfront
    rw [braces_eq]
    omega
  rw [Source.blockBody?_append, hnone, braces_eq, Int.add_sub_assoc]

theorem Nested.balanced (h : Nested s) : Balanced s := by
  intro owed rest howed
  have hclosed := h.closed
  have hsame : owed + s.count '{' - s.count '}' = owed := by omega
  rw [blockBody?_append (fun front hfront => ?_), hsame]
  have hopened := h.opened front hfront
  omega

/-! ## Files -/

/-- A file with a table: the first call that defines one is given its name as a literal and its columns
    in a block. What stands behind the block may be anything. -/
structure BuiltTable where
  front : Text
  unmarked : ∀ mark ∈ marks, ¬ mark <:+: front
  mark : Text
  mem_marks : mark ∈ marks
  gap : Gap
  quote : Char
  isQuote : isQuote quote = true
  name : Text
  strip_ne_nil : strip name ≠ []
  plain : ∀ c ∈ name, Source.isQuote c = false ∧ c ≠ '{' ∧ c ≠ '}'
  /-- What stands between the name and the block. -/
  lead : Text
  noBrace : NoBrace lead
  columns : List (Gap × BuiltColumn)
  tail : Tail
  rest : Text

namespace BuiltTable

variable (table : BuiltTable)

/-- What stands between the braces of the block. -/
def body : Text := listed BuiltColumn.text [] table.columns ++ table.tail.text

/-- The text behind the mark. -/
def behind : Text :=
  table.gap.text ++ table.quote :: (table.name ++ table.quote :: (table.lead
    ++ '{' :: (table.body ++ '}' :: table.rest)))

/-- The text of the file. -/
def text : Text := table.front ++ (table.mark ++ table.behind)

/-- The call that defines the table. -/
def call : TableCall table.text := ⟨table.front, table.mark, table.behind, table.mem_marks, rfl⟩

/-- Whether a column is an array exactly if its own chain makes one. -/
def ArraysByChain : Prop :=
  ∀ file, ∀ model ∈ (extract file table.text).found, ∀ column ∈ table.columns, ∀ field ∈ model.fields,
    field.name = column.2.name.text → (field.isArray = true ↔ column.2.ChainsArray)

/-- The name of the table is the literal of its call. -/
theorem literal?_call : table.call.literal? = some table.name := by
  have hafter : after? table.mark (table.mark ++ table.behind) = some table.behind :=
    after?_eq_some_iff.2 rfl
  have hstart : stripStart table.behind = table.quote :: (table.name ++ table.quote :: (table.lead
      ++ '{' :: (table.body ++ '}' :: table.rest))) := by
    rw [behind, stripStart_of_blank table.gap.blank,
      stripStart_cons (isBlank_eq_false_of_isQuote table.isQuote)]
  have hplain : ∀ c ∈ table.name, (!Source.isQuote c) = true := fun c hc => by
    rw [(table.plain c hc).1]
    rfl
  have hclose : (!Source.isQuote table.quote) = false := by
    rw [table.isQuote]
    rfl
  obtain ⟨htake, hdrop⟩ := takeWhile_append_cons hplain hclose
    (table.lead ++ '{' :: (table.body ++ '}' :: table.rest))
  rw [TableCall.literal?, nameAfter?, TableCall.here]
  simp only [call, hafter, Option.bind_eq_bind, Option.bind_some, hstart, htake, hdrop, table.isQuote,
    List.head?_cons, decide_true, Bool.and_true, if_true]

/-- The block of the table stands behind its call, if the braces in it are nested. -/
theorem blockFrom?_call (h : Nested table.body) :
    blockFrom? 0 table.call.here = some ('{' :: (table.body ++ ['}']), table.rest) := by
  have hmark : NoBrace table.mark :=
    (show ∀ mark ∈ marks, NoBrace mark by decide) _ table.mem_marks
  have hquote : NoBrace [table.quote] := by
    rw [NoBrace, List.forall_mem_singleton]
    constructor
    all_goals exact (ne_of_isQuote table.isQuote (by decide)).symm
  have hlead : NoBrace (table.mark ++ (table.gap.text ++ ([table.quote] ++ (table.name
      ++ ([table.quote] ++ table.lead))))) :=
    noBrace_append hmark (noBrace_append (noBrace_of_allBlank table.gap.blank) (noBrace_append hquote
      (noBrace_append (fun c hc => (table.plain c hc).2) (noBrace_append hquote table.noBrace))))
  have hhere : table.call.here = table.mark ++ (table.gap.text ++ ([table.quote] ++ (table.name
      ++ ([table.quote] ++ table.lead)))) ++ '{' :: (table.body ++ '}' :: table.rest) := by
    simp [TableCall.here, call, behind]
  rw [hhere, blockFrom?_noBrace hlead, blockFrom?_braces h.balanced]

end BuiltTable

/-- **Columns with arguments.** A table whose braces are nested gives a field for each column, and behind
    it the fields that the text behind the first comma of the column looks like. The field is an array
    exactly if a call that makes one is written in front of that comma, in the chain of the column or
    inside the arguments of a call. If no argument holds a comma or such a call, nothing is left over and
    only the chain of the column counts. -/
theorem arrays_of_builtTable (file : Text) (table : BuiltTable) (h : Nested table.body) :
    extract file table.text = ⟨[⟨strip table.name, stripExtension file,
        table.columns.flatMap fun column => column.2.field :: column.2.leftover⟩], []⟩
      ∧ ∀ column ∈ table.columns,
        (column.2.field.isArray = true
          ↔ (∃ call ∈ column.2.shownCalls, call.name = "array".toList)
            ∨ ∃ arguments ∈ column.2.shownArguments, WritesArray arguments)
        ∧ (column.2.HasPlainArguments →
          column.2.leftover = [] ∧ (column.2.field.isArray = true ↔ column.2.ChainsArray)) := by
  have hfirst : table.call.IsFirst := TableCall.isFirst_of_front table.unmarked
  refine ⟨?_, fun column _ => ⟨?_, fun hplain => ?_⟩⟩
  · rw [hfirst.extract file table.literal?_call table.strip_ne_nil (table.blockFrom?_call h),
      BuiltTable.body, filterMap_fragments_built]
  · rw [BuiltColumn.isArray_field, BuiltColumn.writesArray_shown]
  · rw [BuiltColumn.isArray_field]
    exact BuiltColumn.of_hasPlainArguments hplain

/-- The call that makes an array, without arguments. -/
def arrayCall : ChainCall := ⟨"array".toList, by decide, ⟨[], by decide⟩⟩

/-- A literal, and code behind it, as arguments. -/
def literalArguments (body code : Text) (hbody : ∀ c ∈ body, c ≠ '"' ∧ c ≠ '\\' ∧ c ≠ '\n')
    (plain : ∀ c ∈ code, isQuote c = false)
    (closed : Fitting (.literal '"' body isQuote_double (literalBody_of_plain hbody) :: codeOf code plain
      ++ [.code ';' rfl])) : ClosedSource :=
  ⟨.literal '"' body isQuote_double (literalBody_of_plain hbody) :: codeOf code plain, closed⟩

/-- A column with an option object: `tags: varchar("tags", { length: 255 }).array()`. -/
def commaColumn : BuiltColumn :=
  { name := ⟨"tags".toList, by decide, by decide⟩
    builder := ⟨"varchar".toList, by decide, by decide⟩
    arguments := literalArguments "tags".toList ", \x7b length: 255 \x7d".toList (by decide) (by decide)
      (by decide +kernel)
    calls := [arrayCall] }

/-- A column whose default value is an array: `ids: int().default(sql.array())`. -/
def argumentColumn : BuiltColumn :=
  { name := ⟨"ids".toList, by decide, by decide⟩
    builder := ⟨"int".toList, by decide, by decide⟩
    arguments := ⟨[], by decide⟩
    calls := [⟨"default".toList, by decide, ⟨codeOf "sql.array()".toList (by decide), by decide +kernel⟩⟩] }

/-- A column with a closing brace in a literal, behind which `.array()` follows. -/
def braceColumn : BuiltColumn :=
  { name := ⟨"note".toList, by decide, by decide⟩
    builder := ⟨"text".toList, by decide, by decide⟩
    arguments := literalArguments "\x7d".toList [] (by decide) (by decide) (by decide +kernel)
    calls := [arrayCall] }

/-- A column without commas in its arguments: `names: text("names").array()`. -/
def plainColumn : BuiltColumn :=
  { name := ⟨"names".toList, by decide, by decide⟩
    builder := ⟨"text".toList, by decide, by decide⟩
    arguments := literalArguments "names".toList [] (by decide) (by decide) (by decide +kernel)
    calls := [arrayCall] }

/-- A table of some columns. -/
def tableOf (columns : List BuiltColumn) : BuiltTable :=
  { front := []
    unmarked := by decide
    mark := "pgTable(".toList
    mem_marks := by decide
    gap := ⟨[], by decide⟩
    quote := '"'
    isQuote := isQuote_double
    name := ['t']
    strip_ne_nil := by decide
    plain := by decide
    lead := [',', ' ']
    noBrace := by decide
    columns := columns.map fun column => (blank, column)
    tail := ⟨[' '], by decide⟩
    rest := [')', ';'] }

theorem arrays_of_threeColumns :
    let table := tableOf [commaColumn, argumentColumn, plainColumn]
    Nested table.body ∧ plainColumn.HasPlainArguments ∧ plainColumn.field.isArray = true ∧
      (extract "t.ts".toList table.text).found = [⟨"t".toList, "t".toList, [⟨"tags".toList,
        "varchar".toList⟩, ⟨"ids".toList, "int[]".toList⟩, ⟨"names".toList, "text[]".toList⟩]⟩] := by
  intro table
  have hnested : Nested table.body := by decide +kernel
  obtain ⟨hfound, hcolumns⟩ := arrays_of_builtTable "t.ts".toList table hnested
  have hplain : plainColumn.HasPlainArguments := by decide +kernel
  obtain ⟨-, harray⟩ := hcolumns (blank, plainColumn) (by simp [table, tableOf])
  refine ⟨hnested, hplain, (harray hplain).2.2 (by decide), ?_⟩
  rw [hfound]
  decide +kernel

/-- **The chain of a column does not decide alone**: not if an argument holds a comma, not if an argument
    writes a call that makes an array, and not if a literal closes the block. -/
theorem not_arraysByChain : ¬ (tableOf [commaColumn]).ArraysByChain
    ∧ ¬ (tableOf [argumentColumn]).ArraysByChain ∧ ¬ (tableOf [braceColumn]).ArraysByChain := by
  have hno (column : BuiltColumn) (field : Field)
      (hfound : (extract "t.ts".toList (tableOf [column]).text).found = [⟨['t'], ['t'], [field]⟩])
      (hname : field.name = column.name.text)
      (hne : ¬ (field.isArray = true ↔ column.ChainsArray)) : ¬ (tableOf [column]).ArraysByChain := by
    intro hlaw
    refine hne (hlaw "t.ts".toList ⟨['t'], ['t'], [field]⟩ ?_ _ List.mem_cons_self field
      List.mem_cons_self hname)
    rw [hfound]
    exact List.mem_singleton_self _
  refine ⟨hno commaColumn ⟨"tags".toList, "varchar".toList⟩ ?_ rfl ?_,
    hno argumentColumn ⟨"ids".toList, "int[]".toList⟩ ?_ rfl ?_,
    hno braceColumn ⟨"note".toList, "text".toList⟩ ?_ rfl ?_⟩
  all_goals decide +kernel

end ApiScan.ColumnTable
