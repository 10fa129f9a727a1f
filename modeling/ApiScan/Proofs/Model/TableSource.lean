import ApiScan.Model.ColumnTable
import ApiScan.Proofs.Model.Layout
import ApiScan.Proofs.Text.Lines

set_option autoImplicit false

/-! # Files that define a table

A file that defines a table by columns, each of them a builder with a chain of calls behind it, gives
back the columns. A call that makes an array counts wherever it stands in the chain. -/

namespace ApiScan.ColumnTable

open Text Source DocumentSchema

variable {s t w rest : Text} {tail : Tail} {c : Char}

/-! ## Columns as they are written -/

/-- A call in a chain, such as `.default(value)`. -/
structure Call where
  name : Word
  argument : Text
  allWord : AllWord argument

/-- A column, such as `tags: text("tags").array()`. -/
structure Column where
  name : Word
  builder : Word
  label : Word
  calls : List Call

/-- The text of a call. -/
def Call.text (call : Call) : Text := '.' :: (call.name.text ++ '(' :: (call.argument ++ [')']))

/-- The text of a chain of calls. -/
def chainText (calls : List Call) : Text := calls.flatMap Call.text

namespace Column

/-- The text of a column up to its chain of calls. -/
def head (column : Column) : Text :=
  column.name.text ++ ':' :: ' ' :: (column.builder.text
    ++ '(' :: ('"' :: (column.label.text ++ ['"']) ++ [')']))

/-- The text of a column. -/
def text (column : Column) : Text := column.head ++ chainText column.calls

/-- Whether a call of the chain makes an array. -/
def isArray (column : Column) : Bool := column.calls.any fun call => call.name.text = "array".toList

/-- The field that a column gives. -/
def field (column : Column) : Field :=
  ⟨column.name.text, Field.lowerType column.builder.text
    ++ if column.isArray then Field.arrayMark else []⟩

end Column

/-! ## Characters -/

/-- The characters around the words of a column. -/
def columnMarks : Text := [' ', ':', '.', '(', ')']

/-- A column is made of word characters, of a few others and of quoted words. -/
theorem Column.text_of_append {P : Text → Prop} (hnil : P [])
    (happend : ∀ s t, P s → P t → P (s ++ t))
    (hchar : ∀ c, isWord c = true ∨ c ∈ columnMarks → P [c])
    (hquoted : ∀ w, AllWord w → P ('"' :: (w ++ ['"']))) (column : Column) : P column.text := by
  have hmark {s : Text} (hs : Spelled columnMarks s) : P s :=
    of_append_of_chars hnil happend fun c hc => hchar c (hs c hc)
  have hword {w : Text} (hw : AllWord w) : P w := hmark fun c hc => Or.inl (hw c hc)
  have hcall (call : Call) : P call.text :=
    happend ['.'] _ (hmark (by decide)) (happend _ _ (hword call.name.allWord)
      (happend ['('] _ (hmark (by decide)) (happend _ _ (hword call.allWord) (hmark (by decide)))))
  have hchain : P (chainText column.calls) := by
    induction column.calls with
    | nil => exact hnil
    | cons call calls ih => exact happend _ _ (hcall call) ih
  have hlabel := happend _ _ (hquoted _ column.label.allWord) (hmark (s := [')']) (by decide))
  exact happend _ _ (happend _ _ (hword column.name.allWord) (happend [':', ' '] _
    (hmark (by decide)) (happend _ _ (hword column.builder.allWord)
      (happend ['('] _ (hmark (by decide)) hlabel)))) hchain

theorem noBrace_column (column : Column) : NoBrace column.text := by
  refine column.text_of_append (by decide) (fun _ _ => noBrace_append) ?_ fun w hw => ?_
  · rintro c (hc | hc)
    · exact noBrace_of_allWord (by simpa [AllWord] using hc)
    · exact List.forall_mem_singleton.2 ((show NoBrace columnMarks by decide) c hc)
  · exact noBrace_append (s := ['"']) (by decide) (noBrace_append (noBrace_of_allWord hw) (by decide))

theorem kept_column (column : Column) : Kept column.text := by
  refine column.text_of_append kept_nil (fun _ _ => Kept.append) ?_ fun w => kept_quoted rfl
  rintro c (hc | hc)
  · exact (noMark_of_allWord (by simpa [AllWord] using hc)).kept
  · exact NoMark.kept (List.forall_mem_singleton.2 ((show NoMark columnMarks by decide) c hc))

theorem not_mem_comma_column (column : Column) : ',' ∉ column.text := by
  have happend (s t : Text) (hs : ',' ∉ s) (ht : ',' ∉ t) : ',' ∉ s ++ t := by simp [hs, ht]
  have hword {w : Text} (hw : AllWord w) : ',' ∉ w := not_mem_of_allWord hw (by decide)
  refine column.text_of_append (P := fun s => ',' ∉ s) (by decide) happend ?_ fun w hw => ?_
  · rintro c (hc | hc)
    · exact hword (by simpa [AllWord] using hc)
    · rw [List.mem_singleton]
      rintro rfl
      exact absurd hc (by decide)
  · exact happend ['"'] _ (by decide) (happend _ _ (hword hw) (by decide))

/-! ## Calls that make arrays -/

theorem arrayCall?_cons_of_ne (hc : c ≠ '.') : arrayCall? (c :: s) = none := by
  have hnone : after? ".array".toList (c :: s) = none := if_neg (Ne.symm hc)
  rw [arrayCall?, hnone]
  rfl

/-- What holds no dot is passed over. -/
theorem find?_arrayCall?_of_not_mem (hs : '.' ∉ s) (rest : Text) :
    find? arrayCall? (s ++ rest) = find? arrayCall? rest := by
  induction s with
  | nil => rfl
  | cons c s ih =>
      rw [List.mem_cons, not_or] at hs
      rw [List.cons_append, find?_cons, arrayCall?_cons_of_ne (Ne.symm hs.1), ih hs.2]
      rfl

/-- A call makes an array if it has the right name. -/
theorem isSome_arrayCall?_name (hw : ∀ c ∈ w, isNameChar c = true) (more : Text) :
    (arrayCall? ('.' :: (w ++ '(' :: more))).isSome = decide (w = "array".toList) := by
  have hmark (s : Text) : after? ".array".toList ('.' :: s) = after? "array".toList s := rfl
  rw [arrayCall?, hmark]
  cases hafter : after? "array".toList (w ++ '(' :: more) with
  | none =>
      have hother : w ≠ "array".toList := by
        rintro rfl
        rw [after?_eq_some_iff.2 rfl] at hafter
        exact nomatch hafter
      rw [decide_eq_false hother]
      rfl
  | some found =>
      obtain ⟨tail, rfl, rfl⟩ := eq_append_of_after? (by decide) (by decide) hafter
      cases tail with
      | nil => rfl
      | cons d tail =>
          -- the name goes on, and so no parenthesis comes next
          have hd : isNameChar d = true := hw d (by simp)
          have hother : "array".toList ++ d :: tail ≠ "array".toList := by simp
          have hstrip : (stripStart (d :: (tail ++ '(' :: more))).head? ≠ some '(' := by
            rw [stripStart_cons (isBlank_eq_false_of_isNameChar hd), List.head?_cons]
            rintro he
            obtain rfl := Option.some.inj he
            exact absurd hd (by decide)
          rw [decide_eq_false hother]
          exact congrArg Option.isSome (if_neg hstrip)

/-- From the dot of a call on, the call makes an array or something behind its parenthesis does. -/
theorem isSome_find?_arrayCall?_name (hw : ∀ c ∈ w, isNameChar c = true) (more : Text) :
    (find? arrayCall? ('.' :: (w ++ '(' :: more))).isSome
      = (decide (w = "array".toList) || (find? arrayCall? more).isSome) := by
  have hdot : '.' ∉ w ++ ['('] := by
    rw [List.mem_append, not_or]
    exact ⟨not_mem_name hw (by decide), by decide⟩
  have hskip : find? arrayCall? (w ++ '(' :: more) = find? arrayCall? more := by
    have hall := find?_arrayCall?_of_not_mem hdot more
    rwa [List.append_assoc] at hall
  rw [find?_cons, Option.isSome_or, isSome_arrayCall?_name hw, hskip]

/-- **A call that makes an array is found anywhere in a chain.** -/
theorem isSome_find?_arrayCall?_chain (calls : List Call) :
    (find? arrayCall? (chainText calls)).isSome
      = calls.any fun call => decide (call.name.text = "array".toList) := by
  induction calls with
  | nil => rfl
  | cons call calls ih =>
      have hargument : '.' ∉ call.argument ++ [')'] := by
        rw [List.mem_append, not_or]
        exact ⟨not_mem_of_allWord call.allWord (by decide), by decide⟩
      have htext : chainText (call :: calls)
          = '.' :: (call.name.text ++ '(' :: (call.argument ++ [')'] ++ chainText calls)) := by
        simp [chainText, Call.text]
      have hname : ∀ c ∈ call.name.text, isNameChar c = true := fun c hc =>
        Bool.or_eq_true_iff.2 (Or.inl (call.name.allWord c hc))
      rw [htext, isSome_find?_arrayCall?_name hname, find?_arrayCall?_of_not_mem hargument, ih,
        List.any_cons]

theorem arrayCall?_isSome_iff :
    (arrayCall? s).isSome = true ↔ ∃ gap : Gap, ".array".toList ++ (gap.text ++ ['(']) <+: s := by
  rw [arrayCall?]
  constructor
  · intro h
    cases hafter : after? ".array".toList s with
    | none =>
        rw [hafter] at h
        exact absurd h (by decide)
    | some rest =>
        obtain rfl := after?_eq_some_iff.1 hafter
        simp only [hafter, Option.bind_eq_bind, Option.bind_some] at h
        split at h
        · next hparen =>
            obtain ⟨more, hmore⟩ := List.head?_eq_some_iff.1 hparen
            refine ⟨⟨rest.takeWhile isBlank, fun c hc => List.mem_takeWhile_imp hc⟩, more, ?_⟩
            calc ".array".toList ++ (rest.takeWhile isBlank ++ ['(']) ++ more
                = ".array".toList ++ (rest.takeWhile isBlank ++ stripStart rest) := by rw [hmore]; simp
              _ = ".array".toList ++ rest := by rw [stripStart, List.takeWhile_append_dropWhile]
        · exact absurd h (by decide)
  · rintro ⟨gap, rest, rfl⟩
    have hafter : after? ".array".toList (".array".toList ++ (gap.text ++ ['(']) ++ rest)
        = some (gap.text ++ '(' :: rest) := after?_eq_some_iff.2 (by simp)
    simp only [hafter, Option.bind_eq_bind, Option.bind_some]
    rw [stripStart_of_blank gap.blank, stripStart_cons rfl]
    rfl

/-- An array call is written with its parenthesis, and white space may stand in front of that. -/
theorem isSome_find?_arrayCall?_iff : (find? arrayCall? s).isSome = true
    ↔ ∃ gap : Gap, ".array".toList ++ (gap.text ++ ['(']) <:+: s := by
  rw [find?, first?_isSome_iff]
  simp only [arrayCall?_isSome_iff]
  constructor
  · rintro ⟨front, rest, rfl, gap, hgap⟩
    exact ⟨gap, hgap.isInfix.trans (List.suffix_append front rest).isInfix⟩
  · rintro ⟨gap, front, rest, rfl⟩
    exact ⟨front, _, List.append_assoc .., gap, List.prefix_append _ rest⟩

/-- An array call stands on one side of a character that it does not have. -/
theorem isSome_find?_arrayCall?_append_cons (hcall : c ∉ ".array(".toList) (hblank : isBlank c = false)
    (s t : Text) : (find? arrayCall? (s ++ c :: t)).isSome
      = ((find? arrayCall? s).isSome || (find? arrayCall? t).isSome) := by
  rw [Bool.eq_iff_iff, Bool.or_eq_true]
  simp only [isSome_find?_arrayCall?_iff, ← exists_or]
  refine exists_congr fun gap => infix_append_cons_iff ?_
  have hgap : c ∉ gap.text := fun hc => nomatch (gap.blank c hc).symm.trans hblank
  have hmark : c ∉ ".array".toList ∧ c ≠ '(' := by
    constructor
    · exact fun hc => hcall (List.mem_append_left ['('] hc)
    · rintro rfl
      exact hcall (by decide)
  simp only [List.mem_append, List.mem_singleton, not_or]
  exact ⟨hmark.1, hgap, hmark.2⟩

/-! ## The column of a fragment -/

/-- **A column is read from its fragment**, with white space in front of it: its name, its builder, and
    whether anything behind the parenthesis makes an array. -/
theorem parseColumn?_named (gap : Gap) (name builder : Word) (more : Text) :
    parseColumn? (gap.text ++ (name.text ++ ':' :: ' ' :: (builder.text ++ '(' :: more)))
      = some ⟨name.text, Field.lowerType builder.text
          ++ if (find? arrayCall? more).isSome then Field.arrayMark else []⟩ := by
  have hword {w : Text} (hw : AllWord w) : '.' ∉ w := not_mem_of_allWord hw (by decide)
  have hhead : '.' ∉ gap.text ++ (name.text ++ ':' :: ' ' :: (builder.text ++ ['('])) := by
    have hgap : '.' ∉ gap.text := not_mem_of_allBlank gap.blank (by decide)
    simp [hgap, hword name.allWord, hword builder.allWord]
  have harray : find? arrayCall? (gap.text ++ (name.text ++ ':' :: ' ' :: (builder.text ++ '(' :: more)))
      = find? arrayCall? more := by
    rw [← find?_arrayCall?_of_not_mem hhead more]
    simp
  have hstart : stripStart (gap.text ++ (name.text ++ ':' :: ' ' :: (builder.text ++ '(' :: more)))
      = name.text ++ ':' :: ' ' :: (builder.text ++ '(' :: more) := by
    rw [stripStart_of_blank gap.blank, stripStart_append_of_allWord name.allWord name.ne_nil]
  obtain ⟨hname, hafter⟩ := takeWhile_append_cons (c := ':') name.allWord (by decide)
    (' ' :: (builder.text ++ '(' :: more))
  obtain ⟨hbuilder, -⟩ := takeWhile_append_cons (c := '(') builder.allWord (by decide) more
  have hcolon (s : Text) : stripStart (':' :: s) = ':' :: s := stripStart_cons rfl
  have hblank : stripStart (' ' :: (builder.text ++ '(' :: more)) = builder.text ++ '(' :: more := by
    have hgap : AllBlank [' '] := by decide
    have hstripped : stripStart ([' '] ++ (builder.text ++ '(' :: more))
        = stripStart (builder.text ++ '(' :: more) := stripStart_of_blank hgap
    rwa [stripStart_append_of_allWord builder.allWord builder.ne_nil] at hstripped
  rw [parseColumn?]
  simp only [hstart, hname, hafter, hcolon, hblank, hbuilder, harray]
  simp [name.ne_nil, builder.ne_nil]

/-- White space in front of a fragment changes nothing. -/
theorem parseColumn?_blank_append (hs : AllBlank s) (t : Text) : parseColumn? (s ++ t) = parseColumn? t := by
  have hdot : '.' ∉ s := not_mem_of_allBlank hs (by decide)
  rw [parseColumn?, parseColumn?, stripStart_of_blank hs, find?_arrayCall?_of_not_mem hdot]

/-- No array call reaches into white space at the end. -/
theorem isSome_find?_arrayCall?_append_blank (s : Text) (ht : AllBlank t) :
    (find? arrayCall? (s ++ t)).isSome = (find? arrayCall? s).isSome := by
  rw [Bool.eq_iff_iff, isSome_find?_arrayCall?_iff, isSome_find?_arrayCall?_iff]
  refine exists_congr fun gap => ⟨?_, fun h => h.trans (List.prefix_append s _).isInfix⟩
  rintro ⟨front, rest, he⟩
  -- the parenthesis is not among the white space
  have hparen : '(' ∉ t := not_mem_of_allBlank ht (by decide)
  have hsplit : front ++ (".array".toList ++ gap.text) ++ '(' :: rest = s ++ t := by
    rw [← he]
    simp
  rcases List.append_eq_append_iff.1 hsplit with ⟨more, hs, hmore⟩ | ⟨more, -, hmore⟩
  · cases more with
    | nil =>
        rw [List.nil_append] at hmore
        exact absurd (hmore ▸ List.mem_cons_self) hparen
    | cons d more =>
        obtain ⟨rfl, rfl⟩ := List.cons.inj hmore
        exact ⟨front, more, by rw [hs]; simp⟩
  · exact absurd (hmore ▸ by simp) hparen

/-- A run of word characters ends where white space follows the text. -/
theorem takeWhile_isWord_append_blank (s : Text) (ht : AllBlank t) :
    (s ++ t).takeWhile isWord = s.takeWhile isWord
      ∧ (s ++ t).dropWhile isWord = s.dropWhile isWord ++ t := by
  induction s with
  | nil =>
      cases t with
      | nil => exact ⟨rfl, rfl⟩
      | cons c t =>
          have hc : ¬ isWord c = true := by
            simp [isWord_eq_false_of_isBlank (ht c List.mem_cons_self)]
          exact ⟨List.takeWhile_cons_of_neg hc, List.dropWhile_cons_of_neg hc⟩
  | cons c s ih =>
      by_cases hc : isWord c = true
      · rw [List.cons_append, List.takeWhile_cons_of_pos hc, List.takeWhile_cons_of_pos hc,
          List.dropWhile_cons_of_pos hc, List.dropWhile_cons_of_pos hc, ih.1]
        exact ⟨rfl, ih.2⟩
      · rw [List.cons_append, List.takeWhile_cons_of_neg hc, List.takeWhile_cons_of_neg hc,
          List.dropWhile_cons_of_neg hc, List.dropWhile_cons_of_neg hc]
        exact ⟨rfl, rfl⟩

theorem stripStart_append_blank (s : Text) (ht : AllBlank t) :
    stripStart s = [] ∧ stripStart (s ++ t) = []
      ∨ stripStart s ≠ [] ∧ stripStart (s ++ t) = stripStart s ++ t := by
  simp only [stripStart, List.dropWhile_append]
  cases hs : s.dropWhile isBlank with
  | nil => exact Or.inl ⟨rfl, List.dropWhile_eq_nil_iff.2 ht⟩
  | cons c s => exact Or.inr ⟨List.cons_ne_nil _ _, rfl⟩

/-- The word behind white space does not change with white space at the end. -/
theorem takeWhile_stripStart_append_blank (s : Text) (ht : AllBlank t) :
    (stripStart (s ++ t)).takeWhile isWord = (stripStart s).takeWhile isWord := by
  rcases stripStart_append_blank s ht with ⟨hs, hst⟩ | ⟨-, hst⟩
  · rw [hs, hst]
  · rw [hst, (takeWhile_isWord_append_blank _ ht).1]

/-- White space behind a fragment changes nothing either. -/
theorem parseColumn?_append_blank (s : Text) (ht : AllBlank t) : parseColumn? (s ++ t) = parseColumn? s := by
  rw [parseColumn?, parseColumn?, isSome_find?_arrayCall?_append_blank s ht]
  rcases stripStart_append_blank s ht with ⟨hs, hst⟩ | ⟨-, hst⟩
  · rw [hs, hst]
  · rw [hst, (takeWhile_isWord_append_blank _ ht).1, (takeWhile_isWord_append_blank _ ht).2]
    rcases stripStart_append_blank ((stripStart s).dropWhile isWord) ht with ⟨hs, hst⟩ | ⟨hne, hst⟩
    · rw [hs, hst]
    · rw [hst]
      obtain ⟨c, rest, hrest⟩ := List.exists_cons_of_ne_nil hne
      rw [hrest]
      by_cases hc : c = ':'
      · subst hc
        simp only [List.cons_append, takeWhile_stripStart_append_blank rest ht]
      · -- no colon, and so no column
        simp only [List.cons_append]
        split
        · next he => exact absurd (List.cons.inj he).1 hc
        · split
          · next he => exact absurd (List.cons.inj he).1 hc
          · rfl

/-! ## The fragments of a block -/

/-- The fields of a text of fragments with commas between them. -/
def columnsIn (s : Text) : List Field := (pieces (· = ',') s).filterMap parseColumn?

theorem parseColumn?_of_blank (hs : AllBlank s) : parseColumn? s = none := by
  have hnone := parseColumn?_blank_append hs []
  rw [List.append_nil] at hnone
  rw [hnone]
  rfl

theorem columnsIn_append_comma (s t : Text) : columnsIn (s ++ ',' :: t) = columnsIn s ++ columnsIn t := by
  rw [columnsIn, pieces_append_of_pos (decide_eq_true rfl), List.filterMap_append]
  rfl

theorem columnsIn_append_blank (s : Text) (ht : AllBlank t) : columnsIn (s ++ t) = columnsIn s := by
  have hcomma : ∀ c ∈ t, decide (c = ',') = false := fun c hc =>
    decide_eq_false (ne_of_mem_of_not_mem hc (not_mem_of_allBlank ht (by decide)))
  obtain ⟨front, last, hs, hst⟩ := exists_pieces_append hcomma s
  rw [columnsIn, columnsIn, hs, hst, List.filterMap_append, List.filterMap_append,
    List.filterMap_cons, List.filterMap_cons, parseColumn?_append_blank last ht]

theorem columnsIn_blank_append (hs : AllBlank s) (t : Text) : columnsIn (s ++ t) = columnsIn t := by
  have hcomma : ∀ c ∈ s, decide (c = ',') = false := fun c hc =>
    decide_eq_false (ne_of_mem_of_not_mem hc (not_mem_of_allBlank hs (by decide)))
  cases ht : pieces (fun c => decide (c = ',')) t with
  | nil => exact absurd ht (pieces_ne_nil t)
  | cons first more =>
      rw [columnsIn, columnsIn, pieces_append_first hcomma ht, ht, List.filterMap_cons,
        List.filterMap_cons, parseColumn?_blank_append hs first]

/-- Commas and white space at the end give no fields. -/
theorem columnsIn_append_tail (s : Text) (tail : Tail) : columnsIn (s ++ tail.text) = columnsIn s := by
  obtain ⟨t, ht⟩ := tail
  show columnsIn (s ++ t) = columnsIn s
  induction t generalizing s with
  | nil => rw [List.append_nil]
  | cons c t ih =>
      obtain ⟨hc, hmore⟩ := List.forall_mem_cons.1 ht
      rcases hc with rfl | hc
      · have hnone : columnsIn t = [] := ih [] hmore
        rw [columnsIn_append_comma, hnone, List.append_nil]
      · have hblank : AllBlank [c] := by simpa [AllBlank] using hc
        rw [← List.singleton_append, ← List.append_assoc, ih _ hmore, columnsIn_append_blank s hblank]

/-- **Listed items give the fields of the items.** -/
theorem columnsIn_listed {α : Type} (render : α → Text) (items : List (Gap × α)) (tail : Tail) :
    columnsIn (listed render [] items ++ tail.text)
      = items.flatMap fun item => columnsIn (render item.2) := by
  -- behind the first item, every item has its comma
  have hmore (s : Text) (more : List (Gap × α)) : columnsIn (s ++ listed render [','] more)
      = columnsIn s ++ more.flatMap fun item => columnsIn (render item.2) := by
    induction more generalizing s with
    | nil => simp [listed]
    | cons item more ih =>
        have htext : s ++ listed render [','] (item :: more)
            = s ++ ',' :: (item.1.text ++ render item.2 ++ listed render [','] more) := by
          simp [listed]
        rw [htext, columnsIn_append_comma, ih, columnsIn_blank_append item.1.blank, List.flatMap_cons]
  rw [columnsIn_append_tail]
  cases items with
  | nil => rfl
  | cons item more =>
      rw [listed, List.nil_append, hmore, columnsIn_blank_append item.1.blank, List.flatMap_cons]

/-- The fragments of a block give the fields of what stands between its braces, without the
    comments. -/
theorem filterMap_fragments {block body : Text} (h : stripComments block = '{' :: (body ++ ['}'])) :
    (fragments block).filterMap parseColumn? = columnsIn body := by
  have hstrip : strip ('{' :: (body ++ ['}'])) = '{' :: (body ++ ['}']) :=
    (strip_append_singleton (s := '{' :: body) (by decide)).trans (stripStart_cons rfl)
  have hopen : after? ['{'] ('{' :: (body ++ ['}'])) = some (body ++ ['}']) :=
    after?_eq_some_iff.2 rfl
  have hclose : endsWith ['}'] (body ++ ['}']) = true := endsWith_iff.2 (List.suffix_append _ _)
  unfold fragments
  simp only [h, hstrip, hopen, Option.getD_some, hclose, if_true, List.dropLast_concat]
  rw [List.filterMap_filter, columnsIn]
  refine List.filterMap_congr fun fragment _ => ?_
  -- a blank fragment gives no field
  cases hblank : allBlank fragment with
  | false => rfl
  | true => exact (parseColumn?_of_blank (by simpa [allBlank, AllBlank] using hblank)).symm

/-- A column is a fragment of its own and gives its field. -/
theorem columnsIn_column (column : Column) : columnsIn column.text = [column.field] := by
  have hcomma : ∀ c ∈ column.text, decide (c = ',') = false := fun c hc =>
    decide_eq_false (ne_of_mem_of_not_mem hc (not_mem_comma_column column))
  have hlabel : '.' ∉ '"' :: (column.label.text ++ ['"', ')']) := by
    have hword : '.' ∉ column.label.text := not_mem_of_allWord column.label.allWord (by decide)
    simp [hword]
  have htext : column.text = column.name.text ++ ':' :: ' ' :: (column.builder.text ++ '(' ::
      ('"' :: (column.label.text ++ ['"', ')']) ++ chainText column.calls)) := by
    simp [Column.text, Column.head]
  have hparse := parseColumn?_named ⟨[], by decide⟩ column.name column.builder
    ('"' :: (column.label.text ++ ['"', ')']) ++ chainText column.calls)
  rw [find?_arrayCall?_of_not_mem hlabel, isSome_find?_arrayCall?_chain] at hparse
  rw [columnsIn, pieces_of_forall hcomma, htext, List.filterMap_cons, List.filterMap_nil]
  simp only [List.nil_append] at hparse
  rw [hparse]
  rfl

/-- The fragments of a block of columns give the columns. -/
theorem filterMap_fragments_columns (columns : List (Gap × Column)) (tail : Tail) :
    (fragments ('{' :: (listed Column.text [] columns ++ tail.text ++ ['}']))).filterMap parseColumn?
      = columns.map fun column => column.2.field := by
  have hcolumns : Kept (listed Column.text [] columns) :=
    listed_of_append (Or.inl rfl) kept_nil (fun _ _ => Kept.append) (NoMark.kept (by decide))
      (fun _ hs => (noMark_of_allBlank hs).kept) fun column _ => kept_column column.2
  have hblock : Kept ('{' :: (listed Column.text [] columns ++ tail.text ++ ['}'])) :=
    (NoMark.kept (s := ['{']) (by decide)).append
      ((hcolumns.append (noMark_tail tail).kept).append (NoMark.kept (by decide)))
  rw [filterMap_fragments hblock.stripComments_eq, columnsIn_listed]
  simp only [columnsIn_column, List.map_eq_flatMap]

/-! ## The first mark -/

/-- A mark that does not stand at the start of a text stands somewhere behind it. -/
theorem indexOf?_pos {mark : Text} (h : after? mark s = none) {i : Nat} (hi : indexOf? mark s = some i) :
    0 < i := by
  obtain ⟨⟨front, rest⟩, hcut, rfl⟩ := Option.map_eq_some_iff.1 hi
  rw [List.length_pos_iff]
  rintro rfl
  have htext : s = mark ++ rest := eq_of_cut?_eq_some hcut
  rw [after?_eq_some_iff.2 htext] at h
  exact Option.some_ne_none _ h

/-- The nearer one of the mark that was found so far and another one. -/
def nearer (s : Text) (best : Option (Nat × Text)) (mark : Text) : Option (Nat × Text) :=
  match indexOf? mark s, best with
  | some i, some (j, other) => if i < j then some (i, mark) else some (j, other)
  | some i, none => some (i, mark)
  | none, best => best

/-- Nothing is found at the start of the text. -/
def NotFirst (best : Option (Nat × Text)) : Prop := ∀ found ∈ best, 0 < found.1

variable {mark other : Text} {best : Option (Nat × Text)}

theorem nearer_first (h : indexOf? mark s = some 0) (hbest : NotFirst best) :
    nearer s best mark = some (0, mark) := by
  unfold nearer
  rw [h]
  cases best with
  | none => rfl
  | some found => exact if_pos (hbest found rfl)

theorem nearer_stays : nearer s (some (0, mark)) other = some (0, mark) := by
  unfold nearer
  cases indexOf? other s with
  | none => rfl
  | some i =>
      dsimp only
      rw [if_neg (Nat.not_lt_zero i)]

theorem notFirst_nearer (h : after? other s = none) (hbest : NotFirst best) :
    NotFirst (nearer s best other) := by
  intro found hfound
  unfold nearer at hfound
  cases hindex : indexOf? other s with
  | none =>
      rw [hindex] at hfound
      exact hbest found hfound
  | some i =>
      have hi := indexOf?_pos h hindex
      rw [hindex] at hfound
      cases best with
      | none =>
          obtain rfl := Option.some.inj hfound
          exact hi
      | some best =>
          dsimp only at hfound
          split at hfound
          · obtain rfl := Option.some.inj hfound
            exact hi
          · exact hbest found hfound

/-- The mark at the start of a text comes first, if no other mark stands there. -/
theorem firstMark?_append {items : List Text} (hne : mark ≠ []) (hmark : mark ∈ items)
    (hother : ∀ other ∈ items, other ≠ mark → after? other (mark ++ rest) = none) :
    firstMark? items (mark ++ rest) = some mark := by
  have hfirst : indexOf? mark (mark ++ rest) = some 0 := by
    rw [indexOf?, cut?_append hne]
    rfl
  have hstay (items : List Text) :
      items.foldl (nearer (mark ++ rest)) (some (0, mark)) = some (0, mark) := by
    induction items with
    | nil => rfl
    | cons item items ih => rw [List.foldl_cons, nearer_stays, ih]
  -- up to the mark nothing is found at the start
  have hfound (best : Option (Nat × Text)) (hbest : NotFirst best) :
      items.foldl (nearer (mark ++ rest)) best = some (0, mark) := by
    induction items generalizing best with
    | nil => exact absurd hmark List.not_mem_nil
    | cons item items ih =>
        obtain ⟨hitem, hitems⟩ := List.forall_mem_cons.1 hother
        rw [List.foldl_cons]
        by_cases he : item = mark
        · rw [he, nearer_first hfirst hbest, hstay]
        · exact ih ((List.mem_cons.1 hmark).resolve_left (Ne.symm he)) hitems _
            (notFirst_nearer (hitem he) hbest)
  have hnone : NotFirst none := by
    intro found h
    exact absurd h (Option.not_mem_none found)
  exact congrArg (Option.map Prod.snd) (hfound none hnone)

/-! ## Files -/

/-- What a file defines: a table with a name and a block of columns. -/
structure TableSource where
  mark : Text
  mem_marks : mark ∈ marks
  name : Text
  strip_ne_nil : strip name ≠ []
  plain : ∀ c ∈ name, isQuote c = false ∧ c ≠ '{' ∧ c ≠ '}'
  columns : List (Gap × Column)
  tail : Tail

/-- The text of a file. -/
def TableSource.text (source : TableSource) : Text :=
  source.mark ++ ('"' :: (source.name ++ ['"', ',', ' '])
    ++ '{' :: (listed Column.text [] source.columns ++ source.tail.text ++ '}' :: ");".toList))

/-- No mark of a table starts like another one. -/
theorem after?_marks {mark other : Text} (hmark : mark ∈ marks) (hother : other ∈ marks)
    (hne : other ≠ mark) (rest : Text) : after? other (mark ++ rest) = none := by
  simp only [marks, List.map_cons, List.map_nil, List.mem_cons, List.not_mem_nil, or_false]
    at hmark hother
  rcases hmark with rfl | rfl | rfl
  all_goals rcases hother with rfl | rfl | rfl
  all_goals first | rfl | exact absurd rfl hne

/-- The name of a table is what stands in quotes behind the mark. -/
theorem tableName_text (source : TableSource) :
    tableName source.text source.mark = strip source.name := by
  have hne : source.mark ≠ [] := (show ∀ mark ∈ marks, mark ≠ [] by decide) _ source.mem_marks
  have hname : nameAfter? source.mark source.text = some source.name := by
    rw [TableSource.text]
    generalize '{' :: (listed Column.text [] source.columns ++ source.tail.text ++ '}' :: ");".toList)
      = rest
    have hplain : ∀ c ∈ source.name, (!isQuote c) = true := fun c hc => by
      rw [(source.plain c hc).1]
      rfl
    have hclose : (!isQuote '"') = false := rfl
    have hafter : after? source.mark (source.mark ++ ('"' :: (source.name ++ ['"', ',', ' ']) ++ rest))
        = some ('"' :: (source.name ++ '"' :: (',' :: ' ' :: rest))) :=
      after?_eq_some_iff.2 (by simp)
    have hquote (s : Text) : stripStart ('"' :: s) = '"' :: s := stripStart_cons rfl
    have htake : (source.name ++ '"' :: (',' :: ' ' :: rest)).takeWhile (fun c => !isQuote c)
        = source.name := by
      rw [List.takeWhile_append_of_pos hplain, List.takeWhile_cons_of_neg (by simp [hclose]),
        List.append_nil]
    have hdrop : (source.name ++ '"' :: (',' :: ' ' :: rest)).dropWhile (fun c => !isQuote c)
        = '"' :: (',' :: ' ' :: rest) := by
      rw [List.dropWhile_append_of_pos hplain, List.dropWhile_cons_of_neg (by simp [hclose])]
    rw [nameAfter?, hafter]
    simp only [Option.bind_eq_bind, Option.bind_some, hquote, htake, hdrop]
    rfl
  have hfind : find? (nameAfter? source.mark) source.text = some source.name :=
    first?_of_cut? (cut?_append hne _) (fun _ s hnone => by rw [nameAfter?, hnone]; rfl)
      fun _ => hname
  rw [tableName, hfind]

/-- **A file gives back what it defines**: one model with the name of the table and a field for each
    column. -/
theorem extract_tableSource (file : Text) (source : TableSource) :
    extract file source.text = ⟨[⟨strip source.name, stripExtension file,
      source.columns.map fun column => column.2.field⟩], []⟩ := by
  have hmark : NoBrace source.mark :=
    (show ∀ mark ∈ marks, NoBrace mark by decide) _ source.mem_marks
  have hne : source.mark ≠ [] :=
    (show ∀ mark ∈ marks, mark ≠ [] by decide) _ source.mem_marks
  have hlead : NoBrace ('"' :: (source.name ++ ['"', ',', ' '])) :=
    noBrace_append (s := ['"']) (by decide)
      (noBrace_append (fun c hc => (source.plain c hc).2) (by decide))
  have hbody : Balanced (listed Column.text [] source.columns ++ source.tail.text) := by
    refine Balanced.append ?_ (noBrace_tail source.tail).balanced
    exact listed_of_append (Or.inl rfl) balanced_nil (fun _ _ => Balanced.append)
      (NoBrace.balanced (by decide)) (fun _ hs => (noBrace_of_allBlank hs).balanced)
      fun column _ => (noBrace_column column.2).balanced
  have hblock : block? source.mark source.text
      = some ('{' :: (listed Column.text [] source.columns ++ source.tail.text ++ ['}'])) := by
    rw [block?, TableSource.text, blockAfter?_braces hmark hlead hbody (cut?_append hne _)]
    rfl
  have htable : (strip source.name).isEmpty = false := by simpa using source.strip_ne_nil
  have hfirst : firstMark? marks source.text = some source.mark :=
    firstMark?_append hne source.mem_marks fun _ hother hne =>
      after?_marks source.mem_marks hother hne _
  rw [extract, hfirst]
  simp only [tableName_text, htable, hblock, filterMap_fragments_columns]
  rfl

end ApiScan.ColumnTable
