import ApiScan.Model.DocumentSchema
import ApiScan.Proofs.Source.Comment
import ApiScan.Proofs.Text.Search

set_option autoImplicit false

/-! # Registered names

A file registers its model by a call, and the name of the model is made of the first argument of the
call. The argument need not be a literal: all that is asked of it is that it starts with a character
that is no word character, and that nothing but its first character ends a line. So a variable behind
a blank gives its own name to the model, and a literal gives its content only if neither quotes nor
commas stand in it. -/

namespace ApiScan.DocumentSchema

open Text Source

variable {file text front argument : Text} {model : Model}

/-! ## Registrations -/

/-- Behind `front` stands a call that registers `argument`, which goes on up to a comma. -/
structure Registers (text front argument : Text) : Prop where
  stands : ∃ rest, text = front ++ ("model(".toList ++ (argument ++ ',' :: rest))
  starts : ∃ c more, argument = c :: more ∧ isWord c = false ∧ ∀ d ∈ more, d ≠ ',' ∧ d ≠ '\n'

/-- The first call that registers something stands behind `front` and registers `argument`. -/
structure NamedBy (text front argument : Text) : Prop extends Registers text front argument where
  first : ∀ front' argument', Registers text front' argument' → front.length ≤ front'.length

/-- A registration stands at the start of a text. -/
def Starts (s arg : Text) : Prop :=
  ∃ c rest, s = "model(".toList ++ (c :: arg ++ ',' :: rest) ∧ isWord c = false
    ∧ ∀ d ∈ arg, d ≠ ',' ∧ d ≠ '\n'

theorem registration?_eq_some_iff {s arg : Text} : registration? s = some arg ↔ Starts s arg := by
  unfold registration?
  constructor
  · intro h
    split at h
    · next c rest hafter =>
        split at h
        · exact nomatch h
        · next hword =>
            split at h
            · next behind hbehind =>
                obtain ⟨harg, more, hmore⟩ := upToComma_iff.1
                  ⟨Option.some.inj h, by rw [hbehind]; rfl⟩
                exact ⟨c, more, by rw [after?_eq_some_iff.1 hafter, hmore]; rfl, by simpa using hword, harg⟩
            · exact nomatch h
    · exact nomatch h
  · rintro ⟨c, rest, rfl, hword, harg⟩
    have hafter := after?_eq_some_iff.2
      (show "model(".toList ++ (c :: arg ++ ',' :: rest) = _ ++ c :: (arg ++ ',' :: rest) from rfl)
    obtain ⟨htake, hhead⟩ := upToComma_iff.2 ⟨harg, rest, rfl⟩
    obtain ⟨behind, hdrop⟩ := List.head?_eq_some_iff.1 hhead
    simp only [hafter, hword, Bool.false_eq_true, if_false, hdrop, htake]

theorem registers_cons_iff {front : Text} {c : Char} {arg : Text} :
    Registers text front (c :: arg) ↔ isWord c = false ∧ (∀ d ∈ arg, d ≠ ',' ∧ d ≠ '\n')
      ∧ ∃ rest, text = front ++ ("model(".toList ++ (c :: arg ++ ',' :: rest)) := by
  constructor
  · rintro ⟨hstands, d, more, he, hword, hmore⟩
    obtain ⟨rfl, rfl⟩ := List.cons.inj he
    exact ⟨hword, hmore, hstands⟩
  · rintro ⟨hword, hmore, hstands⟩
    exact ⟨hstands, c, arg, rfl, hword, hmore⟩

/-- **The first registration is what is found.** -/
theorem find?_registration?_iff {arg : Text} :
    find? registration? text = some arg ↔ ∃ front c, NamedBy text front (c :: arg) := by
  rw [find?_eq_some_iff_leftmost fun _ _ => registration?_eq_some_iff]
  refine exists_congr fun front => ⟨fun ⟨⟨_, htext, c, rest, hstarts, hword, harg⟩, hfirst⟩ => ?_, ?_⟩
  · refine ⟨c, registers_cons_iff.2 ⟨hword, harg, rest, by rw [htext, hstarts]⟩, ?_⟩
    rintro front' argument' ⟨⟨rest', htext'⟩, d, arg', rfl, hword', harg'⟩
    exact hfirst front' _ arg' htext' ⟨d, rest', rfl, hword', harg'⟩
  · rintro ⟨c, hregisters, hfirst⟩
    obtain ⟨hword, harg, rest, htext⟩ := registers_cons_iff.1 hregisters
    refine ⟨⟨_, htext, c, rest, rfl, hword, harg⟩, ?_⟩
    rintro front' _ arg' htext' ⟨d, rest', rfl, hword', harg'⟩
    exact hfirst front' (d :: arg') (registers_cons_iff.2 ⟨hword', harg', rest', htext'⟩)

/-- What is in front of the comma is the argument. -/
theorem eq_of_registers {argument' rest : Text} (h : Registers text front argument)
    (htext : text = front ++ ("model(".toList ++ (argument' ++ ',' :: rest))) (hne : argument' ≠ [])
    (hcomma : ∀ d ∈ argument'.tail, d ≠ ',') : argument = argument' := by
  obtain ⟨c, more, rfl, -, hmore⟩ := h.starts
  obtain ⟨rest', hstands⟩ := h.stands
  obtain ⟨d, more', rfl⟩ := List.exists_cons_of_ne_nil hne
  have hbehind := List.append_cancel_left (List.append_cancel_left (hstands.symm.trans htext))
  obtain ⟨rfl, htail⟩ := List.cons.inj hbehind
  rw [(append_cons_inj (fun d hd => (hmore d hd).1) hcomma htail).1, List.tail_cons]

/-! ## Names -/

/-- The name that an argument registers: its first character and its quotes do not belong to it. -/
def registeredName (argument : Text) : Text := strip (argument.tail.filter fun c => !isQuote c)

theorem modelName_of_namedBy (h : NamedBy text front argument) :
    modelName text = registeredName argument := by
  obtain ⟨c, more, rfl, -⟩ := h.starts
  rw [modelName, find?_registration?_iff.2 ⟨front, c, h⟩]
  rfl

theorem exists_namedBy (h : modelName text ≠ []) : ∃ front argument, NamedBy text front argument := by
  unfold modelName at h
  split at h
  · next arg hfound =>
      obtain ⟨front, c, hnamed⟩ := find?_registration?_iff.1 hfound
      exact ⟨front, _, hnamed⟩
  · exact absurd rfl h

/-- A model that is found has the registered name, and the fields of a block and of time stamps. -/
theorem eq_of_mem_extract (h : model ∈ (extract file text).found) :
    modelName text ≠ [] ∧ ∃ block stamped, model = ⟨modelName text, stripExtension file,
      fieldsOf (flatten block) ++ if stamped = true then timestampFields else []⟩ := by
  unfold extract at h
  split at h
  · exact absurd h List.not_mem_nil
  · split at h
    · exact absurd h List.not_mem_nil
    · simp only at h
      split at h
      · exact absurd h List.not_mem_nil
      · next hname => exact ⟨by simpa using hname, _, _, List.mem_singleton.1 h⟩

/-- What is registered holds neither quotes nor commas. -/
theorem plain_of_mem_registeredName {c : Char} (h : Registers text front argument)
    (hc : c ∈ registeredName argument) : isQuote c = false ∧ c ≠ ',' := by
  obtain ⟨d, more, rfl, -, hmore⟩ := h.starts
  obtain ⟨hmem, hquote⟩ := List.mem_filter.1 (strip_isInfix.subset hc)
  exact ⟨by simpa using hquote, (hmore c hmem).1⟩

theorem filter_isQuote_of_plain {s : Text} (h : ∀ c ∈ s, isQuote c = false) :
    s.filter (fun c => !isQuote c) = s :=
  List.filter_eq_self.2 fun c hc => by simp [h c hc]

/-- Of an argument between white space, what is registered lacks the first character only if no white
    space is in front. -/
theorem registeredName_between {gap s after : Text} (hgap : AllBlank gap) (hafter : AllBlank after)
    (hs : s ≠ []) : registeredName (gap ++ (s ++ after))
      = strip ((if gap = [] then s.tail else s).filter fun c => !isQuote c) := by
  have hblank {t : Text} (ht : AllBlank t) : t.filter (fun c => !isQuote c) = t :=
    filter_isQuote_of_plain fun c hc => isQuote_eq_false (Or.inr (ht c hc))
  cases gap with
  | nil =>
      rw [if_pos rfl, List.nil_append, registeredName, List.tail_append_of_ne_nil hs,
        List.filter_append, hblank hafter, strip_append_of_blank hafter]
  | cons d gap =>
      have hgap : AllBlank gap := fun c hc => hgap c (List.mem_cons_of_mem d hc)
      rw [if_neg (List.cons_ne_nil d gap), registeredName, List.cons_append, List.tail_cons,
        List.filter_append, List.filter_append, hblank hgap, hblank hafter, strip_blank_append hgap,
        strip_append_of_blank hafter]

/-! ## Literals -/

/-- Behind `front` stands a call whose first argument is a complete literal, with a comma behind
    it. -/
def LiteralBehind (text front content : Text) : Prop :=
  ∃ gap quote after rest,
    text = front ++ ("model(".toList
      ++ ((gap ++ ((quote :: (content ++ [quote])) ++ after)) ++ ',' :: rest))
    ∧ AllBlank gap ∧ AllBlank after ∧ isQuote quote = true ∧ LiteralBody quote content

/-- A literal without quotes and commas is registered by its content. -/
theorem registeredName_of_literal {content : Text} (h : Registers text front argument)
    (hliteral : LiteralBehind text front content)
    (hplain : ∀ c ∈ content, isQuote c = false ∧ c ≠ ',') :
    registeredName argument = strip content := by
  obtain ⟨gap, quote, after, rest, htext, hgap, hafter, hquote, -⟩ := hliteral
  have hcomma {c : Char} (hc : isBlank c = true ∨ isQuote c = true ∨ c ∈ content) : c ≠ ',' := by
    rintro rfl
    rcases hc with hblank | hquote | hmem
    · exact nomatch hblank
    · exact nomatch hquote
    · exact (hplain ',' hmem).2 rfl
  have hargument : argument = gap ++ ((quote :: (content ++ [quote])) ++ after) := by
    refine eq_of_registers h htext (by simp) fun d hd => hcomma ?_
    have hmem := List.mem_of_mem_tail hd
    simp only [List.mem_append, List.mem_cons, List.not_mem_nil, or_false] at hmem
    rcases hmem with hm | (rfl | hm | rfl) | hm
    · exact Or.inl (hgap d hm)
    · exact Or.inr (Or.inl hquote)
    · exact Or.inr (Or.inr hm)
    · exact Or.inr (Or.inl hquote)
    · exact Or.inl (hafter d hm)
  have hcontent : (content ++ [quote]).filter (fun c => !isQuote c) = content := by
    rw [List.filter_append, filter_isQuote_of_plain fun c hc => (hplain c hc).1]
    simp [hquote]
  rw [hargument, registeredName_between hgap hafter (List.cons_ne_nil _ _)]
  split
  · rw [List.tail_cons, hcontent]
  · rw [List.filter_cons_of_neg (by simp [hquote]), hcontent]

/-- **A call registers the content of its literal** exactly if the content is free of quotes and
    commas. -/
theorem registers_literal_iff (h : Registers text front argument) :
    (∃ content, LiteralBehind text front content ∧ registeredName argument = strip content) ↔
      ∃ content, LiteralBehind text front content ∧ ∀ c ∈ content, isQuote c = false ∧ c ≠ ',' := by
  constructor
  · rintro ⟨content, hliteral, hname⟩
    refine ⟨content, hliteral, fun c hc => ?_⟩
    -- white space may be trimmed away, but it is neither a quote nor a comma
    cases hblank : isBlank c with
    | true =>
        refine ⟨isQuote_eq_false (Or.inr hblank), ?_⟩
        rintro rfl
        exact nomatch hblank
    | false => exact plain_of_mem_registeredName h (hname ▸ mem_strip hc hblank)
  · rintro ⟨content, hliteral, hplain⟩
    exact ⟨content, hliteral, registeredName_of_literal h hliteral hplain⟩

/-! ## Variables -/

/-- Behind `front` stands a call whose first argument is an identifier between white space. -/
structure VariableBehind (text front gap name after : Text) : Prop where
  stands : ∃ rest, text = front ++ ("model(".toList ++ ((gap ++ (name ++ after)) ++ ',' :: rest))
  before : AllBlank gap
  behind : AllBlank after
  name_ne : name ≠ []
  identifier : ∀ c ∈ name, isNameChar c = true

/-- **An identifier is registered** exactly if something that is no word character starts the
    argument and what follows it is on one line. -/
theorem registers_variable_iff {gap name after : Text}
    (h : VariableBehind text front gap name after) :
    Registers text front (gap ++ (name ++ after)) ↔
      (gap ≠ [] ∨ name.head? = some '$') ∧ '\n' ∉ (gap ++ (name ++ after)).tail := by
  have hcomma : ∀ d ∈ gap ++ (name ++ after), d ≠ ',' := by
    rintro d hd rfl
    rcases List.mem_append.1 hd with hm | hm
    · exact nomatch h.before ',' hm
    · rcases List.mem_append.1 hm with hm | hm
      · exact nomatch h.identifier ',' hm
      · exact nomatch h.behind ',' hm
  have hstart : ∃ c more, gap ++ (name ++ after) = c :: more ∧
      (isWord c = false ↔ gap ≠ [] ∨ name.head? = some '$') := by
    cases gap with
    | nil =>
        obtain ⟨c, more, rfl⟩ := List.exists_cons_of_ne_nil h.name_ne
        refine ⟨c, more ++ after, rfl, fun hword => Or.inr ?_, fun hdollar => ?_⟩
        · rw [(isWord_or_eq_dollar (h.identifier c List.mem_cons_self)).resolve_left
            (Bool.eq_false_iff.1 hword), List.head?_cons]
        · rw [Option.some.inj (hdollar.resolve_left (absurd rfl))]
          rfl
    | cons d gap =>
        exact ⟨d, gap ++ (name ++ after), rfl, fun _ => Or.inl (List.cons_ne_nil d gap),
          fun _ => isWord_eq_false_of_isBlank (h.before d List.mem_cons_self)⟩
  obtain ⟨c, more, hargument, hword⟩ := hstart
  obtain ⟨rest, hstands⟩ := h.stands
  rw [hargument] at hcomma hstands
  rw [hargument, List.tail_cons, registers_cons_iff, hword]
  refine and_congr_right fun _ => ⟨fun hmore hbreak => (hmore.1 '\n' hbreak).2 rfl, fun hbreak => ?_⟩
  refine ⟨fun d hd => ⟨hcomma d (List.mem_cons_of_mem c hd), ?_⟩, rest, hstands⟩
  rintro rfl
  exact hbreak hd

/-- An identifier gives its own name, without the first character if it stands right behind the
    parenthesis. -/
theorem registeredName_of_variable {gap name after : Text}
    (h : VariableBehind text front gap name after) :
    registeredName (gap ++ (name ++ after)) = if gap = [] then name.tail else name := by
  have hplain {s : Text} (hs : ∀ c ∈ s, isNameChar c = true) :
      strip (s.filter fun c => !isQuote c) = s := by
    rw [filter_isQuote_of_plain fun c hc => (noMark_name hs c hc).2]
    exact strip_of_forall fun c hc => isBlank_eq_false_of_isNameChar (hs c hc)
  rw [registeredName_between h.before h.behind h.name_ne]
  split
  · exact hplain fun c hc => h.identifier c (List.mem_of_mem_tail hc)
  · exact hplain h.identifier

/-- **The table of a model is what the first registration of its file registers.** For a literal this
    is the content exactly if neither quotes nor commas stand in it. A variable registers its own
    name, if it stands behind white space, and the part of it behind a dollar sign in front; for this
    nothing but the first character of the argument may end a line. -/
theorem table_of_registration (file text : Text) :
    (∀ model ∈ (extract file text).found, ∃ front argument, NamedBy text front argument)
    ∧ (∀ model ∈ (extract file text).found, ∀ front argument, NamedBy text front argument →
        model.table = registeredName argument
        ∧ ((∃ content, LiteralBehind text front content ∧ model.table = strip content) ↔
          ∃ content, LiteralBehind text front content
            ∧ ∀ c ∈ content, isQuote c = false ∧ c ≠ ','))
    ∧ ∀ front gap name after, VariableBehind text front gap name after →
        (Registers text front (gap ++ (name ++ after)) ↔
          (gap ≠ [] ∨ name.head? = some '$') ∧ '\n' ∉ (gap ++ (name ++ after)).tail)
        ∧ ∀ model ∈ (extract file text).found, NamedBy text front (gap ++ (name ++ after)) →
            model.table = if gap = [] then name.tail else name := by
  have htable {front argument : Text} {model : Model} (hmodel : model ∈ (extract file text).found)
      (hnamed : NamedBy text front argument) : model.table = registeredName argument := by
    obtain ⟨-, block, stamped, rfl⟩ := eq_of_mem_extract hmodel
    exact modelName_of_namedBy hnamed
  refine ⟨fun model hmodel => ?named, fun model hmodel front argument hnamed => ?literal,
    fun front gap name after hvariable => ?identifier⟩
  case named => exact exists_namedBy (eq_of_mem_extract hmodel).1
  case literal =>
    refine ⟨htable hmodel hnamed, ?_⟩
    rw [htable hmodel hnamed]
    exact registers_literal_iff hnamed.toRegisters
  case identifier =>
    refine ⟨registers_variable_iff hvariable, fun model hmodel hnamed => ?_⟩
    rw [htable hmodel hnamed, registeredName_of_variable hvariable]

/-- A file that registers a schema under a variable, behind a blank. -/
def byVariable : Text :=
  ("const s = new mongoose.Schema(\x7b name: \x7b type: String \x7d \x7d);\n" ++
    "module.exports = mongoose.model( User, s);\n").toList

theorem variableBehind_byVariable :
    VariableBehind byVariable ("const s = new mongoose.Schema(\x7b name: \x7b type: String \x7d \x7d);\n" ++
      "module.exports = mongoose.").toList [' '] "User".toList [] :=
  ⟨⟨" s);\n".toList, by decide⟩, by decide, by decide, by decide, by decide⟩

theorem not_literalBehind_byVariable (front content : Text) :
    ¬ LiteralBehind byVariable front content := by
  rintro ⟨gap, quote, after, rest, htext, -, -, hquote, -⟩
  have hnone : ∀ c ∈ byVariable, isQuote c = false := by decide
  have hmem : quote ∈ byVariable := by simp [htext]
  exact nomatch hquote.symm.trans (hnone quote hmem)

/-- The variable is registered, and the name of the table is that of the variable. -/
theorem variable_registered :
    ∃ model ∈ (extract "user.js".toList byVariable).found, model.table = "User".toList
      ∧ (∃ front argument, NamedBy byVariable front argument
        ∧ ¬ ∃ content, LiteralBehind byVariable front content ∧ model.table = strip content)
      ∧ ∃ front, VariableBehind byVariable front [' '] "User".toList []
        ∧ Registers byVariable front " User".toList := by
  obtain ⟨hnamed, hliteral, hvariable⟩ := table_of_registration "user.js".toList byVariable
  have hfound : ∃ model ∈ (extract "user.js".toList byVariable).found, model.table = "User".toList := by
    decide +kernel
  obtain ⟨model, hmodel, htable⟩ := hfound
  obtain ⟨front, argument, hfirst⟩ := hnamed model hmodel
  refine ⟨model, hmodel, htable, ⟨front, argument, hfirst, ?_⟩, _, variableBehind_byVariable,
    (hvariable _ _ _ _ variableBehind_byVariable).1.2 (by decide)⟩
  rw [(hliteral model hmodel front argument hfirst).2]
  rintro ⟨content, hbehind, -⟩
  exact not_literalBehind_byVariable front content hbehind

end ApiScan.DocumentSchema
