import ApiScan.Proofs.Model.Commented

set_option autoImplicit false

/-! # The calls behind a table

A file may hold several calls that define tables. The columns of its model are those of the block
behind the first call, whatever this call is given as a name; the name is the literal of the first call
with the same mark that is given one. So the name and the columns come from one call if the first call
is given a literal, and from two otherwise. -/

namespace ApiScan.ColumnTable

open Text Source

variable {text block after literal : Text}

/-! ## Calls -/

/-- A call that defines a table: a mark at a place of a text. -/
@[ext]
structure TableCall (text : Text) where
  front : Text
  mark : Text
  rest : Text
  mem_marks : mark ∈ marks
  text_eq : text = front ++ (mark ++ rest)

namespace TableCall

/-- The text from a call on. -/
def here (call : TableCall text) : Text := call.mark ++ call.rest

/-- The literal that a call is given as its first argument, if it is given one. -/
def literal? (call : TableCall text) : Option Text := nameAfter? call.mark call.here

/-- Whether a call stands in front of another one. -/
def Before (call other : TableCall text) : Prop := call.front.length < other.front.length

/-- Whether a call is the first one of its text. -/
def IsFirst (call : TableCall text) : Prop := ∀ other : TableCall text, ¬ other.Before call

/-- Whether a call is the first one with its mark that is given a literal. -/
def NamesFirst (call : TableCall text) : Prop :=
  call.literal?.isSome = true
    ∧ ∀ other : TableCall text, other.Before call → other.mark = call.mark → other.literal? = none

/-- Whether a block that a text follows is the one of a call: no brace and no other call stands between
    them. -/
def Owns (call : TableCall text) (block after : Text) : Prop :=
  ∃ gap, call.rest = gap ++ (block ++ after) ∧ '{' ∉ gap ∧ ∀ mark ∈ marks, ¬ mark <:+: gap

/-- Calls at one place are the same. -/
theorem eq_of_length_eq {call other : TableCall text} (h : call.front.length = other.front.length) :
    call = other := by
  obtain ⟨hfront, hhere⟩ := List.append_inj (call.text_eq.symm.trans other.text_eq) h
  have hmark : call.mark = other.mark := by
    by_contra hne
    have hnone := after?_marks other.mem_marks call.mem_marks hne other.rest
    rw [← hhere, after?_eq_some_iff.2 rfl] at hnone
    exact Option.some_ne_none _ hnone
  rw [hmark] at hhere
  exact TableCall.ext hfront hmark (List.append_cancel_left hhere)

/-- The first call is one only. -/
theorem IsFirst.eq {call other : TableCall text} (h : call.IsFirst) (hother : other.IsFirst) :
    call = other := by
  refine eq_of_length_eq (Nat.le_antisymm ?_ ?_)
  · exact Nat.le_of_not_lt (h other)
  · exact Nat.le_of_not_lt (hother call)

/-- The first call with a literal is one only for each mark. -/
theorem NamesFirst.eq {call other : TableCall text} (h : call.NamesFirst) (hother : other.NamesFirst)
    (hmark : other.mark = call.mark) : call = other := by
  have hle {a b : TableCall text} (ha : a.NamesFirst) (hb : b.NamesFirst) (hm : b.mark = a.mark) :
      a.front.length ≤ b.front.length := by
    by_contra hlt
    have hnone := ha.2 b (Nat.lt_of_not_le hlt) hm
    have hsome := hb.1
    rw [hnone] at hsome
    exact absurd hsome (by decide)
  exact eq_of_length_eq (Nat.le_antisymm (hle h hother hmark) (hle hother h hmark.symm))

end TableCall

namespace TableCall

/-- Marks do not overlap: the end of one is not the start of another one. -/
theorem not_prefix_of_mem_tails {mark other tail : Text} (hmark : mark ∈ marks) (hother : other ∈ marks)
    (htail : tail ∈ other.tail.tails) (hne : tail ≠ []) : ¬ tail <+: mark ∧ ¬ mark <+: tail :=
  (show ∀ other ∈ marks, ∀ tail ∈ other.tail.tails, tail ≠ [] →
    ∀ mark ∈ marks, ¬ tail <+: mark ∧ ¬ mark <+: tail by decide +kernel) other hother tail htail hne mark hmark

/-- A call is the first one if no mark stands in front of it. -/
theorem isFirst_of_front {call : TableCall text} (h : ∀ mark ∈ marks, ¬ mark <:+: call.front) :
    call.IsFirst := by
  intro other hbefore
  have htext := other.text_eq.symm.trans call.text_eq
  rcases List.append_eq_append_iff.1 htext with ⟨more, hfront, hrest⟩ | ⟨more, hfront, -⟩
  · rcases List.append_eq_append_iff.1 hrest with ⟨gap, hgap, -⟩ | ⟨tail, hmark, htail⟩
    · -- the other mark stands in front of the call as a whole
      exact h other.mark other.mem_marks ⟨other.front, gap, by rw [hfront, hgap, List.append_assoc]⟩
    · cases tail with
      | nil =>
          rw [List.append_nil] at hmark
          exact h other.mark other.mem_marks ⟨other.front, [], by rw [hfront, hmark, List.append_nil]⟩
      | cons c tail =>
          -- the end of the other mark is the start of this one
          have hmem : c :: tail ∈ other.mark.tail.tails := by
            rw [List.mem_tails]
            cases more with
            | nil =>
                rw [List.append_nil] at hfront
                exact absurd (congrArg List.length hfront) (Nat.ne_of_gt hbefore)
            | cons d more =>
                rw [hmark]
                exact List.suffix_append more (c :: tail)
          obtain ⟨hshort, hshort'⟩ :=
            not_prefix_of_mem_tails call.mem_marks other.mem_marks hmem (List.cons_ne_nil c tail)
          rcases List.prefix_or_prefix_of_prefix (List.prefix_append call.mark call.rest)
            (htail ▸ List.prefix_append (c :: tail) other.rest) with hlong | hlong
          · exact hshort' hlong
          · exact hshort hlong
  · have hlength := congrArg List.length hfront
    rw [List.length_append] at hlength
    exact absurd hbefore (Nat.not_lt.2 (hlength ▸ Nat.le_add_right _ _))

end TableCall

/-! ## The first block behind a call -/

/-- No brace opens in front of the first block of a text, and the block opens with one. -/
theorem exists_of_blockFrom? {owed : Int} {s : Text} (h : blockFrom? owed s = some (block, after)) :
    ∃ gap body, s = gap ++ (block ++ after) ∧ block = '{' :: body ∧ '{' ∉ gap := by
  fun_induction blockFrom? owed s with
  | case1 => cases h
  | case2 owed cs =>
      obtain ⟨hs, hne⟩ := eq_of_blockBody? h
      obtain ⟨c, body, rfl⟩ := List.exists_cons_of_ne_nil hne
      obtain ⟨rfl, -⟩ := List.cons.inj hs
      exact ⟨[], body, hs, rfl, List.not_mem_nil⟩
  | case3 owed c cs hc ih =>
      obtain ⟨gap, body, rfl, hblock, hgap⟩ := ih h
      refine ⟨c :: gap, body, rfl, hblock, fun hmem => ?_⟩
      rcases List.mem_cons.1 hmem with rfl | hmem
      · exact hc rfl
      · exact hgap hmem

/-- The first block behind a call is the block of a call: of this one, or of the last one in front of
    the block. -/
theorem TableCall.exists_owns {gap : Text} (call : TableCall text)
    (hrest : call.rest = gap ++ (block ++ after)) (hgap : '{' ∉ gap) :
    ∃ owner : TableCall text, owner.Owns block after := by
  by_cases hmark : ∀ mark ∈ marks, ¬ mark <:+: gap
  · exact ⟨call, gap, hrest, hgap, hmark⟩
  · push Not at hmark
    obtain ⟨mark, hmem, front, rest, rfl⟩ := hmark
    -- the next call stands behind a shorter gap
    let next : TableCall text :=
      { front := call.front ++ (call.mark ++ front)
        mark := mark
        rest := rest ++ (block ++ after)
        mem_marks := hmem
        text_eq := call.text_eq.trans (by simp [hrest]) }
    exact next.exists_owns rfl fun hrest => hgap (by simp [hrest])
termination_by gap.length
decreasing_by
  have hne : mark ≠ [] := (apart_marks mark hmem).1
  have hpos := List.length_pos_iff.2 hne
  subst_vars
  simp only [List.length_append]
  omega

/-- The first block behind a call is the block of a call. -/
theorem TableCall.exists_owns_of_blockFrom? {call : TableCall text}
    (h : blockFrom? 0 call.here = some (block, after)) :
    ∃ owner : TableCall text, owner.Owns block after := by
  obtain ⟨gap, body, hhere, rfl, hgap⟩ := exists_of_blockFrom? h
  have hbrace : '{' ∉ call.mark :=
    (show ∀ mark ∈ marks, '{' ∉ mark by decide) call.mark call.mem_marks
  rcases List.append_eq_append_iff.1 hhere with ⟨more, rfl, hrest⟩ | ⟨tail, hmark, hrest⟩
  · exact call.exists_owns hrest fun hmem => hgap (List.mem_append_right _ hmem)
  · cases tail with
    | nil => exact call.exists_owns (hrest.symm.trans (List.nil_append _).symm) List.not_mem_nil
    | cons c tail =>
        -- the block would open inside the mark
        obtain ⟨rfl, -⟩ := List.cons.inj hrest
        exact absurd (by simp [hmark]) hbrace

/-! ## The calls of a model -/

/-- The first mark of a text is that of its first call. -/
theorem exists_first {mark : Text} (h : firstMark? marks text = some mark) :
    ∃ first : TableCall text, first.mark = mark ∧ first.IsFirst
      ∧ blockAfter? mark text = blockFrom? 0 first.here := by
  rw [firstMark?_eq_find? apart_marks] at h
  obtain ⟨front, here, htext, hmark, hleast⟩ := find?_eq_some_iff.1 h
  obtain ⟨hmem, rest, rfl⟩ := markAt?_eq_some hmark
  refine ⟨⟨front, mark, rest, hmem, htext⟩, rfl, fun other hother => ?_, ?_⟩
  · have hnone := after?_of_markAt?_eq_none (hleast other.front other.here other.text_eq hother)
      other.mem_marks
    rw [TableCall.here, after?_eq_some_iff.2 rfl] at hnone
    exact Option.some_ne_none _ hnone
  · refine blockAfter?_of_marked? apart_marks (find?_eq_some_iff.2 ⟨front, _, htext, ?_, ?_⟩)
    · rw [marked?, hmark]
      rfl
    · intro front' rest' htext' hlt
      rw [marked?, hleast front' rest' htext' hlt]
      rfl

/-- No call stands in front of the first one, so no mark stands there. -/
theorem TableCall.IsFirst.after?_eq_none {first : TableCall text} (h : first.IsFirst) {front rest mark : Text}
    (htext : text = front ++ rest) (hlt : front.length < first.front.length) (hmark : mark ∈ marks) :
    after? mark rest = none := by
  rw [Option.eq_none_iff_forall_ne_some]
  intro after hafter
  exact h ⟨front, mark, after, hmark, htext.trans (by rw [after?_eq_some_iff.1 hafter])⟩ hlt

/-- The first call gives its mark. -/
theorem TableCall.IsFirst.firstMark? {first : TableCall text} (h : first.IsFirst) :
    firstMark? marks text = some first.mark := by
  rw [firstMark?_eq_find? apart_marks, find?_eq_some_iff]
  refine ⟨first.front, first.here, first.text_eq, ?_, fun front rest htext hlt => ?_⟩
  · cases hmark : markAt? marks first.here with
    | none =>
        have hnone := after?_of_markAt?_eq_none hmark first.mem_marks
        rw [TableCall.here, after?_eq_some_iff.2 rfl] at hnone
        exact nomatch hnone
    | some mark =>
        obtain ⟨hmem, rest, hhere⟩ := markAt?_eq_some hmark
        by_contra hne
        have hnone := after?_marks first.mem_marks hmem (fun he => hne (congrArg some he)) first.rest
        rw [← TableCall.here, hhere, after?_eq_some_iff.2 rfl] at hnone
        exact nomatch hnone
  · rw [markAt?, List.find?_eq_none]
    intro mark hmark
    rw [startsWith, h.after?_eq_none htext hlt hmark]
    decide

/-- The first call names the table if it is given a literal. -/
theorem TableCall.IsFirst.tableName {first : TableCall text} (h : first.IsFirst)
    (hliteral : first.literal? = some literal) : tableName text first.mark = strip literal := by
  have hfind : find? (nameAfter? first.mark) text = some literal := by
    rw [find?_eq_some_iff]
    refine ⟨first.front, first.here, first.text_eq, hliteral, fun front rest htext hlt => ?_⟩
    rw [nameAfter?, h.after?_eq_none htext hlt first.mem_marks]
    rfl
  rw [ColumnTable.tableName, hfind]

/-- **The first call gives the model**, if it is given a literal. -/
theorem TableCall.IsFirst.extract {first : TableCall text} (h : first.IsFirst) (file : Text)
    (hliteral : first.literal? = some literal) (hne : strip literal ≠ [])
    (hblock : blockFrom? 0 first.here = some (block, after)) :
    extract file text = ⟨[⟨strip literal, stripExtension file,
      (fragments block).filterMap parseColumn?⟩], []⟩ := by
  obtain ⟨other, hmark, hother, hafter⟩ := exists_first h.firstMark?
  obtain rfl := h.eq hother
  have hname : (strip literal).isEmpty = false := by simpa using hne
  rw [ColumnTable.extract, h.firstMark?]
  simp only [h.tableName hliteral, hname, block?, hafter, hblock]
  rfl

/-- The name of a table is the literal of the first call with the mark that is given one. -/
theorem exists_named {mark : Text} (hmem : mark ∈ marks) (hne : tableName text mark ≠ []) :
    ∃ named : TableCall text, named.mark = mark ∧ named.NamesFirst
      ∧ named.literal?.map strip = some (tableName text mark) := by
  unfold tableName at hne ⊢
  cases hfind : find? (nameAfter? mark) text with
  | none =>
      rw [hfind] at hne
      exact absurd rfl hne
  | some literal =>
      obtain ⟨front, here, htext, hliteral, hleast⟩ := find?_eq_some_iff.1 hfind
      obtain ⟨rest, hafter, -⟩ := Option.bind_eq_some_iff.1 hliteral
      obtain rfl := after?_eq_some_iff.1 hafter
      refine ⟨⟨front, mark, rest, hmem, htext⟩, rfl, ⟨?_, fun other hother hmark => ?_⟩, ?_⟩
      · exact Option.isSome_iff_exists.2 ⟨literal, hliteral⟩
      · have hmark : other.mark = mark := hmark
        rw [TableCall.literal?, hmark]
        exact hleast other.front other.here other.text_eq hother
      · exact congrArg (Option.map strip) hliteral

/-- Where the parts of a model come from: the columns from the first block behind the first call, which
    is the block of `owner`, and the name from the literal of `named`, the first call with the same mark
    that is given one. -/
structure TakenFrom (model : Model) (first owner named : TableCall text) : Prop where
  isFirst : first.IsFirst
  columns : ∃ block after, blockFrom? 0 first.here = some (block, after) ∧ owner.Owns block after
    ∧ model.fields = (fragments block).filterMap parseColumn?
  mark_eq : named.mark = first.mark
  namesFirst : named.NamesFirst
  table : named.literal?.map strip = some model.table

/-- **A table takes its columns from the first call and its name from the first literal.** They come
    from the same call exactly if the call with the columns is the first one with the mark that is given
    a literal; where the columns are those of the first call, exactly if it is given a literal. -/
theorem calls_of_extract (file text : Text) : ∀ model ∈ (extract file text).found,
    ∃ first owner named : TableCall text, TakenFrom model first owner named
      ∧ (named = owner ↔ owner.mark = first.mark ∧ owner.NamesFirst)
      ∧ (owner = first → (named = owner ↔ first.literal?.isSome = true)) := by
  intro model hmodel
  unfold extract at hmodel
  cases hmark : firstMark? marks text with
  | none =>
      rw [hmark] at hmodel
      exact absurd hmodel List.not_mem_nil
  | some mark =>
      rw [hmark] at hmodel
      simp only at hmodel
      split at hmodel
      · exact absurd hmodel List.not_mem_nil
      · next hname =>
          split at hmodel
          · exact absurd hmodel List.not_mem_nil
          · next block hblock =>
              obtain rfl := List.mem_singleton.1 hmodel
              obtain ⟨first, rfl, hfirst, hafter⟩ := exists_first hmark
              obtain ⟨named, hnamedMark, hnamed, htable⟩ :=
                exists_named first.mem_marks (by simpa using hname)
              rw [block?, hafter] at hblock
              obtain ⟨⟨_, after⟩, hfrom, rfl⟩ := Option.map_eq_some_iff.1 hblock
              obtain ⟨owner, howner⟩ := TableCall.exists_owns_of_blockFrom? hfrom
              refine ⟨first, owner, named, ⟨hfirst, ⟨_, after, hfrom, howner, rfl⟩, hnamedMark, hnamed,
                htable⟩, ⟨?_, ?_⟩, ?_⟩
              · rintro rfl
                exact ⟨hnamedMark, hnamed⟩
              · rintro ⟨hownerMark, howns⟩
                exact hnamed.eq howns (hownerMark.trans hnamedMark.symm)
              · rintro rfl
                constructor
                · rintro rfl
                  exact hnamed.1
                · intro hliteral
                  exact hnamed.eq ⟨hliteral, fun other hother _ => absurd hother (hfirst other)⟩
                    hnamedMark.symm

/-- A table whose call is given a variable, and one whose call is given a literal. -/
def mixedTables : Text :=
  "pgTable(name, \x7b a: text() \x7d);\npgTable('users', \x7b id: int() \x7d);\n".toList

theorem calls_of_mixedTables :
    let model : Model := ⟨"users".toList, "t".toList, [⟨"a".toList, "text".toList⟩]⟩
    model ∈ (extract "t.ts".toList mixedTables).found
      ∧ ∃ first owner named : TableCall mixedTables, TakenFrom model first owner named
        ∧ first.literal? = none ∧ named ≠ first := by
  intro model
  have hmodel : model ∈ (extract "t.ts".toList mixedTables).found := by decide +kernel
  obtain ⟨first, owner, named, htaken, -, -⟩ := calls_of_extract "t.ts".toList mixedTables model hmodel
  let variableCall : TableCall mixedTables :=
    { front := []
      mark := "pgTable(".toList
      rest := mixedTables.drop 8
      mem_marks := by decide
      text_eq := by decide +kernel }
  -- nothing stands in front of the call at the start of the text
  obtain rfl : first = variableCall :=
    htaken.isFirst.eq fun other hother => absurd hother (Nat.not_lt_zero _)
  have hnone : variableCall.literal? = none := by decide +kernel
  refine ⟨hmodel, variableCall, owner, named, htaken, hnone, ?_⟩
  rintro rfl
  have hsome := htaken.namesFirst.1
  rw [hnone] at hsome
  exact absurd hsome (by decide)

end ApiScan.ColumnTable
