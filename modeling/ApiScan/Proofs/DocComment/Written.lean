import ApiScan.Proofs.DocComment.Pieces
import ApiScan.Proofs.Json.Quoted

set_option autoImplicit false

/-! # Written documents document nothing

A written document may hold the marks of comments in its texts, and blocks may be cut out of it. A
line with a text in it stands below a line that opens a collection or goes on with one, so that no
such block is a YAML text. -/

namespace ApiScan

open Yaml DocComment

namespace Json

/-- A document of texts, in which empty containers stand under names without asterisks. -/
inductive Worded : Json → Prop
  | str (text : Points) : Worded (.str text)
  | list {items : List Json} (h : ∀ item ∈ items, Worded item) : Worded (.list items)
  | object {fields : Fields} (h : ∀ field ∈ fields, Worded field.2)
      (hname : ∀ field ∈ fields, field.2 = .list [] ∨ field.2 = .object [] → '*' ∉ quoted field.1) :
      Worded (.object fields)

/-- A document of texts that is no empty container: it may stand under each name. -/
structure Filled (doc : Json) : Prop where
  worded : Worded doc
  not_bare : ¬ (doc = .list [] ∨ doc = .object [])

theorem filled_str (value : Points) : Filled (.str value) := ⟨.str value, by simp⟩

theorem filled_list {item : Json} {items : List Json} (h : ∀ entry ∈ item :: items, Worded entry) :
    Filled (.list (item :: items)) := ⟨.list h, by simp⟩

theorem worded_object {fields : Fields} (h : ∀ field ∈ fields, Filled field.2) :
    Worded (.object fields) :=
  .object (fun field hf => (h field hf).worded) fun field hf hbare =>
    absurd hbare (h field hf).not_bare

theorem filled_object {fields : Fields} (hne : fields ≠ []) (h : ∀ field ∈ fields, Filled field.2) :
    Filled (.object fields) := ⟨worded_object h, by simpa using hne⟩

theorem filled_record {fields : List (String × Json)} (hne : fields ≠ [])
    (h : ∀ field ∈ fields, Filled field.2) : Filled (.record fields) :=
  filled_object (by simpa [named] using hne) fun field hf => by
    obtain ⟨given, hg, rfl⟩ := List.mem_map.1 hf
    exact h given hg

/-! ## Quoted texts -/

theorem sealed_unitEscape (unit : Nat) : Sealed (unitEscape unit) := by
  have hdigit (n : Nat) : Nat.digitChar (n % 16) ≠ '"' ∧ Nat.digitChar (n % 16) ≠ '\\'
      ∧ isBreak (Nat.digitChar (n % 16)) = false := by
    have hall : ∀ k : Fin 16, Nat.digitChar k ≠ '"' ∧ Nat.digitChar k ≠ '\\'
        ∧ isBreak (Nat.digitChar k) = false := by decide
    exact hall ⟨n % 16, Nat.mod_lt n (by decide)⟩
  have hplain {n : Nat} {s : Text} (h : Sealed s) : Sealed (Nat.digitChar (n % 16) :: s) :=
    .plain (hdigit n).1 (hdigit n).2.1 (hdigit n).2.2 h
  rw [unitEscape, hexDigits_four]
  exact .escape (by decide) (by decide) (hplain (hplain (hplain (hplain .nil))))

theorem isBreak_eq_false {c : Char} (hlow : 0x20 ≤ c.toNat) (hhigh : c.toNat < 0x7F) :
    isBreak c = false := by
  cases hbreak : isBreak c with
  | false => rfl
  | true =>
      simp only [isBreak, Bool.or_eq_true, decide_eq_true_eq] at hbreak
      rcases hbreak with (((rfl | rfl) | rfl) | rfl) | rfl
      all_goals revert hlow hhigh; decide

theorem sealed_quotedPoint (point : CodePoint) : Sealed (quotedPoint point) := by
  cases point with
  | half index => exact sealed_unitEscape _
  | char c =>
      have hshort {d : Char} (hd : (d ≠ '@' ∧ d ≠ '*') ∧ isBreak d = false) : Sealed ['\\', d] :=
        .escape hd.1 hd.2 .nil
      show Sealed (quotedChar c)
      unfold quotedChar
      split
      case h_8 =>
        next hquote hslash _ _ _ _ _ =>
          simp only
          split
          · next hrange => exact .plain hquote hslash (isBreak_eq_false hrange.1 hrange.2) .nil
          · split
            · exact sealed_unitEscape _
            · exact (sealed_unitEscape _).append (sealed_unitEscape _)
      all_goals exact hshort (by decide)

theorem sealed_flatMap_quotedPoint (text : Points) : Sealed (text.flatMap quotedPoint) := by
  induction text with
  | nil => exact .nil
  | cons point text ih =>
      rw [List.flatMap_cons]
      exact (sealed_quotedPoint point).append ih

/-- The piece of a quoted text. -/
def quotedPiece (text : Points) : Piece := .quoted _ (sealed_flatMap_quotedPoint text)

/-! ## Lines of documents -/

/-- A text of pieces that can go on a line in some places, with guarded lines from there on. -/
def Fits (place : List Piece → List Piece → Prop) (text : Text) : Prop :=
  ∃ pieces, text = textOf pieces ∧ ∀ above row, place above row → AllGuarded above row pieces

/-- A place where a value can stand: no mark is in front of it on its line, the line above leaves a
    collection open, and, where that is wanted, no asterisk is in front of it. -/
structure ForValue (bare : Prop) (above row : List Piece) : Prop where
  marks : marksOf row = []
  unclosed : Unclosed (marksOf above)
  plain : bare → '*' ∉ textOf row

theorem Fits.mono {place place' : List Piece → List Piece → Prop} {text : Text}
    (h : Fits place text) (hplace : ∀ above row, place' above row → place above row) :
    Fits place' text := by
  obtain ⟨pieces, htext, hguarded⟩ := h
  exact ⟨pieces, htext, fun above row hrow => hguarded above row (hplace above row hrow)⟩

variable {bare : Prop} {rest text : Text} {m : Mark}

theorem guarded_of_not_mem {above row : List Piece} (h : '*' ∉ textOf row) : Guarded above row :=
  fun hm => absurd hm h

theorem textOf_blanks (n : Nat) : textOf (List.replicate n .blank) = List.replicate n ' ' := by
  induction n with
  | zero => rfl
  | succ n ih =>
      rw [List.replicate_succ, textOf_cons, ih, List.replicate_succ]
      rfl

theorem not_mem_blanks (n : Nat) : '*' ∉ textOf (List.replicate n .blank) := by
  rw [textOf_blanks]
  exact fun hm => absurd (List.eq_of_mem_replicate hm) (by decide)

theorem marksOf_blanks (n : Nat) : marksOf (List.replicate n .blank) = [] := by
  induction n with
  | zero => rfl
  | succ n ih => exact ih

theorem allGuarded_blanks {n : Nat} {above row pieces : List Piece} :
    AllGuarded above row (List.replicate n .blank ++ pieces)
      ↔ AllGuarded above (row ++ List.replicate n .blank) pieces := by
  induction n generalizing row with
  | zero => rw [List.replicate_zero, List.append_nil, List.nil_append]
  | succ n ih =>
      rw [List.replicate_succ, List.append_cons]
      exact ih

/-- A line may end with a mark that closes nothing, wherever it stands. -/
theorem fits_lineEnd (hm : m.token.isClosing = false) (level : Nat)
    (h : Fits (ForValue True) text) :
    Fits (fun _ _ => True) (m.char :: (lineStart level ++ text)) := by
  obtain ⟨pieces, rfl, hguarded⟩ := h
  refine ⟨.mark m :: .lineBreak :: (List.replicate (2 * level) .blank ++ pieces), ?_, ?_⟩
  · rw [textOf_cons, textOf_cons, textOf_append, textOf_blanks]
    rfl
  · intro above row _
    have hlast (before : List Token) : Unclosed (before ++ marksOf (row ++ [.mark m])) := by
      rw [marksOf_append, ← List.append_assoc]
      exact unclosed_append_singleton _ hm
    refine ⟨fun _ => hlast _, allGuarded_blanks.2 (hguarded _ _ ⟨marksOf_blanks _, hlast [], ?_⟩)⟩
    exact fun _ => not_mem_blanks _

/-- A collection may be closed on a line of its own below each guarded line. -/
theorem fits_close (level : Nat) (h : Fits Guarded rest) :
    Fits Guarded (lineStart level ++ m.char :: rest) := by
  obtain ⟨pieces, rfl, hguarded⟩ := h
  refine ⟨.lineBreak :: (List.replicate (2 * level) .blank ++ .mark m :: pieces), ?_, ?_⟩
  · rw [textOf_cons, textOf_append, textOf_blanks, textOf_cons]
    rfl
  · intro above row hrow
    refine ⟨hrow, allGuarded_blanks.2 (hguarded _ _ (guarded_of_not_mem ?_))⟩
    rw [List.nil_append, textOf_append, List.mem_append, not_or]
    exact ⟨not_mem_blanks _, by cases m <;> decide⟩

theorem fits_quoted (value : Points) (h : Fits Guarded rest) :
    Fits (ForValue False) (quoted value ++ rest) := by
  obtain ⟨pieces, rfl, hguarded⟩ := h
  refine ⟨quotedPiece value :: pieces, rfl, fun above row hrow => ?_⟩
  refine hguarded above (row ++ [quotedPiece value]) fun _ => ?_
  rw [marksOf_append, hrow.marks]
  exact (List.append_nil (marksOf above)).symm ▸ hrow.unclosed

/-- The marks of an empty container. -/
theorem fits_bare {n : Mark} (h : Fits Guarded rest) :
    Fits (ForValue True) (m.char :: n.char :: rest) := by
  obtain ⟨pieces, rfl, hguarded⟩ := h
  refine ⟨.mark m :: .mark n :: pieces, rfl, fun above row hrow => ?_⟩
  refine hguarded above (row ++ [.mark m] ++ [.mark n]) (guarded_of_not_mem ?_)
  rw [textOf_append, textOf_append, List.mem_append, List.mem_append, not_or, not_or]
  exact ⟨⟨hrow.plain trivial, by cases m <;> decide⟩, by cases n <;> decide⟩

theorem fits_field {name : Points} (hname : bare → '*' ∉ quoted name)
    (h : Fits (ForValue bare) text) :
    Fits (ForValue True) (quoted name ++ ": ".toList ++ text) := by
  obtain ⟨pieces, rfl, hguarded⟩ := h
  refine ⟨quotedPiece name :: .colon :: pieces, ?_, fun above row hrow => ?_⟩
  · rw [textOf_cons, textOf_cons, List.append_assoc]
    rfl
  · refine hguarded above (row ++ [quotedPiece name] ++ [.colon]) ⟨?_, hrow.unclosed, ?_⟩
    · rw [marksOf_append, marksOf_append, hrow.marks]
      rfl
    · intro hbare
      rw [textOf_append, textOf_append, List.mem_append, List.mem_append, not_or, not_or]
      refine ⟨⟨hrow.plain trivial, ?_⟩, by decide⟩
      exact fun hm => hname hbare ((List.append_nil (quoted name)) ▸ hm)

/-- A value that fits behind some names fits at the start of a line. -/
theorem Fits.atStart (h : Fits (ForValue bare) text) : Fits (ForValue True) text :=
  h.mono fun _ _ hrow => ⟨hrow.marks, hrow.unclosed, fun _ => hrow.plain trivial⟩

theorem fits_printItems (level : Nat) {items : List Json}
    (hitems : ∀ item ∈ items, ∀ rest, Fits Guarded rest → Fits (ForValue True) (print level rest item))
    (h : Fits Guarded rest) : Fits Guarded (printItems level rest items) := by
  induction items with
  | nil => exact h
  | cons item items ih =>
      obtain ⟨hitem, hmore⟩ := List.forall_mem_cons.1 hitems
      rw [printItems]
      exact (fits_lineEnd (m := .comma) rfl level (hitem _ (ih hmore))).mono fun _ _ _ => trivial

theorem fits_printFields (level : Nat) {fields : Fields}
    (hfields : ∀ field ∈ fields, ∀ rest, Fits Guarded rest →
      Fits (ForValue True) (quoted field.1 ++ ": ".toList ++ print level rest field.2))
    (h : Fits Guarded rest) : Fits Guarded (printFields level rest fields) := by
  induction fields with
  | nil => exact h
  | cons field fields ih =>
      obtain ⟨name, value⟩ := field
      obtain ⟨hfield, hmore⟩ := List.forall_mem_cons.1 hfields
      have hline := fits_lineEnd (m := .comma) rfl level (hfield _ (ih hmore))
      rw [printFields]
      simp only [List.append_assoc, List.cons_append] at hline ⊢
      exact hline.mono fun _ _ _ => trivial

/-- A container that is not empty may be opened anywhere: its first line ends with its mark. -/
theorem fits_object (level : Nat) {field : Points × Json} {fields : Fields}
    (hfields : ∀ entry ∈ field :: fields, ∀ rest, Fits Guarded rest →
      Fits (ForValue True) (quoted entry.1 ++ ": ".toList ++ print (level + 1) rest entry.2))
    (h : Fits Guarded rest) :
    Fits (fun _ _ => True) (print level rest (.object (field :: fields))) := by
  obtain ⟨name, value⟩ := field
  obtain ⟨hfield, hmore⟩ := List.forall_mem_cons.1 hfields
  have hclose : Fits Guarded (printFields (level + 1) (lineStart level ++ '\x7d' :: rest) fields) :=
    fits_printFields (level + 1) hmore (fits_close (m := .objectEnd) level h)
  have hline := fits_lineEnd (m := .objectStart) rfl (level + 1) (hfield _ hclose)
  rw [print]
  simp only [List.append_assoc, List.cons_append] at hline ⊢
  exact hline

theorem fits_list (level : Nat) {item : Json} {items : List Json}
    (hitems : ∀ entry ∈ item :: items, ∀ rest, Fits Guarded rest →
      Fits (ForValue True) (print (level + 1) rest entry))
    (h : Fits Guarded rest) :
    Fits (fun _ _ => True) (print level rest (.list (item :: items))) := by
  obtain ⟨hitem, hmore⟩ := List.forall_mem_cons.1 hitems
  have hclose : Fits Guarded (printItems (level + 1) (lineStart level ++ ']' :: rest) items) :=
    fits_printItems (level + 1) hmore (fits_close (m := .listEnd) level h)
  rw [print]
  exact fits_lineEnd (m := .listStart) rfl (level + 1) (hitem _ hclose)

/-- The written form of a document of texts fits where a value is wanted. -/
theorem fits_print {doc : Json} (hdoc : Worded doc) (level : Nat) (h : Fits Guarded rest) :
    Fits (ForValue (doc = .list [] ∨ doc = .object [])) (print level rest doc) := by
  induction hdoc generalizing level rest with
  | str value =>
      rw [print]
      exact (fits_quoted value h).mono fun _ _ hrow => ⟨hrow.marks, hrow.unclosed, False.elim⟩
  | @list items _ ih =>
      cases items with
      | nil =>
          rw [print]
          exact (fits_bare (m := .listStart) (n := .listEnd) h).mono fun _ _ hrow =>
            ⟨hrow.marks, hrow.unclosed, fun _ => hrow.plain (Or.inl rfl)⟩
      | cons item items =>
          exact (fits_list level (fun entry he _ h => (ih entry he (level + 1) h).atStart) h).mono
            fun _ _ _ => trivial
  | @object fields _ hname ih =>
      cases fields with
      | nil =>
          rw [print]
          exact (fits_bare (m := .objectStart) (n := .objectEnd) h).mono fun _ _ hrow =>
            ⟨hrow.marks, hrow.unclosed, fun _ => hrow.plain (Or.inr rfl)⟩
      | cons field fields =>
          exact (fits_object level (fun entry he _ h =>
            fits_field (hname entry he) (ih entry he (level + 1) h)) h).mono fun _ _ _ => trivial

/-- **A written object of texts documents nothing.** -/
theorem itemsOf_text {fields : Fields} (h : Worded (.object fields)) :
    itemsOf (Json.text (.object fields)) = [] := by
  have hend : Fits Guarded ['\n'] :=
    ⟨[.lineBreak], rfl, fun _ _ hrow => ⟨hrow, guarded_of_not_mem List.not_mem_nil⟩⟩
  cases h with
  | object hfields hname =>
      cases fields with
      | nil => rfl
      | cons field fields =>
          obtain ⟨pieces, htext, hguarded⟩ := fits_object 0 (fun entry he _ h =>
            fits_field (hname entry he) (fits_print (hfields entry he) 1 h)) hend
          rw [Json.text, htext]
          exact itemsOf_textOf (hguarded [] [] trivial)

end Json

end ApiScan
