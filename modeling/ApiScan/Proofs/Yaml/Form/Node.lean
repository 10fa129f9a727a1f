import ApiScan.Proofs.Json.Settled
import ApiScan.Proofs.Yaml.Form.Scalar
import ApiScan.Proofs.Yaml.WholeNumber

set_option autoImplicit false

/-! # The form of a document

A document without floating-point numbers and halves of surrogate pairs is written in block form: a
scalar behind a blank, the items of a list and the fields of an object on lines of their own, each
with its mark or its key at the indentation of the collection. The first of them goes on the line
of a mark that it follows, while a list in a field starts below the key. -/

namespace ApiScan.Yaml

variable {s out : Text} {indent : Nat} {plain : Bool} {c : Char}

/-! ## The form -/

/-- What a node stands behind: a mark of its own block, or a key. -/
inductive Lead where
  | mark
  | key
  deriving DecidableEq

/-- The indentation of the items of a list. -/
def Lead.listIndent (indent : Nat) : Lead → Nat
  | .mark => indent + 2
  | .key => indent

/-- What stands between a lead and the first entry of a collection of an indentation. -/
def Lead.gap (indent : Nat) : Lead → Text
  | .mark => [' ']
  | .key => lineStart indent

/-- The text of a scalar, and whether it is written plain. -/
def scalarText? : Json → Option (Text × Bool)
  | .null => some ("null".toList, true)
  | .bool true => some ("true".toList, true)
  | .bool false => some ("false".toList, true)
  | .int value => some (Text.ofInt value, true)
  | .str s => s.toText?.map fun t => (t, isPlainText t)
  | _ => none

/-- What the value of a field stands behind. -/
def leadOf (name : Points) : Lead := if Style.isSimpleKey name then .key else .mark

/-- The forms of a name and its colon. A name that is no key of its own is a node behind a mark. -/
def NameForm (gap : Text) (indent : Nat) (s head : Text) : Lead → Prop
  | .key => ∃ key, head = gap ++ (key ++ [':']) ∧ KeyForm (indent + 2) s key
  | .mark => ∃ key, head = gap ++ '?' :: ' ' :: (key ++ (lineStart indent ++ [':']))
    ∧ ScalarForm (indent + 2) (isPlainText s) s key

/-- The forms of a scalar behind a lead. -/
def ScalarNode (indent : Nat) (doc : Json) (out : Text) : Prop :=
  ∃ s plain body, scalarText? doc = some (s, plain) ∧ ScalarForm (indent + 2) plain s body
    ∧ out = ' ' :: body

mutual

/-- The forms of a node in a block of an indentation. -/
def NodeForm (lead : Lead) (indent : Nat) : Json → Text → Prop
  | .list [], out => out = [' ', '[', ']']
  | .list (item :: items), out =>
    ItemsForm (lead.gap (lead.listIndent indent)) (lead.listIndent indent) (item :: items) out
  | .object [], out => out = [' ', '\x7b', '\x7d']
  | .object (field :: fields), out =>
    FieldsForm (lead.gap (indent + 2)) (indent + 2) (field :: fields) out
  | .null, out => ScalarNode indent .null out
  | .bool value, out => ScalarNode indent (.bool value) out
  | .int value, out => ScalarNode indent (.int value) out
  | .float value, out => ScalarNode indent (.float value) out
  | .str s, out => ScalarNode indent (.str s) out

/-- The forms of the items of a list. -/
def ItemsForm (gap : Text) (indent : Nat) : List Json → Text → Prop
  | [], out => out = []
  | item :: items, out => ∃ front rest, out = gap ++ '-' :: (front ++ rest)
    ∧ NodeForm .mark indent item front ∧ ItemsForm (lineStart indent) indent items rest

/-- The forms of the fields of an object. -/
def FieldsForm (gap : Text) (indent : Nat) : List (Points × Json) → Text → Prop
  | [], out => out = []
  | (name, value) :: fields, out => ∃ s head front rest, name = Points.ofText s
    ∧ out = head ++ (front ++ rest) ∧ NameForm gap indent s head (leadOf name)
    ∧ NodeForm (leadOf name) indent value front ∧ FieldsForm (lineStart indent) indent fields rest

end

/-! ## Kept documents -/

/-- Whether the form of a name in an object of an indentation is read as the name. -/
def KeptName (indent : Nat) (name : Points) : Prop :=
  ∀ s ∈ name.toText?, if Style.isSimpleKey name then KeptKey s else KeptText (indent + 2) true s

instance (indent : Nat) (name : Points) : Decidable (KeptName indent name) :=
  inferInstanceAs (Decidable (∀ s ∈ name.toText?, _))

mutual

/-- Whether the texts and names of a document in a block of an indentation are kept where they
    stand. -/
def Kept (lead : Lead) (indent : Nat) : Json → Prop
  | .str s => ∀ t ∈ s.toText?, KeptText (indent + 2) true t
  | .list items => KeptItems (lead.listIndent indent) items
  | .object fields => KeptFields (indent + 2) fields
  | _ => True

/-- Whether the items of a list of an indentation are kept. -/
def KeptItems (indent : Nat) : List Json → Prop
  | [] => True
  | item :: items => Kept .mark indent item ∧ KeptItems indent items

/-- Whether the fields of an object of an indentation are kept. -/
def KeptFields (indent : Nat) : List (Points × Json) → Prop
  | [] => True
  | (name, value) :: fields =>
    KeptName indent name ∧ Kept (leadOf name) indent value ∧ KeptFields indent fields

end

mutual

/-- Whether a document is kept can be decided. -/
def decideKept (lead : Lead) (indent : Nat) : ∀ doc : Json, Decidable (Kept lead indent doc)
  | .null => inferInstanceAs (Decidable True)
  | .bool _ => inferInstanceAs (Decidable True)
  | .int _ => inferInstanceAs (Decidable True)
  | .float _ => inferInstanceAs (Decidable True)
  | .str s => inferInstanceAs (Decidable (∀ t ∈ s.toText?, KeptText (indent + 2) true t))
  | .list items => decideKeptItems (lead.listIndent indent) items
  | .object fields => decideKeptFields (indent + 2) fields

/-- Whether items are kept can be decided. -/
def decideKeptItems (indent : Nat) : ∀ items : List Json, Decidable (KeptItems indent items)
  | [] => inferInstanceAs (Decidable True)
  | item :: items => @instDecidableAnd _ _ (decideKept .mark indent item) (decideKeptItems indent items)

/-- Whether fields are kept can be decided. -/
def decideKeptFields (indent : Nat) :
    ∀ fields : List (Points × Json), Decidable (KeptFields indent fields)
  | [] => inferInstanceAs (Decidable True)
  | (name, value) :: fields =>
    @instDecidableAnd _ _ inferInstance
      (@instDecidableAnd _ _ (decideKept (leadOf name) indent value) (decideKeptFields indent fields))

end

instance (indent : Nat) (fields : List (Points × Json)) : Decidable (KeptFields indent fields) :=
  decideKeptFields indent fields

/-! ## Writing -/

/-- Where the pen is in front of a node, and the position that the node is written for. -/
structure StandsBehind (lead : Lead) (indent : Nat) (position : Position) (pen : Pen) : Prop where
  spaced : pen.spaced = false
  mark : lead = .mark → pen.fresh = true ∧ pen.column = indent + 1
  key : lead = .key → pen.fresh = false ∧ position = .field

/-- A pen behind a node. -/
structure Settled (pen : Pen) : Prop where
  fresh : pen.fresh = false
  spaced : pen.spaced = false

/-- The way of a pen to an indentation, and what it writes on it. -/
def GoesTo (gap : Text) (indent : Nat) (pen : Pen) : Prop :=
  pen.indentTo indent = ⟨indent, true, true, gap.reverse ++ pen.written⟩

theorem Settled.goesTo {pen : Pen} (h : Settled pen) (indent : Nat) :
    GoesTo (lineStart indent) indent pen := Pen.indentTo_of_breaks (Or.inl h.fresh)

/-- The entries of a collection below a lead are two blanks further in. -/
theorem StandsBehind.goesTo {lead : Lead} {position : Position} {pen : Pen}
    (h : StandsBehind lead indent position pen) :
    GoesTo (lead.gap (indent + 2)) (indent + 2) pen := by
  cases lead with
  | mark =>
      obtain ⟨hfresh, hcolumn⟩ := h.mark rfl
      exact Pen.indentTo_of_column_lt hfresh (by rw [hcolumn])
  | key => exact Pen.indentTo_of_breaks (Or.inl (h.key rfl).1)

/-- A plain scalar behind a lead. -/
theorem exists_scalar_of_plain {lead : Lead} {position : Position} {pen : Pen} {doc : Json}
    (h : StandsBehind lead indent position pen) (hne : s ≠ []) (hs : Style.allowsPlain s = true)
    (hdoc : scalarText? doc = some (s, true))
    (hput : putNode (some indent) position doc pen = putPlain (indent + 2) true s pen) :
    ∃ out, ScalarNode indent doc out
      ∧ (putNode (some indent) position doc pen).written = out.reverse ++ pen.written
      ∧ Settled (putNode (some indent) position doc pen) := by
  obtain ⟨body, hbody, hwritten, hfresh, hspaced⟩ := exists_putPlain true pen hne hs
  rw [hput]
  refine ⟨' ' :: body, ⟨s, true, body, hdoc, .plain hs hbody, rfl⟩, ?_, hfresh, hspaced⟩
  rw [hwritten, h.spaced]
  rfl

/-- The pen behind the name of a field and its colon. -/
def putName (indent : Nat) (name : Points) (pen : Pen) : Pen :=
  if Style.isSimpleKey name then (putText (indent + 2) false name (pen.indentTo indent)).mark [':'] false
  else
    ((putText (indent + 2) true name ((pen.indentTo indent).blockMark '?')).indentTo indent).blockMark ':'

/-- A kept name is written as a key of its own or behind a mark. -/
theorem exists_putName {gap : Text} {pen : Pen} (h : GoesTo gap indent pen)
    (hkept : KeptName indent (Points.ofText s)) :
    ∃ head, (putName indent (Points.ofText s) pen).written = head.reverse ++ pen.written
      ∧ StandsBehind (leadOf (Points.ofText s)) indent .field (putName indent (Points.ofText s) pen)
      ∧ NameForm gap indent s head (leadOf (Points.ofText s)) := by
  have hname := hkept s (Points.toText?_ofText s)
  unfold putName leadOf
  by_cases hsimple : Style.isSimpleKey (Points.ofText s) = true
  · simp only [hsimple, if_true] at hname ⊢
    have hform : KeyForm (indent + 2) s (flatForm s) := keyForm_flatForm hsimple hname
    have hspaced : (pen.indentTo indent).spaced = true := by rw [h]
    have hwritten : (putText (indent + 2) false (Points.ofText s) (pen.indentTo indent)).written
        = (flatForm s).reverse ++ (pen.indentTo indent).written :=
      written_putText_of_not_split hspaced (isSimpleKey_spec hsimple).1.2
    refine ⟨gap ++ (flatForm s ++ [':']), ?_, ?_, ?_⟩
    · rw [Pen.written_mark, hwritten, h]
      simp
    · exact ⟨rfl, fun he => absurd he (by decide), fun _ => ⟨rfl, rfl⟩⟩
    · exact ⟨flatForm s, rfl, hform⟩
  · simp only [hsimple] at hname ⊢
    let start : Pen := (pen.indentTo indent).blockMark '?'
    have hstart : start.spaced = false ∧ start.written = '?' :: gap.reverse ++ pen.written := by
      simp only [start]
      rw [h]
      exact ⟨rfl, rfl⟩
    obtain ⟨key, hform, hwritten, hfresh, hspaced⟩ := exists_putText true start hname
    have hcolon : (putText (indent + 2) true (Points.ofText s) start).indentTo indent
        = ⟨indent, true, true, (lineStart indent).reverse
            ++ (putText (indent + 2) true (Points.ofText s) start).written⟩ :=
      Settled.goesTo ⟨hfresh, hspaced⟩ indent
    refine ⟨gap ++ '?' :: ' ' :: (key ++ (lineStart indent ++ [':'])), ?_, ?_, ?_⟩
    · show (((putText (indent + 2) true (Points.ofText s) start).indentTo indent).blockMark ':').written
        = _
      rw [hcolon]
      show ':' :: ((lineStart indent).reverse ++ _) = _
      rw [hwritten, hstart.1, hstart.2]
      simp
    · show StandsBehind .mark indent .field
        (((putText (indent + 2) true (Points.ofText s) start).indentTo indent).blockMark ':')
      rw [hcolon]
      exact ⟨rfl, fun _ => ⟨rfl, rfl⟩, fun he => absurd he (by decide)⟩
    · exact ⟨key, rfl, hform⟩

mutual

/-- **A kept document is written in one of its forms.** -/
theorem exists_putNode : ∀ (doc : Json) {lead : Lead} {indent : Nat} {position : Position} {pen : Pen},
    doc.Whole → Kept lead indent doc → StandsBehind lead indent position pen →
    ∃ out, NodeForm lead indent doc out
      ∧ (putNode (some indent) position doc pen).written = out.reverse ++ pen.written
      ∧ Settled (putNode (some indent) position doc pen)
  | .null, _, _, _, _, _, _, h => exists_scalar_of_plain h (by decide) (by decide) rfl rfl
  | .bool true, _, _, _, _, _, _, h => exists_scalar_of_plain h (by decide) (by decide) rfl rfl
  | .bool false, _, _, _, _, _, _, h => exists_scalar_of_plain h (by decide) (by decide) rfl rfl
  | .int value, _, _, _, _, _, _, h =>
      exists_scalar_of_plain h (ofInt_ne_nil value) (allowsPlain_ofInt value) rfl rfl
  | .float _, _, _, _, _, hwhole, _, _ => absurd hwhole id
  | .str s, lead, indent, position, pen, hwhole, hkept, h => by
      obtain ⟨t, rfl⟩ := hwhole
      obtain ⟨body, hbody, hwritten, hfresh, hspaced⟩ := exists_putText true pen (hkept t (Points.toText?_ofText t))
      have hdoc : scalarText? (.str (Points.ofText t)) = some (t, isPlainText t) := by
        rw [scalarText?, Points.toText?_ofText]
        rfl
      refine ⟨' ' :: body, ⟨t, isPlainText t, body, hdoc, hbody, rfl⟩, ?_, hfresh, hspaced⟩
      rw [h.spaced] at hwritten
      exact hwritten
  | .list [], _, _, _, pen, _, _, h => by
      refine ⟨[' ', '[', ']'], rfl, ?_, rfl, rfl⟩
      rw [putNode, Pen.written_mark, h.spaced]
      rfl
  | .list (item :: items), lead, indent, position, pen, hwhole, hkept, h => by
      -- below a key the marks of the items stand at the indentation of the key
      have hput : putNode (some indent) position (.list (item :: items)) pen
          = putItems (lead.listIndent indent) (item :: items) pen := by
        rw [putNode]
        cases lead with
        | mark => simp [(h.mark rfl).1, Lead.listIndent, deeper]
        | key => simp [h.key rfl, Lead.listIndent]
      have hgap : GoesTo (lead.gap (lead.listIndent indent)) (lead.listIndent indent) pen := by
        cases lead with
        | mark => exact h.goesTo
        | key => exact Pen.indentTo_of_breaks (Or.inl (h.key rfl).1)
      obtain ⟨out, hform, hwritten, hsettled⟩ := exists_putItems (item :: items) hwhole hkept hgap
      rw [hput]
      exact ⟨out, hform, hwritten, hsettled (List.cons_ne_nil _ _)⟩
  | .object [], _, _, _, pen, _, _, h => by
      refine ⟨[' ', '\x7b', '\x7d'], rfl, ?_, rfl, rfl⟩
      rw [putNode, Pen.written_mark, h.spaced]
      rfl
  | .object (field :: fields), lead, indent, position, pen, hwhole, hkept, h => by
      obtain ⟨out, hform, hwritten, hsettled⟩ :=
        exists_putFields (field :: fields) hwhole hkept h.goesTo
      exact ⟨out, hform, hwritten, hsettled (List.cons_ne_nil _ _)⟩

/-- The items of a list are written in one of their forms. -/
theorem exists_putItems : ∀ (items : List Json) {gap : Text} {indent : Nat} {pen : Pen},
    Json.WholeItems items → KeptItems indent items → GoesTo gap indent pen →
    ∃ out, ItemsForm gap indent items out
      ∧ (putItems indent items pen).written = out.reverse ++ pen.written
      ∧ (items ≠ [] → Settled (putItems indent items pen))
  | [], _, _, _, _, _, _ => ⟨[], rfl, rfl, fun hne => absurd rfl hne⟩
  | item :: items, gap, indent, pen, hwhole, hkept, h => by
      let start : Pen := (pen.indentTo indent).blockMark '-'
      have hstart : StandsBehind .mark indent .item start ∧ start.written = '-' :: gap.reverse ++ pen.written := by
        simp only [start]
        rw [h]
        exact ⟨⟨rfl, fun _ => ⟨rfl, rfl⟩, fun he => absurd he (by decide)⟩, rfl⟩
      obtain ⟨front, hfront, hwritten, hsettled⟩ := exists_putNode item hwhole.1 hkept.1 hstart.1
      obtain ⟨rest, hrest, hwritten', hsettled'⟩ :=
        exists_putItems items hwhole.2 hkept.2 (hsettled.goesTo indent)
      refine ⟨gap ++ '-' :: (front ++ rest), ⟨front, rest, rfl, hfront, hrest⟩, ?_, fun _ => ?_⟩
      · rw [putItems]
        show (putItems indent items (putNode (some indent) .item item start)).written = _
        rw [hwritten', hwritten, hstart.2]
        simp
      · show Settled (putItems indent items (putNode (some indent) .item item start))
        cases items with
        | nil => exact hsettled
        | cons next items => exact hsettled' (List.cons_ne_nil _ _)

/-- The fields of an object are written in one of their forms. -/
theorem exists_putFields : ∀ (fields : List (Points × Json)) {gap : Text} {indent : Nat} {pen : Pen},
    Json.WholeFields fields → KeptFields indent fields → GoesTo gap indent pen →
    ∃ out, FieldsForm gap indent fields out
      ∧ (putFields indent fields pen).written = out.reverse ++ pen.written
      ∧ (fields ≠ [] → Settled (putFields indent fields pen))
  | [], _, _, _, _, _, _ => ⟨[], rfl, rfl, fun hne => absurd rfl hne⟩
  | (name, value) :: fields, gap, indent, pen, hwhole, hkept, h => by
      obtain ⟨⟨s, rfl⟩, hvalue, hfields⟩ := hwhole
      obtain ⟨hname, hkeptValue, hkeptFields⟩ := hkept
      obtain ⟨head, hhead, hlead, hform⟩ := exists_putName h hname
      obtain ⟨front, hfront, hwritten, hsettled⟩ := exists_putNode value hvalue hkeptValue hlead
      obtain ⟨rest, hrest, hwritten', hsettled'⟩ :=
        exists_putFields fields hfields hkeptFields (hsettled.goesTo indent)
      refine ⟨head ++ (front ++ rest), ⟨s, head, front, rest, rfl, rfl, hform, hfront, hrest⟩, ?_,
        fun _ => ?_⟩
      · show (putFields indent fields (putNode (some indent) .field value
          (putName indent (Points.ofText s) pen))).written = _
        rw [hwritten', hwritten, hhead]
        simp
      · show Settled (putFields indent fields (putNode (some indent) .field value
          (putName indent (Points.ofText s) pen)))
        cases fields with
        | nil => exact hsettled
        | cons next fields => exact hsettled' (List.cons_ne_nil _ _)

end

/-- **The text of a kept object is one of its forms and a last line break.** -/
theorem exists_text {fields : List (Points × Json)} (hne : fields ≠ []) (hwhole : Json.WholeFields fields)
    (hkept : KeptFields 0 fields) :
    ∃ out, FieldsForm [] 0 fields out ∧ text (.object fields) = out ++ ['\n'] := by
  have hstart : GoesTo [] 0 {} := rfl
  obtain ⟨out, hform, hwritten, hsettled⟩ := exists_putFields fields hwhole hkept hstart
  obtain ⟨field, fields, rfl⟩ := List.exists_cons_of_ne_nil hne
  have hput : putNode none .root (.object (field :: fields)) {} = putFields 0 (field :: fields) {} := rfl
  refine ⟨out, hform, ?_⟩
  rw [text, hput, (hsettled hne).goesTo 0]
  simp [hwritten, isPlainScalar, lineStart]

/-! ## Characters -/

theorem isWritten_lineStart (indent : Nat) : ∀ c ∈ lineStart indent, isWritten c = true := by
  intro c hc
  rcases List.mem_cons.1 hc with rfl | hc
  · decide
  · rw [List.eq_of_mem_replicate hc]
    decide

theorem isWritten_gap (lead : Lead) (indent : Nat) : ∀ c ∈ lead.gap indent, isWritten c = true := by
  cases lead with
  | mark =>
      show ∀ c ∈ [' '], isWritten c = true
      decide
  | key => exact isWritten_lineStart indent

theorem ScalarNode.isWritten {doc : Json} (h : ScalarNode indent doc out) :
    ∀ c ∈ out, isWritten c = true := by
  obtain ⟨s, plain, body, -, hbody, rfl⟩ := h
  exact List.forall_mem_cons.2 ⟨by decide, hbody.isWritten⟩

theorem NameForm.isWritten {gap head : Text} {lead : Lead} (h : NameForm gap indent s head lead)
    (hgap : ∀ c ∈ gap, isWritten c = true) : ∀ c ∈ head, isWritten c = true := by
  cases lead with
  | key =>
      obtain ⟨key, rfl, hkey⟩ := h
      exact List.forall_mem_append.2 ⟨hgap, List.forall_mem_append.2 ⟨hkey.form.isWritten, by decide⟩⟩
  | mark =>
      obtain ⟨key, rfl, hkey⟩ := h
      refine List.forall_mem_append.2 ⟨hgap, List.forall_mem_cons.2 ⟨by decide, ?_⟩⟩
      refine List.forall_mem_cons.2 ⟨by decide, List.forall_mem_append.2 ⟨hkey.isWritten, ?_⟩⟩
      exact List.forall_mem_append.2 ⟨isWritten_lineStart indent, by decide⟩

mutual

/-- The characters of a node may stand in a YAML text and come back from a file. -/
theorem isWritten_of_nodeForm : ∀ (doc : Json) {lead : Lead} {indent : Nat} {out : Text},
    NodeForm lead indent doc out → ∀ c ∈ out, isWritten c = true
  | .null, _, _, _, h => ScalarNode.isWritten h
  | .bool _, _, _, _, h => ScalarNode.isWritten h
  | .int _, _, _, _, h => ScalarNode.isWritten h
  | .float _, _, _, _, h => ScalarNode.isWritten h
  | .str _, _, _, _, h => ScalarNode.isWritten h
  | .list [], _, _, _, h => by
      obtain rfl : _ = [' ', '[', ']'] := h
      decide
  | .list (item :: items), lead, indent, _, h =>
      isWritten_of_itemsForm (item :: items) (isWritten_gap lead _) h
  | .object [], _, _, _, h => by
      obtain rfl : _ = [' ', '\x7b', '\x7d'] := h
      decide
  | .object (field :: fields), lead, indent, _, h =>
      isWritten_of_fieldsForm (field :: fields) (isWritten_gap lead _) h

theorem isWritten_of_itemsForm : ∀ (items : List Json) {gap : Text} {indent : Nat} {out : Text},
    (∀ c ∈ gap, isWritten c = true) → ItemsForm gap indent items out →
    ∀ c ∈ out, isWritten c = true
  | [], _, _, _, _, h => by
      obtain rfl : _ = [] := h
      simp
  | item :: items, gap, indent, _, hgap, h => by
      obtain ⟨front, rest, rfl, hfront, hrest⟩ := h
      refine List.forall_mem_append.2 ⟨hgap, List.forall_mem_cons.2 ⟨by decide, ?_⟩⟩
      exact List.forall_mem_append.2 ⟨isWritten_of_nodeForm item hfront,
        isWritten_of_itemsForm items (isWritten_lineStart indent) hrest⟩

theorem isWritten_of_fieldsForm : ∀ (fields : List (Points × Json)) {gap : Text} {indent : Nat}
    {out : Text}, (∀ c ∈ gap, isWritten c = true) → FieldsForm gap indent fields out →
    ∀ c ∈ out, isWritten c = true
  | [], _, _, _, _, h => by
      obtain rfl : _ = [] := h
      simp
  | (name, value) :: fields, gap, indent, _, hgap, h => by
      obtain ⟨s, head, front, rest, -, rfl, hhead, hfront, hrest⟩ := h
      refine List.forall_mem_append.2 ⟨hhead.isWritten hgap, List.forall_mem_append.2 ⟨?_, ?_⟩⟩
      · exact isWritten_of_nodeForm value hfront
      · exact isWritten_of_fieldsForm fields (isWritten_lineStart indent) hrest

end

end ApiScan.Yaml
