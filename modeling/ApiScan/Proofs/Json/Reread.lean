import ApiScan.Proofs.Json.Number
import ApiScan.Proofs.Json.Quoted

set_option autoImplicit false

/-! # Documents read back

A document that is written and read again is the document with the halves of its texts joined and
with one field for each name in its objects; whole numbers have to be short enough to be read. The
reader takes fuel, so every step is stated for fuel that covers twice the text it reads. -/

namespace ApiScan.Json

/-! ## What reading back makes of a document -/

mutual

/-- A document as it is read back. -/
def reread : Json → Json
  | .null => .null
  | .bool value => .bool value
  | .int value => .int value
  | .float value => .float value
  | .str s => .str (Points.joined s)
  | .list items => .list (rereadItems items)
  | .object fields => .object (Assoc.ofPairs (rereadFields fields))

/-- The items of a list as they are read back. -/
def rereadItems : List Json → List Json
  | [] => []
  | item :: items => reread item :: rereadItems items

/-- The fields of an object as they are read one by one. -/
def rereadFields : List (Points × Json) → List (Points × Json)
  | [] => []
  | (name, value) :: fields => (Points.joined name, reread value) :: rereadFields fields

end

mutual

/-- Whether all whole numbers of a document are short enough to be read. -/
def AllShort : Json → Prop
  | .int value => IsShort value
  | .list items => AllShortItems items
  | .object fields => AllShortFields fields
  | _ => True

/-- Whether all whole numbers of some items are short enough to be read. -/
def AllShortItems : List Json → Prop
  | [] => True
  | item :: items => AllShort item ∧ AllShortItems items

/-- Whether all whole numbers of some fields are short enough to be read. -/
def AllShortFields : List (Points × Json) → Prop
  | [] => True
  | (_, value) :: fields => AllShort value ∧ AllShortFields fields

end

/-! ## Lengths -/

theorem length_le_flatMap_quotedPoint (s : Points) : s.length ≤ (s.flatMap quotedPoint).length := by
  have hpoint (point : CodePoint) : 1 ≤ (quotedPoint point).length := by
    cases point with
    | half index => simp [quotedPoint, unitEscape]
    | char c =>
        show 1 ≤ (quotedChar c).length
        unfold quotedChar
        split
        all_goals try decide
        simp only
        split
        · exact Nat.le_refl 1
        · split <;> simp [unitEscape]
  induction s with
  | nil => exact Nat.le_refl 0
  | cons point s ih =>
      have := hpoint point
      rw [List.flatMap_cons, List.length_append, List.length_cons]
      omega

theorem lt_length_append {s : Text} (h : s ≠ []) (rest : Text) :
    rest.length < (s ++ rest).length := by
  have := List.length_pos_iff.2 h
  rw [List.length_append]
  omega

theorem ofInt_ne_nil (n : Int) : Text.ofInt n ≠ [] := by
  cases n with
  | ofNat n => exact Text.ofNat_ne_nil n
  | negSucc n => exact List.cons_ne_nil _ _

theorem floatText_ne_nil (x : Binary64) : floatText x ≠ [] := by
  cases x with
  | finite negative mantissa exponent canonical =>
      obtain ⟨body, he, hbody, -⟩ := finiteText_spec negative canonical
      show Binary64.finiteText negative mantissa exponent ≠ []
      rw [he]
      intro h
      rw [(List.append_eq_nil_iff.1 h).2] at hbody
      exact Bool.noConfusion hbody
  | infinite negative =>
      cases negative with
      | false => exact (by decide : "Infinity".toList ≠ [])
      | true => exact (by decide : "-Infinity".toList ≠ [])
  | nan => exact (by decide : "NaN".toList ≠ [])

mutual

/-- A value adds something to the text behind it. -/
theorem length_print_gt (level : Nat) (rest : Text) :
    ∀ doc : Json, rest.length < (print level rest doc).length
  | .null => lt_length_append (by decide : "null".toList ≠ []) rest
  | .bool true => lt_length_append (by decide : "true".toList ≠ []) rest
  | .bool false => lt_length_append (by decide : "false".toList ≠ []) rest
  | .int value => lt_length_append (ofInt_ne_nil value) rest
  | .float value => lt_length_append (floatText_ne_nil value) rest
  | .str text => lt_length_append (List.cons_ne_nil _ _) rest
  | .list [] => lt_length_append (List.cons_ne_nil '[' [']']) rest
  | .list (item :: items) => by
      have hitem := length_print_gt (level + 1)
        (printItems (level + 1) (lineStart level ++ ']' :: rest) items) item
      have hitems := length_printItems_ge (level + 1) (lineStart level ++ ']' :: rest) items
      simp only [print, List.length_cons, List.length_append] at hitem hitems ⊢
      omega
  | .object [] => lt_length_append (List.cons_ne_nil '{' ['}']) rest
  | .object ((name, value) :: fields) => by
      have hvalue := length_print_gt (level + 1)
        (printFields (level + 1) (lineStart level ++ '}' :: rest) fields) value
      have hfields := length_printFields_ge (level + 1) (lineStart level ++ '}' :: rest) fields
      simp only [print, List.length_cons, List.length_append] at hvalue hfields ⊢
      omega

theorem length_printItems_ge (level : Nat) (rest : Text) :
    ∀ items : List Json, rest.length ≤ (printItems level rest items).length
  | [] => Nat.le_refl _
  | item :: items => by
      have hitem := length_print_gt level (printItems level rest items) item
      have hitems := length_printItems_ge level rest items
      simp only [printItems, List.length_cons, List.length_append]
      omega

theorem length_printFields_ge (level : Nat) (rest : Text) :
    ∀ fields : List (Points × Json), rest.length ≤ (printFields level rest fields).length
  | [] => Nat.le_refl _
  | (name, value) :: fields => by
      have hvalue := length_print_gt level (printFields level rest fields) value
      have hfields := length_printFields_ge level rest fields
      simp only [printFields, List.length_cons, List.length_append]
      omega

end

/-! ## The first character of a value -/

/-- White space and the closing marks, with none of which a written value starts. -/
def notFirst : Text := [' ', '\t', '\n', '\r', ']', '}']

theorem not_mem_notFirst_of_isDigit {c : Char} (h : Text.isDigit c = true) : c ∉ notFirst := by
  intro hc
  simp only [notFirst, List.mem_cons, List.not_mem_nil, or_false] at hc
  rcases hc with rfl | rfl | rfl | rfl | rfl | rfl <;> exact absurd h (by decide)

/-- A number starts with a digit, or with a minus sign and a digit. -/
def StartsNumber (s : Text) : Prop :=
  s.head?.any Text.isDigit = true ∨ ∃ body, s = '-' :: body ∧ body.head?.any Text.isDigit = true

theorem startsNumber_sign (negative : Bool) {body : Text}
    (h : body.head?.any Text.isDigit = true) (rest : Text) :
    StartsNumber ((if negative then ['-'] else []) ++ body ++ rest) := by
  have hbody : (body ++ rest).head?.any Text.isDigit = true := by
    cases body with
    | nil => exact absurd h (by simp)
    | cons c more => exact h
  cases negative with
  | false => exact Or.inl hbody
  | true => exact Or.inr ⟨body ++ rest, rfl, hbody⟩

theorem startsNumber_ofInt (n : Int) (rest : Text) : StartsNumber (Text.ofInt n ++ rest) := by
  cases n with
  | ofNat n => exact Or.inl (ofNat_head?_isDigit n rest)
  | negSucc n => exact Or.inr ⟨_, rfl, ofNat_head?_isDigit (n + 1) rest⟩

theorem StartsNumber.exists_cons {s : Text} (h : StartsNumber s) :
    ∃ c more, s = c :: more ∧ c ∉ notFirst ∧ c ≠ '"' ∧ c ≠ '[' ∧ c ≠ '{' := by
  rcases h with h | ⟨body, rfl, -⟩
  · cases s with
    | nil => exact absurd h (by simp)
    | cons c more =>
        have hc : Text.isDigit c = true := h
        refine ⟨c, more, rfl, not_mem_notFirst_of_isDigit hc, ?_, ?_, ?_⟩ <;>
          · rintro rfl
            exact absurd hc (by decide)
  · exact ⟨'-', body, rfl, by decide, by decide, by decide, by decide⟩

/-- No constant starts like a number. -/
theorem StartsNumber.readConstant?_eq_none {s : Text} (h : StartsNumber s) :
    readConstant? s = none := by
  have hdigit {c : Char} {more : Text} (hc : Text.isDigit c = true) :
      Text.after? "Infinity".toList (c :: more) = none ∧ readConstant? (c :: more) = none := by
    have hne (d : Char) (hd : Text.isDigit d = false) : d ≠ c := by
      rintro rfl
      rw [hc] at hd
      exact Bool.noConfusion hd
    constructor
    · exact if_neg (hne 'I' rfl)
    · simp [readConstant?, constants, Text.after?, hne 'n' rfl, hne 't' rfl, hne 'f' rfl,
        hne 'N' rfl, hne 'I' rfl, hne '-' rfl]
  rcases h with h | ⟨body, rfl, h⟩
  · cases s with
    | nil => exact absurd h (by simp)
    | cons c more => exact (hdigit h).2
  · cases body with
    | nil => exact absurd h (by simp)
    | cons c more =>
        have hbody : Text.after? ['I', 'n', 'f', 'i', 'n', 'i', 't', 'y'] (c :: more) = none :=
          (hdigit h).1
        simp [readConstant?, constants, Text.after?] at hbody ⊢
        exact hbody

theorem startsNumber_finite (negative : Bool) {mantissa : Nat} {exponent : Int}
    (canonical : Canonical mantissa exponent) (rest : Text) :
    StartsNumber (floatText (.finite negative mantissa exponent canonical) ++ rest) := by
  obtain ⟨body, he, hbody, -⟩ := finiteText_spec negative canonical
  show StartsNumber (Binary64.finiteText negative mantissa exponent ++ rest)
  rw [he]
  exact startsNumber_sign negative hbody rest

/-- A written value starts with a mark of its kind. -/
theorem exists_print_eq_cons (level : Nat) (rest : Text) (doc : Json) :
    ∃ c more, print level rest doc = c :: more ∧ c ∉ notFirst := by
  cases doc with
  | null => exact ⟨'n', _, rfl, by decide⟩
  | bool value =>
      cases value with
      | false => exact ⟨'f', _, rfl, by decide⟩
      | true => exact ⟨'t', _, rfl, by decide⟩
  | int value =>
      obtain ⟨c, more, he, hc, -⟩ := (startsNumber_ofInt value rest).exists_cons
      exact ⟨c, more, he, hc⟩
  | float value =>
      cases value with
      | finite negative mantissa exponent canonical =>
          obtain ⟨c, more, he, hc, -⟩ := (startsNumber_finite negative canonical rest).exists_cons
          exact ⟨c, more, he, hc⟩
      | infinite negative =>
          cases negative with
          | false => exact ⟨'I', _, rfl, by decide⟩
          | true => exact ⟨'-', _, rfl, by decide⟩
      | nan => exact ⟨'N', _, rfl, by decide⟩
  | str text => exact ⟨'"', _, rfl, by decide⟩
  | list items =>
      cases items with
      | nil => exact ⟨'[', _, rfl, by decide⟩
      | cons item items => exact ⟨'[', _, rfl, by decide⟩
  | object fields =>
      cases fields with
      | nil => exact ⟨'{', _, rfl, by decide⟩
      | cons field fields => exact ⟨'{', _, rfl, by decide⟩

/-! ## White space -/

theorem skipSpace_of_not_mem {c : Char} {more : Text} (h : c ∉ notFirst) :
    skipSpace (c :: more) = c :: more := by
  simp only [notFirst, List.mem_cons, List.not_mem_nil, or_false, not_or] at h
  rw [skipSpace, List.dropWhile_cons_of_neg]
  simp [h.1, h.2.1, h.2.2.1, h.2.2.2.1]

theorem skipSpace_lineStart (level : Nat) (s : Text) :
    skipSpace (lineStart level ++ s) = skipSpace s := by
  have hspaces : ∀ c ∈ lineStart level,
      (decide (c = ' ') || decide (c = '\t') || decide (c = '\n') || decide (c = '\r')) = true := by
    intro c hc
    rcases List.mem_cons.1 hc with rfl | hc
    · rfl
    · rw [List.eq_of_mem_replicate hc]
      rfl
  rw [skipSpace, List.dropWhile_append_of_pos hspaces]
  rfl

theorem skipSpace_print (level : Nat) (rest : Text) (doc : Json) :
    skipSpace (print level rest doc) = print level rest doc := by
  obtain ⟨c, more, he, hc⟩ := exists_print_eq_cons level rest doc
  rw [he, skipSpace_of_not_mem hc]

/-! ## Single values -/

theorem readValue_of_startsNumber (n : Nat) {s : Text} (h : StartsNumber s) :
    readValue (n + 1) s = readNumber s := by
  have hnone := h.readConstant?_eq_none
  obtain ⟨c, more, rfl, -, hq, hl, ho⟩ := h.exists_cons
  rw [readValue]
  · rw [hnone]
  · intro _ he
    exact absurd (List.cons.inj he).1 hq
  · intro _ he
    exact absurd (List.cons.inj he).1 hl
  · intro _ he
    exact absurd (List.cons.inj he).1 ho

theorem readValue_floatText (n : Nat) (x : Binary64) {rest : Text} (hr : Follows rest) :
    readValue (n + 1) (floatText x ++ rest) = .ok (.float x, rest) := by
  cases x with
  | finite negative mantissa exponent canonical =>
      rw [readValue_of_startsNumber n (startsNumber_finite negative canonical rest)]
      obtain ⟨body, he, hbody, hread⟩ := finiteText_spec negative canonical
      show readNumber (Binary64.finiteText negative mantissa exponent ++ rest) = _
      rw [he, List.append_assoc, readNumber_sign negative, hread rest hr]
      cases body with
      | nil => exact absurd hbody (by simp)
      | cons c more => exact hbody
  | infinite negative => cases negative <;> rfl
  | nan => rfl

theorem readValue_quoted (n : Nat) (s : Points) (rest : Text) :
    readValue (n + 1) (quoted s ++ rest) = .ok (.str (Points.joined s), rest) := by
  have hn : s.length < (s.flatMap quotedPoint ++ '"' :: rest).length + 1 := by
    have := length_le_flatMap_quotedPoint s
    rw [List.length_append]
    omega
  have hread := readQuoted?_flatMap hn rest
  have hquoted : quoted s ++ rest = '"' :: (s.flatMap quotedPoint ++ '"' :: rest) := by
    simp [quoted]
  rw [hquoted, readValue, hread]

/-! ## Whole documents -/

/-- A name and the colon behind it are read before the value. -/
theorem readFields_name (n : Nat) (name : Points) (s : Text) :
    readFields (n + 1) (quoted name ++ (": ".toList ++ s)) = (do
      let (value, rest) ← readValue n (skipSpace s)
      match skipSpace rest with
      | '}' :: rest => return ([(Points.joined name, value)], rest)
      | ',' :: rest =>
        let (fields, rest) ← readFields n (skipSpace rest)
        return ((Points.joined name, value) :: fields, rest)
      | _ => throw .malformed) := by
  have hn : name.length < (name.flatMap quotedPoint ++ '"' :: (':' :: ' ' :: s)).length + 1 := by
    have := length_le_flatMap_quotedPoint name
    rw [List.length_append]
    omega
  have hread := readQuoted?_flatMap hn (':' :: ' ' :: s)
  have hquoted : quoted name ++ (": ".toList ++ s)
      = '"' :: (name.flatMap quotedPoint ++ '"' :: (':' :: ' ' :: s)) := by
    simp [quoted]
  rw [hquoted, readFields, hread]
  rfl

mutual

/-- A written value in front of a comma or a line break reads back. -/
theorem readValue_print :
    ∀ (doc : Json) (_ : AllShort doc) (level n : Nat) (rest : Text) (_ : Follows rest)
      (_ : 2 * (print level rest doc).length ≤ n + 2 * rest.length),
      readValue n (print level rest doc) = .ok (reread doc, rest)
  | doc, hshort, level, 0, rest, hr, hn => by
      have := length_print_gt level rest doc
      omega
  | .null, _, _, n + 1, _, _, _ => rfl
  | .bool true, _, _, n + 1, _, _, _ => rfl
  | .bool false, _, _, n + 1, _, _, _ => rfl
  | .int value, hshort, level, n + 1, rest, hr, _ => by
      rw [print, readValue_of_startsNumber n (startsNumber_ofInt value rest),
        readNumber_ofInt hshort hr]
      rfl
  | .float value, _, _, n + 1, _, hr, _ => readValue_floatText n value hr
  | .str s, _, _, n + 1, rest, _, _ => readValue_quoted n s rest
  | .list [], _, _, n + 1, _, _, _ => rfl
  | .list (item :: items), hshort, level, n + 1, rest, _, hn => by
      have hread := readItems_print item hshort.1 items hshort.2 (level + 1) level n rest (by
        simp only [print, lineStart, List.length_cons, List.length_append] at hn ⊢
        omega)
      obtain ⟨c, more, hc, hnot⟩ := exists_print_eq_cons (level + 1)
        (printItems (level + 1) (lineStart level ++ ']' :: rest) items) item
      rw [print, List.cons_append, readValue, skipSpace_lineStart, skipSpace_print]
      rw [hc] at hread ⊢
      split
      · next rest' he => exact absurd ((List.cons.inj he).1 ▸ hnot) (by decide)
      · rw [hread]
        rfl
  | .object [], _, _, n + 1, _, _, _ => rfl
  | .object ((name, value) :: fields), hshort, level, n + 1, rest, _, hn => by
      have hread := readFields_print name value hshort.1 fields hshort.2 (level + 1) level n rest (by
        simp only [print, lineStart, List.length_cons, List.length_append] at hn ⊢
        omega)
      have hquoted : quoted name = '"' :: (name.flatMap quotedPoint ++ ['"']) := rfl
      rw [print, List.append_assoc, List.append_assoc, List.cons_append, readValue,
        skipSpace_lineStart]
      rw [hquoted, List.cons_append] at hread ⊢
      rw [skipSpace_of_not_mem (by decide)]
      split
      · next rest' he => exact absurd (List.cons.inj he).1 (by decide)
      · rw [hread]
        rfl
  termination_by structural _ _ _ n => n

/-- Written items up to the closing bracket read back. -/
theorem readItems_print :
    ∀ (item : Json) (_ : AllShort item) (items : List Json) (_ : AllShortItems items)
      (level level' n : Nat) (rest : Text)
      (_ : 2 * (print level (printItems level (lineStart level' ++ ']' :: rest) items) item).length
        ≤ n + 2 * rest.length),
      readItems n (print level (printItems level (lineStart level' ++ ']' :: rest) items) item)
        = .ok (reread item :: rereadItems items, rest)
  | item, hitem, items, hitems, level, level', 0, rest, hn => by
      have hlt := length_print_gt level
        (printItems level (lineStart level' ++ ']' :: rest) items) item
      have hle := length_printItems_ge level (lineStart level' ++ ']' :: rest) items
      simp only [List.length_append, List.length_cons] at hle
      omega
  | item, hitem, [], _, level, level', n + 1, rest, hn => by
      have hread := readValue_print item hitem level n
        (lineStart level' ++ ']' :: rest) (Or.inr rfl) (by
          simp only [printItems, lineStart, List.length_cons, List.length_append] at hn ⊢
          omega)
      have hclose : skipSpace (']' :: rest) = ']' :: rest := rfl
      rw [printItems, readItems, hread]
      simp only [bind, Except.bind, skipSpace_lineStart, hclose]
      rfl
  | item, hitem, next :: items, hitems, level, level', n + 1, rest, hn => by
      have hle := length_printItems_ge level (lineStart level' ++ ']' :: rest) (next :: items)
      have hlt := length_print_gt level
        (printItems level (lineStart level' ++ ']' :: rest) (next :: items)) item
      have hread := readValue_print item hitem level n
        (printItems level (lineStart level' ++ ']' :: rest) (next :: items)) (Or.inl rfl) (by
          simp only [lineStart, List.length_cons, List.length_append] at hle hn ⊢
          omega)
      have hmore := readItems_print next hitems.1 items hitems.2 level level' n rest (by
        simp only [printItems, lineStart, List.length_cons, List.length_append] at hlt hn ⊢
        omega)
      rw [readItems, hread]
      have hcomma (s : Text) : skipSpace (',' :: s) = ',' :: s := rfl
      simp only [bind, Except.bind, printItems, List.cons_append, hcomma]
      simp only [skipSpace_lineStart, skipSpace_print, hmore]
      rfl
  termination_by structural _ _ _ _ _ _ n => n

/-- Written fields up to the closing brace read back. -/
theorem readFields_print :
    ∀ (name : Points) (value : Json) (_ : AllShort value) (fields : List (Points × Json))
      (_ : AllShortFields fields) (level level' n : Nat) (rest : Text)
      (_ : 2 * (quoted name ++ (": ".toList
          ++ print level (printFields level (lineStart level' ++ '}' :: rest) fields) value)).length
        ≤ n + 2 * rest.length),
      readFields n (quoted name ++ (": ".toList
          ++ print level (printFields level (lineStart level' ++ '}' :: rest) fields) value))
        = .ok ((Points.joined name, reread value) :: rereadFields fields, rest)
  | name, value, hvalue, fields, hfields, level, level', 0, rest, hn => by
      have hlt := length_print_gt level
        (printFields level (lineStart level' ++ '}' :: rest) fields) value
      have hle := length_printFields_ge level (lineStart level' ++ '}' :: rest) fields
      simp only [List.length_append, List.length_cons] at hle hn
      omega
  | name, value, hvalue, [], _, level, level', n + 1, rest, hn => by
      have hread := readValue_print value hvalue level n
        (lineStart level' ++ '}' :: rest) (Or.inr rfl) (by
          simp only [printFields, quoted, lineStart, List.length_cons, List.length_append] at hn ⊢
          omega)
      have hclose : skipSpace ('}' :: rest) = '}' :: rest := rfl
      rw [printFields, readFields_name, skipSpace_print, hread]
      simp only [bind, Except.bind, skipSpace_lineStart, hclose]
      rfl
  | name, value, hvalue, (next, item) :: fields, hfields, level, level', n + 1, rest, hn => by
      have hle := length_printFields_ge level (lineStart level' ++ '}' :: rest)
        ((next, item) :: fields)
      have hlt := length_print_gt level
        (printFields level (lineStart level' ++ '}' :: rest) ((next, item) :: fields)) value
      have hread := readValue_print value hvalue level n
        (printFields level (lineStart level' ++ '}' :: rest) ((next, item) :: fields))
        (Or.inl rfl) (by
          simp only [quoted, lineStart, List.length_cons, List.length_append] at hle hn ⊢
          omega)
      have hmore := readFields_print next item hfields.1 fields hfields.2 level level' n rest (by
        simp only [printFields, quoted, lineStart, List.length_cons, List.length_append]
          at hlt hn ⊢
        omega)
      have hcomma (s : Text) : skipSpace (',' :: s) = ',' :: s := rfl
      have hname (s : Text) : skipSpace (quoted next ++ s) = quoted next ++ s := rfl
      rw [readFields_name, skipSpace_print, hread]
      simp only [bind, Except.bind, printFields, List.cons_append, hcomma]
      simp only [List.append_assoc, skipSpace_lineStart, hname, hmore]
      rfl
  termination_by structural _ _ _ _ _ _ _ n => n

end

/-- **A document reads back from its text.** -/
theorem read_text {doc : Json} (h : AllShort doc) : read (text doc) = .ok (reread doc) := by
  have hread := readValue_print doc h 0 (2 * (text doc).length + 2) ['\n'] (Or.inr rfl) (by
    simp only [text]
    omega)
  have hspace : skipSpace (text doc) = text doc := skipSpace_print 0 ['\n'] doc
  rw [read, hspace]
  rw [← text] at hread
  rw [hread]
  rfl

end ApiScan.Json
