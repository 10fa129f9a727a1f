import ApiScan.Model.DocumentSchema
import ApiScan.Proofs.Path
import ApiScan.Proofs.Source.Comment

set_option autoImplicit false

/-! # Blocks of declared fields

A block of fields is written as braces around fields with commas between them, each of them in
shorthand or with an explicit type. White space stands around them as it may. -/

namespace ApiScan.DocumentSchema

open Text Source

/-! ## Fields as they are written -/

/-- A word of a source text. -/
structure Word where
  text : Text
  ne_nil : text ≠ []
  allWord : AllWord text

/-- White space in a source text. -/
structure Gap where
  text : Text
  blank : AllBlank text

/-- A gap of one blank. -/
def blank : Gap := ⟨[' '], by decide⟩

/-- A field as it is declared. -/
inductive Declaration where
  /-- As in `name: String`. -/
  | shorthand (name type : Word)
  /-- As in `name: { type: String }`. -/
  | explicit (name type : Word)

namespace Declaration

def name : Declaration → Word
  | shorthand name _ | explicit name _ => name

def type : Declaration → Word
  | shorthand _ type | explicit _ type => type

/-- Whether the type is explicit. -/
def isExplicit : Declaration → Bool
  | shorthand .. => false
  | explicit .. => true

/-- The text of a declaration behind its name. -/
def body : Declaration → Text
  | shorthand _ type => ": ".toList ++ type.text
  | explicit _ type => ": ".toList ++ '{' :: (" type: ".toList ++ type.text ++ [' '] ++ ['}'])

/-- The text of a declaration. -/
def text (declaration : Declaration) : Text := declaration.name.text ++ declaration.body

end Declaration

/-- Fields in the order in which they are declared, each with the white space in front of it. -/
abbrev Declared := List (Gap × Declaration)

/-- The text of fields; `sep` stands in front of the first one and a comma in front of each other
    one. -/
def sequence (sep : Text) : Declared → Text
  | [] => []
  | (gap, declaration) :: more => sep ++ gap.text ++ declaration.text ++ sequence [','] more

/-- Commas and white space, as they may stand behind the last field. -/
structure Tail where
  text : Text
  plain : ∀ c ∈ text, c = ',' ∨ isBlank c = true

/-- A block of fields. -/
def block (fields : Declared) (tail : Tail) : Text :=
  '{' :: (sequence [] fields ++ (tail.text ++ ['}']))

variable {fields more : Declared} {sep : Text} {tail : Tail} {c : Char}

/-! ## Characters -/

/-- What stands in front of the next field. -/
def nextSep (sep : Text) : Declared → Text
  | [] => sep
  | _ :: _ => [',']

theorem sequence_append (sep : Text) (fields more : Declared) :
    sequence sep (fields ++ more) = sequence sep fields ++ sequence (nextSep sep fields) more := by
  induction fields generalizing sep with
  | nil => rfl
  | cons field fields ih =>
      obtain ⟨gap, declaration⟩ := field
      have hnext : nextSep [','] fields = [','] := by cases fields <;> rfl
      rw [List.cons_append, sequence, sequence, ih, hnext, nextSep]
      simp only [List.append_assoc]

/-- The characters of a block. -/
def IsBlockChar (c : Char) : Prop :=
  isWord c = true ∨ isBlank c = true ∨ c ∈ [',', ':', '{', '}']

theorem isBlockChar_of_mem_text {declaration : Declaration} (h : c ∈ declaration.text) :
    IsBlockChar c := by
  have hmark (mark : Text)
      (hmark : (mark.all fun c => isWord c || isBlank c || c ∈ [',', ':', '{', '}']) = true)
      (hc : c ∈ mark) : IsBlockChar c := by
    have := List.all_eq_true.1 hmark c hc
    simpa [IsBlockChar, or_assoc] using this
  rcases List.mem_append.1 h with hname | hbody
  · exact Or.inl (declaration.name.allWord c hname)
  · cases declaration with
    | shorthand name type =>
        rcases List.mem_append.1 hbody with hc | hc
        · exact hmark _ (by decide) hc
        · exact Or.inl (type.allWord c hc)
    | explicit name type =>
        simp only [Declaration.body, List.mem_append, List.mem_cons, List.not_mem_nil, or_false]
          at hbody
        rcases hbody with hc | rfl | ((hc | hc) | rfl) | rfl
        · exact hmark _ (by decide) hc
        · exact hmark ['{'] (by decide) List.mem_cons_self
        · exact hmark _ (by decide) hc
        · exact Or.inl (type.allWord c hc)
        · exact hmark [' '] (by decide) List.mem_cons_self
        · exact hmark ['}'] (by decide) List.mem_cons_self

theorem isBlockChar_of_mem_sequence (hsep : sep = [] ∨ sep = [',']) (h : c ∈ sequence sep fields) :
    IsBlockChar c := by
  induction fields generalizing sep with
  | nil => exact absurd h List.not_mem_nil
  | cons field fields ih =>
      obtain ⟨gap, declaration⟩ := field
      simp only [sequence, List.mem_append] at h
      rcases h with ((hc | hc) | hc) | hc
      · rcases hsep with rfl | rfl
        · exact absurd hc List.not_mem_nil
        · exact Or.inr (Or.inr (by simp [List.mem_singleton.1 hc]))
      · exact Or.inr (Or.inl (gap.blank c hc))
      · exact isBlockChar_of_mem_text hc
      · exact ih (Or.inr rfl) hc

theorem isBlockChar_of_mem_block (h : c ∈ block fields tail) : IsBlockChar c := by
  simp only [block, List.mem_cons, List.mem_append, List.not_mem_nil, or_false] at h
  rcases h with rfl | hc | hc | rfl
  · exact Or.inr (Or.inr (by simp))
  · exact isBlockChar_of_mem_sequence (Or.inl rfl) hc
  · rcases tail.plain c hc with rfl | hblank
    · exact Or.inr (Or.inr (by simp))
    · exact Or.inr (Or.inl hblank)
  · exact Or.inr (Or.inr (by simp))

/-- A block holds no comment and no literal. -/
theorem stripComments_block (fields : Declared) (tail : Tail) :
    stripComments (block fields tail) = block fields tail := by
  have hplain : NoMark (block fields tail) := by
    intro c hc
    rcases isBlockChar_of_mem_block hc with hword | hblank | hmark
    · exact noMark_of_allWord (w := [c]) (by simpa [AllWord] using hword) c List.mem_cons_self
    · exact noMark_of_allBlank (s := [c]) (by simpa [AllBlank] using hblank) c List.mem_cons_self
    · exact (show NoMark [',', ':', '{', '}'] by decide) c hmark
  exact hplain.kept.stripComments_eq

end ApiScan.DocumentSchema
