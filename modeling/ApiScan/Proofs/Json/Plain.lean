import ApiScan.Json.Printer
import ApiScan.Proofs.Text.Digits
import ApiScan.Proofs.Text.Utf8
import ApiScan.Proofs.Text.Words

set_option autoImplicit false

/-! # The characters of written documents

A written document holds line breaks and printable ASCII and nothing else, so that it comes back
from a file as it was written. -/

namespace ApiScan.Json

/-- Whether a character is a line break or printable ASCII. -/
def isPlain (c : Char) : Bool := c = '\n' || (0x20 ≤ c.toNat && c.toNat < 0x7F)

/-! ## Numbers -/

theorem isPlain_of_isDigit {c : Char} (h : Text.isDigit c = true) : isPlain c = true := by
  rw [Text.isDigit_eq, Char.isDigit_iff_toNat] at h
  simp only [isPlain, Bool.or_eq_true, Bool.and_eq_true, decide_eq_true_eq]
  have h0 : '0'.toNat = 48 := rfl
  have h9 : '9'.toNat = 57 := rfl
  omega

theorem all_isPlain_ofNat (n : Nat) : (Text.ofNat n).all isPlain = true :=
  List.all_eq_true.2 fun _ hc => isPlain_of_isDigit (Text.isDigit_of_mem_ofNat hc)

theorem all_isPlain_ofInt (n : Int) : (Text.ofInt n).all isPlain = true := by
  cases n with
  | ofNat n => exact all_isPlain_ofNat n
  | negSucc n => exact all_isPlain_ofNat (n + 1)

theorem all_of_subset {s t : Text} (h : s ⊆ t) (ht : t.all isPlain = true) :
    s.all isPlain = true :=
  List.all_eq_true.2 fun c hc => List.all_eq_true.1 ht c (h hc)

theorem all_isPlain_shortestDigits (mantissa : Nat) (exponent : Int) :
    (Binary64.shortestDigits mantissa exponent).1.all isPlain = true := by
  unfold Binary64.shortestDigits
  exact all_of_subset (Text.dropEndWhile_isPrefix _ _).subset (all_isPlain_ofNat _)

theorem all_isPlain_finiteText (negative : Bool) (mantissa : Nat) (exponent : Int) :
    (Binary64.finiteText negative mantissa exponent).all isPlain = true := by
  have hsign : (if negative then ['-'] else [] : Text).all isPlain = true := by
    cases negative <;> rfl
  have hdigits := all_isPlain_shortestDigits mantissa exponent
  have htake (n : Nat) := all_of_subset (List.take_subset n _) hdigits
  have hdrop (n : Nat) := all_of_subset (List.drop_subset n _) hdigits
  have hzeros (n : Nat) : (List.replicate n '0').all isPlain = true :=
    List.all_eq_true.2 fun c hc => by
      rw [List.eq_of_mem_replicate hc]
      rfl
  unfold Binary64.finiteText
  simp only
  split
  · rw [List.all_append, hsign]
    rfl
  · split
    · split
      · simp only [List.all_append, hsign, hzeros, hdigits]
        rfl
      · simp only [List.all_append, hsign, htake, hzeros]
        split
        · rfl
        · rw [hdrop]
          rfl
    · have hpart : (if (Binary64.shortestDigits mantissa exponent).1.length = 1 then []
          else '.' :: (Binary64.shortestDigits mantissa exponent).1.drop 1 : Text).all isPlain
            = true := by
        split
        · rfl
        · exact hdrop 1
      have hsize (n : Nat) : (if (Text.ofNat n).length < 2 then '0' :: Text.ofNat n
          else Text.ofNat n : Text).all isPlain = true := by
        split
        · exact all_isPlain_ofNat n
        · exact all_isPlain_ofNat n
      simp only [List.all_append, hsign, htake, hpart, hsize]
      split <;> rfl

theorem all_isPlain_floatText (x : Binary64) : (floatText x).all isPlain = true := by
  cases x with
  | finite negative mantissa exponent canonical =>
      exact all_isPlain_finiteText negative mantissa exponent
  | infinite negative => cases negative <;> rfl
  | nan => rfl

/-! ## Quoted texts -/

theorem all_isPlain_unitEscape (unit : Nat) : (unitEscape unit).all isPlain = true := by
  have hdigit (n : Nat) : isPlain (Nat.digitChar (n % 16)) = true := by
    have hall : ∀ k : Fin 16, isPlain (Nat.digitChar k) = true := by decide
    exact hall ⟨n % 16, Nat.mod_lt n (by decide)⟩
  show (['\\', 'u'] ++ Text.hexDigits 4 unit).all isPlain = true
  simp only [Text.hexDigits, Text.hexDigit, List.all_append, List.all_cons, hdigit]
  rfl

theorem all_isPlain_quotedPoint (point : CodePoint) : (quotedPoint point).all isPlain = true := by
  cases point with
  | half index => exact all_isPlain_unitEscape _
  | char c =>
      show (quotedChar c).all isPlain = true
      unfold quotedChar
      split
      all_goals try rfl
      simp only
      split
      · next h =>
          simp only [List.all_cons, List.all_nil, isPlain, Bool.and_true, Bool.or_eq_true,
            Bool.and_eq_true, decide_eq_true_eq]
          exact Or.inr h
      · split
        · exact all_isPlain_unitEscape _
        · rw [List.all_append, all_isPlain_unitEscape, all_isPlain_unitEscape]
          rfl

theorem all_isPlain_quoted (s : Points) : (quoted s).all isPlain = true := by
  have hpoints : (s.flatMap quotedPoint).all isPlain = true :=
    List.all_eq_true.2 fun c hc => by
      obtain ⟨point, -, hc⟩ := List.mem_flatMap.1 hc
      exact List.all_eq_true.1 (all_isPlain_quotedPoint point) c hc
  show (['"'] ++ s.flatMap quotedPoint ++ ['"']).all isPlain = true
  rw [List.all_append, List.all_append, hpoints]
  rfl

/-! ## Documents -/

theorem all_isPlain_lineStart (level : Nat) : (lineStart level).all isPlain = true := by
  have hblanks : (List.replicate (2 * level) ' ').all isPlain = true :=
    List.all_eq_true.2 fun c hc => by
      rw [List.eq_of_mem_replicate hc]
      rfl
  exact hblanks

mutual

theorem all_isPlain_print (level : Nat) {rest : Text} (hrest : rest.all isPlain = true) :
    ∀ doc : Json, (print level rest doc).all isPlain = true
  | .null => by
      rw [print, List.all_append, hrest]
      rfl
  | .bool true => by
      rw [print, List.all_append, hrest]
      rfl
  | .bool false => by
      rw [print, List.all_append, hrest]
      rfl
  | .int value => by
      rw [print, List.all_append, hrest, all_isPlain_ofInt]
      rfl
  | .float value => by
      rw [print, List.all_append, hrest, all_isPlain_floatText]
      rfl
  | .str text => by
      rw [print, List.all_append, hrest, all_isPlain_quoted]
      rfl
  | .list [] => hrest
  | .list (item :: items) => by
      have hclose : (lineStart level ++ ']' :: rest).all isPlain = true := by
        rw [List.all_append, all_isPlain_lineStart]
        exact hrest
      have hitem := all_isPlain_print (level + 1)
        (all_isPlain_printItems (level + 1) hclose items) item
      show ('[' :: (lineStart (level + 1) ++ print (level + 1)
        (printItems (level + 1) (lineStart level ++ ']' :: rest) items) item)).all isPlain = true
      rw [List.all_cons, List.all_append, all_isPlain_lineStart, hitem]
      rfl
  | .object [] => hrest
  | .object ((name, value) :: fields) => by
      have hclose : (lineStart level ++ '}' :: rest).all isPlain = true := by
        rw [List.all_append, all_isPlain_lineStart]
        exact hrest
      have hvalue := all_isPlain_print (level + 1)
        (all_isPlain_printFields (level + 1) hclose fields) value
      show ('{' :: (lineStart (level + 1) ++ quoted name ++ ": ".toList ++ print (level + 1)
        (printFields (level + 1) (lineStart level ++ '}' :: rest) fields) value)).all isPlain = true
      rw [List.all_cons, List.all_append, List.all_append, List.all_append, all_isPlain_lineStart,
        all_isPlain_quoted, hvalue]
      rfl

theorem all_isPlain_printItems (level : Nat) {rest : Text} (hrest : rest.all isPlain = true) :
    ∀ items : List Json, (printItems level rest items).all isPlain = true
  | [] => hrest
  | item :: items => by
      have hitem := all_isPlain_print level (all_isPlain_printItems level hrest items) item
      show (',' :: (lineStart level ++ print level (printItems level rest items) item)).all isPlain
        = true
      rw [List.all_cons, List.all_append, all_isPlain_lineStart, hitem]
      rfl

theorem all_isPlain_printFields (level : Nat) {rest : Text} (hrest : rest.all isPlain = true) :
    ∀ fields : List (Points × Json), (printFields level rest fields).all isPlain = true
  | [] => hrest
  | (name, value) :: fields => by
      have hvalue := all_isPlain_print level (all_isPlain_printFields level hrest fields) value
      show (',' :: (lineStart level ++ quoted name ++ ": ".toList
        ++ print level (printFields level rest fields) value)).all isPlain = true
      rw [List.all_cons, List.all_append, List.all_append, List.all_append, all_isPlain_lineStart,
        all_isPlain_quoted, hvalue]
      rfl

end

theorem not_mem_text_return (doc : Json) : '\r' ∉ text doc := fun h =>
  absurd (List.all_eq_true.1 (all_isPlain_print 0 rfl doc) '\r' h) (by decide)

/-- A document comes back from a file as it was written. -/
theorem unifyBreaks_text (doc : Json) : Text.unifyBreaks (text doc) = text doc :=
  Text.unifyBreaks_eq_self (not_mem_text_return doc)

end ApiScan.Json
