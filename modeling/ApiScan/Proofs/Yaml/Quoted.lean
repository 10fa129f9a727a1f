import ApiScan.Proofs.Text.Search
import ApiScan.Yaml.Token.Scalar
import Mathlib.Data.List.TakeWhile

set_option autoImplicit false

/-! # Quoted scalars

A text in which each quote is behind a backslash, as other forms write it between quotes, is read up
to the closing quote, or not at all. -/

namespace ApiScan.Yaml

variable {body rest s t : Text} {c : Char} {at_ at' : Cursor}

/-! ## Places -/

namespace Cursor

theorem next_ahead (h : at_.ahead = c :: s) : at_.next.ahead = s := by
  unfold next
  rw [h]
  dsimp only
  split <;> rfl

theorem skip_ahead (n : Nat) (at_ : Cursor) : (at_.skip n).ahead = at_.ahead.drop n := by
  induction n generalizing at_ with
  | zero => rfl
  | succ n ih =>
      rw [skip, ih]
      cases h : at_.ahead with
      | nil =>
          have hnext : at_.next = at_ := by
            unfold next
            rw [h]
          rw [hnext, h, List.drop_nil, List.drop_nil]
      | cons c s => rw [next_ahead h, List.drop_succ_cons]

theorem run_ahead (p : Char → Bool) (at_ : Cursor) : (at_.run p).2.ahead = at_.ahead.dropWhile p := by
  have hdrop (s : Text) : s.drop (s.takeWhile p).length = s.dropWhile p := by
    have hcut : (s.takeWhile p ++ s.dropWhile p).drop (s.takeWhile p).length = s.dropWhile p :=
      List.drop_left
    rwa [List.takeWhile_append_dropWhile] at hcut
  exact (skip_ahead _ at_).trans (hdrop at_.ahead)

theorem lineBreak?_eq_none (h : at_.ahead = c :: s) (hc : isBreak c = false) :
    at_.lineBreak? = none := by
  have hcr : c ≠ '\r' := by
    rintro rfl
    exact absurd hc (by decide)
  have hline : ¬ (c = '\u2028' ∨ c = '\u2029') := by
    rintro (rfl | rfl)
    all_goals exact absurd hc (by decide)
  unfold lineBreak?
  rw [h]
  split
  · next he => exact absurd (List.cons.inj he).1 hcr
  · next he =>
      obtain ⟨rfl, -⟩ := List.cons.inj he
      rw [if_neg hline, hc]
      rfl
  · next he => exact absurd he (List.cons_ne_nil _ _)

end Cursor

/-! ## Texts between quotes -/

/-- A text on one line in which quotes are behind backslashes only, and each backslash has one
    character behind it that belongs to it. Marks of comments are no such characters. -/
inductive Sealed : Text → Prop
  | nil : Sealed []
  | plain {c : Char} {s : Text} (hquote : c ≠ '"') (hslash : c ≠ '\\') (hbreak : isBreak c = false)
      (h : Sealed s) : Sealed (c :: s)
  | escape {c : Char} {s : Text} (hmark : c ≠ '@' ∧ c ≠ '*') (hbreak : isBreak c = false)
      (h : Sealed s) : Sealed ('\\' :: c :: s)

namespace Sealed

theorem append (hs : Sealed s) (ht : Sealed t) : Sealed (s ++ t) := by
  induction hs with
  | nil => exact ht
  | plain hquote hslash hbreak _ ih => exact .plain hquote hslash hbreak ih
  | escape hmark hbreak _ ih => exact .escape hmark hbreak ih

theorem of_cons (h : Sealed (c :: s)) (hc : c ≠ '\\') : Sealed s := by
  cases h with
  | plain _ _ _ h => exact h
  | escape _ _ _ => exact absurd rfl hc

/-- Characters at the front that stand for themselves may be left out. -/
theorem of_append (h : Sealed (s ++ t)) (hs : ∀ c ∈ s, c ≠ '\\') : Sealed t := by
  induction s with
  | nil => exact h
  | cons c s ih =>
      obtain ⟨hc, hs⟩ := List.forall_mem_cons.1 hs
      exact ih (h.of_cons hc) hs

theorem dropWhile {p : Char → Bool} (hp : p '\\' = false) (h : Sealed s) : Sealed (s.dropWhile p) := by
  have hsplit := List.takeWhile_append_dropWhile (p := p) (l := s)
  rw [← hsplit] at h
  refine h.of_append ?_
  rintro c hc rfl
  have := List.mem_takeWhile_imp hc
  exact absurd (hp.symm.trans this) Bool.false_ne_true

theorem isBreak_of_mem (h : Sealed s) : ∀ c ∈ s, isBreak c = false := by
  induction h with
  | nil => exact fun _ hc => absurd hc List.not_mem_nil
  | plain _ _ hbreak _ ih => exact List.forall_mem_cons.2 ⟨hbreak, ih⟩
  | escape _ hbreak _ ih =>
      exact List.forall_mem_cons.2 ⟨by decide, List.forall_mem_cons.2 ⟨hbreak, ih⟩⟩

/-- A mark of a comment belongs to no backslash. -/
theorem split (hc : c = '@' ∨ c = '*') :
    ∀ {front : Text}, Sealed (front ++ c :: rest) → Sealed front ∧ Sealed (c :: rest)
  | [], h => ⟨.nil, h⟩
  | [d], h => by
      cases h with
      | plain hquote hslash hbreak h => exact ⟨.plain hquote hslash hbreak .nil, h⟩
      | escape hmark _ _ => exact absurd hc (not_or.2 hmark)
  | d :: e :: front, h => by
      cases h with
      | plain hquote hslash hbreak h =>
          obtain ⟨hfront, hrest⟩ := split hc h
          exact ⟨.plain hquote hslash hbreak hfront, hrest⟩
      | escape hmark hbreak h =>
          obtain ⟨hfront, hrest⟩ := split hc h
          exact ⟨.escape hmark hbreak hfront, hrest⟩

/-- What stands in front of the closing quote breaks no line. -/
theorem exists_cons (h : Sealed body) : ∃ c s, body ++ '"' :: rest = c :: s ∧ isBreak c = false := by
  cases h with
  | nil => exact ⟨'"', rest, rfl, by decide⟩
  | plain _ _ hbreak _ => exact ⟨_, _, rfl, hbreak⟩
  | escape _ _ _ => exact ⟨'\\', _, rfl, by decide⟩

/-- Characters in front of the closing quote that are neither quotes nor backslashes. -/
theorem take {p : Char → Bool} (h : Sealed body) (hquote : p '"' = false) (hslash : p '\\' = false)
    {n : Nat} (hall : ((body ++ '"' :: rest).take n).all p = true)
    (hlength : ((body ++ '"' :: rest).take n).length = n) :
    ∃ more, (body ++ '"' :: rest).drop n = more ++ '"' :: rest ∧ Sealed more := by
  induction n generalizing body with
  | zero => exact ⟨body, rfl, h⟩
  | succ n ih =>
      have hnext {c : Char} {s : Text} (hs : Sealed s) (he : body ++ '"' :: rest = c :: (s ++ '"' :: rest)) :
          ∃ more, (body ++ '"' :: rest).drop (n + 1) = more ++ '"' :: rest ∧ Sealed more := by
        rw [he, List.take_succ_cons, List.all_cons, Bool.and_eq_true] at hall
        rw [he, List.take_succ_cons, List.length_cons] at hlength
        rw [he, List.drop_succ_cons]
        exact ih hs hall.2 (Nat.succ.inj hlength)
      cases h with
      | nil =>
          rw [List.nil_append, List.take_succ_cons, List.all_cons, hquote] at hall
          exact absurd hall Bool.false_ne_true
      | plain _ _ _ h => exact hnext h rfl
      | escape _ _ _ =>
          rw [List.cons_append, List.take_succ_cons, List.all_cons, hslash] at hall
          exact absurd hall Bool.false_ne_true

end Sealed

/-! ## Reading quoted scalars -/

theorem bind_eq_ok {ε α β : Type} {m : Except ε α} {k : α → Except ε β} {b : β}
    (h : (m >>= k) = .ok b) : ∃ a, m = .ok a ∧ k a = .ok b := by
  cases m with
  | error fault => cases h
  | ok a => exact ⟨a, rfl, h⟩

/-- A step inside a quoted scalar stays in front of the closing quote. -/
theorem quotedPiece?_sealed (h : Sealed body) (hat : at_.ahead = body ++ '"' :: rest)
    {piece? : Option (Points × Cursor)} (hread : quotedPiece? true at_ = .ok piece?) :
    (piece? = none ∧ body = [])
      ∨ ∃ piece at' more, piece? = some (piece, at') ∧ at'.ahead = more ++ '"' :: rest ∧ Sealed more := by
  unfold quotedPiece? at hread
  rw [hat] at hread
  cases h with
  | nil =>
      left
      exact ⟨(Except.ok.inj hread).symm, rfl⟩
  | @plain c s hquote hslash hbreak h =>
      right
      simp only [List.cons_append] at hread
      by_cases hblank : (c = ' ' || c = '\t') = true
      · rw [if_pos hblank] at hread
        have hrun : (at_.run fun c => c = ' ' || c = '\t').2.ahead
            = (c :: s).dropWhile (fun c => c = ' ' || c = '\t') ++ '"' :: rest := by
          rw [Cursor.run_ahead, hat, List.dropWhile_append]
          split
          · next hempty =>
              rw [List.isEmpty_iff.1 hempty]
              rfl
          · rfl
        have hmore : Sealed ((c :: s).dropWhile fun c => c = ' ' || c = '\t') :=
          (Sealed.plain hquote hslash hbreak h).dropWhile (by decide)
        have hcons : ∃ d t, _ ++ '"' :: rest = d :: t ∧ isBreak d = false := hmore.exists_cons
        obtain ⟨d, t, hd, hdbreak⟩ := hcons
        have hnobreak := Cursor.lineBreak?_eq_none (hrun.trans hd) hdbreak
        simp only [hnobreak, hrun] at hread
        rw [if_neg (by simp)] at hread
        obtain rfl := Except.ok.inj hread
        exact ⟨_, _, _, rfl, hrun, hmore⟩
      · rw [if_neg hblank, hbreak] at hread
        simp only [Bool.not_true, Bool.false_and, Bool.false_eq_true, if_false, Bool.true_and,
          decide_eq_true_eq, hquote, hslash] at hread
        obtain rfl := Except.ok.inj hread
        exact ⟨_, _, s, rfl, Cursor.next_ahead hat, h⟩
  | @escape c s _ hbreak h =>
      right
      have hnext : at_.next.ahead = c :: (s ++ '"' :: rest) := Cursor.next_ahead hat
      have hskip (n : Nat) : (at_.skip (2 + n)).ahead = (s ++ '"' :: rest).drop n := by
        rw [Cursor.skip_ahead, hat, Nat.add_comm]
        rfl
      have hnobreak := Cursor.lineBreak?_eq_none hnext hbreak
      simp only [List.cons_append] at hread
      rw [if_neg (by decide), if_neg (by decide), if_neg (by decide), if_neg (by decide),
        if_pos (by decide)] at hread
      split at hread
      · obtain rfl := Except.ok.inj hread
        exact ⟨_, _, s, rfl, hskip 0, h⟩
      · split at hread
        · next width _ _ hcode =>
            rw [Bool.and_eq_true, decide_eq_true_eq] at hcode
            obtain ⟨point, -, hpure⟩ := bind_eq_ok hread
            obtain rfl := Except.ok.inj hpure
            obtain ⟨more, hdrop, hmore⟩ := h.take (by decide) (by decide) hcode.2 hcode.1
            exact ⟨_, _, more, rfl, (hskip _).trans hdrop, hmore⟩
        · cases hread
      · simp only [hnobreak] at hread
        cases hread

/-- The rest of a quoted scalar is what is in front of the closing quote. -/
theorem quotedFrom_sealed {n : Nat} {points : Points} (h : Sealed body)
    (hat : at_.ahead = body ++ '"' :: rest)
    (hread : quotedFrom true n at_ = .ok (points, at')) : at'.ahead = rest := by
  induction n generalizing at_ body points with
  | zero => cases hread
  | succ n ih =>
      obtain ⟨piece?, hpiece, hrest⟩ := bind_eq_ok hread
      rcases quotedPiece?_sealed h hat hpiece with ⟨rfl, rfl⟩ | ⟨piece, next, more, rfl, hmore, hsealed⟩
      · obtain ⟨-, rfl⟩ := Prod.mk.inj (Except.ok.inj hrest)
        exact Cursor.next_ahead hat
      · obtain ⟨⟨found, last⟩, hlast, hpure⟩ := bind_eq_ok hrest
        obtain ⟨-, rfl⟩ := Prod.mk.inj (Except.ok.inj hpure)
        exact ih hsealed hmore hlast

/-- **A quoted scalar ends at its closing quote.** -/
theorem quotedScalar_sealed {points : Points} (h : Sealed body)
    (hat : at_.ahead = '"' :: (body ++ '"' :: rest))
    (hread : quotedScalar true at_ = .ok (points, at')) : at'.ahead = rest :=
  quotedFrom_sealed h (Cursor.next_ahead hat) hread

end ApiScan.Yaml
