import ApiScan.Proofs.Text.Lines
import ApiScan.Proofs.Text.Search
import ApiScan.Text.Blank
import ApiScan.Text.Word
import Mathlib.Data.List.DropRight
import Mathlib.Data.List.Infix
import Mathlib.Data.List.TakeWhile

set_option autoImplicit false

/-! # Words in texts

A text of words and other characters is scanned word by word: a recogniser of phrases that start
with a word recognises nothing inside a word and nothing between words. -/

/-! ## Trimmed texts

What is dropped at the end of a text belongs to the class that is dropped, and a trimmed text is a
part of the text. -/

namespace ApiScan.Text

theorem dropWhile_of_forall {p : Char → Bool} {s : Text} (h : ∀ c ∈ s, p c = false) :
    s.dropWhile p = s := by
  cases s with
  | nil => rfl
  | cons c s => exact List.dropWhile_cons_of_neg (by simp [h c List.mem_cons_self])

theorem dropEndWhile_of_forall {p : Char → Bool} {s : Text} (h : ∀ c ∈ s, p c = false) :
    dropEndWhile p s = s := by
  rw [dropEndWhile, dropWhile_of_forall fun c hc => h c (List.mem_reverse.1 hc), List.reverse_reverse]

theorem exists_dropEndWhile_append (p : Char → Bool) (s : Text) :
    ∃ tail, s = dropEndWhile p s ++ tail ∧ ∀ c ∈ tail, p c = true := by
  refine ⟨(s.reverse.takeWhile p).reverse, ?_, fun c hc => ?_⟩
  · rw [dropEndWhile, ← List.reverse_append, List.takeWhile_append_dropWhile, List.reverse_reverse]
  · exact List.mem_takeWhile_imp (List.mem_reverse.1 hc)

theorem dropEndWhile_isPrefix (p : Char → Bool) (s : Text) : dropEndWhile p s <+: s := by
  obtain ⟨tail, hs, -⟩ := exists_dropEndWhile_append p s
  exact ⟨tail, hs.symm⟩

theorem strip_isInfix {s : Text} : strip s <:+: s :=
  (dropEndWhile_isPrefix isBlank _).isInfix.trans (List.dropWhile_suffix isBlank).isInfix

end ApiScan.Text

namespace ApiScan.Text

variable {α : Type} {found : Option Char → Text → Option α} {before : Option Char} {c : Char}
  {s w mark rest gap : Text}

/-! ## Runs -/

/-- What is left behind a run of characters of a class starts with another one. -/
theorem not_of_head?_dropWhile {p : Char → Bool} (h : (s.dropWhile p).head? = some c) : p c = false := by
  have hnot := List.head?_dropWhile_not p s
  rw [h] at hnot
  simpa using hnot

theorem not_of_head?_append {p : Char → Bool} (hs : ∀ d, s.head? = some d → p d = false)
    (hrest : ∀ d, rest.head? = some d → p d = false) (h : (s ++ rest).head? = some c) :
    p c = false := by
  cases s with
  | nil => exact hrest c h
  | cons d s => exact hs c h

/-- A run of characters of a class ends where the text does or another character stands. -/
theorem takeWhile_append_stop {p : Char → Bool} (hs : ∀ d ∈ s, p d = true)
    (hstop : ∀ d, rest.head? = some d → p d = false) :
    (s ++ rest).takeWhile p = s ∧ (s ++ rest).dropWhile p = rest := by
  rw [List.takeWhile_append_of_pos hs, List.dropWhile_append_of_pos hs]
  cases rest with
  | nil => exact ⟨List.append_nil s, rfl⟩
  | cons d rest =>
      have hd : ¬ p d = true := by simp [hstop d rfl]
      rw [List.takeWhile_cons_of_neg hd, List.dropWhile_cons_of_neg hd, List.append_nil]
      exact ⟨rfl, rfl⟩

theorem takeWhile_append_cons {p : Char → Bool} (hs : ∀ d ∈ s, p d = true) (hc : p c = false)
    (rest : Text) : (s ++ c :: rest).takeWhile p = s ∧ (s ++ c :: rest).dropWhile p = c :: rest :=
  takeWhile_append_stop hs fun _ hd => Option.some.inj hd ▸ hc

/-- A run of characters of a class goes up to a character that is in front of all others. -/
theorem takeWhile_and_head?_iff {p : Char → Bool} (hc : p c = false) :
    s.takeWhile p = w ∧ (s.dropWhile p).head? = some c ↔
      (∀ d ∈ w, p d = true) ∧ ∃ rest, s = w ++ c :: rest := by
  constructor
  · rintro ⟨rfl, hhead⟩
    obtain ⟨rest, hrest⟩ := List.head?_eq_some_iff.1 hhead
    exact ⟨fun d hd => List.mem_takeWhile_imp hd, rest,
      by rw [← hrest, List.takeWhile_append_dropWhile]⟩
  · rintro ⟨hw, rest, rfl⟩
    obtain ⟨htake, hdrop⟩ := takeWhile_append_cons hw hc rest
    rw [htake, hdrop]
    exact ⟨rfl, rfl⟩

/-- What stands up to the first comma, on one line. -/
theorem upToComma_iff :
    s.takeWhile (fun c => c ≠ ',' && c ≠ '\n') = w
        ∧ (s.dropWhile fun c => c ≠ ',' && c ≠ '\n').head? = some ',' ↔
      (∀ d ∈ w, d ≠ ',' ∧ d ≠ '\n') ∧ ∃ rest, s = w ++ ',' :: rest := by
  rw [takeWhile_and_head?_iff rfl]
  simp only [Bool.and_eq_true, decide_eq_true_eq]

/-- A text is cut at the first place of a character in one way. -/
theorem append_cons_inj {rest' : Text} (hs : ∀ d ∈ s, d ≠ c) (hw : ∀ d ∈ w, d ≠ c)
    (h : s ++ c :: rest = w ++ c :: rest') : s = w ∧ rest = rest' := by
  have hrun {t u : Text} (ht : ∀ d ∈ t, d ≠ c) : (t ++ c :: u).takeWhile (· ≠ c) = t :=
    takeWhile_ne_append_cons (fun hc => ht c hc rfl) u
  have hfront : s = w := by rw [← hrun hs, h, hrun hw]
  subst hfront
  exact ⟨rfl, (List.cons.inj (List.append_cancel_left h)).2⟩

/-- What holds of the characters of a text is decided by a look at these characters; without this, a
    look at every character there is may be tried instead. -/
instance (priority := high) decidableForallMem {p : Char → Prop} [DecidablePred p] (s : Text) :
    Decidable (∀ c ∈ s, p c) := List.decidableBAll p s

/-! ## Word characters -/

/-- A text of word characters only. -/
def AllWord (w : Text) : Prop := ∀ c ∈ w, isWord c = true

/-- A text without word characters. -/
def NoWord (s : Text) : Prop := ∀ c ∈ s, isWord c = false

/-- A text of white space. -/
def AllBlank (s : Text) : Prop := ∀ c ∈ s, isBlank c = true

instance (w : Text) : Decidable (AllWord w) := List.decidableBAll (fun c => isWord c = true) w

instance (s : Text) : Decidable (NoWord s) := List.decidableBAll (fun c => isWord c = false) s

instance (s : Text) : Decidable (AllBlank s) := List.decidableBAll (fun c => isBlank c = true) s

/-- A text of word characters has none of the other characters. -/
theorem not_mem_of_allWord (hw : AllWord w) (hc : isWord c = false) : c ∉ w :=
  fun hm => nomatch (hw c hm).symm.trans hc

/-- White space has none of the other characters. -/
theorem not_mem_of_allBlank (hgap : AllBlank gap) (hc : isBlank c = false) : c ∉ gap :=
  fun hm => nomatch (hgap c hm).symm.trans hc

theorem noWord_append {t : Text} (hs : NoWord s) (ht : NoWord t) : NoWord (s ++ t) :=
  List.forall_mem_append.2 ⟨hs, ht⟩

/-- White space is no part of a word. -/
theorem isWord_eq_false_of_isBlank (h : isBlank c = true) : isWord c = false := by
  have hwide : ∀ range ∈ wideBlankRanges, ∀ k < range.2 + 1 - range.1,
      inRanges (range.1 + k) wordRanges = false := by decide +kernel
  unfold isBlank at h
  unfold isWord isAsciiLetter isDigit
  by_cases hn : c.toNat < 0x80
  · simp only [hn, if_true, Bool.or_eq_true, Bool.and_eq_true, decide_eq_true_eq] at h
    have hlow : c ≠ '_' := by
      rintro rfl
      revert h
      decide
    simp only [hn, if_true, Bool.or_eq_false_iff, Bool.and_eq_false_iff, decide_eq_false_iff_not]
    exact ⟨⟨by omega, by omega⟩, hlow⟩
  · simp only [hn, if_false] at h ⊢
    obtain ⟨range, hrange, hlow, hhigh⟩ := exists_of_inRanges h
    have hnone := hwide range hrange (c.toNat - range.1) (by omega)
    rwa [Nat.add_sub_cancel' hlow] at hnone

theorem isBlank_eq_false_of_isWord (h : isWord c = true) : isBlank c = false := by
  cases hblank : isBlank c with
  | false => rfl
  | true => exact nomatch h.symm.trans (isWord_eq_false_of_isBlank hblank)

/-! ## Identifiers -/

theorem isWord_or_eq_dollar (h : isNameChar c = true) : isWord c = true ∨ c = '$' :=
  (Bool.or_eq_true_iff.1 h).imp_right of_decide_eq_true

theorem isBlank_eq_false_of_isNameChar (h : isNameChar c = true) : isBlank c = false := by
  rcases isWord_or_eq_dollar h with hword | rfl
  · exact isBlank_eq_false_of_isWord hword
  · rfl

/-- An identifier has none of the other characters. -/
theorem not_mem_name (hw : ∀ c ∈ w, isNameChar c = true) (hc : isNameChar c = false) : c ∉ w :=
  fun hm => nomatch (hw c hm).symm.trans hc

/-! ## White space around words -/

theorem noWord_of_blank (h : AllBlank gap) : NoWord gap :=
  fun c hc => isWord_eq_false_of_isBlank (h c hc)

/-! ## White space at the ends -/

theorem stripStart_of_blank (h : AllBlank gap) :
    stripStart (gap ++ s) = stripStart s := List.dropWhile_append_of_pos h

theorem stripStart_cons (h : isBlank c = false) : stripStart (c :: s) = c :: s :=
  List.dropWhile_cons_of_neg (by simp [h])

theorem exists_blank_append (s : Text) : ∃ gap, AllBlank gap ∧ s = gap ++ stripStart s :=
  ⟨s.takeWhile isBlank, fun _ hc => List.mem_takeWhile_imp hc, List.takeWhile_append_dropWhile.symm⟩

theorem isBlank_of_head?_stripStart (h : (stripStart s).head? = some c) : isBlank c = false :=
  not_of_head?_dropWhile h

theorem stripStart_of_head? (h : ∀ c, s.head? = some c → isBlank c = false) : stripStart s = s := by
  cases s with
  | nil => rfl
  | cons c s => exact stripStart_cons (h c rfl)

theorem stripStart_stripStart (s : Text) : stripStart (stripStart s) = stripStart s :=
  List.dropWhile_idempotent isBlank s

theorem stripStart_append_of_allWord (hw : AllWord w) (hne : w ≠ []) :
    stripStart (w ++ s) = w ++ s := by
  obtain ⟨c, w, rfl⟩ := List.exists_cons_of_ne_nil hne
  exact stripStart_cons (isBlank_eq_false_of_isWord (hw c List.mem_cons_self))

theorem strip_append_singleton (h : isBlank c = false) : strip (s ++ [c]) = stripStart (s ++ [c]) := by
  have hlast : ∃ front, stripStart (s ++ [c]) = front ++ [c] := by
    unfold stripStart
    rw [List.dropWhile_append]
    split
    · exact ⟨[], List.dropWhile_cons_of_neg (by simp [h])⟩
    · exact ⟨_, rfl⟩
  obtain ⟨front, hfront⟩ := hlast
  rw [strip, hfront, dropEndWhile, List.reverse_append, List.reverse_singleton, List.singleton_append,
    List.dropWhile_cons_of_neg (by simp [h]), List.reverse_cons, List.reverse_reverse]

theorem strip_of_forall (h : ∀ c ∈ s, isBlank c = false) : strip s = s := by
  rw [strip, stripStart, dropWhile_of_forall h, dropEndWhile_of_forall h]

theorem strip_of_allWord (h : AllWord w) : strip w = w :=
  strip_of_forall fun c hc => isBlank_eq_false_of_isWord (h c hc)

/-! ## Marks that are words -/

/-- A mark that is a word, at the start of a word and what follows it, is the start of the word. -/
theorem eq_append_of_after? (hmark : AllWord mark) (hc : isWord c = false)
    (h : after? mark (w ++ c :: s) = some rest) : ∃ tail, w = mark ++ tail ∧ rest = tail ++ c :: s := by
  rw [after?_eq_some_iff] at h
  rcases List.append_eq_append_iff.1 h with ⟨tail, hm, hrest⟩ | ⟨tail, hw, hrest⟩
  · cases tail with
    | nil =>
        rw [List.append_nil] at hm
        exact ⟨[], by rw [hm, List.append_nil], hrest.symm⟩
    | cons d tail =>
        obtain ⟨rfl, -⟩ := List.cons.inj hrest
        exact nomatch (hmark c (by simp [hm])).symm.trans hc
  · exact ⟨tail, hw, hrest⟩

/-- A mark that is a word stands on one side of a character that is no part of a word. -/
theorem split_at_of_allWord {front after : Text} (hmark : AllWord mark) (hc : isWord c = false)
    (h : w ++ c :: s = front ++ mark ++ after) :
    (∃ tail, w = front ++ mark ++ tail ∧ after = tail ++ c :: s)
      ∨ ∃ more, s = more ++ mark ++ after :=
  (split_of_not_mem (fun hm => nomatch (hmark c hm).symm.trans hc) h).imp_right
    fun ⟨more, _, hs⟩ => ⟨more, hs⟩

/-- A mark that is a word does not start where no word stands. -/
theorem split_of_noWord {front after : Text} (hmark : AllWord mark) (hne : mark ≠ [])
    (hgap : NoWord gap) (h : gap ++ s = front ++ mark ++ after) : ∃ more, s = more ++ mark ++ after := by
  induction gap generalizing front with
  | nil => exact ⟨front, h⟩
  | cons c gap ih =>
      rcases split_at_of_allWord (w := []) hmark (hgap c List.mem_cons_self) h with
        ⟨tail, hnil, -⟩ | ⟨more, hmore⟩
      · exact absurd hnil (by simp [hne])
      · exact ih (fun d hd => hgap d (List.mem_cons_of_mem c hd)) hmore

/-! ## Phrases -/

/-- A recogniser of phrases that start with a word recognises nothing inside a word, nor where no
    word starts. -/
structure StartsWithWord (found : Option Char → Text → Option α) : Prop where
  inside : ∀ c s, isWord c = true → found (some c) s = none
  outside : ∀ before c s, isWord c = false → found before (c :: s) = none
  last : ∀ before, found before [] = none
  start : ∀ c s, isWord c = false → found (some c) s = found none s

namespace StartsWithWord

theorem first?_congr (h : StartsWithWord found) (hc : isWord c = false) (s : Text) :
    first? found (some c) s = first? found none s := by
  cases s with
  | nil => rw [first?, first?, h.last, h.last]
  | cons d s => rw [first?, first?, h.start c _ hc]

/-- What holds no word is passed over. -/
theorem first?_noWord (h : StartsWithWord found) (hgap : NoWord gap) (s : Text) :
    first? found none (gap ++ s) = first? found none s := by
  induction gap with
  | nil => rfl
  | cons c gap ih =>
      have hc := hgap c List.mem_cons_self
      rw [List.cons_append, first?, h.outside none c _ hc]
      dsimp only
      rw [h.first?_congr hc, ih fun d hd => hgap d (List.mem_cons_of_mem c hd)]

theorem first?_eq_none (h : StartsWithWord found) (hgap : NoWord gap) :
    first? found none gap = none := by
  have hall := h.first?_noWord hgap []
  rw [List.append_nil] at hall
  rw [hall, first?, h.last]

/-- Inside a word nothing is recognised. -/
theorem first?_inside (h : StartsWithWord found) (hbefore : isWord c = true) (hw : AllWord w)
    {d : Char} (hd : isWord d = false) (s : Text) :
    first? found (some c) (w ++ d :: s) = first? found none (d :: s) := by
  induction w generalizing c with
  | nil =>
      rw [List.nil_append, first?, first?, h.inside c _ hbefore, h.outside none d _ hd]
  | cons e w ih =>
      rw [List.cons_append, first?, h.inside c _ hbefore]
      exact ih (hw e List.mem_cons_self) fun f hf => hw f (List.mem_cons_of_mem e hf)

/-- **A word is passed over as a whole**, unless a phrase starts with it. -/
theorem first?_word (h : StartsWithWord found) (hw : AllWord w) (hc : isWord c = false)
    (s : Text) :
    first? found none (w ++ c :: s)
      = (found none (w ++ c :: s)).or (first? found none (c :: s)) := by
  cases w with
  | nil =>
      rw [List.nil_append, h.outside none c s hc]
      rfl
  | cons d w =>
      rw [List.cons_append, first?]
      cases found none (d :: (w ++ c :: s)) with
      | some a => rfl
      | none =>
          exact h.first?_inside (hw d List.mem_cons_self)
            (fun e he => hw e (List.mem_cons_of_mem d he)) hc s

end StartsWithWord

end ApiScan.Text

/-! ## Tokens between white space

A text is split into what stands between its white space. White space in front adds nothing, and a
token that white space follows is split off as a whole. -/

namespace ApiScan.Text

variable {s w gap : Text} {c : Char}

/-- A token of a text: something that is not white space. -/
def IsToken (w : Text) : Prop := w ≠ [] ∧ ∀ c ∈ w, isBlank c = false

theorem isToken_of_allWord (h : AllWord w) (hne : w ≠ []) : IsToken w :=
  ⟨hne, fun c hc => isBlank_eq_false_of_isWord (h c hc)⟩

theorem words_nil : words [] = [] := rfl

/-- **A text is split at white space** wherever it stands. -/
theorem words_append_cons (hc : isBlank c = true) (s t : Text) :
    words (s ++ c :: t) = words s ++ words t := by
  rw [words, pieces_append_of_pos hc, List.filter_append]
  rfl

theorem words_cons_of_isBlank (hc : isBlank c = true) (s : Text) : words (c :: s) = words s :=
  words_append_cons hc [] s

theorem words_append_of_blank (hgap : AllBlank gap) (s : Text) : words (gap ++ s) = words s := by
  induction gap with
  | nil => rfl
  | cons c gap ih =>
      obtain ⟨hc, hgap⟩ := List.forall_mem_cons.1 hgap
      rw [List.cons_append, words_cons_of_isBlank hc, ih hgap]

theorem words_of_blank (hgap : AllBlank gap) : words gap = [] := by
  have hwords := words_append_of_blank hgap []
  rwa [List.append_nil] at hwords

theorem words_of_isToken (hw : IsToken w) : words w = [w] := by
  rw [words, pieces_of_forall hw.2]
  exact List.filter_cons_of_pos (by simp [hw.1])

/-- A token is split off at the white space behind it. -/
theorem words_token_cons (hw : IsToken w) (hc : isBlank c = true) (s : Text) :
    words (w ++ c :: s) = w :: words s := by
  rw [words_append_cons hc, words_of_isToken hw]
  rfl

theorem words_token_append (hw : IsToken w) (hgap : AllBlank gap) (hne : gap ≠ []) (s : Text) :
    words (w ++ (gap ++ s)) = w :: words s := by
  obtain ⟨c, gap, rfl⟩ := List.exists_cons_of_ne_nil hne
  obtain ⟨hc, hgap⟩ := List.forall_mem_cons.1 hgap
  rw [List.cons_append, words_token_cons hw hc, words_append_of_blank hgap]

theorem isToken_of_mem_words (h : w ∈ words s) : IsToken w := by
  obtain ⟨hpiece, hne⟩ := List.mem_filter.1 h
  exact ⟨by simpa using hne, forall_mem_pieces hpiece⟩

/-! ## White space at the ends -/

theorem strip_append_of_blank (hgap : AllBlank gap) (s : Text) : strip (s ++ gap) = strip s := by
  have hreverse {t : Text} : dropEndWhile isBlank (t ++ gap) = dropEndWhile isBlank t := by
    rw [dropEndWhile, dropEndWhile, List.reverse_append,
      List.dropWhile_append_of_pos fun c hc => hgap c (List.mem_reverse.1 hc)]
  rw [strip, strip, stripStart, stripStart, List.dropWhile_append]
  split
  · next hempty =>
      -- all of the text is white space
      rw [List.isEmpty_iff.1 hempty, List.dropWhile_eq_nil_iff.2 hgap]
  · exact hreverse

theorem strip_blank_append (hgap : AllBlank gap) (s : Text) : strip (gap ++ s) = strip s := by
  rw [strip, stripStart_of_blank hgap, strip]

/-- Trimming takes white space only. -/
theorem mem_strip (hmem : c ∈ s) (hc : isBlank c = false) : c ∈ strip s := by
  obtain ⟨gap, hgap, hs⟩ := exists_blank_append s
  obtain ⟨tail, htail, hblank⟩ := exists_dropEndWhile_append isBlank (stripStart s)
  rw [hs, htail, List.mem_append, List.mem_append] at hmem
  exact (hmem.resolve_left (not_mem_of_allBlank hgap hc)).resolve_right
    (not_mem_of_allBlank hblank hc)

theorem strip_eq_nil_iff (s : Text) : strip s = [] ↔ AllBlank s := by
  rw [strip, dropEndWhile, List.reverse_eq_nil_iff, List.dropWhile_eq_nil_iff]
  simp only [List.mem_reverse]
  constructor
  · intro h
    have hstart : stripStart (stripStart s) = [] := List.dropWhile_eq_nil_iff.2 h
    rw [stripStart_stripStart] at hstart
    exact List.dropWhile_eq_nil_iff.1 hstart
  · intro h c hc
    exact h c ((List.dropWhile_sublist _).subset hc)

/-- A text without white space at its ends is kept. -/
theorem strip_of_ends (hstart : stripStart s = s) {front : Text} (hend : s = front ++ [c])
    (hc : isBlank c = false) : strip s = s := by
  rw [hend, strip_append_singleton hc, ← hend, hstart]

/-- **A trimmed text stays as it is.** -/
theorem strip_strip (s : Text) : strip (strip s) = strip s := by
  have hstart : stripStart (strip s) = strip s := by
    refine stripStart_of_head? fun c hc => ?_
    -- the first character is the first one of the text that is no white space
    obtain ⟨front, hfront⟩ := List.head?_eq_some_iff.1 hc
    obtain ⟨tail, htail, -⟩ := exists_dropEndWhile_append isBlank (stripStart s)
    rw [show dropEndWhile isBlank (stripStart s) = strip s from rfl, hfront] at htail
    exact isBlank_of_head?_stripStart (s := s) (by rw [htail]; rfl)
  rw [strip, hstart, strip, dropEndWhile, dropEndWhile, List.reverse_reverse,
    List.dropWhile_idempotent]

end ApiScan.Text
