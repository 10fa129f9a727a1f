import ApiScan.Proofs.Text.Search

set_option autoImplicit false

/-! # Texts in pieces

A text is cut at the characters of a class into pieces without such characters, each of which stands
somewhere in the text. The pieces between line breaks are its lines. -/

namespace ApiScan.Text

theorem pieces_of_forall {p : Char → Bool} {s : Text} (h : ∀ c ∈ s, p c = false) :
    pieces p s = [s] := by
  induction s with
  | nil => rfl
  | cons c s ih =>
      rw [List.forall_mem_cons] at h
      rw [pieces, if_neg (by simp [h.1]), ih h.2]

theorem forall_mem_pieces {p : Char → Bool} {s piece : Text} (h : piece ∈ pieces p s) :
    ∀ c ∈ piece, p c = false := by
  induction s generalizing piece with
  | nil =>
      rw [List.mem_singleton.1 h]
      exact fun _ hc => absurd hc List.not_mem_nil
  | cons c s ih =>
      rw [pieces] at h
      split at h
      · rcases List.mem_cons.1 h with rfl | h
        · exact fun _ hc => absurd hc List.not_mem_nil
        · exact ih h
      · next hc =>
          rw [Bool.not_eq_true] at hc
          split at h
          · rw [List.mem_singleton.1 h]
            exact List.forall_mem_singleton.2 hc
          · next first more heq =>
              rcases List.mem_cons.1 h with rfl | h
              · rw [List.forall_mem_cons]
                exact ⟨hc, ih (by rw [heq]; exact List.mem_cons_self)⟩
              · exact ih (by rw [heq]; exact List.mem_cons_of_mem _ h)

/-- The first piece of a text stands at its start, and every other piece somewhere in it. -/
theorem pieces_eq_cons {p : Char → Bool} {s first : Text} {more : List Text}
    (h : pieces p s = first :: more) : first <+: s ∧ ∀ piece ∈ more, piece <:+: s := by
  induction s generalizing first more with
  | nil =>
      obtain ⟨rfl, rfl⟩ := List.cons.inj h
      exact ⟨List.nil_prefix, fun _ h => absurd h List.not_mem_nil⟩
  | cons c s ih =>
      rw [pieces] at h
      cases hs : pieces p s with
      | nil =>
          rw [hs] at h
          split at h
          · obtain ⟨rfl, rfl⟩ := List.cons.inj h
            exact ⟨List.nil_prefix, fun _ h => absurd h List.not_mem_nil⟩
          · obtain ⟨rfl, rfl⟩ := List.cons.inj h
            exact ⟨List.prefix_append [c] s, fun _ h => absurd h List.not_mem_nil⟩
      | cons second rest =>
          obtain ⟨hsecond, hrest⟩ := ih hs
          rw [hs] at h
          split at h
          · obtain ⟨rfl, rfl⟩ := List.cons.inj h
            refine ⟨List.nil_prefix, List.forall_mem_cons.2 ⟨?_, fun piece hp => ?_⟩⟩
            · exact hsecond.isInfix.trans (List.infix_cons (List.infix_refl s))
            · exact List.infix_cons (hrest piece hp)
          · obtain ⟨rfl, rfl⟩ := List.cons.inj h
            exact ⟨(List.prefix_cons_inj c).2 hsecond, fun piece hp => List.infix_cons (hrest piece hp)⟩

theorem isInfix_of_mem_pieces {p : Char → Bool} {s piece : Text} (h : piece ∈ pieces p s) :
    piece <:+: s := by
  cases hs : pieces p s with
  | nil =>
      rw [hs] at h
      exact absurd h List.not_mem_nil
  | cons first more =>
      obtain ⟨hfirst, hmore⟩ := pieces_eq_cons hs
      rw [hs] at h
      rcases List.mem_cons.1 h with rfl | h
      · exact hfirst.isInfix
      · exact hmore piece h

/-- A text has at least one piece. -/
theorem pieces_ne_nil {p : Char → Bool} (s : Text) : pieces p s ≠ [] := by
  cases s with
  | nil => simp [pieces]
  | cons c s =>
      rw [pieces]
      split
      · simp
      · split <;> simp

/-- The pieces of a text hold all but what it is cut at. -/
theorem flatten_pieces (p : Char → Bool) (s : Text) : (pieces p s).flatten = s.filter fun c => !p c := by
  induction s with
  | nil => rfl
  | cons c s ih =>
      rw [pieces]
      split
      · next hc => rw [List.flatten_cons, List.nil_append, ih, List.filter_cons_of_neg (by simp [hc])]
      · next hc =>
          rw [List.filter_cons_of_pos (by simpa using hc), ← ih]
          cases hs : pieces p s with
          | nil => exact absurd hs (pieces_ne_nil s)
          | cons first more => rfl

/-- A text is cut at a character of the class wherever it stands. -/
theorem pieces_append_of_pos {p : Char → Bool} {c : Char} (hc : p c = true) (s t : Text) :
    pieces p (s ++ c :: t) = pieces p s ++ pieces p t := by
  induction s with
  | nil => exact if_pos hc
  | cons d s ih =>
      rw [List.cons_append, pieces, pieces, ih]
      split
      · rfl
      · cases hs : pieces p s with
        | nil => exact absurd hs (pieces_ne_nil s)
        | cons first more => rfl

theorem pieces_append_cons {p : Char → Bool} {s t : Text} {c : Char} (h : ∀ d ∈ s, p d = false)
    (hc : p c = true) : pieces p (s ++ c :: t) = s :: pieces p t := by
  rw [pieces_append_of_pos hc, pieces_of_forall h]
  rfl

/-- A text that is not cut anywhere goes on the last piece of the text in front of it. -/
theorem exists_pieces_append {p : Char → Bool} {t : Text} (h : ∀ c ∈ t, p c = false) (s : Text) :
    ∃ front last, pieces p s = front ++ [last] ∧ pieces p (s ++ t) = front ++ [last ++ t] := by
  induction s with
  | nil => exact ⟨[], [], rfl, pieces_of_forall h⟩
  | cons c s ih =>
      obtain ⟨front, last, hs, hst⟩ := ih
      rw [List.cons_append, pieces, pieces, hs, hst]
      split
      · exact ⟨[] :: front, last, rfl, rfl⟩
      · cases front with
        | nil => exact ⟨[], c :: last, rfl, rfl⟩
        | cons first front => exact ⟨(c :: first) :: front, last, rfl, rfl⟩

/-- A text that is not cut anywhere goes on the first piece of the text behind it. -/
theorem pieces_append_first {p : Char → Bool} {s t first : Text} {more : List Text}
    (h : ∀ c ∈ s, p c = false) (ht : pieces p t = first :: more) :
    pieces p (s ++ t) = (s ++ first) :: more := by
  induction s with
  | nil => exact ht
  | cons c s ih =>
      obtain ⟨hc, hs⟩ := List.forall_mem_cons.1 h
      rw [List.cons_append, pieces, if_neg (by simp [hc]), ih hs]
      rfl

theorem lines_append_break (s t : Text) : lines (s ++ '\n' :: t) = lines s ++ lines t :=
  pieces_append_of_pos (decide_eq_true rfl) s t

theorem lines_of_not_mem {s : Text} (h : '\n' ∉ s) : lines s = [s] := by
  refine pieces_of_forall fun c hc => decide_eq_false ?_
  rintro rfl
  exact h hc

theorem lines_append_cons {s : Text} (h : '\n' ∉ s) (t : Text) :
    lines (s ++ '\n' :: t) = s :: lines t := by
  refine pieces_append_cons (fun c hc => decide_eq_false ?_) rfl
  rintro rfl
  exact h hc

/-- A mark without line breaks stands in one of the lines. -/
theorem exists_line_of_infix {mark s : Text} (hmark : '\n' ∉ mark) (h : mark <:+: s) :
    ∃ line ∈ lines s, mark <:+: line := by
  induction hlength : s.length using Nat.strong_induction_on generalizing s with
  | _ n ih =>
      by_cases hbreak : '\n' ∈ s
      · obtain ⟨first, more, rfl, hfirst⟩ := List.eq_append_cons_of_mem hbreak
        rw [lines_append_cons hfirst]
        rcases (infix_append_cons_iff hmark).1 h with h | h
        · exact ⟨first, List.mem_cons_self, h⟩
        · have hshort : more.length < n := by
            rw [← hlength, List.length_append, List.length_cons]
            omega
          obtain ⟨line, hline, hfound⟩ := ih _ hshort h rfl
          exact ⟨line, List.mem_cons_of_mem _ hline, hfound⟩
      · rw [lines_of_not_mem hbreak]
        exact ⟨s, List.mem_singleton_self s, h⟩

/-! ## Joined texts -/

theorem joinWith_cons_cons (c : Char) (first second : Text) (more : List Text) :
    joinWith [c] (first :: second :: more) = first ++ c :: joinWith [c] (second :: more) :=
  List.append_assoc _ _ _

theorem mem_joinWith {sep : Text} {texts : List Text} {c : Char} (h : c ∈ joinWith sep texts) :
    c ∈ sep ∨ ∃ text ∈ texts, c ∈ text := by
  fun_induction joinWith sep texts with
  | case1 => exact absurd h List.not_mem_nil
  | case2 text => exact Or.inr ⟨text, List.mem_cons_self, h⟩
  | case3 text more _ ih =>
      rcases List.mem_append.1 h with h | h
      · rcases List.mem_append.1 h with h | h
        · exact Or.inr ⟨text, List.mem_cons_self, h⟩
        · exact Or.inl h
      · rcases ih h with h | ⟨other, hother, h⟩
        · exact Or.inl h
        · exact Or.inr ⟨other, List.mem_cons_of_mem _ hother, h⟩

theorem mem_joinWith_of_mem {sep text : Text} {texts : List Text} {c : Char} (hc : c ∈ text)
    (h : text ∈ texts) : c ∈ joinWith sep texts := by
  fun_induction joinWith sep texts with
  | case1 => exact absurd h List.not_mem_nil
  | case2 only => exact List.mem_singleton.1 h ▸ hc
  | case3 first more _ ih =>
      rcases List.mem_cons.1 h with rfl | h
      · exact List.mem_append_left _ (List.mem_append_left _ hc)
      · exact List.mem_append_right _ (ih h)

/-- Lines that are joined by line breaks are read back. -/
theorem lines_joinWith {texts : List Text} (hne : texts ≠ []) (h : ∀ text ∈ texts, '\n' ∉ text) :
    lines (joinWith ['\n'] texts) = texts := by
  induction texts with
  | nil => exact absurd rfl hne
  | cons first more ih =>
      obtain ⟨hfirst, hmore⟩ := List.forall_mem_cons.1 h
      cases more with
      | nil => exact lines_of_not_mem hfirst
      | cons second more =>
          rw [joinWith_cons_cons, lines_append_cons hfirst, ih (List.cons_ne_nil _ _) hmore]

theorem joinWith_prefix (sep : Text) (texts more : List Text) :
    joinWith sep texts <+: joinWith sep (texts ++ more) := by
  induction texts with
  | nil => exact List.nil_prefix
  | cons s rest ih =>
      cases rest with
      | nil =>
          cases more with
          | nil => exact List.prefix_rfl
          | cons t more =>
              show s <+: s ++ sep ++ joinWith sep (t :: more)
              rw [List.append_assoc]
              exact List.prefix_append _ _
      | cons t rest => exact (List.prefix_append_right_inj _).2 ih

end ApiScan.Text
