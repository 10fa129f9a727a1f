import ApiScan.Proofs.Model.SchemaFile.Blocks

set_option autoImplicit false

/-! # Where a schema file is cut

A schema file is cut where a line starts with the keyword of a model, its name and an opening brace.
In a file of blocks these are the first lines of the models and no others: on the lines of a block
no opening brace comes before the closing one, whatever words stand there, and each block is called by
its own keyword. -/

namespace ApiScan.SchemaFile

open Text Source DocumentSchema

variable {s t : Text} {c : Char} {fresh : Bool}

/-! ## The head of a model -/

/-- The head of a model: white space, the keyword, white space, and then the name and an opening
    brace, with which `rest` starts. -/
def IsHead (s rest : Text) : Prop :=
  ∃ gap mid name after more, AllBlank gap ∧ AllBlank mid ∧ mid ≠ [] ∧ AllWord name ∧ name ≠ [] ∧
    AllBlank after ∧ s = gap ++ ("model".toList ++ (mid ++ rest)) ∧ rest = name ++ (after ++ '{' :: more)

theorem isHead_of_afterModelKeyword? (h : afterModelKeyword? s = some t) : IsHead s t := by
  obtain ⟨rest, hkeyword, h⟩ := Option.bind_eq_some_iff.1 h
  dsimp only at h
  split at h
  · next hcond =>
      obtain ⟨hmid, hname, hopen⟩ := hcond
      obtain rfl := Option.some.inj h
      obtain ⟨more, hopen⟩ := List.head?_eq_some_iff.1 hopen
      have hsplit (p : Char → Bool) (u : Text) : u.takeWhile p ++ u.dropWhile p = u :=
        List.takeWhile_append_dropWhile
      -- a stretch that is dropped is not empty if the text gets shorter
      have hne {p : Char → Bool} {u : Text} (hshort : (u.dropWhile p).length < u.length) :
          u.takeWhile p ≠ [] := by
        intro hnil
        have hall := hsplit p u
        rw [hnil, List.nil_append] at hall
        rw [hall] at hshort
        exact lt_irrefl _ hshort
      refine ⟨s.takeWhile isBlank, rest.takeWhile isBlank, (stripStart rest).takeWhile isWord,
        ((stripStart rest).dropWhile isWord).takeWhile isBlank, more,
        fun _ => List.mem_takeWhile_imp, fun _ => List.mem_takeWhile_imp, hne hmid,
        fun _ => List.mem_takeWhile_imp, hne hname, fun _ => List.mem_takeWhile_imp, ?_, ?_⟩
      · have hrest : "model".toList ++ (rest.takeWhile isBlank ++ stripStart rest) = stripStart s := by
          rw [stripStart, hsplit]
          exact (after?_eq_some_iff.1 hkeyword).symm
        rw [hrest]
        exact (hsplit isBlank s).symm
      · have hafter : ((stripStart rest).dropWhile isWord).takeWhile isBlank ++ '{' :: more
            = (stripStart rest).dropWhile isWord := by
          rw [← hopen]
          exact hsplit isBlank _
        rw [hafter]
        exact (hsplit isWord (stripStart rest)).symm
  · exact absurd h (Option.some_ne_none t).symm

theorem afterModelKeyword?_of_isHead (h : IsHead s t) : afterModelKeyword? s = some t := by
  obtain ⟨gap, mid, name, after, more, hgap, hmid, hmidne, hname, hnamene, hafter, rfl, rfl⟩ := h
  have hend : ∃ d rest, after ++ '{' :: more = d :: rest ∧ isWord d = false := by
    cases after with
    | nil => exact ⟨'{', more, rfl, rfl⟩
    | cons d after => exact ⟨d, _, rfl, isWord_eq_false_of_isBlank (hafter d List.mem_cons_self)⟩
  have hdrop : (name ++ (after ++ '{' :: more)).dropWhile isWord = after ++ '{' :: more := by
    obtain ⟨d, rest, hd, hword⟩ := hend
    rw [List.dropWhile_append_of_pos hname, hd, List.dropWhile_cons_of_neg (by simp [hword])]
  have hkeyword : stripStart (gap ++ ("model".toList ++ (mid ++ (name ++ (after ++ '{' :: more)))))
      = "model".toList ++ (mid ++ (name ++ (after ++ '{' :: more))) := by
    rw [stripStart_of_blank hgap, stripStart_append_of_allWord (by decide) (by decide)]
  have hstrip : stripStart (mid ++ (name ++ (after ++ '{' :: more)))
      = name ++ (after ++ '{' :: more) := by
    rw [stripStart_of_blank hmid, stripStart_append_of_allWord hname hnamene]
  have hopen : stripStart (after ++ '{' :: more) = '{' :: more := by
    rw [stripStart_of_blank hafter]
    exact stripStart_cons rfl
  rw [afterModelKeyword?, hkeyword, after?_eq_some_iff.2 rfl]
  simp only [Option.bind_eq_bind, Option.bind_some, hstrip, hdrop, hopen, List.head?_cons]
  have hmidpos := List.length_pos_iff.2 hmidne
  have hnamepos := List.length_pos_iff.2 hnamene
  refine if_pos ⟨?_, ?_, trivial⟩
  · simp only [List.length_append]
    omega
  · simp only [List.length_append]
    omega

/-- **What is recognised is the head of a model.** -/
theorem afterModelKeyword?_eq_some_iff : afterModelKeyword? s = some t ↔ IsHead s t :=
  ⟨isHead_of_afterModelKeyword?, afterModelKeyword?_of_isHead⟩

/-- What stands in front of the name is not empty. -/
theorem IsHead.length_lt (h : IsHead s t) : t.length < s.length := by
  obtain ⟨gap, mid, name, after, more, -, -, hmid, -, -, -, rfl, -⟩ := h
  have hpos := List.length_pos_iff.2 hmid
  simp only [List.length_append]
  omega

/-- In front of a closing brace no model starts. -/
theorem afterModelKeyword?_closing (h : NoBrace s) (t : Text) :
    afterModelKeyword? (s ++ '}' :: t) = none := by
  cases hfound : afterModelKeyword? (s ++ '}' :: t) with
  | none => rfl
  | some found =>
      obtain ⟨gap, mid, name, after, rest, hgap, hmid, -, hname, -, hafter, htext, rfl⟩ :=
        afterModelKeyword?_eq_some_iff.1 hfound
      have hfront : NoBrace (gap ++ ("model".toList ++ (mid ++ (name ++ after)))) :=
        noBrace_append (noBrace_of_allBlank hgap) (noBrace_append (by decide) (noBrace_append
          (noBrace_of_allBlank hmid) (noBrace_append (noBrace_of_allWord hname)
            (noBrace_of_allBlank hafter))))
      have htext' : s ++ '}' :: t
          = gap ++ ("model".toList ++ (mid ++ (name ++ after))) ++ '{' :: rest := by
        rw [htext]
        simp only [List.append_assoc]
      -- the first brace would be a closing one and an opening one
      rcases List.append_eq_append_iff.1 htext' with ⟨more, hs, hback⟩ | ⟨more, hs, hback⟩
      · cases more with
        | nil => exact absurd (List.cons.inj hback).1 (by decide)
        | cons d more =>
            obtain ⟨rfl, -⟩ := List.cons.inj hback
            exact absurd rfl (hfront '}' (by rw [hs]; simp)).2
      · cases more with
        | nil => exact absurd (List.cons.inj hback).1 (by decide)
        | cons d more =>
            obtain ⟨rfl, -⟩ := List.cons.inj hback
            exact absurd rfl (h '{' (by rw [hs]; simp)).1

/-- At another keyword no model starts. -/
theorem afterModelKeyword?_other {gap kind : Text} (hgap : AllBlank gap) (hkind : AllWord kind)
    (hne : kind ≠ []) (hother : kind ≠ "model".toList) (t : Text) :
    afterModelKeyword? (gap ++ (kind ++ ' ' :: t)) = none := by
  cases hfound : afterModelKeyword? (gap ++ (kind ++ ' ' :: t)) with
  | none => rfl
  | some found =>
      obtain ⟨gap', mid, name, after, rest, hgap', hmid, hmidne, -, -, -, htext, rfl⟩ :=
        afterModelKeyword?_eq_some_iff.1 hfound
      obtain ⟨d, mid, rfl⟩ := List.exists_cons_of_ne_nil hmidne
      have hd : isWord d = false := isWord_eq_false_of_isBlank (hmid d List.mem_cons_self)
      -- both texts start with a word, and the words are the same
      have hstrip := congrArg (fun s => (stripStart s).takeWhile isWord) htext
      rw [stripStart_of_blank hgap, stripStart_of_blank hgap', stripStart_append_of_allWord hkind hne,
        stripStart_append_of_allWord (w := "model".toList) (by decide) (by decide),
        List.takeWhile_append_of_pos hkind, List.takeWhile_cons_of_neg (by decide), List.append_nil,
        List.takeWhile_append_of_pos (show AllWord "model".toList by decide), List.cons_append,
        List.takeWhile_cons_of_neg (by simp [hd]), List.append_nil] at hstrip
      exact absurd hstrip hother

/-! ## Cutting -/

/-- The chunks of a text; `fresh` tells whether it starts with a line. -/
def chunksFrom (fresh : Bool) (s : Text) : List Text := chunksWithin s.length fresh s

/-- Chunks with a text in front of the first one. -/
def extend (front : Text) : List Text → List Text
  | [] => [front]
  | chunk :: more => (front ++ chunk) :: more

theorem extend_extend (s t : Text) (chunks : List Text) :
    extend s (extend t chunks) = extend (s ++ t) chunks := by
  cases chunks <;> simp [extend]

theorem chunksWithin_eq {m n : Nat} (hm : s.length ≤ m) (hn : s.length ≤ n) :
    chunksWithin m fresh s = chunksWithin n fresh s := by
  induction m generalizing n s fresh with
  | zero =>
      obtain rfl : s = [] := List.length_eq_zero_iff.1 (Nat.le_zero.1 hm)
      cases n <;> rfl
  | succ m ih =>
      cases s with
      | nil => cases n <;> rfl
      | cons c s =>
          cases n with
          | zero => simp at hn
          | succ n =>
              simp only [List.length_cons, Nat.add_le_add_iff_right] at hm hn
              rw [chunksWithin, chunksWithin]
              split
              · next rest hrest =>
                  have hshort : rest.length ≤ s.length := by
                    split at hrest
                    · have hlength := (afterModelKeyword?_eq_some_iff.1 hrest).length_lt
                      rw [List.length_cons] at hlength
                      omega
                    · exact nomatch hrest
                  rw [ih (by omega) (by omega : rest.length ≤ n)]
              · rw [ih hm hn]

theorem chunksFrom_nil : chunksFrom fresh [] = [[]] := rfl

/-- **A character is kept** where no model starts. -/
theorem chunksFrom_cons (h : afterModelKeyword? (c :: s) = none) :
    chunksFrom fresh (c :: s) = extend [c] (chunksFrom (c = '\n') s) := by
  have hnone : (if fresh = true then afterModelKeyword? (c :: s) else none) = none := by
    rw [h, ite_self]
  rw [chunksFrom, List.length_cons, chunksWithin, hnone, chunksFrom]
  cases chunksWithin s.length (decide (c = '\n')) s <;> rfl

/-- Inside a line no model starts. -/
theorem chunksFrom_inside (c : Char) (s : Text) :
    chunksFrom false (c :: s) = extend [c] (chunksFrom (c = '\n') s) := by
  rw [chunksFrom, List.length_cons, chunksWithin, if_neg Bool.false_ne_true, chunksFrom]
  cases chunksWithin s.length (decide (c = '\n')) s <;> rfl

/-- **A text is cut** where a model starts. -/
theorem chunksFrom_head {rest : Text} (h : afterModelKeyword? s = some rest) :
    chunksFrom true s = [] :: chunksFrom false rest := by
  have hlength := (afterModelKeyword?_eq_some_iff.1 h).length_lt
  cases s with
  | nil => exact nomatch h
  | cons c s =>
      rw [List.length_cons] at hlength
      rw [chunksFrom, List.length_cons, chunksWithin, if_pos rfl, h]
      simp only
      rw [chunksFrom, chunksWithin_eq (by omega) (Nat.le_refl _)]

theorem chunksFrom_ne_nil (fresh : Bool) (s : Text) : chunksFrom fresh s ≠ [] := by
  cases s with
  | nil => exact List.cons_ne_nil _ _
  | cons c s =>
      rw [chunksFrom, List.length_cons, chunksWithin]
      split
      · exact List.cons_ne_nil _ _
      · split <;> exact List.cons_ne_nil _ _

/-- The rest of a line is kept. -/
theorem chunksFrom_line (h : '\n' ∉ s) (t : Text) :
    chunksFrom false (s ++ t) = extend s (chunksFrom false t) := by
  induction s with
  | nil =>
      obtain ⟨chunk, more, hchunks⟩ := List.exists_cons_of_ne_nil (chunksFrom_ne_nil false t)
      rw [List.nil_append, hchunks]
      rfl
  | cons c s ih =>
      rw [List.mem_cons, not_or] at h
      have hbreak : decide (c = '\n') = false := decide_eq_false (Ne.symm h.1)
      rw [List.cons_append, chunksFrom_inside, hbreak, ih h.2, extend_extend]
      rfl

/-- The lines of a block are kept, and so is the closing brace. -/
theorem chunksFrom_closing (h : NoBrace s) (t : Text) :
    chunksFrom fresh (s ++ '}' :: t) = extend (s ++ ['}']) (chunksFrom false t) := by
  induction s generalizing fresh with
  | nil =>
      rw [List.nil_append, chunksFrom_cons (afterModelKeyword?_closing (s := []) (by decide) t)]
      rfl
  | cons c s ih =>
      have hnone := afterModelKeyword?_closing h t
      rw [List.cons_append] at hnone ⊢
      rw [chunksFrom_cons hnone, ih (List.forall_mem_cons.1 h).2, extend_extend]
      rfl

theorem chunksFrom_body (block : Block) (t : Text) :
    chunksFrom false (block.body ++ t) = extend block.body (chunksFrom false t) := by
  have hlines : NoBrace (broken block.lines ++ ['\n']) :=
    noBrace_append (noBrace_broken block) (by decide)
  have htext : block.body ++ t = broken block.lines ++ ['\n'] ++ '}' :: t := by
    simp [Block.body]
  rw [htext, chunksFrom_closing hlines]
  simp [Block.body]

/-! ## Cutting at blocks -/

/-- What is left of the first line of a model at the cut. -/
def opening (name : Word) : Text := name.text ++ [' ', '{']

theorem chunksFrom_opening (name : Word) (t : Text) :
    chunksFrom false (opening name ++ t) = extend (opening name) (chunksFrom false t) := by
  refine chunksFrom_line ?_ t
  simp [opening, not_mem_of_allWord name.allWord (by decide : isWord '\n' = false)]

/-- **A file is cut at a model.** -/
theorem chunksFrom_model (gap : Gap) {block : Block} (h : block.IsModel) (t : Text) :
    chunksFrom true (gap.text ++ block.text ++ t)
      = [] :: extend (opening block.name ++ block.body) (chunksFrom false t) := by
  have hhead : afterModelKeyword? (gap.text ++ block.text ++ t)
      = some (opening block.name ++ (block.body ++ t)) := by
    refine afterModelKeyword?_eq_some_iff.2 ⟨gap.text, [' '], block.name.text, [' '], block.body ++ t,
      gap.blank, by decide, by decide, block.name.allWord, block.name.ne_nil, by decide, ?_, ?_⟩
    · have hkind : block.kind.text = "model".toList := h
      rw [← hkind]
      simp [Block.text, Block.head, opening]
    · simp [opening]
  rw [chunksFrom_head hhead, chunksFrom_opening, chunksFrom_body, extend_extend]

/-- **A file is not cut at another block**, however its white space is broken into lines. -/
theorem chunksFrom_other (gap : Gap) {block : Block} (h : ¬ block.IsModel) (t : Text) :
    chunksFrom fresh (gap.text ++ block.text ++ t)
      = extend (gap.text ++ block.text) (chunksFrom false t) := by
  obtain ⟨gap, hgap⟩ := gap
  have htext (gap : Text) : gap ++ block.text ++ t
      = gap ++ (block.kind.text ++ ' ' :: (opening block.name ++ (block.body ++ t))) := by
    simp [Block.text, Block.head, opening]
  have hnone (gap : Text) (hgap : AllBlank gap) : afterModelKeyword? (gap ++ block.text ++ t) = none := by
    rw [htext]
    exact afterModelKeyword?_other hgap block.kind.allWord block.kind.ne_nil h _
  dsimp only
  induction gap generalizing fresh with
  | nil =>
      obtain ⟨c, word, hword⟩ := List.exists_cons_of_ne_nil block.kind.ne_nil
      have hall := block.kind.allWord
      rw [hword] at hall
      obtain ⟨hc, hword'⟩ := List.forall_mem_cons.1 hall
      have hbreak : decide (c = '\n') = false := by
        refine decide_eq_false ?_
        rintro rfl
        exact absurd hc (by decide)
      have hline : '\n' ∉ word ++ ' ' :: opening block.name := by
        have hbreak : isWord '\n' = false := by decide
        simp [opening, not_mem_of_allWord hword' hbreak, not_mem_of_allWord block.name.allWord hbreak]
      have hfirst := hnone [] (by decide)
      have hsplit : [] ++ block.text ++ t
          = c :: (word ++ ' ' :: opening block.name ++ (block.body ++ t)) := by
        rw [htext, hword]
        simp
      rw [hsplit] at hfirst
      rw [hsplit, chunksFrom_cons hfirst, hbreak, chunksFrom_line hline, chunksFrom_body,
        extend_extend, extend_extend]
      simp [Block.text, Block.head, opening, hword]
  | cons c gap ih =>
      have hfirst := hnone _ hgap
      rw [List.cons_append, List.cons_append] at hfirst ⊢
      rw [chunksFrom_cons hfirst, ih (List.forall_mem_cons.1 hgap).2, extend_extend]
      rfl

theorem chunksFrom_behind_model (gap : Gap) {block : Block} (h : block.IsModel) (blocks : Written) :
    chunksFrom false (behind ((gap, block) :: blocks))
      = ['\n'] :: extend (opening block.name ++ block.body) (chunksFrom false (behind blocks)) := by
  rw [behind, chunksFrom_inside]
  exact congrArg (extend ['\n']) (chunksFrom_model gap h _)

theorem chunksFrom_behind_other (gap : Gap) {block : Block} (h : ¬ block.IsModel) (blocks : Written) :
    chunksFrom false (behind ((gap, block) :: blocks))
      = extend ('\n' :: (gap.text ++ block.text)) (chunksFrom false (behind blocks)) := by
  rw [behind, chunksFrom_inside, chunksFrom_other gap h, extend_extend]
  rfl

end ApiScan.SchemaFile
