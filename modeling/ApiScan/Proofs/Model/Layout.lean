import ApiScan.Proofs.Model.Declaration
import ApiScan.Proofs.Source.Block

set_option autoImplicit false

/-! # How blocks are found and laid out

A block of declared fields is found in its file, and it is laid out with a line for each explicit
field: a field in shorthand stands on the line of the next explicit field, and those behind the last
explicit field share the last line. -/

namespace ApiScan.DocumentSchema

open Text Source

variable {fields more : Declared} {sep s t : Text} {tail : Tail} {c : Char}

/-- A text without braces. -/
def NoBrace (s : Text) : Prop := ∀ c ∈ s, c ≠ '{' ∧ c ≠ '}'

instance (s : Text) : Decidable (NoBrace s) := List.decidableBAll (fun c => c ≠ '{' ∧ c ≠ '}') s

/-! ## Finding a block -/

/-- A text with as many opening as closing braces, none of which is closed before it is opened. -/
def Balanced (s : Text) : Prop :=
  ∀ owed rest, 0 < owed →
    blockBody? owed (s ++ rest) = (blockBody? owed rest).map fun found => (s ++ found.1, found.2)

theorem balanced_nil : Balanced [] := fun owed rest _ => by simp

theorem Balanced.append (hs : Balanced s) (ht : Balanced t) : Balanced (s ++ t) := by
  intro owed rest howed
  rw [List.append_assoc, hs owed _ howed, ht owed _ howed, Option.map_map]
  simp [Function.comp_def]

theorem NoBrace.balanced (h : NoBrace s) : Balanced s := by
  induction s with
  | nil => exact balanced_nil
  | cons c s ih =>
      intro owed rest howed
      obtain ⟨⟨hopen, hclose⟩, hs⟩ := List.forall_mem_cons.1 h
      have hstep : owed + braceStep c = owed := by simp [braceStep, hopen, hclose]
      rw [List.cons_append, blockBody?, hstep, if_neg (by omega), ih hs owed rest howed,
        Option.map_map]
      rfl

theorem Balanced.braces (hs : Balanced s) : Balanced ('{' :: (s ++ ['}'])) := by
  intro owed rest howed
  have hopen : owed + braceStep '{' = owed + 1 := rfl
  have hclose : owed + 1 + braceStep '}' = owed := by
    show owed + 1 + -1 = owed
    omega
  rw [List.cons_append, blockBody?, hopen, if_neg (by omega), List.append_assoc,
    hs _ _ (by omega), List.singleton_append, blockBody?, hclose, if_neg (by omega)]
  simp [Option.map_map, Function.comp_def]

theorem noBrace_append (hs : NoBrace s) (ht : NoBrace t) : NoBrace (s ++ t) :=
  List.forall_mem_append.2 ⟨hs, ht⟩

theorem noBrace_of_allWord (h : AllWord s) : NoBrace s := by
  intro c hc
  have hword := h c hc
  constructor
  all_goals
    rintro rfl
    exact absurd hword (by decide)

theorem noBrace_of_allBlank (h : AllBlank s) : NoBrace s := by
  intro c hc
  have hblank := h c hc
  constructor
  all_goals
    rintro rfl
    exact absurd hblank (by decide)

theorem noBrace_sep (hsep : sep = [] ∨ sep = [',']) : NoBrace sep := by
  rcases hsep with rfl | rfl <;> decide

theorem noBrace_tail (tail : Tail) : NoBrace tail.text := by
  intro c hc
  rcases tail.plain c hc with rfl | hblank
  · decide
  · exact noBrace_of_allBlank (s := [c]) (by simpa [AllBlank] using hblank) c List.mem_cons_self

theorem noBrace_shorthand (name type : Word) : NoBrace (Declaration.shorthand name type).text :=
  noBrace_append (noBrace_of_allWord name.allWord)
    (noBrace_append (by decide) (noBrace_of_allWord type.allWord))

theorem balanced_text (declaration : Declaration) : Balanced declaration.text := by
  have hword (word : Word) : Balanced word.text := (noBrace_of_allWord word.allWord).balanced
  have hcolon : Balanced ": ".toList := NoBrace.balanced (by decide)
  have htype : Balanced " type: ".toList := NoBrace.balanced (by decide)
  have hblank : Balanced [' '] := NoBrace.balanced (by decide)
  cases declaration with
  | shorthand name type => exact (noBrace_shorthand name type).balanced
  | explicit name type =>
      exact (hword name).append
        (hcolon.append ((htype.append (hword type)).append hblank).braces)

theorem balanced_sequence (hsep : sep = [] ∨ sep = [',']) : Balanced (sequence sep fields) := by
  induction fields generalizing sep with
  | nil => exact balanced_nil
  | cons field fields ih =>
      obtain ⟨gap, declaration⟩ := field
      have hlead : Balanced (sep ++ gap.text) :=
        (noBrace_append (noBrace_sep hsep) (noBrace_of_allBlank gap.blank)).balanced
      exact (hlead.append (balanced_text declaration)).append (ih (Or.inr rfl))

theorem blockFrom?_noBrace (h : NoBrace s) (rest : Text) :
    blockFrom? 0 (s ++ rest) = blockFrom? 0 rest := by
  have hopen : '{' ∉ s := fun hmem => (h _ hmem).1 rfl
  have hclose : '}' ∉ s := fun hmem => (h _ hmem).2 rfl
  rw [blockFrom?_append hopen, braces_eq_zero hopen hclose, Int.add_zero]

/-- A block goes up to the brace that closes it. -/
theorem blockFrom?_braces {body : Text} (hbody : Balanced body) (after : Text) :
    blockFrom? 0 ('{' :: (body ++ '}' :: after)) = some ('{' :: (body ++ ['}']), after) := by
  have hclosed : blockBody? 1 (body ++ '}' :: after) = some (body ++ ['}'], after) := by
    rw [hbody 1 _ (by decide)]
    rfl
  rw [blockFrom?, blockBody?]
  show (if (1 : Int) = 0 then _ else (blockBody? 1 _).map _) = _
  rw [if_neg (by decide), hclosed]
  rfl

/-- **The first block behind a mark is found.** -/
theorem blockAfter?_braces {mark text front lead body after : Text} (hmark : NoBrace mark)
    (hlead : NoBrace lead) (hbody : Balanced body)
    (hcut : Text.cut? mark text = some (front, lead ++ '{' :: (body ++ '}' :: after))) :
    blockAfter? mark text = some ('{' :: (body ++ ['}']), after) := by
  rw [blockAfter?, hcut]
  show blockFrom? 0 (mark ++ (lead ++ '{' :: (body ++ '}' :: after))) = _
  rw [blockFrom?_noBrace hmark, blockFrom?_noBrace hlead, blockFrom?_braces hbody]

/-- A block of fields is found behind its mark. -/
theorem blockAfter?_block {mark text front gap after : Text}
    (hmark : NoBrace mark) (hgap : AllBlank gap)
    (hcut : Text.cut? mark text = some (front, gap ++ (block fields tail ++ after))) :
    blockAfter? mark text = some (block fields tail, after) := by
  have hbody : Balanced (sequence [] fields ++ tail.text) :=
    (balanced_sequence (Or.inl rfl)).append (noBrace_tail tail).balanced
  have htext : block fields tail ++ after
      = '{' :: (sequence [] fields ++ tail.text ++ '}' :: after) := by simp [block]
  rw [htext] at hcut
  rw [blockAfter?_braces hmark (noBrace_of_allBlank hgap) hbody hcut, block, List.append_assoc]

/-! ## Flattening a block -/

/-- A text without line breaks. -/
def NoBreak (s : Text) : Prop := ∀ c ∈ s, c ≠ '\r' ∧ c ≠ '\n'

instance (s : Text) : Decidable (NoBreak s) := List.decidableBAll (fun c => c ≠ '\r' ∧ c ≠ '\n') s

/-- A text on one line. -/
def smooth (s : Text) : Text := (s.filter (· ≠ '\r')).map fun c => if c = '\n' then ' ' else c

theorem smooth_append (s t : Text) : smooth (s ++ t) = smooth s ++ smooth t := by
  rw [smooth, List.filter_append, List.map_append]
  rfl

theorem smooth_of_noBreak (h : NoBreak s) : smooth s = s := by
  induction s with
  | nil => rfl
  | cons c s ih =>
      obtain ⟨⟨hcr, hlf⟩, hs⟩ := List.forall_mem_cons.1 h
      have hhead : smooth (c :: s) = c :: smooth s := by simp [smooth, hcr, hlf]
      rw [hhead, ih hs]

theorem mem_smooth (h : c ∈ smooth s) : (c ∈ s ∨ c = ' ') ∧ c ≠ '\n' := by
  simp only [smooth, List.mem_map, List.mem_filter] at h
  obtain ⟨d, ⟨hd, -⟩, rfl⟩ := h
  split
  · exact ⟨Or.inr rfl, by decide⟩
  · next hne => exact ⟨Or.inl hd, hne⟩

/-- White space on one line. -/
def Gap.smooth (gap : Gap) : Gap where
  text := DocumentSchema.smooth gap.text
  blank := fun c hc => by
    rcases (mem_smooth hc).1 with h | rfl
    · exact gap.blank c h
    · rfl

/-- The end of a block on one line. -/
def Tail.smooth (tail : Tail) : Tail where
  text := DocumentSchema.smooth tail.text
  plain := fun c hc => by
    rcases (mem_smooth hc).1 with h | rfl
    · exact tail.plain c h
    · exact Or.inr rfl

/-- A field with the white space in front of it on one line. -/
def smoothField (field : Gap × Declaration) : Gap × Declaration := (field.1.smooth, field.2)

theorem noBreak_append (hs : NoBreak s) (ht : NoBreak t) : NoBreak (s ++ t) :=
  List.forall_mem_append.2 ⟨hs, ht⟩

theorem noBreak_of_allWord (h : AllWord s) : NoBreak s := by
  intro c hc
  have hword := h c hc
  constructor
  all_goals
    rintro rfl
    exact absurd hword (by decide)

theorem noBreak_text (declaration : Declaration) : NoBreak declaration.text := by
  have hcolon : NoBreak ": ".toList := by decide
  have hname := noBreak_of_allWord declaration.name.allWord
  have htype := noBreak_of_allWord declaration.type.allWord
  refine noBreak_append hname ?_
  cases declaration with
  | shorthand name type => exact noBreak_append hcolon htype
  | explicit name type =>
      have hopen : NoBreak (": ".toList ++ '{' :: " type: ".toList) := by decide
      have hclose : NoBreak [' ', '}'] := by decide
      have hbody : (Declaration.explicit name type).body
          = (": ".toList ++ '{' :: " type: ".toList) ++ (type.text ++ [' ', '}']) := by
        simp [Declaration.body]
      rw [hbody]
      exact noBreak_append hopen (noBreak_append htype hclose)

theorem smooth_sequence (hsep : sep = [] ∨ sep = [',']) (fields : Declared) :
    smooth (sequence sep fields) = sequence sep (fields.map smoothField) := by
  induction fields generalizing sep with
  | nil => rfl
  | cons field fields ih =>
      obtain ⟨gap, declaration⟩ := field
      have hsep' : smooth sep = sep := by rcases hsep with rfl | rfl <;> rfl
      rw [sequence, smooth_append, smooth_append, smooth_append, hsep', ih (Or.inr rfl),
        smooth_of_noBreak (noBreak_text declaration)]
      rfl

theorem flatten_block (fields : Declared) (tail : Tail) :
    flatten (block fields tail) = block (fields.map smoothField) tail.smooth := by
  rw [flatten, stripComments_block]
  show smooth (['{'] ++ (sequence [] fields ++ (tail.text ++ ['}']))) = _
  rw [smooth_append, smooth_append, smooth_append, smooth_sequence (Or.inl rfl)]
  rfl

/-! ## Laying out a block -/

theorem breakGroups_of_noBrace {depth : Nat} (h : NoBrace s) (rest : Text) :
    breakGroups depth (s ++ rest) = s ++ breakGroups depth rest := by
  induction s with
  | nil => rfl
  | cons c s ih =>
      obtain ⟨⟨hopen, hclose⟩, hs⟩ := List.forall_mem_cons.1 h
      rw [List.cons_append, breakGroups, if_neg hopen, if_neg (by simp [hclose]), if_neg hclose,
        ih hs]
      rfl

/-- A line break comes behind a group at the top. -/
theorem breakGroups_group {front inner : Text} (hfront : NoBrace front) (hinner : NoBrace inner)
    (rest : Text) :
    breakGroups 0 (front ++ '{' :: (inner ++ '}' :: rest))
      = front ++ '{' :: (inner ++ '}' :: '\n' :: breakGroups 0 rest) := by
  rw [breakGroups_of_noBrace hfront, breakGroups, if_pos rfl, breakGroups_of_noBrace hinner,
    breakGroups, if_neg (by decide), if_pos ⟨rfl, rfl⟩]

theorem breakGroups_shorthand (name type : Word) (rest : Text) :
    breakGroups 0 ((Declaration.shorthand name type).text ++ rest)
      = (Declaration.shorthand name type).text ++ breakGroups 0 rest :=
  breakGroups_of_noBrace (noBrace_shorthand name type) rest

/-- The line breaks behind an explicit field. -/
theorem breakGroups_explicit (name type : Word) (rest : Text) :
    breakGroups 0 ((Declaration.explicit name type).text ++ rest)
      = (Declaration.explicit name type).text ++ '\n' :: breakGroups 0 rest := by
  have hname : NoBrace (name.text ++ ": ".toList) :=
    noBrace_append (noBrace_of_allWord name.allWord) (by decide)
  have hinner : NoBrace (" type: ".toList ++ type.text ++ [' ']) :=
    noBrace_append (noBrace_append (by decide) (noBrace_of_allWord type.allWord)) (by decide)
  have htext : (Declaration.explicit name type).text ++ rest
      = (name.text ++ ": ".toList) ++ '{' :: ((" type: ".toList ++ type.text ++ [' ']) ++ '}' :: rest) := by
    simp [Declaration.text, Declaration.name, Declaration.body]
  rw [htext, breakGroups_group hname hinner]
  simp [Declaration.text, Declaration.name, Declaration.body]

/-- Items in groups, each of which but the last one ends with the first item of a kind. -/
def groupsAfter {α : Type} (ends : α → Bool) (front : List α) : List α → List (List α)
  | [] => [front]
  | a :: more =>
    if ends a then (front ++ [a]) :: groupsAfter ends [] more
    else groupsAfter ends (front ++ [a]) more

theorem groupsAfter_map {α β : Type} (f : α → β) (ends : β → Bool) (front items : List α) :
    groupsAfter ends (front.map f) (items.map f)
      = (groupsAfter (fun a => ends (f a)) front items).map (List.map f) := by
  induction items generalizing front with
  | nil => rfl
  | cons a items ih =>
      rw [List.map_cons, groupsAfter, groupsAfter]
      have hlast : front.map f ++ [f a] = (front ++ [a]).map f := by simp
      split
      · rw [List.map_cons, hlast]
        exact congrArg _ (ih [])
      · rw [hlast, ih]

/-- The text of a line of a laid out block. -/
inductive LineText (tail : Tail) : Declared → Text → Prop
  | explicit {sep : Text} {front : Declared} {gap : Gap} {name type : Word}
      (hsep : sep = [] ∨ sep = [',']) (hfront : ∀ field ∈ front, field.2.isExplicit = false) :
      LineText tail (front ++ [(gap, .explicit name type)])
        (sequence sep (front ++ [(gap, .explicit name type)]))
  | last {sep : Text} {front : Declared} (hsep : sep = [] ∨ sep = [','])
      (hfront : ∀ field ∈ front, field.2.isExplicit = false) :
      LineText tail front (sequence sep front ++ (tail.text ++ ['}']))

/-- The fields and the end of a block are on one line. -/
def OnOneLine (fields : Declared) (tail : Tail) : Prop :=
  (∀ field ∈ fields, '\n' ∉ field.1.text) ∧ '\n' ∉ tail.text

theorem not_mem_sequence (hsep : sep = [] ∨ sep = [','])
    (h : ∀ field ∈ fields, '\n' ∉ field.1.text) : '\n' ∉ sequence sep fields := by
  induction fields generalizing sep with
  | nil => exact List.not_mem_nil
  | cons field fields ih =>
      obtain ⟨gap, declaration⟩ := field
      obtain ⟨hgap, hfields⟩ := List.forall_mem_cons.1 h
      simp only [sequence, List.mem_append, not_or]
      refine ⟨⟨⟨?_, hgap⟩, fun hc => (noBreak_text declaration '\n' hc).2 rfl⟩, ih (Or.inr rfl) hfields⟩
      rcases hsep with rfl | rfl <;> decide

theorem breakGroups_field (hsep : sep = [] ∨ sep = [',']) (gap : Gap) (declaration : Declaration)
    (rest : Text) :
    breakGroups 0 (sep ++ gap.text ++ declaration.text ++ rest)
      = sep ++ gap.text ++ declaration.text
        ++ (if declaration.isExplicit then ['\n'] else []) ++ breakGroups 0 rest := by
  have hlead : NoBrace (sep ++ gap.text) :=
    noBrace_append (noBrace_sep hsep) (noBrace_of_allBlank gap.blank)
  rw [List.append_assoc (sep ++ gap.text), breakGroups_of_noBrace hlead]
  cases declaration with
  | shorthand name type =>
      rw [breakGroups_shorthand]
      simp [Declaration.isExplicit]
  | explicit name type =>
      rw [breakGroups_explicit]
      simp [Declaration.isExplicit]

theorem nextSep_cases (hsep : sep = [] ∨ sep = [',']) (front : Declared) :
    nextSep sep front = [] ∨ nextSep sep front = [','] := by
  cases front with
  | nil => exact hsep
  | cons => exact Or.inr rfl

/-- **A laid out block has a line for each explicit field**, and one for what is left. -/
theorem lines_breakGroups {front : Declared} (hsep : sep = [] ∨ sep = [','])
    (hfront : ∀ field ∈ front, field.2.isExplicit = false)
    (hline : OnOneLine (front ++ fields) tail) :
    List.Forall₂ (fun line text => LineText tail line text ∧ '\n' ∉ text)
      (groupsAfter (fun field => field.2.isExplicit) front fields)
      (Text.lines (sequence sep front
        ++ breakGroups 0 (sequence (nextSep sep front) fields ++ (tail.text ++ ['}'])))) := by
  induction fields generalizing sep front with
  | nil =>
      have hlast : breakGroups 0 (tail.text ++ ['}']) = tail.text ++ ['}'] :=
        breakGroups_of_noBrace (noBrace_tail tail) _
      have hflat : '\n' ∉ sequence sep front ++ (tail.text ++ ['}']) := by
        rw [List.append_nil] at hline
        simp only [List.mem_append, List.mem_singleton, not_or]
        exact ⟨not_mem_sequence hsep hline.1, hline.2, by decide⟩
      show List.Forall₂ _ [front] (Text.lines (_ ++ breakGroups 0 (tail.text ++ ['}'])))
      rw [hlast, lines_of_not_mem hflat]
      exact List.Forall₂.cons ⟨LineText.last hsep hfront, hflat⟩ List.Forall₂.nil
  | cons field fields ih =>
      obtain ⟨gap, declaration⟩ := field
      have hnext : nextSep sep (front ++ [(gap, declaration)]) = [','] := by cases front <;> rfl
      have hfirst : sequence sep front ++ (nextSep sep front ++ gap.text ++ declaration.text)
          = sequence sep (front ++ [(gap, declaration)]) := by
        rw [sequence_append, sequence, sequence, List.append_nil]
      have hlater : front ++ (gap, declaration) :: fields = (front ++ [(gap, declaration)]) ++ fields := by
        simp
      rw [sequence, List.append_assoc _ (sequence [','] fields),
        breakGroups_field (nextSep_cases hsep front)]
      rw [hlater] at hline
      cases declaration with
      | shorthand name type =>
          have hrest := ih hsep
            (List.forall_mem_append.2 ⟨hfront, by simp [Declaration.isExplicit]⟩) hline
          rw [hnext, ← hfirst] at hrest
          simpa [groupsAfter, Declaration.isExplicit] using hrest
      | explicit name type =>
          have hempty : ∀ field ∈ ([] : Declared), field.2.isExplicit = false := by simp
          have hflat : '\n' ∉ sequence sep (front ++ [(gap, .explicit name type)]) :=
            not_mem_sequence hsep fun field hf => hline.1 field (List.mem_append_left _ hf)
          have hrest := ih (Or.inr (Eq.refl [','])) hempty
            ⟨fun field hf => hline.1 field (List.mem_append_right _ hf), hline.2⟩
          have htext : sequence sep front ++ (nextSep sep front ++ gap.text
              ++ (Declaration.explicit name type).text ++ ['\n']
              ++ breakGroups 0 (sequence [','] fields ++ (tail.text ++ ['}'])))
              = sequence sep (front ++ [(gap, .explicit name type)])
                ++ '\n' :: breakGroups 0 (sequence [','] fields ++ (tail.text ++ ['}'])) := by
            rw [← hfirst]
            simp
          simp only [groupsAfter, Declaration.isExplicit, if_true]
          rw [htext, lines_append_cons hflat]
          exact List.Forall₂.cons ⟨LineText.explicit hsep hfront, hflat⟩ hrest

end ApiScan.DocumentSchema

/-! ## Listed items

Items are listed with commas between them, each with white space in front of it. What every part of
a list has, and what texts keep when they are put one behind another, the whole list has. -/

namespace ApiScan.DocumentSchema

open Text Source

variable {α : Type} {render : α → Text} {sep : Text} {items : List (Gap × α)}

/-- The text of listed items; `sep` stands in front of the first one and a comma in front of each
    other one. -/
def listed (render : α → Text) (sep : Text) : List (Gap × α) → Text
  | [] => []
  | (gap, item) :: more => sep ++ gap.text ++ render item ++ listed render [','] more

/-- What holds of the parts of a list holds of the list. -/
theorem listed_of_append {P : Text → Prop} (hsep : sep = [] ∨ sep = [',']) (hnil : P [])
    (happend : ∀ s t, P s → P t → P (s ++ t)) (hcomma : P [',']) (hgap : ∀ s, AllBlank s → P s)
    (hitem : ∀ item ∈ items, P (render item.2)) : P (listed render sep items) := by
  induction items generalizing sep with
  | nil => exact hnil
  | cons item items ih =>
      obtain ⟨gap, item⟩ := item
      obtain ⟨hfirst, hmore⟩ := List.forall_mem_cons.1 hitem
      have hlead : P sep := by
        rcases hsep with rfl | rfl
        · exact hnil
        · exact hcomma
      exact happend _ _ (happend _ _ (happend _ _ hlead (hgap _ gap.blank)) hfirst)
        (ih (Or.inr rfl) hmore)

/-- What holds of all characters of a text, one by one, holds of the text. -/
theorem of_append_of_chars {P : Text → Prop} (hnil : P []) (happend : ∀ s t, P s → P t → P (s ++ t))
    {s : Text} (h : ∀ c ∈ s, P [c]) : P s := by
  induction s with
  | nil => exact hnil
  | cons c s ih =>
      obtain ⟨hc, hs⟩ := List.forall_mem_cons.1 h
      exact happend [c] s hc (ih hs)

/-- A text of word characters and of the characters of another text. -/
def Spelled (marks s : Text) : Prop := ∀ c ∈ s, isWord c = true ∨ c ∈ marks

instance (marks s : Text) : Decidable (Spelled marks s) :=
  List.decidableBAll (fun c => isWord c = true ∨ c ∈ marks) s

/-- An item with the white space in front of it on one line. -/
def smoothItem (item : Gap × α) : Gap × α := (item.1.smooth, item.2)

/-- A list of items that are written on one line is put on one line by its white space. -/
theorem smooth_listed (hsep : sep = [] ∨ sep = [',']) (hitem : ∀ item : α, NoBreak (render item)) :
    smooth (listed render sep items) = listed render sep (items.map smoothItem) := by
  induction items generalizing sep with
  | nil => rfl
  | cons item items ih =>
      obtain ⟨gap, item⟩ := item
      have hlead : smooth sep = sep := by rcases hsep with rfl | rfl <;> rfl
      rw [listed, smooth_append, smooth_append, smooth_append, hlead, ih (Or.inr rfl),
        smooth_of_noBreak (hitem item)]
      rfl

theorem not_mem_smooth_gap (gap : Gap) : '\n' ∉ gap.smooth.text := fun h => (mem_smooth h).2 rfl

theorem noMark_tail (tail : Tail) : NoMark tail.text := by
  intro c hc
  rcases tail.plain c hc with rfl | hblank
  · decide
  · exact noMark_of_allBlank (s := [c]) (by simpa [AllBlank] using hblank) c List.mem_cons_self

end ApiScan.DocumentSchema
