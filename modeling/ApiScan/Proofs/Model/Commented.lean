import ApiScan.Proofs.Model.CommentedBlock
import ApiScan.Proofs.Model.TableSource
import ApiScan.Proofs.Source.Segment

set_option autoImplicit false

/-! # Model files with comments

The marks, the names and the blocks of a model file are looked for in the text as it stands, and only a
block that was found is rid of its comments. So a comment may hide or invent a model: one that holds a
mark, a registration or a brace, and one that stands inside a mark or in front of a name. Here is what
is asked of the comments for the model to be the same without them. It is asked of the places up to the
first mark and up to the first name, and of the blocks behind the first mark. -/

/-! ## The first of several marks

The mark whose first occurrence comes first is what a search for any of the marks finds, and the block
behind it is the first block from that place on: no mark stands where another one does. -/

namespace ApiScan.Source

open Text ColumnTable

variable {marks : List Text} {mark s rest : Text} {c : Char}

/-- The mark that stands at the start of a text. -/
def markAt? (marks : List Text) (s : Text) : Option Text := marks.find? fun mark => startsWith mark s

/-- No mark is empty, and none stands where another one does. -/
def Apart (marks : List Text) : Prop :=
  ∀ mark ∈ marks, mark ≠ [] ∧
    ∀ other ∈ marks, other ≠ mark → ∀ rest, after? other (mark ++ rest) = none

theorem markAt?_eq_some (h : markAt? marks s = some mark) : mark ∈ marks ∧ ∃ rest, s = mark ++ rest := by
  have hstarts : startsWith mark s = true := List.find?_some (p := fun mark => startsWith mark s) h
  obtain ⟨rest, hrest⟩ := startsWith_iff.1 hstarts
  exact ⟨List.mem_of_find?_eq_some h, rest, hrest.symm⟩

theorem after?_of_markAt?_eq_none (h : markAt? marks s = none) (hmark : mark ∈ marks) :
    after? mark s = none := by
  have hnot := List.find?_eq_none.1 h mark hmark
  rwa [startsWith, Bool.not_eq_true, Option.isSome_eq_false_iff, Option.isNone_iff_eq_none] at hnot

theorem markAt?_nil (h : Apart marks) : markAt? marks [] = none := by
  rw [markAt?, List.find?_eq_none]
  intro mark hmark
  rw [startsWith_iff, List.prefix_nil]
  exact (h mark hmark).1

/-! ## Where a mark is looked for -/

/-- What is found in the rest of a text is found one place later in the text. -/
theorem nearer_cons (h : after? mark (c :: s) = none) (best : Option (Nat × Text)) :
    nearer (c :: s) (best.map fun found => (found.1 + 1, found.2)) mark
      = (nearer s best mark).map fun found => (found.1 + 1, found.2) := by
  have hindex : indexOf? mark (c :: s) = (indexOf? mark s).map (· + 1) := by
    rw [indexOf?, cut?, h, indexOf?]
    simp [Function.comp_def]
  unfold nearer
  rw [hindex]
  cases indexOf? mark s with
  | none => rfl
  | some i =>
      cases best with
      | none => rfl
      | some found =>
          simp only [Option.map_some, Nat.add_lt_add_iff_right]
          split <;> rfl

/-- Where no mark stands at the start, the first mark is that of the rest. -/
theorem firstMark?_cons (h : markAt? marks (c :: s) = none) :
    firstMark? marks (c :: s) = firstMark? marks s := by
  have hfold (items : List Text) (hitems : items ⊆ marks) (best : Option (Nat × Text)) :
      items.foldl (nearer (c :: s)) (best.map fun found => (found.1 + 1, found.2))
        = (items.foldl (nearer s) best).map fun found => (found.1 + 1, found.2) := by
    induction items generalizing best with
    | nil => rfl
    | cons item items ih =>
        obtain ⟨hitem, hitems⟩ := List.cons_subset.1 hitems
        rw [List.foldl_cons, nearer_cons (after?_of_markAt?_eq_none h hitem), ih hitems]
        rfl
  have hall := congrArg (Option.map Prod.snd) (hfold marks (List.Subset.refl _) none)
  rw [Option.map_map] at hall
  exact hall

/-- **The first mark is what a search for the marks finds.** -/
theorem firstMark?_eq_find? (h : Apart marks) (s : Text) :
    firstMark? marks s = find? (markAt? marks) s := by
  induction s with
  | nil =>
      have hfold (items : List Text) (hitems : items ⊆ marks) : items.foldl (nearer []) none = none := by
        induction items with
        | nil => rfl
        | cons item items ih =>
            obtain ⟨hitem, hitems⟩ := List.cons_subset.1 hitems
            have hnone := after?_of_markAt?_eq_none (markAt?_nil h) hitem
            have hkeep : nearer [] none item = none := by
              unfold nearer indexOf? cut?
              rw [hnone]
              rfl
            rw [List.foldl_cons, hkeep, ih hitems]
      rw [find?, first?, markAt?_nil h]
      exact congrArg (Option.map Prod.snd) (hfold marks (List.Subset.refl _))
  | cons c s ih =>
      rw [find?_cons]
      cases hmark : markAt? marks (c :: s) with
      | none => rw [firstMark?_cons hmark, ih, Option.none_or]
      | some mark =>
          obtain ⟨hmem, rest, htext⟩ := markAt?_eq_some hmark
          rw [htext, firstMark?_append (h mark hmem).1 hmem ((h mark hmem).2 · · · rest)]
          rfl

theorem firstMark?_mem (h : Apart marks) (hmark : firstMark? marks s = some mark) : mark ∈ marks := by
  rw [firstMark?_eq_find? h] at hmark
  obtain ⟨-, rest, -, hfound, -⟩ := find?_eq_some_iff.1 hmark
  exact (markAt?_eq_some hfound).1

/-- The first mark with the text from it on. -/
def marked? (marks : List Text) (s : Text) : Option (Text × Text) :=
  (markAt? marks s).map fun mark => (mark, s)

theorem isSome_marked? (marks : List Text) (s : Text) :
    (marked? marks s).isSome = (markAt? marks s).isSome := Option.isSome_map

theorem mem_of_find?_marked? (h : find? (marked? marks) s = some (mark, rest)) : mark ∈ marks := by
  obtain ⟨-, found, -, hfound, -⟩ := find?_eq_some_iff.1 h
  obtain ⟨other, hmark, he⟩ := Option.map_eq_some_iff.1 hfound
  obtain ⟨rfl, -⟩ := Prod.mk.inj he
  exact (markAt?_eq_some hmark).1

/-- **The block behind the first mark** is the first block from the mark on. -/
theorem blockAfter?_of_marked? (hmarks : Apart marks)
    (h : find? (marked? marks) s = some (mark, rest)) : blockAfter? mark s = blockFrom? 0 rest := by
  have hmem := mem_of_find?_marked? h
  have hfirst {s : Text} (h : marked? marks s = some (mark, rest)) :
      blockAfter? mark s = blockFrom? 0 rest := by
    obtain ⟨other, hmark, he⟩ := Option.map_eq_some_iff.1 h
    obtain ⟨rfl, rfl⟩ := Prod.mk.inj he
    obtain ⟨-, tail, rfl⟩ := markAt?_eq_some hmark
    rw [blockAfter?, cut?_append (hmarks _ hmem).1]
    rfl
  induction s with
  | nil => exact hfirst h
  | cons c s ih =>
      rw [find?_cons] at h
      cases hhere : marked? marks (c :: s) with
      | some found =>
          rw [hhere] at h
          exact hfirst (hhere.trans h)
      | none =>
          rw [hhere, Option.none_or] at h
          have hnone := after?_of_markAt?_eq_none (Option.map_eq_none_iff.1 hhere) hmem
          rw [← ih h, blockAfter?, blockAfter?, cut?, hnone]
          cases cut? mark s <;> rfl

end ApiScan.Source

namespace ApiScan

open Text Source DocumentSchema

variable {segments more : List Segment} {place : Place} {rest left : Text}
  {done : Text → List Segment → Prop}

/-! ## Blocks behind a place -/

namespace Source

/-- The first block behind a place opens in the code. -/
def SafeBlock (done : Text → List Segment → Prop) (left : Text) (more : List Segment) : Prop :=
  NoBrace left ∧ OpensInCode done more

instance [∀ left more, Decidable (done left more)] {left : Text} :
    Decidable (SafeBlock done left more) :=
  inferInstanceAs (Decidable (_ ∧ _))

theorem sameBlock_of_safeBlock (hfit : Fitting more) (h : SafeBlock done left more) :
    SameBlock done (blockFrom? 0 (left ++ textOf more)) (blockFrom? 0 (left ++ textOf (bare more))) := by
  rw [blockFrom?_noBrace h.1, blockFrom?_noBrace h.1]
  exact sameBlock_of_opensInCode hfit h.2

variable {marks : List Text} {mark : Text}

theorem firstMark?_bare (hmarks : Apart marks) (h : Undisturbed (markAt? marks) (places segments)) :
    firstMark? marks (textOf (bare segments)) = firstMark? marks (textOf segments) := by
  rw [firstMark?_eq_find? hmarks, firstMark?_eq_find? hmarks, find?_bare (markAt?_nil hmarks) h]

/-- The block behind the first mark is read the same but for its comments. -/
theorem sameBlock_of_firstMark? (hmarks : Apart marks) (hfit : Fitting segments)
    (h : Undisturbed (markAt? marks) (places segments))
    (hblock : ∀ place ∈ firstPlace? (markAt? marks) segments, SafeBlock done place.left place.more)
    (hmark : firstMark? marks (textOf segments) = some mark) :
    SameBlock done (blockAfter? mark (textOf segments)) (blockAfter? mark (textOf (bare segments))) := by
  have hend : markAt? marks [] = none := markAt?_nil hmarks
  have hmarked : marked? marks [] = none := by rw [marked?, hend]; rfl
  rw [firstMark?_eq_find? hmarks, find?_firstPlace? (fun _ => rfl) hend,
    Option.bind_eq_some_iff] at hmark
  obtain ⟨place, hplace, hwhole⟩ := hmark
  have hcode := (found_of_firstPlace? h hplace).symm.trans hwhole
  have htext : find? (marked? marks) (textOf segments) = some (mark, place.text) := by
    rw [find?_firstPlace? (isSome_marked? marks) hmarked, hplace, Option.bind_some, marked?, hwhole]
    rfl
  have hbare : find? (marked? marks) (textOf (bare segments)) = some (mark, place.code) := by
    rw [find?_firstPlace?_bare (isSome_marked? marks) hmarked h, hplace, Option.bind_some, marked?, hcode]
    rfl
  rw [blockAfter?_of_marked? hmarks htext, blockAfter?_of_marked? hmarks hbare]
  exact sameBlock_of_safeBlock (fitting_of_mem_places (List.mem_of_find?_eq_some hplace) hfit)
    (hblock place hplace)

end Source

/-! ## Options -/

namespace DocumentSchema

/-- Whether options stand at the start of a text. -/
def startsOptions (rest : Text) : Bool :=
  (after? [','] (stripStart rest)).any fun more => startsWith ['{'] (stripStart more)

/-- The block behind the first opening brace is the first block. -/
theorem block?_brace {front : Text} (hfront : NoBrace front) (after : Text) :
    block? ['{'] (front ++ '{' :: after) = (blockFrom? 0 (front ++ '{' :: after)).map Prod.fst := by
  rw [block?, blockAfter?, cut?_char (fun hc => (hfront '{' hc).1 rfl), blockFrom?_noBrace hfront]
  rfl

/-- Options are the block behind the next opening brace. -/
theorem options?_eq_block? (rest : Text) :
    options? rest = if startsOptions rest then block? ['{'] rest else none := by
  unfold options? startsOptions
  split
  · next more hcomma =>
      have hafter : after? [','] (stripStart rest) = some more := after?_eq_some_iff.2 hcomma
      rw [hafter, Option.any_some]
      split
      · next after hopen => rw [if_pos (startsWith_iff.2 ⟨after, hopen.symm⟩)]
      · next hopen =>
          rw [if_neg]
          rw [startsWith_iff]
          rintro ⟨after, he⟩
          exact hopen after he.symm
  · next hcomma =>
      have hafter : after? [','] (stripStart rest) = none := by
        rw [Option.eq_none_iff_forall_ne_some]
        intro more he
        exact hcomma more (after?_eq_some_iff.1 he)
      rw [hafter]
      rfl

/-- Where options stand at the start, the block behind the next opening brace is the first block. -/
theorem block?_of_startsOptions {rest : Text} (h : startsOptions rest = true) :
    block? ['{'] rest = (blockFrom? 0 rest).map Prod.fst := by
  obtain ⟨more, hafter, hstarts⟩ := (Option.any_eq_true _ _).1 h
  have hcomma : stripStart rest = ',' :: more := after?_eq_some_iff.1 hafter
  obtain ⟨after, hopen⟩ := startsWith_iff.1 hstarts
  have hfront : NoBrace (rest.takeWhile isBlank ++ ',' :: more.takeWhile isBlank) :=
    noBrace_append (noBrace_of_allBlank fun c hc => List.mem_takeWhile_imp hc)
      (noBrace_append (s := [',']) (by decide)
        (noBrace_of_allBlank fun c hc => List.mem_takeWhile_imp hc))
  have hrest : rest = rest.takeWhile isBlank ++ ',' :: more.takeWhile isBlank ++ '{' :: after := by
    calc rest = rest.takeWhile isBlank ++ stripStart rest := List.takeWhile_append_dropWhile.symm
      _ = rest.takeWhile isBlank ++ ',' :: (more.takeWhile isBlank ++ stripStart more) := by
          rw [hcomma, stripStart, List.takeWhile_append_dropWhile]
      _ = _ := by simp [← hopen]
  have hblock := block?_brace hfront after
  rwa [← hrest] at hblock

/-- The options are the first block. -/
theorem options?_eq (rest : Text) :
    options? rest = if startsOptions rest then (blockFrom? 0 rest).map Prod.fst else none := by
  rw [options?_eq_block?]
  split
  · next h => exact block?_of_startsOptions h
  · rfl

/-- What is asked behind the block of fields: the options start as they do without the comments, and
    their block opens in the code. -/
def SafeOptions (left : Text) (more : List Segment) : Prop :=
  startsOptions (left ++ textOf more) = startsOptions (left ++ textOf (bare more)) ∧
    (startsOptions (left ++ textOf more) = true → SafeBlock (fun _ _ => True) left more)

instance (left : Text) (more : List Segment) : Decidable (SafeOptions left more) :=
  inferInstanceAs (Decidable (_ ∧ (_ → _)))

/-- The comments of a file with a document schema change nothing. -/
structure Harmless (segments : List Segment) : Prop where
  marks : Undisturbed (markAt? marks) (places segments)
  name : Undisturbed registration? (places segments)
  block : ∀ place ∈ firstPlace? (markAt? DocumentSchema.marks) segments,
    SafeBlock SafeOptions place.left place.more

theorem apart_marks : Apart DocumentSchema.marks := by
  intro mark hmark
  simp only [DocumentSchema.marks, List.mem_cons, List.not_mem_nil, or_false] at hmark ⊢
  rcases hmark with rfl | rfl
  all_goals
    refine ⟨by decide, ?_⟩
    rintro other (rfl | rfl) hne rest
    all_goals first | rfl | exact absurd rfl hne

/-- The options are read the same but for their comments. -/
theorem stripComments_options? (hfit : Fitting more) (h : SafeOptions left more) :
    (options? (left ++ textOf (bare more))).map stripComments
      = (options? (left ++ textOf more)).map stripComments := by
  rw [options?_eq, options?_eq, ← h.1]
  split
  · next hstarts =>
      rcases sameBlock_of_safeBlock hfit (h.2 hstarts) with ⟨hwhole, hcode⟩ |
        ⟨block, bareBlock, _, _, hwhole, hcode, hstrip, -⟩
      · rw [hwhole, hcode]
      · rw [hwhole, hcode]
        exact congrArg some hstrip.symm
  · rfl

/-- Without harmless comments the model of a file is the same. -/
theorem extract_bare (file : Text) (hfit : Fitting segments) (h : Harmless segments) :
    extract file (textOf (bare segments)) = extract file (textOf segments) := by
  have hname : modelName (textOf (bare segments)) = modelName (textOf segments) := by
    rw [modelName, modelName, find?_bare rfl h.name]
  unfold extract
  rw [firstMark?_bare apart_marks h.marks]
  cases hmark : firstMark? DocumentSchema.marks (textOf segments) with
  | none => rfl
  | some mark =>
      rcases sameBlock_of_firstMark? apart_marks hfit h.marks h.block hmark with ⟨hwhole, hcode⟩ |
        ⟨block, bareBlock, left, more, hwhole, hcode, hstrip, hmore, hoptions⟩
      · simp only [hwhole, hcode]
      · have hflat : flatten bareBlock = flatten block := by rw [flatten, flatten, hstrip]
        have hstamps : ((options? (left ++ textOf (bare more))).any fun options =>
              enablesTimestamps (stripComments options))
            = (options? (left ++ textOf more)).any fun options =>
              enablesTimestamps (stripComments options) := by
          have hsame := congrArg (Option.any enablesTimestamps) (stripComments_options? hmore hoptions)
          rw [Option.any_map, Option.any_map] at hsame
          exact hsame
        simp only [hwhole, hcode, hname, hflat, hstamps]

end DocumentSchema

namespace ColumnTable

/-- The comments of a file with a table change nothing. -/
structure Harmless (segments : List Segment) : Prop where
  marks : Undisturbed (markAt? ColumnTable.marks) (places segments)
  name : ∀ mark ∈ firstMark? ColumnTable.marks (textOf segments),
    Undisturbed (nameAfter? mark) (places segments)
  block : ∀ place ∈ firstPlace? (markAt? ColumnTable.marks) segments,
    SafeBlock (fun _ _ => True) place.left place.more

theorem apart_marks : Apart ColumnTable.marks := by
  intro mark hmark
  exact ⟨(by decide : ∀ mark ∈ ColumnTable.marks, mark ≠ []) mark hmark, fun other hother hne rest =>
    after?_marks hmark hother hne rest⟩

/-- Without harmless comments the model of a file is the same. -/
theorem extract_bare (file : Text) (hfit : Fitting segments) (h : Harmless segments) :
    extract file (textOf (bare segments)) = extract file (textOf segments) := by
  unfold extract
  rw [firstMark?_bare apart_marks h.marks]
  cases hmark : firstMark? ColumnTable.marks (textOf segments) with
  | none => rfl
  | some mark =>
      have hend : nameAfter? mark [] = none := by
        obtain ⟨c, name, hname⟩ :=
          List.exists_cons_of_ne_nil (apart_marks mark (firstMark?_mem apart_marks hmark)).1
        rw [hname]
        rfl
      have hname : tableName (textOf (bare segments)) mark = tableName (textOf segments) mark := by
        rw [tableName, tableName, find?_bare hend (h.name mark hmark)]
      rcases sameBlock_of_firstMark? apart_marks hfit h.marks h.block hmark with ⟨hwhole, hcode⟩ |
        ⟨block, bareBlock, left, more, hwhole, hcode, hstrip, -⟩
      · simp only [block?, hwhole, hcode, hname]
      · have hfragments : fragments bareBlock = fragments block := by rw [fragments, fragments, hstrip]
        simp only [block?, hwhole, hcode, hname, Option.map_some, hfragments]

end ColumnTable

/-! ## Files -/

/-- **Harmless comments change no model**: what is found in a file is what is found without them. -/
theorem extract_stripComments (file : Text) (source : Segmented) :
    (DocumentSchema.Harmless source.segments →
        DocumentSchema.extract file source.text
          = DocumentSchema.extract file (stripComments source.text)) ∧
      (ColumnTable.Harmless source.segments →
        ColumnTable.extract file source.text
          = ColumnTable.extract file (stripComments source.text)) := by
  have hcode : stripComments source.text = textOf (bare source.segments) :=
    stripComments_textOf source.fitting
  rw [hcode]
  exact ⟨fun h => (DocumentSchema.extract_bare file source.fitting h).symm,
    fun h => (ColumnTable.extract_bare file source.fitting h).symm⟩

/-- A registration that is commented out names the model if it comes first. -/
example : (DocumentSchema.extract "user.js".toList
    "// model('Old', s)\nnew Schema(\x7b\x7d); model('User', s)".toList).found
      = [⟨"Old".toList, "user".toList, []⟩] := by
  decide +kernel

/-- A file with a document schema: braces that nest in a comment of the block, and a registration that
    is commented out behind the one that counts. -/
def userSegments : List Segment :=
  .blockComment " users ".toList (by decide) ::
    codeOf " new Schema(\x7b name: \x7b type: String \x7d, ".toList (by decide) ++
    .lineComment " \x7b shown \x7d".toList (by decide) ::
    codeOf "\n age: \x7b type: Number \x7d \x7d); model(".toList (by decide) ++
    .literal '\'' "User".toList rfl (literalBody_of_plain (by decide)) ::
    codeOf ", s) ".toList (by decide) ++ [.lineComment " model('Old', s)".toList (by decide)]

def userSource : Segmented := ⟨userSegments, by decide +kernel⟩

/-- A file with a table, and a table that is commented out behind it. -/
def orderSegments : List Segment :=
  codeOf "pgTable(".toList (by decide) ++
    .literal '"' "orders".toList rfl (literalBody_of_plain (by decide)) ::
    codeOf ", \x7b\n id: serial(), ".toList (by decide) ++ .lineComment " key".toList (by decide) ::
    codeOf "\n\x7d) ".toList (by decide) ++ [.blockComment " pgTable(\"old\", \x7b\x7d) ".toList (by decide)]

def orderSource : Segmented := ⟨orderSegments, by decide +kernel⟩

theorem user_and_order_without_comments :
    DocumentSchema.Harmless userSource.segments ∧ ColumnTable.Harmless orderSource.segments ∧
      DocumentSchema.extract "user.js".toList userSource.text
        = DocumentSchema.extract "user.js".toList (stripComments userSource.text) ∧
      ColumnTable.extract "order.js".toList orderSource.text
        = ColumnTable.extract "order.js".toList (stripComments orderSource.text) := by
  have huser : DocumentSchema.Harmless userSource.segments :=
    ⟨by decide +kernel, by decide +kernel, by decide +kernel⟩
  have horder : ColumnTable.Harmless orderSource.segments :=
    ⟨by decide +kernel, by decide +kernel, by decide +kernel⟩
  exact ⟨huser, horder, (extract_stripComments _ userSource).1 huser,
    (extract_stripComments _ orderSource).2 horder⟩

end ApiScan
