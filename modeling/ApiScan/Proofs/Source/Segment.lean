import ApiScan.Proofs.Source.Comment
import ApiScan.Proofs.Text.Search

set_option autoImplicit false

/-! # Source texts in segments

A source text can be written as a sequence of segments: characters of code, complete literals, line
comments and complete block comments. A segment may need something from the character behind it: a
slash of code must not start a comment, and a line comment ends at the end of its line. Without its
comments the text is what the other segments spell, each literal as it stands. Nothing grows together
where a comment was, so removing comments once more changes nothing. -/

namespace ApiScan.Source

open Text

/-! ## Segments -/

/-- A part of a source text. -/
inductive Segment where
  /-- A character of code. -/
  | code (c : Char) (plain : isQuote c = false)
  /-- A literal with its quotes. -/
  | literal (quote : Char) (body : Text) (isQuote_quote : isQuote quote = true)
      (complete : LiteralBody quote body)
  /-- A comment up to the end of its line. -/
  | lineComment (body : Text) (oneLine : '\n' ∉ body)
  /-- A comment between its marks. -/
  | blockComment (body : Text) (unclosed : ¬ ['*', '/'] <:+: body)

namespace Segment

/-- The text of a segment. -/
def text : Segment → Text
  | code c _ => [c]
  | literal quote body _ _ => quote :: (body ++ [quote])
  | lineComment body _ => '/' :: '/' :: body
  | blockComment body _ => '/' :: '*' :: (body ++ ['*', '/'])

/-- Whether a segment is a comment. -/
def isComment : Segment → Bool
  | code _ _ => false
  | literal _ _ _ _ => false
  | lineComment _ _ => true
  | blockComment _ _ => true

/-- Whether a segment may stand in front of a character, or at the end of the text. -/
def Admits (next : Option Char) : Segment → Prop
  | code c _ => c = '/' → next ≠ some '/' ∧ next ≠ some '*'
  | literal _ _ _ _ => True
  | lineComment _ _ => ∀ c ∈ next, c = '\n'
  | blockComment _ _ => True

end Segment

/-- The text of segments. -/
def textOf (segments : List Segment) : Text := segments.flatMap Segment.text

/-- The segments that are no comments. -/
def bare (segments : List Segment) : List Segment := segments.filter fun segment => !segment.isComment

/-- Each segment may stand in front of what follows it. -/
def Fitting : List Segment → Prop
  | [] => True
  | segment :: more => segment.Admits (textOf more).head? ∧ Fitting more

instance (next : Option Char) : (segment : Segment) → Decidable (segment.Admits next)
  | .code c _ => inferInstanceAs (Decidable (c = '/' → next ≠ some '/' ∧ next ≠ some '*'))
  | .literal _ _ _ _ => .isTrue trivial
  | .lineComment _ _ => Option.decidableForallMem next
  | .blockComment _ _ => .isTrue trivial

instance decidableFitting : (segments : List Segment) → Decidable (Fitting segments)
  | [] => .isTrue trivial
  | segment :: more =>
    have := decidableFitting more
    inferInstanceAs (Decidable (segment.Admits (textOf more).head? ∧ Fitting more))

/-- The segments of a text of code. -/
def codeOf (s : Text) (plain : ∀ c ∈ s, isQuote c = false) : List Segment := s.pmap Segment.code plain

/-- A source text as a sequence of segments. -/
structure Segmented where
  segments : List Segment
  fitting : Fitting segments

namespace Segmented

/-- The source text. -/
def text (source : Segmented) : Text := textOf source.segments

/-- The source text without its comments. -/
def code (source : Segmented) : Text := textOf (bare source.segments)

end Segmented

variable {segment : Segment} {segments more : List Segment} {s : Text}

@[simp]
theorem textOf_nil : textOf [] = [] := rfl

@[simp]
theorem textOf_cons : textOf (segment :: more) = segment.text ++ textOf more := rfl

@[simp]
theorem textOf_append : textOf (segments ++ more) = textOf segments ++ textOf more :=
  List.flatMap_append

@[simp]
theorem bare_nil : bare [] = [] := rfl

theorem bare_cons_of_comment (h : segment.isComment = true) : bare (segment :: more) = bare more :=
  List.filter_cons_of_neg (by simp [h])

theorem bare_cons_of_code (h : segment.isComment = false) :
    bare (segment :: more) = segment :: bare more :=
  List.filter_cons_of_pos (by simp [h])

@[simp]
theorem bare_append : bare (segments ++ more) = bare segments ++ bare more := List.filter_append ..

theorem Segment.head?_append (segment : Segment) (s : Text) :
    (segment.text ++ s).head? = segment.text.head? := by
  cases segment <;> rfl

/-- A comment starts with a slash. -/
theorem Segment.head?_text (segment : Segment) (h : segment.isComment = true) :
    segment.text.head? = some '/' := by
  cases segment with
  | code c plain => exact nomatch h
  | literal quote body hquote complete => exact nomatch h
  | lineComment body oneLine => rfl
  | blockComment body unclosed => rfl

/-! ## Removing the comments -/

/-- A slash that starts no comment is kept. -/
theorem kept?_slash (hslash : s.head? ≠ some '/') (hasterisk : s.head? ≠ some '*') :
    kept? ('/' :: s) = none := by
  unfold kept?
  split
  · next he =>
      obtain ⟨-, rfl⟩ := List.cons.inj he
      exact absurd rfl hslash
  · next he =>
      obtain ⟨-, rfl⟩ := List.cons.inj he
      exact absurd rfl hasterisk
  · next he =>
      obtain ⟨rfl, -⟩ := List.cons.inj he
      rfl
  · rfl

/-- One segment is kept or dropped, whatever follows it. -/
theorem stripComments_segment (h : segment.Admits s.head?) :
    stripComments (segment.text ++ s)
      = (if segment.isComment then [] else segment.text) ++ stripComments s := by
  cases segment with
  | code c plain =>
      have hnone : kept? (c :: s) = none := by
        by_cases hc : c = '/'
        · subst hc
          exact kept?_slash (h rfl).1 (h rfl).2
        · exact kept?_eq_none hc plain
      exact replaceAll_of_not_found hnone
  | literal quote body hquote complete => exact kept_literal hquote complete s
  | lineComment body oneLine => exact stripComments_lineComment oneLine h
  | blockComment body unclosed =>
      have htext : (Segment.blockComment body unclosed).text ++ s
          = '/' :: '*' :: (body ++ '*' :: '/' :: s) := by
        simp [Segment.text]
      rw [htext]
      exact stripComments_blockComment unclosed s

theorem fitting_of_append (h : Fitting (segments ++ more)) : Fitting more := by
  induction segments with
  | nil => exact h
  | cons segment segments ih => exact ih h.2

/-- The comments in front of a text are removed, if it starts as what follows them does. -/
theorem stripComments_textOf_append (h : Fitting (segments ++ more)) (hs : s.head? = (textOf more).head?) :
    stripComments (textOf segments ++ s) = textOf (bare segments) ++ stripComments s := by
  induction segments with
  | nil => rfl
  | cons segment segments ih =>
      obtain ⟨hsegment, hsegments⟩ := h
      -- a segment sees the same character behind it as in the whole text
      have hhead : (textOf (segments ++ more)).head? = (textOf segments ++ s).head? := by
        rw [textOf_append, List.head?_append, List.head?_append, hs]
      rw [List.append_eq, hhead] at hsegment
      rw [textOf_cons, List.append_assoc, stripComments_segment hsegment, ih hsegments]
      cases hcomment : segment.isComment with
      | true => simp [bare_cons_of_comment hcomment]
      | false => simp [bare_cons_of_code hcomment]

/-- Removing comments leaves the segments that are none. -/
theorem stripComments_textOf (h : Fitting segments) :
    stripComments (textOf segments) = textOf (bare segments) := by
  have hfit : Fitting (segments ++ []) := by rwa [List.append_nil]
  have hall := stripComments_textOf_append (s := []) hfit rfl
  rwa [List.append_nil, show stripComments [] = [] from rfl, List.append_nil] at hall

/-- **Exactly the comments are removed.** The text of a sequence of segments is left with the segments
    that are no comments, in order, and each of them as it stands. -/
theorem stripComments_segmented (source : Segmented) : stripComments source.text = source.code :=
  stripComments_textOf source.fitting

/-- A quote in a comment, comment marks in a literal, and a slash that starts no comment. -/
example : ∃ source : Segmented,
    source.text = "a/2 /*/ it's */+'//' // x".toList ∧ source.code = "a/2 +'//' ".toList := by
  refine ⟨⟨codeOf "a/2 ".toList (by decide) ++ .blockComment "/ it's ".toList (by decide) ::
    codeOf ['+'] (by decide) ++ [.literal '\'' "//".toList rfl (literalBody_of_plain (by decide)),
      .code ' ' rfl, .lineComment " x".toList (by decide)], ?_⟩, rfl, rfl⟩
  decide

/-! ## Texts without comments -/

/-- Where a comment was, nothing grows together. -/
theorem fitting_bare (h : Fitting segments) : Fitting (bare segments) := by
  induction segments with
  | nil => exact trivial
  | cons segment more ih =>
      obtain ⟨hsegment, hmore⟩ := h
      cases hcomment : segment.isComment with
      | true =>
          rw [bare_cons_of_comment hcomment]
          exact ih hmore
      | false =>
          rw [bare_cons_of_code hcomment]
          refine ⟨?_, ih hmore⟩
          cases segment with
          | code c plain =>
              intro hc
              -- a comment right behind a slash of code would start with the slash
              cases more with
              | nil => simp
              | cons next more =>
                  have hnext := hsegment hc
                  cases hnextComment : next.isComment with
                  | true =>
                      rw [textOf_cons, next.head?_append, next.head?_text hnextComment] at hnext
                      exact absurd rfl hnext.1
                  | false =>
                      rw [textOf_cons, next.head?_append] at hnext
                      rwa [bare_cons_of_code hnextComment, textOf_cons, next.head?_append]
          | literal quote body hquote complete => exact trivial
          | lineComment body oneLine => exact nomatch hcomment
          | blockComment body unclosed => exact nomatch hcomment

theorem bare_bare : bare (bare segments) = bare segments := by
  simp [bare]

end ApiScan.Source

/-! ## Searching a text with and without its comments

A text that is searched as it stands is searched at every place of its segments, in comments too. At a
place of the code what follows may differ from what follows when the comments are gone. If nothing is
found in a comment, and the same is found at each place of the code with and without the comments
behind it, the first place is the same. That need only hold up to the first place where anything is
found: what stands behind it is never looked at. -/

namespace ApiScan.Source

open Text

/-! ## Places -/

/-- A place in a text in segments. -/
structure Place where
  /-- Whether it stands in a comment. -/
  inComment : Bool
  /-- The rest of the segment that it stands in. -/
  left : Text
  /-- The segments behind. -/
  more : List Segment

namespace Place

/-- The text from a place on. -/
def text (place : Place) : Text := place.left ++ textOf place.more

/-- The text from a place on, without the comments behind it. -/
def code (place : Place) : Text := place.left ++ textOf (bare place.more)

end Place

/-- The places in a segment of which a text is left. -/
def placesIn (inComment : Bool) (more : List Segment) : Text → List Place
  | [] => []
  | c :: s => ⟨inComment, c :: s, more⟩ :: placesIn inComment more s

/-- The places of a text in segments, in order. -/
def places : List Segment → List Place
  | [] => []
  | segment :: more => placesIn segment.isComment more segment.text ++ places more

variable {α : Type} {found : Text → Option α} {segments more : List Segment} {place : Place}
  {s : Text}

/-! ## Searching -/

/-- Nothing is found at a place in a comment, and at a place of the code the same as without the
    comments behind it. -/
def Agrees (found : Text → Option α) (place : Place) : Prop :=
  if place.inComment then found place.text = none else found place.text = found place.code

/-- The places agree, up to the first one where anything is found. -/
def Undisturbed (found : Text → Option α) : List Place → Prop
  | [] => True
  | place :: more => Agrees found place ∧ (found place.text = none → Undisturbed found more)

instance [DecidableEq α] : Decidable (Agrees found place) :=
  inferInstanceAs (Decidable
    (if place.inComment then found place.text = none else found place.text = found place.code))

instance decidableUndisturbed [DecidableEq α] : (list : List Place) → Decidable (Undisturbed found list)
  | [] => .isTrue trivial
  | place :: more =>
    have := decidableUndisturbed more
    inferInstanceAs (Decidable
      (Agrees found place ∧ (found place.text = none → Undisturbed found more)))

/-- The first place where anything is found. -/
def firstPlace? (found : Text → Option α) (segments : List Segment) : Option Place :=
  (places segments).find? fun place => (found place.text).isSome

/-! ## The first place -/

theorem inComment_of_mem_placesIn {inComment : Bool}
    (h : place ∈ placesIn inComment more s) : place.inComment = inComment ∧ place.more = more := by
  induction s with
  | nil => exact absurd h List.not_mem_nil
  | cons c s ih =>
      rcases List.mem_cons.1 h with rfl | h
      · exact ⟨rfl, rfl⟩
      · exact ih h

/-- Behind a place of a text stands a text. -/
theorem fitting_of_mem_places (h : place ∈ places segments) (hfit : Fitting segments) :
    Fitting place.more := by
  induction segments with
  | nil => exact absurd h List.not_mem_nil
  | cons segment more ih =>
      rcases List.mem_append.1 h with h | h
      · rw [(inComment_of_mem_placesIn h).2]
        exact hfit.2
      · exact ih h hfit.2

section
variable {β : Type} {give : Text → Option β}

/-- The places of a segment are searched one after another. -/
theorem find?_append_placesIn {inComment : Bool} {rest : Text} (view : Place → Text)
    (hview : ∀ s, view ⟨inComment, s, more⟩ = s ++ rest) (s : Text) :
    find? give (s ++ rest)
      = ((placesIn inComment more s).findSome? fun place => give (view place)).or (find? give rest) := by
  induction s with
  | nil => rfl
  | cons c s ih =>
      rw [List.cons_append, find?_cons, ih, placesIn, List.findSome?_cons, hview, List.cons_append]
      cases give (c :: (s ++ rest)) <;> rfl

/-- A text is searched at its places, one after another. -/
theorem find?_textOf (hend : give [] = none) (segments : List Segment) :
    find? give (textOf segments) = (places segments).findSome? fun place => give place.text := by
  induction segments with
  | nil => exact hend
  | cons segment more ih =>
      rw [textOf_cons, find?_append_placesIn Place.text fun _ => rfl, ih, places,
        List.findSome?_append]

/-- Without the comments it is searched at the places of the code. -/
theorem find?_textOf_bare (hend : give [] = none) (segments : List Segment) :
    find? give (textOf (bare segments))
      = ((places segments).filter fun place => !place.inComment).findSome? fun place => give place.code := by
  induction segments with
  | nil => exact hend
  | cons segment more ih =>
      have hplaces : ∀ place ∈ placesIn segment.isComment more segment.text,
          (!place.inComment) = !segment.isComment := fun place hplace => by
        rw [(inComment_of_mem_placesIn hplace).1]
      rw [places, List.filter_append]
      cases hcomment : segment.isComment with
      | true =>
          rw [hcomment] at hplaces
          have hnone : (placesIn true more segment.text).filter (fun place => !place.inComment) = [] :=
            List.filter_eq_nil_iff.2 fun place hplace => by simp [hplaces place hplace]
          rw [hnone, List.nil_append, ← ih, bare_cons_of_comment hcomment]
      | false =>
          rw [hcomment] at hplaces
          have hall : (placesIn false more segment.text).filter (fun place => !place.inComment)
              = placesIn false more segment.text :=
            List.filter_eq_self.2 fun place hplace => by simp [hplaces place hplace]
          rw [hall, List.findSome?_append, ← ih, bare_cons_of_code hcomment, textOf_cons,
            find?_append_placesIn Place.code fun _ => rfl]

/-- What is given exactly where anything is found is given at the first such place. -/
theorem find?_firstPlace? (hgive : ∀ s, (give s).isSome = (found s).isSome) (hend : give [] = none)
    (segments : List Segment) :
    find? give (textOf segments) = (firstPlace? found segments).bind fun place => give place.text := by
  rw [find?_textOf hend, firstPlace?]
  induction places segments with
  | nil => rfl
  | cons place more ih =>
      rw [List.findSome?_cons, List.find?_cons, ← hgive, ih]
      cases hplace : give place.text with
      | none => rfl
      | some b => simp [hplace]

/-- **Without the comments it is given at the same place**, if they disturb nothing. -/
theorem find?_firstPlace?_bare (hgive : ∀ s, (give s).isSome = (found s).isSome) (hend : give [] = none)
    (h : Undisturbed found (places segments)) :
    find? give (textOf (bare segments))
      = (firstPlace? found segments).bind fun place => give place.code := by
  have hsame {s t : Text} (he : found s = found t) : (give s).isSome = (give t).isSome := by
    rw [hgive, hgive, he]
  rw [find?_textOf_bare hend, firstPlace?]
  generalize places segments = list at h ⊢
  induction list with
  | nil => rfl
  | cons place more ih =>
      obtain ⟨hplace, hmore⟩ := h
      unfold Agrees at hplace
      rw [List.find?_cons]
      cases hfound : found place.text with
      | none =>
          -- nothing is found here, so nothing is given here without the comments either
          rw [Option.isSome_none, ← ih (hmore hfound), List.filter_cons]
          split
          · next hcode =>
              rw [if_neg (by simpa using hcode)] at hplace
              have hnone : give place.code = none := by
                rw [← Option.isNone_iff_eq_none, ← Option.isSome_eq_false_iff, ← hsame hplace, hgive, hfound]
                rfl
              rw [List.findSome?_cons, hnone]
          · rfl
      | some a =>
          -- the first place, which is one of the code
          rw [hfound] at hplace
          have hcode : place.inComment = false := by
            rw [Bool.eq_false_iff]
            intro hcomment
            rw [if_pos hcomment] at hplace
            exact Option.some_ne_none a hplace
          rw [hcode, if_neg Bool.false_ne_true] at hplace
          have hsome : (give place.code).isSome = true := by rw [hgive, ← hplace]; rfl
          obtain ⟨b, hb⟩ := Option.isSome_iff_exists.1 hsome
          rw [List.filter_cons_of_pos (by simp [hcode]), List.findSome?_cons, hb]
          exact hb.symm

end

/-- At the first place the same is found without the comments. -/
theorem found_of_firstPlace? (h : Undisturbed found (places segments))
    (hplace : firstPlace? found segments = some place) : found place.text = found place.code := by
  unfold firstPlace? at hplace
  generalize places segments = list at h hplace
  induction list with
  | nil => exact nomatch hplace
  | cons first more ih =>
      rw [List.find?_cons] at hplace
      cases hfound : found first.text with
      | none =>
          rw [hfound] at hplace
          exact ih (h.2 hfound) hplace
      | some a =>
          rw [hfound] at hplace
          obtain rfl := Option.some.inj hplace
          have hagrees := h.1
          unfold Agrees at hagrees
          split at hagrees
          · rw [hfound] at hagrees
            exact absurd hagrees (Option.some_ne_none a)
          · exact hagrees

/-- Comments that disturb nothing change nothing. -/
theorem find?_bare (hend : found [] = none) (h : Undisturbed found (places segments)) :
    find? found (textOf (bare segments)) = find? found (textOf segments) := by
  rw [find?_firstPlace?_bare (fun _ => rfl) hend h, find?_firstPlace? (fun _ => rfl) hend]
  cases hplace : firstPlace? found segments with
  | none => rfl
  | some place => exact (found_of_firstPlace? h hplace).symm

end ApiScan.Source

/-! ## Closed source texts

A source text is closed if nothing in it reaches beyond its end: every literal and every block comment
is complete, and a line comment is followed by its line break. Comments are removed from such a text as
if it stood alone, whatever text follows it, as long as that does not turn a slash at the end into a
comment. What follows need not be closed itself. -/

namespace ApiScan.Source

variable {segment : Segment} {segments : List Segment} {next : Option Char} {s : Text}

/-- A source text in segments that may stand in front of code: a slash or a comment at its end does not
    reach into what follows. -/
structure ClosedSource where
  segments : List Segment
  closed : Fitting (segments ++ [.code ';' rfl])

namespace ClosedSource

/-- The source text. -/
def text (source : ClosedSource) : Text := textOf source.segments

/-- The source text without its comments. -/
def code (source : ClosedSource) : Text := textOf (bare source.segments)

end ClosedSource

/-- What may stand in front of a semicolon may stand in front of everything that starts no comment. -/
theorem Segment.Admits.of_semicolon (h : segment.Admits (some ';')) (hslash : next ≠ some '/')
    (hasterisk : next ≠ some '*') : segment.Admits next := by
  cases segment with
  | code c plain => exact fun _ => ⟨hslash, hasterisk⟩
  | literal quote body hquote complete => exact trivial
  | lineComment body oneLine => exact absurd (h ';' rfl) (by decide)
  | blockComment body unclosed => exact trivial

/-- **Comments are removed from a closed text as if it stood alone.** -/
theorem stripComments_closed (h : Fitting (segments ++ [.code ';' rfl])) (hslash : s.head? ≠ some '/')
    (hasterisk : s.head? ≠ some '*') :
    stripComments (textOf segments ++ s) = textOf (bare segments) ++ stripComments s := by
  induction segments with
  | nil => rfl
  | cons segment more ih =>
      obtain ⟨hsegment, hmore⟩ := h
      have hadmits : segment.Admits (textOf more ++ s).head? := by
        rw [List.append_eq, textOf_append, List.head?_append] at hsegment
        rw [List.head?_append]
        cases hhead : (textOf more).head? with
        | some c => rwa [hhead] at hsegment
        | none =>
            rw [hhead] at hsegment
            exact hsegment.of_semicolon hslash hasterisk
      rw [textOf_cons, List.append_assoc, stripComments_segment hadmits, ih hmore]
      cases hcomment : segment.isComment with
      | true => simp [bare_cons_of_comment hcomment]
      | false => simp [bare_cons_of_code hcomment]

namespace ClosedSource

theorem stripComments_append (source : ClosedSource) (hslash : s.head? ≠ some '/')
    (hasterisk : s.head? ≠ some '*') :
    stripComments (source.text ++ s) = source.code ++ stripComments s :=
  stripComments_closed source.closed hslash hasterisk

theorem stripComments_text (source : ClosedSource) : stripComments source.text = source.code := by
  have hall := source.stripComments_append (s := []) (by simp) (by simp)
  rwa [List.append_nil, show stripComments [] = [] from rfl, List.append_nil] at hall

end ClosedSource

end ApiScan.Source
