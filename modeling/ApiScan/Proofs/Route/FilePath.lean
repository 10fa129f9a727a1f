import ApiScan.Proofs.Path
import ApiScan.Proofs.Source.Extension
import ApiScan.Proofs.Text.Words
import ApiScan.Route.FileRoute

set_option autoImplicit false

/-! # Paths of file routes

The path that a file serves has the segments of the file's own path, in order. A segment in brackets
becomes a parameter in the form of a document if its name is made of word characters; with any other
name it stays as it is. -/

namespace ApiScan.FileRoute

open Text Source

/-! ## Segments -/

/-- The three dots of a segment that takes the rest of a path. -/
def dots : Text := ['.', '.', '.']

/-- The form of a dynamic segment. -/
inductive Form where
  | single
  | catchAll
  | optionalCatchAll
  deriving DecidableEq, Repr

/-- What stands in front of the name in a dynamic segment. -/
def Form.opening : Form → Text
  | .single => ['[']
  | .catchAll => '[' :: dots
  | .optionalCatchAll => '[' :: '[' :: dots

/-- What stands behind the name in a dynamic segment. -/
def Form.closing : Form → Text
  | .single | .catchAll => [']']
  | .optionalCatchAll => [']', ']']

/-- A text without brackets and slashes. -/
def Plain (s : Text) : Prop := ∀ c ∈ s, c ≠ '[' ∧ c ≠ ']' ∧ c ≠ '/' ∧ c ≠ '\\'

/-- The name of a parameter in a dynamic segment. Three dots at the start of a segment belong to its
    form: with a name behind them, they are not the start of a name of their own. -/
structure IsParameter (form : Form) (name : Text) : Prop where
  ne_nil : name ≠ []
  plain : Plain name
  dots : form = .single → ∀ rest, name = dots ++ rest → rest = []

/-- A segment of a path under the folder of the API. -/
inductive Segment where
  | static (s : Text) (h : Plain s)
  | dynamic (form : Form) (name : Text) (h : IsParameter form name)

namespace Segment

/-- A segment as it is written. -/
def text : Segment → Text
  | static s _ => s
  | dynamic form name _ => form.opening ++ name ++ form.closing

/-- A segment in the form of a document: every dynamic one is a parameter. -/
def template : Segment → Text
  | static s _ => s
  | dynamic _ name _ => '{' :: name ++ ['}']

/-- Whether the name of a segment, if it is a dynamic one, is a word. -/
def IsWord : Segment → Prop
  | static _ _ => True
  | dynamic _ name _ => AllWord name

instance (segment : Segment) : Decidable segment.IsWord := by
  unfold IsWord
  split <;> infer_instance

/-- A segment as it is served. -/
def shown (segment : Segment) : Text := if segment.IsWord then segment.template else segment.text

end Segment

/-! ## Names in brackets -/

variable {form : Form} {name rest s : Text} {c : Char}

theorem dynamicName?_dots (s : Text) :
    dynamicName? (dots ++ s) = if (s.takeWhile isWord).isEmpty then none
      else (afterClose? (s.dropWhile isWord)).map fun rest =>
        ('{' :: s.takeWhile isWord ++ ['}'], rest) := by
  unfold dynamicName?
  rw [show after? ['.', '.', '.'] (dots ++ s) = some s from after?_eq_some_iff.2 rfl]
  rfl

theorem dynamicName?_of_after? (h : after? dots s = none) :
    dynamicName? s = dynamicName? (dots ++ s) := by
  rw [dynamicName?_dots]
  unfold dynamicName?
  rw [show after? ['.', '.', '.'] s = none from h]
  rfl

/-- A name ends with the word that it starts with, or goes on with another character. -/
theorem exists_word_append (name : Text) :
    AllWord name ∨ ∃ w d more, name = w ++ d :: more ∧ AllWord w ∧ isWord d = false := by
  cases hdrop : name.dropWhile isWord with
  | nil => exact Or.inl (List.dropWhile_eq_nil_iff.1 hdrop)
  | cons d more =>
      refine Or.inr ⟨name.takeWhile isWord, d, more, ?_, fun c hc => List.mem_takeWhile_imp hc, ?_⟩
      · rw [← hdrop, List.takeWhile_append_dropWhile]
      · exact not_of_head?_dropWhile (s := name) (by rw [hdrop, List.head?_cons])

theorem afterClose?_closing (hrest : rest.head? ≠ some ']') :
    afterClose? (form.closing ++ rest) = some rest := by
  have hone : afterClose? (']' :: rest) = some rest := by
    cases rest with
    | nil => rfl
    | cons d rest =>
        have hd : d ≠ ']' := fun he => hrest (congrArg some he)
        unfold afterClose?
        split
        · next he => exact absurd (List.cons.inj (List.cons.inj he).2).1 hd
        · next he => exact congrArg some (List.cons.inj he).2.symm
        · next hnone => exact absurd rfl (hnone _)
  cases form with
  | single => exact hone
  | catchAll => exact hone
  | optionalCatchAll => rfl

/-- A word in brackets is a parameter. -/
theorem dynamicName?_word (hne : name ≠ []) (hword : AllWord name) (hrest : rest.head? ≠ some ']') :
    dynamicName? (dots ++ (name ++ (form.closing ++ rest))) = some ('{' :: name ++ ['}'], rest) := by
  obtain ⟨tail, htail⟩ : ∃ tail, form.closing ++ rest = ']' :: tail := by
    cases form <;> exact ⟨_, rfl⟩
  have hrun := takeWhile_append_cons hword (by decide : isWord ']' = false) tail
  rw [dynamicName?_dots, htail, hrun.1, hrun.2, if_neg (by simpa using hne), ← htail,
    afterClose?_closing hrest]
  rfl

/-- What is no word is no name of a parameter. -/
theorem dynamicName?_eq_none (hplain : Plain name) (hword : ¬ AllWord name) (rest : Text) :
    dynamicName? (dots ++ (name ++ rest)) = none := by
  obtain ⟨w, d, more, rfl, hw, hd⟩ := (exists_word_append name).resolve_left hword
  have hbracket : d ≠ ']' := (hplain d (by simp)).2.1
  have hrun := takeWhile_append_cons hw hd (more ++ rest)
  have hnone : afterClose? (d :: (more ++ rest)) = none := by
    unfold afterClose?
    split
    · next he => exact absurd (List.cons.inj he).1 hbracket
    · next he => exact absurd (List.cons.inj he).1 hbracket
    · rfl
  rw [dynamicName?_dots, List.append_assoc, List.cons_append, hrun.1, hrun.2, hnone]
  exact ite_self _

/-! ## Dynamic segments -/

theorem dynamic?_cons_of_ne (hc : c ≠ '[') (s : Text) : dynamic? (c :: s) = none := by
  unfold dynamic?
  split
  · next he => exact absurd (List.cons.inj he).1 hc
  · next he => exact absurd (List.cons.inj he).1 hc
  · rfl

theorem dynamic?_bracket (hs : s.head? ≠ some '[') : dynamic? ('[' :: s) = dynamicName? s := by
  unfold dynamic?
  split
  · next he => exact absurd (by rw [(List.cons.inj he).2]; rfl) hs
  · next he => rw [(List.cons.inj he).2]
  · next hnone => exact absurd rfl (hnone s)

theorem head?_dots (s : Text) : (dots ++ s).head? ≠ some '[' :=
  fun he => absurd (Option.some.inj he) (by decide)

theorem length_le_of_afterClose? (h : afterClose? s = some rest) : rest.length ≤ s.length := by
  unfold afterClose? at h
  split at h
  · obtain rfl := Option.some.inj h
    simp only [List.length_cons]
    omega
  · obtain rfl := Option.some.inj h
    simp only [List.length_cons]
    omega
  · exact nomatch h

theorem length_le_of_dynamicName? {new : Text} (h : dynamicName? s = some (new, rest)) :
    rest.length ≤ s.length := by
  have hdots {s : Text} (h : dynamicName? (dots ++ s) = some (new, rest)) :
      rest.length ≤ s.length := by
    rw [dynamicName?_dots] at h
    split at h
    · exact nomatch h
    · obtain ⟨found, hfound, he⟩ := Option.map_eq_some_iff.1 h
      obtain ⟨-, rfl⟩ := Prod.mk.inj he
      exact (length_le_of_afterClose? hfound).trans (List.dropWhile_suffix _).length_le
  cases hafter : after? dots s with
  | none => exact hdots (dynamicName?_of_after? hafter ▸ h)
  | some found =>
      obtain rfl := after?_eq_some_iff.1 hafter
      rw [List.length_append]
      exact (hdots h).trans (Nat.le_add_left _ _)

theorem dynamic?_consumes : Consumes dynamic? := by
  intro s new rest h
  unfold dynamic? at h
  split at h
  · have hle := length_le_of_dynamicName? h
    simp only [List.length_cons]
    omega
  · have hle := length_le_of_dynamicName? h
    simp only [List.length_cons]
    omega
  · exact nomatch h

/-- What is read behind the opening bracket of a segment, or behind both of them. -/
theorem dynamic?_opening (h : IsParameter form name) (rest : Text) :
    (dynamic? (form.opening ++ name ++ form.closing ++ rest)
        = dynamicName? (dots ++ (name ++ (form.closing ++ rest))))
      ∨ (form = .single ∧ name = dots) := by
  rw [List.append_assoc, List.append_assoc]
  cases form with
  | catchAll => exact Or.inl (dynamic?_bracket (head?_dots _))
  | optionalCatchAll => exact Or.inl rfl
  | single =>
      -- the name may start with the three dots only if it is the three dots
      obtain ⟨c, t, rfl⟩ := List.exists_cons_of_ne_nil h.ne_nil
      have hhead : ((c :: t) ++ (Form.single.closing ++ rest)).head? ≠ some '[' := fun he =>
        (h.plain c List.mem_cons_self).1 (Option.some.inj he)
      have hbracket : dynamic? ('[' :: ((c :: t) ++ (Form.single.closing ++ rest)))
          = dynamicName? ((c :: t) ++ (Form.single.closing ++ rest)) := dynamic?_bracket hhead
      cases hafter : after? dots ((c :: t) ++ (Form.single.closing ++ rest)) with
      | none => exact Or.inl (hbracket.trans (dynamicName?_of_after? hafter))
      | some found =>
          right
          have hsplit := split_of_not_mem (by decide : ']' ∉ dots)
            (after?_eq_some_iff.1 hafter : (c :: t) ++ ']' :: rest = [] ++ dots ++ found)
          obtain ⟨tail, htail, -⟩ := hsplit.resolve_right fun ⟨_, hnil, _⟩ => nomatch hnil
          rw [List.nil_append] at htail
          rw [htail, h.dots rfl tail htail, List.append_nil]
          exact ⟨rfl, rfl⟩

/-- Three dots in brackets have no name. -/
theorem dynamic?_dots (rest : Text) : dynamic? ('[' :: dots ++ ']' :: rest) = none := by
  have hnone : dynamicName? (dots ++ ']' :: rest) = none := by
    rw [dynamicName?_dots]
    exact if_pos rfl
  exact (dynamic?_bracket (head?_dots _)).trans hnone

/-- A bracket at which nothing is recognised is kept, with what follows up to the next one. -/
theorem replaceAll_bracket (hs : '[' ∉ s) (hnone : dynamic? ('[' :: (s ++ rest)) = none) :
    replaceAll dynamic? ('[' :: (s ++ rest)) = '[' :: (s ++ replaceAll dynamic? rest) := by
  have hall : ∀ c ∈ s, ∀ rest, dynamic? (c :: rest) = none := fun c hc rest =>
    dynamic?_cons_of_ne (by rintro rfl; exact hs hc) rest
  rw [replaceAll_of_not_found hnone, replaceAll_append_of_forall hall]

/-- A segment with a name that is no word is kept. -/
theorem replaceAll_dynamic (h : IsParameter form name) (hword : ¬ AllWord name) (rest : Text) :
    replaceAll dynamic? (form.opening ++ name ++ form.closing ++ rest)
      = form.opening ++ name ++ form.closing ++ replaceAll dynamic? rest := by
  have hname : '[' ∉ name := fun hc => (h.plain _ hc).1 rfl
  have hdots : '[' ∉ dots := by decide
  have hopening : dynamic? (form.opening ++ name ++ form.closing ++ rest) = none := by
    rcases dynamic?_opening h rest with he | ⟨rfl, rfl⟩
    · exact he.trans (dynamicName?_eq_none h.plain hword _)
    · rw [List.append_assoc, List.append_assoc]
      exact dynamic?_dots rest
  cases form with
  | single =>
      exact replaceAll_bracket (s := name ++ [']']) (by simp [hname]) hopening
  | catchAll =>
      exact replaceAll_bracket (s := dots ++ name ++ [']']) (by simp [hname, hdots]) hopening
  | optionalCatchAll =>
      -- nothing starts at the second bracket either
      have hinner : dynamic? ('[' :: (dots ++ name ++ [']', ']'] ++ rest)) = none := by
        rw [List.append_assoc, List.append_assoc]
        exact (dynamic?_bracket (head?_dots _)).trans (dynamicName?_eq_none h.plain hword _)
      have houter : dynamic? ('[' :: '[' :: (dots ++ name ++ [']', ']'] ++ rest)) = none := hopening
      show replaceAll dynamic? ('[' :: '[' :: (dots ++ name ++ [']', ']'] ++ rest)) = _
      rw [replaceAll_of_not_found houter, replaceAll_bracket (by simp [hname, hdots]) hinner]
      rfl

/-! ## Paths of segments -/

/-- **A segment is served as it is shown**, whatever follows its end. -/
theorem replaceAll_text (segment : Segment) (hrest : rest.head? ≠ some ']') :
    replaceAll dynamic? (segment.text ++ rest) = segment.shown ++ replaceAll dynamic? rest := by
  unfold Segment.shown
  cases segment with
  | static s h =>
      rw [if_pos (show (Segment.static s h).IsWord from trivial)]
      exact replaceAll_append_of_forall (fun c hc t => dynamic?_cons_of_ne (h c hc).1 t) rest
  | dynamic form name h =>
      by_cases hword : AllWord name
      · rw [if_pos (show (Segment.dynamic form name h).IsWord from hword)]
        have hfound : dynamic? (form.opening ++ name ++ form.closing ++ rest)
            = some ('{' :: name ++ ['}'], rest) := by
          rcases dynamic?_opening h rest with he | ⟨-, rfl⟩
          · exact he.trans (dynamicName?_word h.ne_nil hword hrest)
          · exact absurd hword (by decide)
        obtain ⟨c, s, hs⟩ : ∃ c s, form.opening ++ name ++ form.closing ++ rest = c :: s := by
          cases form <;> exact ⟨_, _, rfl⟩
        show replaceAll dynamic? (form.opening ++ name ++ form.closing ++ rest) = _
        rw [hs] at hfound ⊢
        exact replaceAll_of_found dynamic?_consumes hfound
      · rw [if_neg (show ¬ (Segment.dynamic form name h).IsWord from hword)]
        exact replaceAll_dynamic h hword rest

theorem replaceAll_joinWith (segments : List Segment) :
    replaceAll dynamic? (joinWith ['/'] (segments.map Segment.text))
      = joinWith ['/'] (segments.map Segment.shown) := by
  -- behind a segment is the end of the path or a slash, so no bracket closes a second time
  induction segments with
  | nil => rfl
  | cons segment segments ih =>
      cases segments with
      | nil =>
          have hlast : replaceAll dynamic? (segment.text ++ []) = segment.shown ++ replaceAll dynamic? [] :=
            replaceAll_text segment nofun
          rwa [List.append_nil, replaceAll_nil, List.append_nil] at hlast
      | cons second more =>
          have hslash : ('/' :: joinWith ['/'] ((second :: more).map Segment.text)).head? ≠ some ']' :=
            fun he => absurd (Option.some.inj he) (by decide)
          simp only [List.map_cons] at ih hslash ⊢
          rw [joinWith_cons_cons, joinWith_cons_cons, replaceAll_text segment hslash,
            replaceAll_of_not_found (dynamic?_cons_of_ne (by decide) _), ih]

/-! ## Brackets -/

namespace Segment

theorem map_shown {segments : List Segment} (h : ∀ segment ∈ segments, segment.IsWord) :
    segments.map shown = segments.map template := by
  refine List.map_congr_left fun segment hsegment => ?_
  rw [shown, if_pos (h segment hsegment)]

/-- No bracket stands in the form of a document. -/
theorem not_mem_template (segment : Segment) (hc : c = '[' ∨ c = ']') : c ∉ segment.template := by
  have hplain {s : Text} (h : Plain s) : c ∉ s := fun hmem =>
    hc.elim (h c hmem).1 (h c hmem).2.1
  cases segment with
  | static s h => exact hplain h
  | dynamic form name h =>
      have hbraces : c ≠ '{' ∧ c ≠ '}' := by
        rcases hc with rfl | rfl <;> decide
      simp [template, hplain h.plain, hbraces.1, hbraces.2]

/-- A segment whose name is no word keeps its brackets. -/
theorem mem_shown {segment : Segment} (h : ¬ segment.IsWord) : '[' ∈ segment.shown := by
  rw [shown, if_neg h]
  cases segment with
  | static s _ => exact absurd trivial h
  | dynamic form name _ => cases form <;> exact List.mem_cons_self

end Segment

theorem not_mem_joinWith_template (segments : List Segment) (hc : c = '[' ∨ c = ']') :
    c ∉ joinWith ['/'] (segments.map Segment.template) := by
  intro hmem
  rcases mem_joinWith hmem with hslash | ⟨text, htext, hmem⟩
  · rw [List.mem_singleton.1 hslash] at hc
    exact absurd hc (by decide)
  · obtain ⟨segment, -, rfl⟩ := List.mem_map.1 htext
    exact segment.not_mem_template hc hmem

/-- **No bracket is shown exactly if all names are words.** -/
theorem not_mem_joinWith_shown_iff (segments : List Segment) :
    ('[' ∉ joinWith ['/'] (segments.map Segment.shown)
        ∧ ']' ∉ joinWith ['/'] (segments.map Segment.shown))
      ↔ ∀ segment ∈ segments, segment.IsWord := by
  constructor
  · rintro ⟨hopen, -⟩ segment hsegment
    by_contra hword
    exact hopen (mem_joinWith_of_mem (Segment.mem_shown hword) (List.mem_map_of_mem hsegment))
  · intro hall
    rw [Segment.map_shown hall]
    exact ⟨not_mem_joinWith_template segments (Or.inl rfl),
      not_mem_joinWith_template segments (Or.inr rfl)⟩

/-! ## Files -/

/-- A path with forward slashes. -/
def slashed (file : Text) : Text := file.map fun c => if c = '\\' then '/' else c

/-- Whether a file stands at a path of segments. Its slashes may be of either kind, `./` may stand in
    front of the path any number of times, and an extension behind it. -/
def StandsAt (segments : List Segment) (file : Text) : Prop :=
  ∃ n text, slashed file = Path.leading n ++ text ∧ ¬ ['.', '/'] <+: text
    ∧ IsNamed (joinWith ['/'] (segments.map Segment.text)) text

theorem standsAt_iff {segments : List Segment} {file : Text} : StandsAt segments file
    ↔ stripExtension (normalize file) = joinWith ['/'] (segments.map Segment.text) := by
  rw [stripExtension_eq_iff]
  constructor
  · rintro ⟨n, text, hfile, htext, hnamed⟩
    have hnormal : normalize file = text := by
      show Path.dropDotSlash (slashed file) = text
      rw [hfile, Path.dropDotSlash_leading n htext]
    exact hnormal ▸ hnamed
  · intro hnamed
    obtain ⟨n, hn⟩ := Path.exists_leading (slashed file)
    have hkept := Path.dropDotSlash_eq_self_iff.1 (Path.dropDotSlash_idem (slashed file))
    exact ⟨n, normalize file, hn, hkept, hnamed⟩

theorem path_eq_of_slashed_eq {file other : Text} (h : slashed other = slashed file) :
    path other = path file := by
  have hnormal : normalize other = normalize file := congrArg Path.dropDotSlash h
  rw [path, path, hnormal]

/-- **A file is served at the path of its segments**, with a parameter for each dynamic segment whose
    name is a word, and every other segment as it is. So all dynamic segments are parameters exactly
    if all their names are words, and otherwise brackets are left. The kind of the slashes and `./` in
    front make no difference. -/
theorem path_eq_template_iff {segments : List Segment} {file : Text} (h : StandsAt segments file) :
    path file = '/' :: joinWith ['/'] (segments.map Segment.shown)
      ∧ (path file = '/' :: joinWith ['/'] (segments.map Segment.template)
        ↔ ∀ segment ∈ segments, segment.IsWord)
      ∧ ('[' ∉ path file ∧ ']' ∉ path file ↔ ∀ segment ∈ segments, segment.IsWord)
      ∧ (∀ other, slashed other = slashed file → path other = path file)
      ∧ path ("./".toList ++ file) = path file := by
  have hpath : path file = '/' :: joinWith ['/'] (segments.map Segment.shown) := by
    rw [path, standsAt_iff.1 h, replaceAll_joinWith]
  have hbrackets : ('[' ∉ path file ∧ ']' ∉ path file) ↔ ∀ segment ∈ segments, segment.IsWord := by
    rw [hpath, ← not_mem_joinWith_shown_iff]
    simp
  refine ⟨hpath, ⟨fun he => ?_, fun hall => ?_⟩, hbrackets, fun other => path_eq_of_slashed_eq, rfl⟩
  · rw [← hbrackets, he]
    simp [not_mem_joinWith_template]
  · rw [hpath, Segment.map_shown hall]

/-- Two dynamic segments under a static one, the last of them under a name with a hyphen. -/
def shopSegments : List Segment :=
  [.static "shop".toList (by unfold Plain; decide),
    .dynamic .optionalCatchAll "path".toList ⟨by decide, by unfold Plain; decide, nofun⟩,
    .dynamic .single "user-id".toList
      ⟨by decide, by unfold Plain; decide, fun _ rest h => absurd (List.cons.inj h).1 (by decide)⟩]

theorem standsAt_shopSegments :
    StandsAt shopSegments ".\\shop\\[[...path]]\\[user-id].ts".toList :=
  standsAt_iff.2 (by decide +kernel)

theorem path_shopSegments :
    path ".\\shop\\[[...path]]\\[user-id].ts".toList = "/shop/{path}/[user-id]".toList
      ∧ path ".\\shop\\[[...path]]\\[user-id].ts".toList ≠ "/shop/{path}/{user-id}".toList :=
  have h := path_eq_template_iff standsAt_shopSegments
  ⟨h.1, fun he => absurd (h.2.1.1 he) (by decide)⟩

end ApiScan.FileRoute
