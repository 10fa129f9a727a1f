import ApiScan.Path
import ApiScan.Proofs.Text.Words

set_option autoImplicit false

/-! # Paths from texts

A text without slashes spells a single step, no step of a path holds a slash, and the text that
joins some names spells these names. Slashes at either end and `./` in front spell nothing. A value
of the configuration goes on from the root. -/

namespace ApiScan

namespace Path

variable {s front rest : Text}

/-! ## Names as steps -/

/-- The parts of a text between slashes. -/
def segments (s : Text) : List Text := Text.pieces (· = '/') s

/-- The steps are the segments that mean something. -/
theorem mem_stepsOf {step : Text} : step ∈ stepsOf s ↔ step ∈ segments s ∧ step ≠ [] ∧ step ≠ ['.'] := by
  rw [stepsOf, segments, List.mem_filter, and_congr_right_iff]
  intro _
  simp

theorem stepsOf_eq_nil_iff :
    stepsOf s = [] ↔ ∀ segment ∈ segments s, segment = [] ∨ segment = ['.'] := by
  rw [List.eq_nil_iff_forall_not_mem]
  refine forall_congr' fun segment => ?_
  rw [mem_stepsOf, not_and, not_and_or, not_not, not_not]

theorem not_mem_slash_of_mem_stepsOf {step : Text} (h : step ∈ stepsOf s) : '/' ∉ step := by
  intro hslash
  have hpiece := Text.forall_mem_pieces (List.mem_filter.1 h).1 '/' hslash
  exact absurd hpiece (by decide)

/-- Names without slashes are the steps of the text that joins them. -/
theorem stepsOf_joinWith {names : List Text}
    (h : ∀ name ∈ names, '/' ∉ name ∧ name ≠ [] ∧ name ≠ ['.']) :
    stepsOf (Text.joinWith ['/'] names) = names := by
  have hnot {name : Text} (hname : '/' ∉ name) : ∀ c ∈ name, (decide (c = '/')) = false :=
    fun c hc => by
      rw [decide_eq_false_iff_not]
      rintro rfl
      exact hname hc
  induction names with
  | nil => rfl
  | cons name more ih =>
      obtain ⟨⟨hslash, hne, hdot⟩, hmore⟩ := List.forall_mem_cons.1 h
      cases more with
      | nil =>
          show stepsOf name = [name]
          rw [stepsOf, Text.pieces_of_forall (hnot hslash)]
          simp [hne, hdot]
      | cons second more =>
          rw [Text.joinWith_cons_cons, stepsOf, Text.pieces_append_cons (hnot hslash) (by decide),
            List.filter_cons_of_pos (by simp [hne, hdot]), ← stepsOf, ih hmore]

/-- A text that starts with no slash goes on from the path. -/
theorem join_eq (path : Path) {s : Text} (h : s.head? ≠ some '/') :
    path.join s = { path with steps := path.steps ++ stepsOf s } := by
  have hfront : s.takeWhile (· = '/') = [] := by
    cases s with
    | nil => rfl
    | cons c more => exact List.takeWhile_cons_of_neg fun hc => h (by simpa using hc)
  rw [join, ofText, hfront]
  rfl

theorem join_joinWith (path : Path) {names : List Text}
    (h : ∀ name ∈ names, '/' ∉ name ∧ name ≠ [] ∧ name ≠ ['.']) :
    path.join (Text.joinWith ['/'] names) = { path with steps := path.steps ++ names } := by
  rw [join_eq, stepsOf_joinWith h]
  cases names with
  | nil => exact nofun
  | cons name more =>
      obtain ⟨hslash, hne, -⟩ := h name List.mem_cons_self
      cases name with
      | nil => exact absurd rfl hne
      | cons c name =>
          have hhead : (Text.joinWith ['/'] ((c :: name) :: more)).head? = some c := by
            cases more <;> rfl
          rw [hhead]
          rintro he
          rw [Option.some.inj he] at hslash
          exact hslash List.mem_cons_self

/-- A name without slashes is a step. -/
theorem join_eq_step (path : Path) {name : Text} (hslash : '/' ∉ name) (hne : name ≠ [])
    (hdot : name ≠ ['.']) : path.join name = path.step name := by
  show path.join (Text.joinWith ['/'] [name]) = _
  exact join_joinWith path (List.forall_mem_singleton.2 ⟨hslash, hne, hdot⟩)

/-! ## Leading `./` -/

/-- `./`, a number of times. -/
def leading (n : Nat) : Text := (List.replicate n ['.', '/']).flatten

theorem exists_leading (s : Text) : ∃ n, s = leading n ++ dropDotSlash s := by
  fun_induction dropDotSlash s with
  | case1 s ih =>
      obtain ⟨n, hn⟩ := ih
      refine ⟨n + 1, ?_⟩
      rw [leading, List.replicate_succ, List.flatten_cons, ← leading, List.append_assoc, ← hn]
      rfl
  | case2 s => exact ⟨0, rfl⟩

theorem dropDotSlash_eq_self_iff {s : Text} : dropDotSlash s = s ↔ ¬ ['.', '/'] <+: s := by
  have hlength (s : Text) : (dropDotSlash s).length ≤ s.length := by
    obtain ⟨n, hn⟩ := exists_leading s
    have hle := congrArg List.length hn
    rw [List.length_append] at hle
    omega
  constructor
  · rintro h ⟨rest, rfl⟩
    have hshort := hlength rest
    have hsame := congrArg List.length h
    simp only [dropDotSlash, List.cons_append, List.nil_append, List.length_cons] at hsame
    omega
  · intro h
    unfold dropDotSlash
    split
    · exact absurd ⟨_, rfl⟩ h
    · rfl

theorem dropDotSlash_leading (n : Nat) {s : Text} (h : ¬ ['.', '/'] <+: s) :
    dropDotSlash (leading n ++ s) = s := by
  induction n with
  | zero => exact dropDotSlash_eq_self_iff.2 h
  | succ n ih =>
      rw [leading, List.replicate_succ, List.flatten_cons, ← leading, List.append_assoc]
      exact ih

theorem dropDotSlash_idem (s : Text) :
    dropDotSlash (dropDotSlash s) = dropDotSlash s := by
  fun_induction dropDotSlash s with
  | case1 s ih => exact ih
  | case2 s h =>
      refine dropDotSlash_eq_self_iff.2 ?_
      rintro ⟨rest, rfl⟩
      exact h rest rfl

/-! ## Slashes and dots that spell nothing -/

theorem stepsOf_append_slash (front rest : Text) :
    stepsOf (front ++ '/' :: rest) = stepsOf front ++ stepsOf rest := by
  rw [stepsOf, Text.pieces_append_of_pos (decide_eq_true rfl), List.filter_append, stepsOf, stepsOf]

theorem stepsOf_slash (rest : Text) : stepsOf ('/' :: rest) = stepsOf rest :=
  stepsOf_append_slash [] rest

theorem stepsOf_dropWhile_slash (s : Text) : stepsOf (s.dropWhile (· = '/')) = stepsOf s := by
  induction s with
  | nil => rfl
  | cons c s ih =>
      by_cases hc : c = '/'
      · subst hc
        rw [List.dropWhile_cons_of_pos (by simp), ih, stepsOf_slash]
      · rw [List.dropWhile_cons_of_neg (by simpa using hc)]

theorem stepsOf_dropDotSlash (s : Text) : stepsOf (dropDotSlash s) = stepsOf s := by
  fun_induction dropDotSlash s with
  | case1 s ih => rw [ih, show '.' :: '/' :: s = ['.'] ++ '/' :: s from rfl, stepsOf_append_slash]; rfl
  | case2 => rfl

/-- Slashes at the end spell nothing. -/
theorem stepsOf_append_slashes (h : ∀ c ∈ rest, c = '/') : stepsOf (front ++ rest) = stepsOf front := by
  cases rest with
  | nil => rw [List.append_nil]
  | cons c rest =>
      obtain ⟨rfl, hrest⟩ := List.forall_mem_cons.1 h
      have hnil : rest.dropWhile (· = '/') = [] := List.dropWhile_eq_nil_iff.2 (by simpa using hrest)
      rw [stepsOf_append_slash, ← stepsOf_dropWhile_slash rest, hnil]
      exact List.append_nil _

theorem stepsOf_dropEndWhile_slash (s : Text) :
    stepsOf (Text.dropEndWhile (· = '/') s) = stepsOf s := by
  obtain ⟨slashes, hs, hslashes⟩ := Text.exists_dropEndWhile_append (· = '/') s
  conv => rhs; rw [hs]
  exact (stepsOf_append_slashes fun c hc => by simpa using hslashes c hc).symm

/-! ## Values of the configuration -/

/-- The steps that a value of the configuration spells. -/
def stepsUnder (value : Text) : List Text := (under {} value).steps

theorem mem_of_mem_dropDotSlash {s : Text} {c : Char} (h : c ∈ dropDotSlash s) : c ∈ s := by
  fun_induction dropDotSlash s with
  | case1 cs ih => exact List.mem_cons_of_mem _ (List.mem_cons_of_mem _ (ih h))
  | case2 => exact h

theorem head?_dropWhile_slash (s : Text) : (s.dropWhile (· = '/')).head? ≠ some '/' :=
  fun h => absurd (Text.not_of_head?_dropWhile h) (by decide)

theorem under_eq (root : Path) (value : Text) :
    root.under value = { root with steps := root.steps ++ stepsUnder value } := by
  rw [stepsUnder, under, under, join_eq _ (head?_dropWhile_slash _),
    join_eq _ (head?_dropWhile_slash _)]
  rfl

/-- A text with forward slashes. -/
def slashed (value : Text) : Text := value.map fun c => if c = '\\' then '/' else c

/-- A value spells the steps that it has with forward slashes and without white space around it. -/
theorem stepsUnder_eq (value : Text) : stepsUnder value = stepsOf (Text.strip (slashed value)) := by
  rw [stepsUnder, under, join_eq _ (head?_dropWhile_slash _), stepsOf_dropWhile_slash,
    stepsOf_dropDotSlash]
  rfl

/-- The steps of a value are without slashes, and no single dots. -/
theorem mem_stepsUnder {value step : Text} (h : step ∈ stepsUnder value) :
    '/' ∉ step ∧ step ≠ [] ∧ step ≠ ['.'] := by
  rw [stepsUnder_eq] at h
  exact ⟨not_mem_slash_of_mem_stepsOf h, (mem_stepsOf.1 h).2⟩

theorem name_step (path : Path) (name : Text) : (path.step name).name = name := by
  simp [Path.name, step]

/-! ## Steps up -/

/-- Steps none of which is up lead to the place that they name. -/
theorem foldl_takeStep {steps : List Text} (hup : up ∉ steps) (here : List Text) :
    steps.foldl takeStep here = here ++ steps := by
  induction steps generalizing here with
  | nil => rw [List.foldl_nil, List.append_nil]
  | cons step more ih =>
      rw [List.mem_cons, not_or] at hup
      rw [List.foldl_cons, takeStep, if_neg (Ne.symm hup.1), ih hup.2, List.append_assoc]
      rfl

theorem normalize_append (path : Path) {steps : List Text} (hup : up ∉ steps) :
    (normalize { path with steps := path.steps ++ steps }).steps
      = path.normalize.steps ++ steps := by
  rw [normalize, List.foldl_append, foldl_takeStep hup]
  rfl

theorem normalize_step (path : Path) {name : Text} (hname : name ≠ up) :
    (path.step name).normalize.steps = path.normalize.steps ++ [name] :=
  normalize_append path (by simpa using Ne.symm hname)

end Path

end ApiScan
