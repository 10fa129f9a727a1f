import ApiScan.Proofs.Work

set_option autoImplicit false

/-! # How surveys and work fail

A survey of several parts fails with the first part that does, so that the failures of the whole are
of a kind if those of its parts are. Most parts of the program look only at files and folders, and
their failures have nothing to do with what comments say. -/

namespace ApiScan

variable {α β : Type} {tree tree' : Tree} {failure : Failure}

/-! ## Surveys -/

namespace Survey

/-- The survey of a tree ends in a failure. -/
def Fails (survey : Survey α) (tree : Tree) (failure : Failure) : Prop :=
  (survey tree).2 = .error failure

theorem not_fails_pure {a : α} : ¬ Fails (pure a) tree failure :=
  fun h => nomatch (show Except.ok a = Except.error failure from h)

theorem Finds.not_fails {survey : Survey α} {a : α} (h : survey.Finds tree a) :
    ¬ survey.Fails tree failure := fun hfails => nomatch h.symm.trans hfails

theorem fails_fail {told : Failure} : (fail told : Survey α).Fails tree failure ↔ told = failure :=
  ⟨Except.error.inj, congrArg Except.error⟩

theorem fails_bind {survey : Survey α} {next : α → Survey β} :
    (survey >>= next).Fails tree failure ↔
      survey.Fails tree failure ∨ ∃ a, survey.Finds tree a ∧ (next a).Fails tree failure := by
  unfold Fails Finds
  rcases h : survey tree with ⟨log, told | a⟩
  · rw [bind_of_error h]
    simp
  · rw [bind_of_ok h]
    simp

theorem fails_ask {question : Tree → Path → Except FileFault α} {path : Path} :
    (ask question path).Fails tree failure ↔
      ∃ fault, question tree path = .error fault ∧ .file fault path = failure := by
  unfold Fails ask
  cases question tree path <;> simp

/-- **Of surveys of a list, the first one that fails decides.** -/
theorem fails_mapM {f : α → Survey β} {items : List α} :
    (items.mapM f).Fails tree failure ↔
      ∃ before a after, items = before ++ a :: after
        ∧ (∀ earlier ∈ before, ∃ b, (f earlier).Finds tree b) ∧ (f a).Fails tree failure := by
  induction items with
  | nil =>
      rw [List.mapM_nil]
      constructor
      · exact fun h => absurd h not_fails_pure
      · rintro ⟨before, a, after, he, -⟩
        simp at he
  | cons first more ih =>
      rw [List.mapM_cons, fails_bind]
      simp only [fails_bind, not_fails_pure, and_false, exists_false, or_false, ih]
      constructor
      · rintro (hfirst | ⟨b, hb, before, a, after, rfl, hbefore, ha⟩)
        · exact ⟨[], first, more, rfl, fun _ h => absurd h List.not_mem_nil, hfirst⟩
        · exact ⟨first :: before, a, after, rfl, List.forall_mem_cons.2 ⟨⟨b, hb⟩, hbefore⟩, ha⟩
      · rintro ⟨before, a, after, he, hbefore, ha⟩
        cases before with
        | nil =>
            obtain ⟨rfl, -⟩ := List.cons.inj he
            exact Or.inl ha
        | cons earlier before =>
            obtain ⟨rfl, rfl⟩ := List.cons.inj he
            obtain ⟨⟨b, hb⟩, hbefore⟩ := List.forall_mem_cons.1 hbefore
            exact Or.inr ⟨b, hb, before, a, after, rfl, hbefore, ha⟩

end Survey

/-! ## Work -/

namespace Work

/-- The work on a tree ends in a failure and leaves another tree. -/
def Fails (work : Work α) (tree tree' : Tree) (failure : Failure) : Prop :=
  (work tree).1 = tree' ∧ (work tree).2.2 = .error failure

theorem not_fails_pure {a : α} : ¬ Fails (pure a) tree tree' failure :=
  fun h => nomatch (show Except.ok a = Except.error failure from h.2)

theorem fails_bind {work : Work α} {next : α → Work β} :
    (work >>= next).Fails tree tree' failure ↔
      work.Fails tree tree' failure
        ∨ ∃ between a, work.Ends tree between a ∧ (next a).Fails between tree' failure := by
  unfold Fails Ends
  rcases h : work tree with ⟨between, log, told | a⟩
  · rw [bind_of_error h]
    simp
  · rw [bind_of_ok h]
    simp

theorem fails_survey {survey : Survey α} :
    (liftM survey : Work α).Fails tree tree' failure ↔
      tree = tree' ∧ survey.Fails tree failure := Iff.rfl

theorem fails_change {operation : Tree → Path → Except FileFault Tree} {path : Path} :
    (change operation path).Fails tree tree' failure ↔
      tree = tree' ∧ ∃ fault, operation tree path = .error fault ∧ .file fault path = failure := by
  unfold Fails change
  cases operation tree path <;> simp

theorem fails_makeFolders {path : Path} {told : FileFault → Failure} :
    (makeFolders path told).Fails tree tree' failure ↔
      ∃ fault, tree.makeFolders path = (tree', .error fault) ∧ told fault = failure := by
  unfold Fails makeFolders
  rcases tree.makeFolders path with ⟨made, fault | ⟨⟩⟩ <;> simp [Except.mapError]

end Work

/-! ## Kinds of failures -/

/-- A failure that a comment is the cause of: a value in it stands for nothing, or what it documents
    has no JSON form. -/
def Failure.OfComments : Failure → Prop
  | .badDocs _ | .noJsonForm _ => True
  | _ => False

/-- A failure that a single file or folder is the cause of: it is refused, or it holds no text or no
    number that can be read. -/
def Failure.OfFiles : Failure → Prop
  | .file _ _ | .notUtf8 | .numberTooLong _ | .docsNotMade _ => True
  | _ => False

theorem Failure.OfFiles.not_ofComments (h : failure.OfFiles) : ¬ failure.OfComments := by
  cases failure <;> first | exact id | exact absurd h id

namespace Survey

/-- All failures of the survey are of one kind. -/
def FailsOnly (kind : Failure → Prop) (survey : Survey α) : Prop :=
  ∀ tree failure, survey.Fails tree failure → kind failure

/-- No comment is the cause of a failure of the survey. -/
def FailsApart (survey : Survey α) : Prop :=
  ∀ tree failure, survey.Fails tree failure → ¬ failure.OfComments

variable {kind kind' : Failure → Prop}

theorem FailsOnly.mono {survey : Survey α} (h : survey.FailsOnly kind)
    (hkind : ∀ failure, kind failure → kind' failure) : survey.FailsOnly kind' :=
  fun tree failure hfails => hkind failure (h tree failure hfails)

theorem FailsOnly.apart {survey : Survey α} (h : survey.FailsOnly Failure.OfFiles) :
    survey.FailsApart := h.mono fun _ hfailure => hfailure.not_ofComments

theorem failsOnly_pure (a : α) : FailsOnly kind (pure a) := fun _ _ h => absurd h not_fails_pure

theorem failsOnly_bind {survey : Survey α} {next : α → Survey β} (h : survey.FailsOnly kind)
    (hnext : ∀ a, (next a).FailsOnly kind) : (survey >>= next).FailsOnly kind := by
  intro tree failure hfails
  rcases fails_bind.1 hfails with hfirst | ⟨a, -, hrest⟩
  · exact h tree failure hfirst
  · exact hnext a tree failure hrest

theorem failsOnly_fail (h : kind failure) : (fail failure : Survey α).FailsOnly kind :=
  fun _ _ hfails => fails_fail.1 hfails ▸ h

/-- A survey that always finds something does not fail. -/
theorem failsOnly_of_finds {survey : Survey α} (h : ∀ tree, ∃ a, survey.Finds tree a) :
    survey.FailsOnly kind := by
  intro tree failure hfails
  obtain ⟨a, ha⟩ := h tree
  exact absurd hfails ha.not_fails

theorem failsOnly_ite {condition : Prop} [Decidable condition] {first second : Survey α}
    (hfirst : first.FailsOnly kind) (hsecond : second.FailsOnly kind) :
    (if condition then first else second).FailsOnly kind := by
  split
  · exact hfirst
  · exact hsecond

theorem failsOnly_mapM {f : α → Survey β} {items : List α} (h : ∀ a, (f a).FailsOnly kind) :
    (items.mapM f).FailsOnly kind := by
  intro tree failure hfails
  obtain ⟨_, a, _, -, -, hlast⟩ := fails_mapM.1 hfails
  exact h a tree failure hlast

theorem failsOnly_filterM {question : α → Survey Bool} {items : List α}
    (h : ∀ a, (question a).FailsOnly kind) : (items.filterM question).FailsOnly kind := by
  have hall (kept : List α) : (List.filterAuxM question items kept).FailsOnly kind := by
    induction items generalizing kept with
    | nil => exact failsOnly_pure _
    | cons a more ih => exact failsOnly_bind (h a) fun _ => ih _
  exact failsOnly_bind (hall []) fun _ => failsOnly_pure _

theorem failsOnly_ask (question : Tree → Path → Except FileFault α) (path : Path) :
    (ask question path).FailsOnly Failure.OfFiles := by
  intro tree failure hfails
  obtain ⟨fault, -, rfl⟩ := fails_ask.1 hfails
  exact trivial

theorem failsOnly_sourceText? (path : Path) : (sourceText? path).FailsOnly Failure.OfFiles := by
  intro tree failure hfails
  unfold Fails sourceText? at hfails
  split at hfails
  · exact nomatch hfails
  · exact Except.error.inj hfails ▸ trivial
  · exact nomatch hfails

theorem failsOnly_strictText (path : Path) : (strictText path).FailsOnly Failure.OfFiles := by
  intro tree failure hfails
  unfold Fails strictText at hfails
  split at hfails
  · split at hfails
    · exact nomatch hfails
    · exact Except.error.inj hfails ▸ trivial
  · exact Except.error.inj hfails ▸ trivial
  · exact nomatch hfails

theorem failsOnly_document (path : Path) : (document path).FailsOnly Failure.OfFiles := by
  refine failsOnly_bind (failsOnly_strictText path) fun text? => ?_
  cases text? with
  | error fault => exact failsOnly_pure _
  | ok text =>
      dsimp only
      split
      · exact failsOnly_pure _
      · exact failsOnly_pure _
      · exact failsOnly_fail trivial

theorem failsOnly_isFolder (path : Path) : (isFolder path).FailsOnly Failure.OfFiles :=
  failsOnly_bind (failsOnly_ask _ _) fun _ => failsOnly_pure _

theorem failsOnly_filesIn (folder : Path) (wanted : Text → Bool) :
    (filesIn folder wanted).FailsOnly Failure.OfFiles :=
  failsOnly_bind (failsOnly_ask _ _) fun _ => failsOnly_filterM fun _ => failsOnly_ask _ _

end Survey

namespace Work

/-- All failures of the work are of one kind. -/
def FailsOnly (kind : Failure → Prop) (work : Work α) : Prop :=
  ∀ tree tree' failure, work.Fails tree tree' failure → kind failure

/-- No comment is the cause of a failure of the work. -/
def FailsApart (work : Work α) : Prop :=
  ∀ tree tree' failure, work.Fails tree tree' failure → ¬ failure.OfComments

variable {kind kind' : Failure → Prop}

theorem FailsOnly.mono {work : Work α} (h : work.FailsOnly kind)
    (hkind : ∀ failure, kind failure → kind' failure) : work.FailsOnly kind' :=
  fun tree tree' failure hfails => hkind failure (h tree tree' failure hfails)

theorem FailsOnly.apart {work : Work α} (h : work.FailsOnly Failure.OfFiles) : work.FailsApart :=
  h.mono fun _ hfailure => hfailure.not_ofComments

theorem failsOnly_pure (a : α) : FailsOnly kind (pure a) := fun _ _ _ h => absurd h not_fails_pure

theorem failsOnly_bind {work : Work α} {next : α → Work β} (h : work.FailsOnly kind)
    (hnext : ∀ a, (next a).FailsOnly kind) : (work >>= next).FailsOnly kind := by
  intro tree tree' failure hfails
  rcases fails_bind.1 hfails with hfirst | ⟨between, a, -, hrest⟩
  · exact h tree tree' failure hfirst
  · exact hnext a between tree' failure hrest

theorem failsOnly_ite {condition : Prop} [Decidable condition] {first second : Work α}
    (hfirst : first.FailsOnly kind) (hsecond : second.FailsOnly kind) :
    (if condition then first else second).FailsOnly kind := by
  split
  · exact hfirst
  · exact hsecond

theorem failsOnly_survey {survey : Survey α} (h : survey.FailsOnly kind) :
    (liftM survey : Work α).FailsOnly kind := fun tree _ failure hfails => h tree failure hfails.2

theorem failsOnly_change (operation : Tree → Path → Except FileFault Tree) (path : Path) :
    (change operation path).FailsOnly Failure.OfFiles := by
  intro tree tree' failure hfails
  obtain ⟨-, fault, -, rfl⟩ := fails_change.1 hfails
  exact trivial

theorem failsOnly_makeFolders {path : Path} {told : FileFault → Failure}
    (h : ∀ fault, kind (told fault)) : (makeFolders path told).FailsOnly kind := by
  intro tree tree' failure hfails
  obtain ⟨fault, -, rfl⟩ := fails_makeFolders.1 hfails
  exact h fault

theorem failsOnly_mapM {f : α → Work β} {items : List α} (h : ∀ a, (f a).FailsOnly kind) :
    (items.mapM f).FailsOnly kind := by
  induction items with
  | nil => exact failsOnly_pure _
  | cons a more ih =>
      rw [List.mapM_cons]
      exact failsOnly_bind (h a) fun _ => failsOnly_bind ih fun _ => failsOnly_pure _

theorem failsOnly_writeDocument (path : Path) (doc : Json) :
    (writeDocument path doc).FailsOnly Failure.OfFiles :=
  failsOnly_bind (failsOnly_makeFolders fun _ => trivial) fun _ =>
    failsOnly_bind (failsOnly_change _ _) fun _ => failsOnly_pure _

end Work

end ApiScan
