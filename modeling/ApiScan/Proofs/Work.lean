import ApiScan.Survey
import ApiScan.Work
import Mathlib.Data.List.Forall2

set_option autoImplicit false

/-! # How work ends

Work that reaches its end gives a value and leaves a tree. What work of several parts does is what
its parts do one after another, each to the tree that the one before it leaves. -/

/-! ## What surveys find

A survey that reaches its end finds a value, whatever it tells on the way. The value of a survey of
several parts comes from the values of the parts. -/

namespace ApiScan.Survey

variable {α β γ : Type} {tree : Tree}

/-! ## Laws of sequence -/

theorem bind_of_ok {survey : Survey α} {log : Log} {a : α} (h : survey tree = (log, .ok a))
    (next : α → Survey β) :
    (survey >>= next) tree = (log ++ (next a tree).1, (next a tree).2) := by
  simp only [bind, h]

theorem bind_of_error {survey : Survey α} {log : Log} {failure : Failure}
    (h : survey tree = (log, .error failure)) (next : α → Survey β) :
    (survey >>= next) tree = (log, .error failure) := by
  simp only [bind, h]

theorem map_id (survey : Survey α) : id <$> survey = survey := by
  funext tree
  rcases h : survey tree with ⟨log, failure | a⟩
  · exact bind_of_error h _
  · rw [← List.append_nil log]
    exact bind_of_ok h _

theorem bind_bind (survey : Survey α) (next : α → Survey β) (last : β → Survey γ) :
    survey >>= next >>= last = survey >>= fun a => next a >>= last := by
  funext tree
  rcases h : survey tree with ⟨log, failure | a⟩
  · rw [bind_of_error h, bind_of_error (bind_of_error h next)]
  · have hfirst := bind_of_ok h next
    rw [bind_of_ok h]
    rcases hnext : next a tree with ⟨log', failure | b⟩
    · rw [hnext] at hfirst
      rw [bind_of_error hnext, bind_of_error hfirst]
    · rw [hnext] at hfirst
      rw [bind_of_ok hnext, bind_of_ok hfirst, List.append_assoc]

instance : LawfulMonad Survey := LawfulMonad.mk' Survey map_id (fun _ _ => rfl) bind_bind

/-! ## Values -/

/-- The survey of a tree ends with a value. -/
def Finds (survey : Survey α) (tree : Tree) (a : α) : Prop := (survey tree).2 = .ok a

/-- What a result is known to hold is what it holds. -/
theorem eq_ok_of_mem_toOption {ε : Type} {result : Except ε α} {a : α} (h : a ∈ result.toOption) :
    result = .ok a := by
  cases result with
  | error failure => exact nomatch h
  | ok found => rw [Option.some.inj h]

theorem Finds.unique {survey : Survey α} {a b : α} (ha : survey.Finds tree a)
    (hb : survey.Finds tree b) : a = b := Except.ok.inj (ha.symm.trans hb)

theorem finds_pure {a b : α} : Finds (pure a) tree b ↔ a = b :=
  ⟨Except.ok.inj, congrArg Except.ok⟩

theorem finds_bind {survey : Survey α} {next : α → Survey β} {b : β} :
    (survey >>= next).Finds tree b ↔ ∃ a, survey.Finds tree a ∧ (next a).Finds tree b := by
  unfold Finds
  rcases h : survey tree with ⟨log, failure | a⟩
  · rw [bind_of_error h]
    simp
  · rw [bind_of_ok h]
    simp

/-- What is told on the way is told part by part. -/
theorem log_bind {survey : Survey α} {a : α} (h : survey.Finds tree a) (next : α → Survey β) :
    ((survey >>= next) tree).1 = (survey tree).1 ++ (next a tree).1 := by
  rcases hsurvey : survey tree with ⟨log, result⟩
  obtain rfl : result = .ok a := by rw [← h, hsurvey]
  rw [bind_of_ok hsurvey]

theorem finds_ask {question : Tree → Path → Except FileFault α} {path : Path} {a : α} :
    (ask question path).Finds tree a ↔ question tree path = .ok a := by
  unfold Finds ask
  cases question tree path <;> simp

theorem not_finds_fail {failure : Failure} {a : α} : ¬ (fail failure : Survey α).Finds tree a :=
  fun h => nomatch (show Except.error failure = Except.ok a from h)

theorem finds_isFolder {path : Path} {b : Bool} :
    (isFolder path).Finds tree b ↔ ∃ place?, tree.folder? path = .ok place? ∧ place?.isSome = b := by
  unfold isFolder
  rw [finds_bind]
  simp only [finds_ask, finds_pure]

/-! ## Lists -/

theorem finds_mapM {f : α → Survey β} {items : List α} {found : List β} :
    (items.mapM f).Finds tree found ↔
      List.Forall₂ (fun a b => (f a).Finds tree b) items found := by
  induction items generalizing found with
  | nil =>
      rw [List.mapM_nil, finds_pure, List.forall₂_nil_left_iff]
      exact eq_comm
  | cons a more ih =>
      rw [List.mapM_cons, finds_bind]
      simp only [finds_bind, finds_pure, ih]
      constructor
      · rintro ⟨b, hb, bs, hbs, rfl⟩
        exact List.Forall₂.cons hb hbs
      · rintro (_ | ⟨hb, hbs⟩)
        exact ⟨_, hb, _, hbs, rfl⟩

/-- Surveys of a list, each of which finds a known value on some condition. -/
theorem finds_mapM_iff_of_forall {f : α → Survey β} {condition : α → Prop} {value : α → β}
    {items : List α} (h : ∀ a ∈ items, ∀ b, (f a).Finds tree b ↔ condition a ∧ b = value a)
    {found : List β} :
    (items.mapM f).Finds tree found ↔ (∀ a ∈ items, condition a) ∧ found = items.map value := by
  rw [finds_mapM]
  induction items generalizing found with
  | nil => simp [List.forall₂_nil_left_iff]
  | cons a more ih =>
      obtain ⟨hfirst, hmore⟩ := List.forall_mem_cons.1 h
      rw [List.forall₂_cons_left_iff, List.forall_mem_cons, List.map_cons]
      constructor
      · rintro ⟨b, rest, hb, hrest, rfl⟩
        obtain ⟨ha, rfl⟩ := (hfirst b).1 hb
        obtain ⟨hall, rfl⟩ := (ih hmore).1 hrest
        exact ⟨⟨ha, hall⟩, rfl⟩
      · rintro ⟨⟨ha, hall⟩, rfl⟩
        exact ⟨_, _, (hfirst _).2 ⟨ha, rfl⟩, (ih hmore).2 ⟨hall, rfl⟩, rfl⟩

theorem mem_of_finds_mapM {f : α → Survey β} {items : List α} {found : List β}
    (h : (items.mapM f).Finds tree found) {b : β} (hb : b ∈ found) :
    ∃ a ∈ items, (f a).Finds tree b := by
  rw [finds_mapM] at h
  induction h with
  | nil => exact absurd hb List.not_mem_nil
  | cons hfirst _ ih =>
      rcases List.mem_cons.1 hb with rfl | hb
      · exact ⟨_, List.mem_cons_self, hfirst⟩
      · obtain ⟨a, ha, hfinds⟩ := ih hb
        exact ⟨a, List.mem_cons_of_mem _ ha, hfinds⟩

/-- Surveys of a list tell what each of them tells, one after another. -/
theorem log_mapM {f : α → Survey β} {told : α → Log} {items : List α} {found : List β}
    (htold : ∀ a ∈ items, ∀ b, (f a).Finds tree b → (f a tree).1 = told a)
    (h : (items.mapM f).Finds tree found) : ((items.mapM f) tree).1 = items.flatMap told := by
  induction items generalizing found with
  | nil => rfl
  | cons a more ih =>
      obtain ⟨hfirst, hmore⟩ := List.forall_mem_cons.1 htold
      rw [List.mapM_cons] at h ⊢
      obtain ⟨b, hb, hrest⟩ := finds_bind.1 h
      obtain ⟨bs, hbs, -⟩ := finds_bind.1 hrest
      rw [log_bind hb, log_bind hbs, hfirst b hb, ih hmore hbs, List.flatMap_cons]
      exact congrArg _ (List.append_nil _)

/-- Surveys of a list find the same in two trees if each of them does. -/
theorem finds_mapM_of_forall {tree' : Tree} {f : α → Survey β} {items : List α} {found : List β}
    (h : ∀ a ∈ items, ∀ b, (f a).Finds tree b → (f a).Finds tree' b)
    (hfound : (items.mapM f).Finds tree found) : (items.mapM f).Finds tree' found := by
  rw [finds_mapM, List.forall₂_iff_zip] at hfound ⊢
  exact ⟨hfound.1, fun hab => h _ (List.of_mem_zip hab).1 _ (hfound.2 hab)⟩

/-- What a survey with a truth value answers; one that fails answers no. -/
def answer (survey : Survey Bool) (tree : Tree) : Bool :=
  match (survey tree).2 with
  | .ok b => b
  | .error _ => false

theorem Finds.answer_eq {survey : Survey Bool} {b : Bool} (h : survey.Finds tree b) :
    survey.answer tree = b := by
  rw [answer, h]

/-- A survey that filters a list keeps the items for which its question is answered with yes. -/
theorem finds_filterM {question : α → Survey Bool} {items found : List α} :
    (items.filterM question).Finds tree found ↔
      (∀ a ∈ items, ∃ b, (question a).Finds tree b)
        ∧ found = items.filter fun a => (question a).answer tree := by
  have hall (items kept : List α) (all : List α) :
      (List.filterAuxM question items kept).Finds tree all ↔
        (∀ a ∈ items, ∃ b, (question a).Finds tree b)
          ∧ all = (items.filter fun a => (question a).answer tree).reverse ++ kept := by
    induction items generalizing kept with
    | nil => simpa [List.filterAuxM, finds_pure] using eq_comm
    | cons a more ih =>
        rw [List.filterAuxM, finds_bind, List.forall_mem_cons]
        simp only [ih]
        constructor
        · rintro ⟨b, hb, hmore, rfl⟩
          refine ⟨⟨⟨b, hb⟩, hmore⟩, ?_⟩
          cases b <;> simp [hb.answer_eq]
        · rintro ⟨⟨⟨b, hb⟩, hmore⟩, rfl⟩
          refine ⟨b, hb, hmore, ?_⟩
          cases b <;> simp [hb.answer_eq]
  rw [List.filterM, finds_bind]
  simp only [hall, finds_pure, List.append_nil]
  constructor
  · rintro ⟨_, ⟨hmore, rfl⟩, rfl⟩
    exact ⟨hmore, List.reverse_reverse _⟩
  · rintro ⟨hmore, rfl⟩
    exact ⟨_, ⟨hmore, rfl⟩, List.reverse_reverse _⟩

theorem mem_of_finds_filesIn {path file : Path} {wanted : Text → Bool} {files : List Path}
    (h : (filesIn path wanted).Finds tree files) (hfile : file ∈ files) :
    ∃ names, (Survey.names path).Finds tree names ∧ ∃ name ∈ names, file = path.step name := by
  obtain ⟨names, hnames, hfilter⟩ := finds_bind.1 h
  rw [(finds_filterM.1 hfilter).2] at hfile
  obtain ⟨name, hname, rfl⟩ := List.mem_map.1 (List.mem_filter.1 hfile).1
  exact ⟨names, hnames, name, (List.mem_filter.1 hname).1, rfl⟩

/-- A text that was found is the text of a content that was read. -/
theorem exists_read_of_strictText {path : Path} {text : Text}
    (h : (strictText path).Finds tree (.ok text)) : ∃ content, tree.read path = .ok content := by
  unfold Finds strictText at h
  split at h
  · next content hread => exact ⟨content, hread⟩
  · exact nomatch h
  · exact nomatch h

end ApiScan.Survey

namespace ApiScan.Work

variable {α β γ : Type} {tree tree' : Tree}

/-! ## Laws of sequence -/

theorem bind_of_ok {work : Work α} {log : Log} {a : α} (h : work tree = (tree', log, .ok a))
    (next : α → Work β) :
    (work >>= next) tree
      = ((next a tree').1, log ++ (next a tree').2.1, (next a tree').2.2) := by
  simp only [bind, h]

theorem bind_of_error {work : Work α} {log : Log} {failure : Failure}
    (h : work tree = (tree', log, .error failure)) (next : α → Work β) :
    (work >>= next) tree = (tree', log, .error failure) := by
  simp only [bind, h]

theorem map_id (work : Work α) : id <$> work = work := by
  funext tree
  rcases h : work tree with ⟨tree', log, failure | a⟩
  · exact bind_of_error h _
  · rw [← List.append_nil log]
    exact bind_of_ok h _

theorem bind_bind (work : Work α) (next : α → Work β) (last : β → Work γ) :
    work >>= next >>= last = work >>= fun a => next a >>= last := by
  funext tree
  rcases h : work tree with ⟨tree', log, failure | a⟩
  · rw [bind_of_error h, bind_of_error (bind_of_error h next)]
  · have hfirst := bind_of_ok h next
    rw [bind_of_ok h]
    rcases hnext : next a tree' with ⟨tree'', log', failure | b⟩
    · rw [hnext] at hfirst
      rw [bind_of_error hnext, bind_of_error hfirst]
    · rw [hnext] at hfirst
      rw [bind_of_ok hnext, bind_of_ok hfirst, List.append_assoc]

instance : LawfulMonad Work := LawfulMonad.mk' Work map_id (fun _ _ => rfl) bind_bind

/-! ## Values and trees -/

/-- The work on a tree ends with a value and leaves another tree. -/
def Ends (work : Work α) (tree tree' : Tree) (a : α) : Prop :=
  (work tree).1 = tree' ∧ (work tree).2.2 = .ok a

theorem ends_pure {a b : α} : Ends (pure a) tree tree' b ↔ tree = tree' ∧ a = b :=
  and_congr_right fun _ => ⟨Except.ok.inj, congrArg Except.ok⟩

theorem ends_bind {work : Work α} {next : α → Work β} {b : β} :
    (work >>= next).Ends tree tree' b ↔
      ∃ between a, work.Ends tree between a ∧ (next a).Ends between tree' b := by
  unfold Ends
  rcases h : work tree with ⟨between, log, failure | a⟩
  · rw [bind_of_error h]
    simp
  · rw [bind_of_ok h]
    simp

/-- What is told on the way is told part by part. -/
theorem log_bind {work : Work α} {between : Tree} {a : α} (h : work.Ends tree between a)
    (next : α → Work β) :
    ((work >>= next) tree).2.1 = (work tree).2.1 ++ (next a between).2.1 := by
  obtain ⟨rfl, hresult⟩ := h
  rcases hwork : work tree with ⟨between, log, result⟩
  obtain rfl : result = .ok a := by rw [← hresult, hwork]
  rw [bind_of_ok hwork]

theorem ends_survey {survey : Survey α} {a : α} :
    (liftM survey : Work α).Ends tree tree' a ↔ tree = tree' ∧ survey.Finds tree a := Iff.rfl

theorem not_ends_fail {failure : Failure} {a : α} :
    ¬ (liftM (Survey.fail failure : Survey α) : Work α).Ends tree tree' a :=
  fun h => Survey.not_finds_fail (ends_survey.1 h).2

theorem ends_change {operation : Tree → Path → Except FileFault Tree} {path : Path} {a : Unit} :
    (change operation path).Ends tree tree' a ↔ operation tree path = .ok tree' := by
  unfold Ends change
  cases operation tree path <;> simp

theorem ends_makeFolders {path : Path} {told : FileFault → Failure} {a : Unit} :
    (makeFolders path told).Ends tree tree' a ↔ tree.makeFolders path = (tree', .ok ()) := by
  unfold Ends makeFolders
  rcases tree.makeFolders path with ⟨made, fault | ⟨⟩⟩
  · simp [Except.mapError]
  · simp [Except.mapError]

/-! ## Lists -/

theorem ends_mapM_nil {f : α → Work β} {done : List β} :
    ([].mapM f).Ends tree tree' done ↔ tree = tree' ∧ done = [] := by
  rw [List.mapM_nil, ends_pure]
  exact and_congr_right fun _ => eq_comm

theorem ends_mapM_cons {f : α → Work β} {a : α} {more : List α} {done : List β} :
    ((a :: more).mapM f).Ends tree tree' done ↔
      ∃ between b rest, (f a).Ends tree between b ∧ (more.mapM f).Ends between tree' rest
        ∧ done = b :: rest := by
  rw [List.mapM_cons, ends_bind]
  simp only [ends_bind, ends_pure]
  constructor
  · rintro ⟨between, b, hb, _, rest, hrest, rfl, rfl⟩
    exact ⟨between, b, rest, hb, hrest, rfl⟩
  · rintro ⟨between, b, rest, hb, hrest, rfl⟩
    exact ⟨between, b, hb, tree', rest, hrest, rfl, rfl⟩

end ApiScan.Work
