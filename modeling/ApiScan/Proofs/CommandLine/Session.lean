import ApiScan.CommandLine.Run
import ApiScan.CommandLine.Session
import ApiScan.Proofs.Config.Questions
import ApiScan.Proofs.Tree.Removed
import ApiScan.Proofs.Work

set_option autoImplicit false

/-! # What sessions leave of a tree

A session does one thing after another. Talking on the terminal and looking at files leaves the tree
as it is, and so a session changes no more than the work in it does. -/

namespace ApiScan.CommandLine.Session

variable {α β : Type} {world world' : World}

/-! ## Laws of sequence -/

theorem bind_of_ok {session : Session α} {a : α} (h : session world = (.ok a, world'))
    (next : α → Session β) : (session >>= next) world = next a world' := by
  show (ExceptT.bindCont next (session world).1) (session world).2 = _
  rw [h]
  rfl

theorem bind_of_error {session : Session α} {stop : Stop}
    (h : session world = (.error stop, world')) (next : α → Session β) :
    (session >>= next) world = (.error stop, world') := by
  show (ExceptT.bindCont next (session world).1) (session world).2 = _
  rw [h]
  rfl

/-! ## Trees -/

/-- The tree that a session leaves. -/
def treeAfter (session : Session α) (world : World) : Tree := (session world).2.tree

/-- What holds of the tree after the first part of a session, and is kept by the rest, holds in the
    end. -/
theorem treeAfter_bind (good : Tree → Prop) {session : Session α} {next : α → Session β}
    (h : good (session.treeAfter world))
    (hnext : ∀ a world', session world = (.ok a, world') → good world'.tree →
      good ((next a).treeAfter world')) :
    good ((session >>= next).treeAfter world) := by
  unfold treeAfter at h hnext ⊢
  rcases hsession : session world with ⟨stop | a, world'⟩
  · rw [bind_of_error hsession]
    rwa [hsession] at h
  · rw [bind_of_ok hsession]
    rw [hsession] at h
    exact hnext a world' hsession h

theorem treeAfter_work (files : Work α) (world : World) :
    (work files).treeAfter world = (files world.tree).1 := rfl

theorem treeAfter_report (kind : String) (problem : Text) (world : World) :
    (report kind problem).treeAfter world = world.tree := rfl

theorem treeAfter_converse (dialogue : Dialogue α) (world : World) :
    (converse dialogue).treeAfter world = world.tree := by
  unfold treeAfter converse
  rcases dialogue world.input with ⟨shown, _ | ⟨a, rest⟩⟩
  · rfl
  · rfl

/-- A dialogue gives an answer exactly if it ends with one. -/
theorem exists_converse_eq_ok {dialogue : Dialogue α} {a : α} :
    (∃ world', converse dialogue world = (.ok a, world') ∧ world'.tree = world.tree) ↔
      (dialogue world.input).2.map Prod.fst = some a := by
  unfold converse
  rcases dialogue world.input with ⟨shown, _ | ⟨b, rest⟩⟩
  · constructor
    · rintro ⟨_, h, -⟩
      exact nomatch (Prod.mk.inj h).1
    · exact fun h => nomatch h
  · constructor
    · rintro ⟨_, h, -⟩
      exact congrArg some (Except.ok.inj (Prod.mk.inj h).1)
    · intro h
      obtain rfl : b = a := Option.some.inj h
      exact ⟨_, rfl, rfl⟩

theorem treeAfter_bind_of_ok {session : Session α} {next : α → Session β} {a : α}
    (h : session world = (.ok a, world')) :
    (session >>= next).treeAfter world = (next a).treeAfter world' := by
  unfold treeAfter
  rw [bind_of_ok h]

theorem mapError_eq_ok {ε ε' : Type} {f : ε → ε'} {result : Except ε α} {a : α} :
    result.mapError f = .ok a ↔ result = .ok a := by
  cases result with
  | error e => exact ⟨nofun, nofun⟩
  | ok b => rw [Except.mapError, Except.ok.injEq, Except.ok.injEq]

theorem look_eq_ok {survey : Survey α} {a : α} (h : look survey world = (.ok a, world')) :
    survey.Finds world.tree a ∧ world'.tree = world.tree := by
  obtain ⟨hresult, rfl⟩ := Prod.mk.inj h
  exact ⟨mapError_eq_ok.1 hresult, rfl⟩

theorem look_of_finds (world : World) {survey : Survey α} {a : α} (h : survey.Finds world.tree a) :
    ∃ log, look survey world = (.ok a, { world with log }) :=
  ⟨world.log ++ (survey world.tree).1, Prod.ext (mapError_eq_ok.2 h) rfl⟩

theorem work_of_ok (world : World) {files : Work α} {a : α}
    (h : (files world.tree).2.2 = .ok a) :
    ∃ world', work files world = (.ok a, world') ∧ world'.tree = (files world.tree).1 :=
  ⟨_, Prod.ext (mapError_eq_ok.2 h) rfl, rfl⟩

theorem work_of_error (world : World) {files : Work α} {failure : Failure}
    (h : (files world.tree).2.2 = .error failure) :
    ∃ world', work files world = (.error (.failed failure), world')
      ∧ world'.tree = (files world.tree).1 :=
  ⟨_, Prod.ext (congrArg (Except.mapError Stop.failed) h) rfl, rfl⟩

/-! ## Sessions that look -/

/-- Besides what it shows, the session does what a survey does. -/
def Follows (session : Session α) (survey : Survey α) : Prop :=
  ∀ world, (session world).1 = (survey world.tree).2.mapError Stop.failed
    ∧ (session world).2.tree = world.tree

/-- The session shows something, and that is all. -/
def Talks (session : Session Unit) : Prop := session.Follows (pure ())

theorem Follows.exists_of_ok {session : Session α} {survey : Survey α} (h : session.Follows survey)
    {a : α} (world : World) (hfinds : survey.Finds world.tree a) :
    ∃ world', world'.tree = world.tree ∧ session world = (.ok a, world') :=
  ⟨_, (h world).2, Prod.ext ((h world).1.trans (mapError_eq_ok.2 hfinds)) rfl⟩

theorem Talks.exists_world {session : Session Unit} (h : session.Talks) (world : World) :
    ∃ world', world'.tree = world.tree ∧ session world = (.ok (), world') :=
  h.exists_of_ok world rfl

theorem follows_pure (a : α) : (pure a : Session α).Follows (pure a) := fun _ => ⟨rfl, rfl⟩

theorem follows_look (survey : Survey α) : (look survey).Follows survey := fun _ => ⟨rfl, rfl⟩

theorem follows_bind {session : Session α} {survey : Survey α} {next : α → Session β}
    {next' : α → Survey β} (h : session.Follows survey) (hnext : ∀ a, (next a).Follows (next' a)) :
    (session >>= next).Follows (survey >>= next') := by
  intro world
  obtain ⟨hresult, htree⟩ := h world
  rcases hsession : session world with ⟨result, between⟩
  rcases hsurvey : survey world.tree with ⟨log, result'⟩
  rw [hsession, hsurvey] at hresult
  rw [hsession] at htree
  obtain rfl : result = result'.mapError Stop.failed := hresult
  cases result' with
  | error failure =>
      rw [bind_of_error hsession, Survey.bind_of_error hsurvey]
      exact ⟨rfl, htree⟩
  | ok a =>
      rw [bind_of_ok hsession, Survey.bind_of_ok hsurvey]
      have hlast := hnext a between
      dsimp only at htree
      rw [htree] at hlast
      exact hlast

/-- A part that only shows something may come first. -/
theorem Talks.follows_bind {session : Session Unit} {next : Unit → Session β} {survey : Survey β}
    (h : session.Talks) (hnext : (next ()).Follows survey) : (session >>= next).Follows survey := by
  intro world
  obtain ⟨between, htree, hsession⟩ := h.exists_world world
  rw [bind_of_ok hsession, ← htree]
  exact hnext between

/-- A part that differs by a condition, and what follows it in either case. -/
theorem follows_ite_bind {condition : Prop} [Decidable condition] {first second : Session α}
    {first' second' : Survey α} {next : α → Session β} {next' : α → Survey β}
    (hfirst : first.Follows first') (hsecond : second.Follows second')
    (hnext : ∀ a, (next a).Follows (next' a)) :
    (if condition then first >>= next else second >>= next).Follows
      (if condition then first' >>= next' else second' >>= next') := by
  split
  · exact follows_bind hfirst hnext
  · exact follows_bind hsecond hnext

theorem talks_sayMarkup (line : Text) : (sayMarkup line).Talks := fun _ => ⟨rfl, rfl⟩

theorem talks_say (line : Text) : (say line).Talks := talks_sayMarkup _

/-- A line of whole characters is shown. -/
theorem talks_sayPoints {line : Points} (h : Json.IsWholeText line) : (sayPoints line).Talks := by
  obtain ⟨text, rfl⟩ := h
  unfold sayPoints
  rw [Points.toText?_ofText]
  exact talks_say text

/-- A line that holds half of a surrogate pair ends the session. -/
theorem sayPoints_of_not_isWholeText {line : Points} (h : ¬ Json.IsWholeText line) (world : World) :
    ∃ text, sayPoints line world = (.error (.refused text), world) := by
  have hnone : line.toText? = none := by
    rw [← Json.isSome_toText?_iff, Bool.not_eq_true, Option.isSome_eq_false_iff] at h
    exact Option.isNone_iff_eq_none.1 h
  unfold sayPoints
  rw [hnone]
  exact ⟨_, rfl⟩

theorem treeAfter_sayPoints (line : Points) (world : World) :
    (sayPoints line).treeAfter world = world.tree := by
  by_cases h : Json.IsWholeText line
  · exact (talks_sayPoints h world).2
  · obtain ⟨text, hsay⟩ := sayPoints_of_not_isWholeText h world
    rw [treeAfter, hsay]

theorem talks_sayField (name : String) (value : Text) : (sayField name value).Talks :=
  talks_sayMarkup _

theorem talks_report (kind : String) (problem : Text) : (report kind problem).Talks :=
  fun _ => ⟨rfl, rfl⟩

theorem talks_warn (problem : Text) : (warn problem).Talks := talks_report _ _

theorem talks_pure : (pure () : Session Unit).Talks := follows_pure ()

theorem talks_forM {f : α → Session Unit} {items : List α} (h : ∀ a ∈ items, (f a).Talks) :
    (items.forM f).Talks := by
  induction items with
  | nil => exact talks_pure
  | cons a more ih =>
      obtain ⟨hfirst, hmore⟩ := List.forall_mem_cons.1 h
      exact hfirst.follows_bind (ih hmore)

/-! ## Sessions that ask -/

/-- The session leaves the tree as it is, and what it ends with is good. -/
def Yields (session : Session α) (good : α → Prop) : Prop :=
  ∀ world, (session world).2.tree = world.tree ∧ ∀ a, (session world).1 = .ok a → good a

theorem yields_pure {good : α → Prop} {a : α} (h : good a) : (pure a : Session α).Yields good :=
  fun _ => ⟨rfl, fun _ hb => Except.ok.inj hb ▸ h⟩

theorem yields_throw (stop : Stop) (good : α → Prop) : (throw stop : Session α).Yields good :=
  fun _ => ⟨rfl, nofun⟩

theorem yields_converse {dialogue : Dialogue α} {good : α → Prop} (h : dialogue.Answers good) :
    (converse dialogue).Yields good := by
  refine fun world => ⟨treeAfter_converse dialogue world, fun a ha => ?_⟩
  unfold converse at ha
  split at ha
  · next shown b rest hdialogue =>
      obtain rfl := Except.ok.inj ha
      exact h world.input b rest (by rw [hdialogue])
  · exact nomatch ha

theorem yields_bind {session : Session α} {next : α → Session β} {good : α → Prop}
    {good' : β → Prop} (h : session.Yields good) (hnext : ∀ a, good a → (next a).Yields good') :
    (session >>= next).Yields good' := by
  intro world
  obtain ⟨htree, hgood⟩ := h world
  rcases hsession : session world with ⟨stop | a, between⟩
  · rw [hsession] at htree
    rw [bind_of_error hsession]
    exact ⟨htree, nofun⟩
  · rw [hsession] at htree hgood
    rw [bind_of_ok hsession]
    obtain ⟨htree', hgood'⟩ := hnext a (hgood a rfl) between
    exact ⟨htree'.trans htree, hgood'⟩

theorem yields_inquire {inquiry : Inquiry α} {good : α → Prop} (h : inquiry.answered.Answers good) :
    (inquire inquiry).Yields good := by
  have hrun : Dialogue.Answers inquiry.run fun result => ∀ a, result = .ok a → good a := by
    rintro lines result rest hlines a rfl
    exact Inquiry.answers_answered_iff.1 h lines a rest hlines
  refine yields_bind (yields_converse hrun) fun result hresult => ?_
  cases result with
  | error text => exact yields_throw _ _
  | ok a => exact yields_pure (hresult a rfl)

theorem yields_ite {condition : Prop} [Decidable condition] {first second : Session α}
    {good : α → Prop} (hfirst : condition → first.Yields good)
    (hsecond : ¬ condition → second.Yields good) :
    (if condition then first else second).Yields good := by
  split
  · next h => exact hfirst h
  · next h => exact hsecond h

end ApiScan.CommandLine.Session

/-! ## The project of a command

A command works on one directory, whose path is taken as it is written: it has no steps up, and the
configuration is the file of a fixed name right inside it. -/

namespace ApiScan.CommandLine

open ApiScan.Tree

variable {current root : Path} {command : Command} {config : Config} {world : World} {tree : Tree}

/-- The place of the configuration file of a project. -/
def configPlace (root : Path) : Place := root.steps ++ [Failure.configFile]

theorem not_mem_up_normalize (path : Path) : Path.up ∉ path.normalize.steps := by
  have hall (steps done : List Text) (hdone : Path.up ∉ done) :
      Path.up ∉ steps.foldl Path.takeStep done := by
    induction steps generalizing done with
    | nil => exact hdone
    | cons step more ih =>
        refine ih _ ?_
        unfold Path.takeStep
        split
        · exact fun h => hdone (List.dropLast_subset _ h)
        · next hstep => simp [hdone, Ne.symm hstep]
  exact hall path.steps [] List.not_mem_nil

/-- The directory of a project is a path without steps up. -/
theorem projectRoot_eq_ok (h : (projectRoot current command world).1 = .ok root) :
    projectRoot current command world = (.ok root, world) ∧ Path.up ∉ root.steps := by
  unfold projectRoot at h ⊢
  split at h
  · exact nomatch h
  · next hnul =>
      obtain rfl := Except.ok.inj h
      rw [if_neg hnul]
      exact ⟨rfl, not_mem_up_normalize _⟩

theorem configPlace_eq (hup : Path.up ∉ root.steps) :
    (Config.pathIn root).steps.foldl Path.takeStep [] = configPlace root := by
  refine Path.foldl_takeStep (fun h => ?_) []
  rcases List.mem_append.1 h with h | h
  · exact hup h
  · exact absurd (List.mem_singleton.1 h) (by decide)

/-- A configuration that was read is the one of a file. -/
theorem entry?_of_load (hup : Path.up ∉ root.steps)
    (hload : (Config.load root).Finds tree (some config)) :
    ∃ content, tree.entry? (configPlace root) = some (.file content) := by
  obtain ⟨-, fields, hdocument, -⟩ := Config.finds_load_some_iff.1 hload
  obtain ⟨text, htext, -⟩ := Docs.finds_document_ok_iff.1 hdocument
  obtain ⟨content, hread, -⟩ := Docs.textAt?_eq_some_iff.1 htext
  obtain ⟨place, hlocate⟩ := read_eq_ok_iff.1 hread
  have hfollow := (locate_eq_ok.1 hlocate).2
  obtain rfl := (place_of_follow hfollow).trans (configPlace_eq hup)
  exact ⟨content, entry?_of_follow hfollow⟩

end ApiScan.CommandLine
