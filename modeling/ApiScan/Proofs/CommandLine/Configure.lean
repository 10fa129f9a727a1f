import ApiScan.Proofs.CommandLine.Session
import ApiScan.Proofs.Tree.Scope

set_option autoImplicit false

/-! # Configuring and building

A command that configures writes one file, and only after all but one of the things that can go
wrong: what it writes is a configuration that the next command finds, and then the terminal may still
refuse the last line, which holds the name and the version. A build asks nothing, and the
configuration that it finds comes before all that it detects. -/

namespace ApiScan.CommandLine

open ApiScan.Tree Session

variable {current root : Path} {command : Command} {config : Config} {known : Config.Known}
  {world world' : World} {tree : Tree}

/-! ## What is known of a project -/

theorem talks_warnOfKind (kind : Option Project.Kind) (package : Json) :
    (warnOfKind kind package).Talks := by
  unfold warnOfKind
  split
  · exact talks_warn _
  · split
    · exact talks_pure
    · exact talks_warn _

theorem talks_warnOfViewer (package : Json) : (warnOfViewer package).Talks := by
  unfold warnOfViewer
  split
  · exact talks_pure
  · exact talks_warn _

theorem talks_sayModels (saved : Option Config) (orm : Text) : (sayModels saved orm).Talks := by
  unfold sayModels
  split
  · exact talks_sayField _ _
  · split
    · exact talks_say _
    · exact talks_pure

/-- What is known of a project, from its files. -/
def knownOf (root : Path) : Survey Config.Known := do
  let package ← Project.readPackage root
  let saved ← Config.load root
  let kind ← Project.detectKind root package
  let orm ← Project.detectOrm root package
  let mainFile ← if kind = some .express then Project.detectMain root else pure []
  let schemas ←
    if Project.configuredOrms.contains orm then Project.detectSchemas root orm else pure []
  return { kind, package, saved, mainFile, orm, schemas }

theorem follows_survey (root : Path) : (survey root).Follows (knownOf root) := by
  unfold survey knownOf
  refine follows_bind (follows_look _) fun package => ?_
  refine follows_bind (follows_look _) fun saved => ?_
  refine follows_bind (follows_look _) fun kind => ?_
  refine (talks_warnOfKind kind package).follows_bind ?_
  refine (talks_warnOfViewer package).follows_bind ?_
  refine follows_bind (follows_look _) fun orm => ?_
  dsimp only
  refine follows_ite_bind (follows_look _) (follows_pure _) fun mainFile => ?_
  refine (talks_sayModels saved orm).follows_bind ?_
  exact follows_ite_bind (follows_look _) (follows_pure _) fun schemas => follows_pure _

theorem settledFields_of_readPackage {package : Json}
    (h : (Project.readPackage root).Finds tree package) : Json.SettledFields package.fields := by
  obtain ⟨document?, hdocument, h⟩ := Survey.finds_bind.1 h
  rcases document? with fault | found
  · split at h
    · exact absurd h Survey.not_finds_fail
    · exact absurd h Survey.not_finds_fail
    · next he => exact nomatch he
  · dsimp only at h
    split at h
    · obtain rfl := Survey.finds_pure.1 h
      obtain ⟨text, -, hjson⟩ := Docs.finds_document_ok_iff.1 hdocument
      exact Json.settledFields_of_read hjson
    · exact absurd h Survey.not_finds_fail

/-- What is known of a project is what its files hold. -/
theorem read_of_knownOf (h : (knownOf root).Finds tree known) :
    known.Read ∧ (Config.load root).Finds tree known.saved := by
  have hrest {α β : Type} {condition : Prop} [Decidable condition] {first second : Survey α}
      {next : α → Survey β} {b : β}
      (h : (if condition then first >>= next else second >>= next).Finds tree b) :
      ∃ a, (next a).Finds tree b := by
    split at h
    all_goals
      obtain ⟨a, -, h⟩ := Survey.finds_bind.1 h
      exact ⟨a, h⟩
  obtain ⟨package, hpackage, h⟩ := Survey.finds_bind.1 h
  obtain ⟨saved, hsaved, h⟩ := Survey.finds_bind.1 h
  obtain ⟨kind, -, h⟩ := Survey.finds_bind.1 h
  obtain ⟨orm, -, h⟩ := Survey.finds_bind.1 h
  obtain ⟨mainFile, h⟩ := hrest h
  obtain ⟨schemas, h⟩ := hrest h
  obtain rfl := Survey.finds_pure.1 h
  refine ⟨⟨settledFields_of_readPackage hpackage, fun config hconfig => ?_⟩, hsaved⟩
  obtain rfl : saved = some config := hconfig
  exact Config.joined_of_load hsaved

/-! ## The configuration to work with -/

/-- The configuration has what every command needs: a name and a folder of routes. -/
structure Usable (config : Config) : Prop where
  name : Text.allBlank config.name.shown = false
  routes : Text.allBlank config.routes.shown = false

/-- A configuration is refused unless it has them. -/
def checked (config : Config) : Session Config := do
  if Text.allBlank config.name.shown then fail .nameMissing
  if Text.allBlank config.routes.shown then fail .routesMissing
  return config

theorem yields_checked (config : Config) :
    (checked config).Yields fun accepted => accepted = config ∧ Usable accepted := by
  unfold checked
  dsimp only
  refine yields_ite (fun _ => ?_) fun hname => yields_ite (fun _ => ?_) fun hroutes => ?_
  · exact yields_bind (yields_throw _ fun _ => False) fun _ h => h.elim
  · exact yields_bind (yields_throw _ fun _ => False) fun _ h => h.elim
  · exact yields_pure ⟨rfl, Bool.eq_false_iff.2 hname, Bool.eq_false_iff.2 hroutes⟩

theorem checked_of_usable (h : Usable config) (world : World) :
    checked config world = (.ok config, world) := by
  unfold checked
  rw [h.name, h.routes]
  rfl

theorem settle_of_initial {base : Config} (h : known.initial = .ok base) (ask : Bool) :
    settle known ask
      = if ask then inquire (Config.askChecked known.kind base) >>= fun found => accept found >>= checked
        else checked base := by
  unfold settle Config.Known.ask
  rw [h]
  cases ask <;> rfl

theorem yields_settle (known : Config.Known) (ask : Bool) :
    (settle known ask).Yields fun config => Usable config ∧ (known.Read → config.Joined)
      ∧ (ask = true → ∀ text ∈ config.texts, Json.IsWholeText text) := by
  cases hinitial : known.initial with
  | error issues =>
      have hfail : settle known ask = fail (.invalidAnswers issues) := by
        unfold settle Config.Known.ask
        rw [hinitial]
        cases ask <;> rfl
      rw [hfail]
      exact yields_throw _ _
  | ok base =>
      rw [settle_of_initial hinitial]
      have hchecked (answer : Config) (good : Config → Prop) (h : good answer) :
          (checked answer).Yields fun config => Usable config ∧ good config := by
        refine fun world => ⟨(yields_checked answer world).1, fun config hconfig => ?_⟩
        obtain ⟨rfl, husable⟩ := (yields_checked answer world).2 config hconfig
        exact ⟨husable, h⟩
      cases ask with
      | false => exact hchecked base _ ⟨fun hread => hread.joined_of_initial hinitial, nofun⟩
      | true =>
          refine yields_bind (yields_inquire (Config.answers_askChecked known.kind base)) ?_
          rintro _ ⟨answer, rfl, hwhole⟩
          exact hchecked answer _ ⟨fun _ text htext => (hwhole text htext).joined_eq, fun _ => hwhole⟩

/-- **A usable configuration that is saved is what a command that asks nothing works with**,
    whatever else is known of the project. -/
theorem settle_of_saved (hsaved : known.saved = some config) (husable : Usable config)
    (world : World) : settle known false world = (.ok config, world) := by
  have hname : config.name ≠ [] := by
    intro h
    have hblank := husable.name
    rw [h] at hblank
    exact nomatch hblank
  rw [settle_of_initial (Config.Known.initial_of_saved hsaved hname)]
  exact checked_of_usable husable world

/-! ## Carrying out -/

/-- The last line of a command can be shown: the configuration has a name and a version of whole
    characters. -/
structure Titled (config : Config) : Prop where
  name : Json.IsWholeText config.name
  version : Json.IsWholeText config.version

theorem isWholeText_title_append (config : Config) (text : Text) :
    Json.IsWholeText (title config ++ Points.ofText text) ↔ Titled config := by
  simp only [title, Json.isWholeText_append, Json.isWholeText_ofText, and_true]
  exact ⟨fun ⟨hname, hversion⟩ => ⟨hname, hversion⟩, fun h => ⟨h.name, h.version⟩⟩

/-- Show the last line of a command. -/
def conclude (config : Config) : Session Exit := do
  sayPoints (title config ++ Points.ofText " has been Swagged!".toList)
  return .done

/-- The last line changes nothing, and it is shown or ends the command in a failure. -/
theorem exists_conclude (config : Config) (world : World) :
    ∃ result world', conclude config world = (result, world') ∧ world'.tree = world.tree
      ∧ (result = .ok .done ↔ Titled config) := by
  by_cases htitled : Titled config
  · have hwhole := (isWholeText_title_append config " has been Swagged!".toList).2 htitled
    obtain ⟨world', htree, hsay⟩ := (talks_sayPoints hwhole).exists_world world
    exact ⟨_, world', bind_of_ok hsay _, htree, fun _ => htitled, fun _ => rfl⟩
  · have hhalf := mt (isWholeText_title_append config " has been Swagged!".toList).1 htitled
    obtain ⟨text, hsay⟩ := sayPoints_of_not_isWholeText hhalf world
    exact ⟨_, world, bind_of_error hsay _, rfl, nofun, fun h => absurd h htitled⟩

/-- Save a configuration, build with it, or both. -/
def perform (root : Path) (kind : Option Project.Kind) (config : Config) (tasks : Tasks) :
    Session Exit := do
  if tasks.configure then
    let path ← work (config.save root)
    say ("saved ".toList ++ path.name)
  if tasks.build then
    sayResult (← work (Build.run root config kind tasks.options))
  conclude config

/-- Warn of a library that is missing, and perform the tasks of a command. -/
def carryOut (root : Path) (known : Config.Known) (config : Config) (tasks : Tasks) :
    Session Exit := do
  if config.database = .mongoose && !Project.dependsOn known.package Database.mongoose.name then
    warn "could not find mongoose in package.json: npm install mongoose".toList
  perform root known.kind config tasks

theorem generate_eq (current : Path) (command : Command) :
    generate current command = (do
      say "Swagme - swagger docs for Express and Next.js APIs".toList
      let root ← projectRoot current command
      let known ← survey root
      let config ← settle known command.tasks.ask
      carryOut root known config command.tasks) := rfl

theorem exists_perform (root : Path) (known : Config.Known) (config : Config) (tasks : Tasks)
    (world : World) : ∃ world', world'.tree = world.tree
      ∧ carryOut root known config tasks world = perform root known.kind config tasks world' := by
  unfold carryOut
  dsimp only
  split
  · obtain ⟨world', htree, hwarn⟩ := (talks_warn _).exists_world world
    exact ⟨world', htree, bind_of_ok hwarn _⟩
  · exact ⟨world, rfl, rfl⟩

theorem talks_sayResult (result : Build.Result) : (sayResult result).Talks := by
  unfold sayResult
  refine (talks_forM fun model _ => talks_sayField _ _).follows_bind ?_
  refine (talks_forM fun group _ => talks_sayField _ _).follows_bind ?_
  exact talks_forM fun _ _ => fun world => ⟨rfl, rfl⟩

/-- A command that only configures saves the configuration unless it fails, and then ends well
    exactly if its last line can be shown. -/
theorem perform_configure (root : Path) (kind : Option Project.Kind) (config : Config)
    {tasks : Tasks} (hconfigure : tasks.configure = true) (hbuild : tasks.build = false)
    (world : World) :
    (∃ stop world', perform root kind config tasks world = (.error stop, world')
        ∧ world'.tree = world.tree)
      ∨ ∃ result world', perform root kind config tasks world = (result, world')
          ∧ (result = .ok .done ↔ Titled config)
          ∧ world.tree.write (Config.pathIn root) (fun _ => Text.toBytes config.text)
            = .ok world'.tree := by
  have hperform : perform root kind config tasks = (do
      let path ← work (config.save root)
      say ("saved ".toList ++ path.name)
      conclude config) := by
    unfold perform
    rw [hconfigure, hbuild]
    rfl
  rw [hperform]
  rcases Config.save_cases root config world.tree with ⟨htree, failure, hfailure⟩ | ⟨tree, hwrite, hsave⟩
  · obtain ⟨world', hwork, htree'⟩ := work_of_error world hfailure
    exact Or.inl ⟨_, world', bind_of_error hwork _, htree'.trans htree⟩
  · obtain ⟨saved, hwork, htree⟩ := work_of_ok world hsave.2
    obtain ⟨said, htree', hsay⟩ := (talks_say _).exists_world saved
    obtain ⟨result, world', hconclude, htree'', hresult⟩ := exists_conclude config said
    refine Or.inr ⟨result, world', ?_, hresult, ?_⟩
    · rw [bind_of_ok hwork, bind_of_ok hsay, hconclude]
    · rw [hwrite, htree'', htree', htree, hsave.1]

/-- A command that only builds ends as the build does, unless its last line is refused. -/
theorem perform_build (root : Path) (kind : Option Project.Kind) (config : Config)
    {tasks : Tasks} (hconfigure : tasks.configure = false) (hbuild : tasks.build = true)
    (world : World) :
    ((perform root kind config tasks world).1 = .ok .done ↔
        (∃ result, (Build.run root config kind tasks.options world.tree).2.2 = .ok result)
          ∧ Titled config)
      ∧ (perform root kind config tasks world).2.tree
        = (Build.run root config kind tasks.options world.tree).1 := by
  have hperform : perform root kind config tasks = (do
      let result ← work (Build.run root config kind tasks.options)
      sayResult result
      conclude config) := by
    unfold perform
    rw [hconfigure, hbuild]
    rfl
  rw [hperform]
  cases hbuilt : (Build.run root config kind tasks.options world.tree).2.2 with
  | error failure =>
      obtain ⟨world', hwork, htree⟩ := work_of_error world hbuilt
      rw [bind_of_error hwork]
      exact ⟨⟨nofun, fun ⟨⟨_, hresult⟩, _⟩ => nomatch hresult⟩, htree⟩
  | ok result =>
      obtain ⟨built, hwork, htree⟩ := work_of_ok world hbuilt
      obtain ⟨said, htree', hsay⟩ := (talks_sayResult result).exists_world built
      obtain ⟨last, world', hconclude, htree'', hlast⟩ := exists_conclude config said
      rw [bind_of_ok hwork, bind_of_ok hsay, hconclude]
      exact ⟨hlast.trans ⟨fun htitled => ⟨⟨result, rfl⟩, htitled⟩, And.right⟩,
        htree''.trans (htree'.trans htree)⟩

/-! ## Whole runs -/

theorem projectRoot_eq (current : Path) (command : Command) (world world' : World) :
    projectRoot current command world = ((projectRoot current command world').1, world) := by
  unfold projectRoot
  split <;> rfl

/-- A command that cannot look at its project fails and changes nothing. -/
theorem generate_of_unknown
    (h : ∀ root known, (projectRoot current command world).1 = .ok root →
      ¬ (knownOf root).Finds world.tree known) :
    ∃ stop world', generate current command world = (.error stop, world')
      ∧ world'.tree = world.tree := by
  obtain ⟨first, htree, hsay⟩ := (talks_say _).exists_world world
  rw [generate_eq, bind_of_ok hsay]
  have hroot := projectRoot_eq current command first world
  cases hresult : (projectRoot current command world).1 with
  | error stop =>
      rw [hresult] at hroot
      exact ⟨stop, first, bind_of_error hroot _, htree⟩
  | ok root =>
      rw [hresult] at hroot
      rw [bind_of_ok hroot]
      obtain ⟨hfound, htree'⟩ := follows_survey root first
      rcases hsurvey : survey root first with ⟨stop | known, second⟩
      · rw [hsurvey] at htree'
        exact ⟨stop, second, bind_of_error hsurvey _, htree'.trans htree⟩
      · rw [hsurvey, htree] at hfound
        exact absurd (mapError_eq_ok.1 hfound.symm) (h root known hresult)

/-- What a command does once it has looked at its project. -/
theorem generate_of_known (hroot : (projectRoot current command world).1 = .ok root)
    (hknown : (knownOf root).Finds world.tree known) :
    ∃ between, between.tree = world.tree ∧ generate current command world
      = (settle known command.tasks.ask >>= fun config =>
          carryOut root known config command.tasks) between := by
  obtain ⟨first, htree, hsay⟩ := (talks_say _).exists_world world
  have hroot' := projectRoot_eq current command first world
  rw [hroot] at hroot'
  rw [← htree] at hknown
  obtain ⟨second, htree', hsurvey⟩ := (follows_survey root).exists_of_ok _ hknown
  refine ⟨second, htree'.trans htree, ?_⟩
  rw [generate_eq, bind_of_ok hsay, bind_of_ok hroot', bind_of_ok hsurvey]

theorem session_eq (hverb : command.verb ≠ .delete) (current : Path) :
    command.session current = generate current command := by
  unfold Command.session
  split
  · next he => exact absurd he hverb
  · rfl

/-- A command fails if it stops before its end, and it leaves the tree as it is then. -/
theorem run_of_generate (hverb : command.verb ≠ .delete) {result : Except Stop Exit}
    (h : generate current command world = (result, world')) :
    (command.run current world).1 = result.toOption.getD .failed
      ∧ (command.run current world).2.tree = world'.tree := by
  unfold Command.run
  rw [session_eq hverb, h]
  cases result with
  | error stop => exact ⟨rfl, rfl⟩
  | ok exit => exact ⟨rfl, rfl⟩

theorem exit_eq_done_iff {result : Except Stop Exit} :
    result.toOption.getD .failed = .done ↔ result = .ok .done := by
  cases result with
  | error stop => exact ⟨nofun, nofun⟩
  | ok exit => exact ⟨congrArg _, Except.ok.inj⟩

theorem code_eq_zero_iff {exit : Exit} : exit.code = 0 ↔ exit = .done := by
  cases exit <;> decide

theorem tasks_config (hverb : command.verb = .config) :
    command.tasks.configure = true ∧ command.tasks.build = false := by
  unfold Command.tasks
  rw [hverb]
  exact ⟨rfl, rfl⟩

theorem tasks_build (hverb : command.verb = .build) :
    command.tasks.ask = false ∧ command.tasks.configure = false ∧ command.tasks.build = true := by
  unfold Command.tasks
  rw [hverb]
  exact ⟨rfl, rfl, rfl⟩

/-- A build command goes by a configuration: once it has looked at its project, it asks nothing and
    works with this configuration, builds with it, and ends as the build does unless its last line is
    refused. If it cannot look at its project, it fails and changes nothing. -/
structure GoesBy (config : Config) (root current : Path) (build : Command) (world : World) :
    Prop where
  settles : ∀ known, (survey root world).1 = .ok known →
    ∀ world, settle known build.tasks.ask world = (.ok config, world)
  builds : ∀ known, (survey root world).1 = .ok known →
    ((build.run current world).1 = .done ↔
        (∃ result, (Build.run root config known.kind build.tasks.options world.tree).2.2 = .ok result)
          ∧ Titled config)
      ∧ (build.run current world).2.tree
        = (Build.run root config known.kind build.tasks.options world.tree).1
  fails : (∀ known, (survey root world).1 ≠ .ok known) →
    (build.run current world).1 = .failed ∧ (build.run current world).2.tree = world.tree

/-- **A build goes by the saved configuration**, if it is usable. -/
theorem goesBy_of_load (hverb : command.verb = .build)
    (hroot : (projectRoot current command world).1 = .ok root)
    (hload : (Config.load root).Finds world.tree (some config)) (husable : Usable config) :
    GoesBy config root current command world := by
  obtain ⟨hask, hconfigure, hbuild⟩ := tasks_build hverb
  have hdelete : command.verb ≠ .delete := by simp [hverb]
  have hknown (known : Config.Known) :
      (survey root world).1 = .ok known ↔ (knownOf root).Finds world.tree known := by
    rw [(follows_survey root world).1, mapError_eq_ok]
    rfl
  have hsettles (known : Config.Known) (h : (survey root world).1 = .ok known) (world : World) :
      settle known command.tasks.ask world = (.ok config, world) := by
    have hsaved := (read_of_knownOf ((hknown known).1 h)).2
    rw [hask]
    exact settle_of_saved (hsaved.unique hload) husable world
  refine ⟨hsettles, fun known h => ?_, fun h => ?_⟩
  · obtain ⟨between, htree, hgenerate⟩ := generate_of_known hroot ((hknown known).1 h)
    rw [bind_of_ok (hsettles known h between)] at hgenerate
    obtain ⟨last, htree', hperform⟩ := exists_perform root known config command.tasks between
    have hends := perform_build root known.kind config hconfigure hbuild last
    rw [← hperform, ← hgenerate, htree', htree] at hends
    obtain ⟨hexit, hafter⟩ := run_of_generate hdelete (rfl : generate current command world = _)
    rw [hexit, hafter, exit_eq_done_iff]
    exact hends
  · have hunknown (other : Path) (known : Config.Known)
        (hother : (projectRoot current command world).1 = .ok other) :
        ¬ (knownOf other).Finds world.tree known := by
      obtain rfl := Except.ok.inj (hroot.symm.trans hother)
      exact fun hfinds => h known ((hknown known).2 hfinds)
    obtain ⟨stop, after, hgenerate, htree⟩ := generate_of_unknown hunknown
    obtain ⟨hexit, hafter⟩ := run_of_generate hdelete hgenerate
    exact ⟨hexit, hafter.trans htree⟩

/-- **What configuring does.** Whatever the project holds and whatever is answered, the command
    fails and changes nothing, or it changes the configuration file only. Then a usable configuration
    is found there, and every build goes by it for as long as the file reads the same, whatever else
    has become of the project. The command ends well exactly if that configuration has a name and a
    version of whole characters, as it does whenever it was asked for. -/
theorem configuration_of_run (current : Path) (hverb : command.verb = .config) (world : World) :
    ((command.run current world).1.code ≠ 0
        ∧ (command.run current world).2.tree = world.tree)
      ∨ ∃ root config, (projectRoot current command world).1 = .ok root
          ∧ ((command.run current world).1.code = 0 ↔ Titled config)
          ∧ (command.tasks.ask = true → Titled config)
          ∧ (∀ place, place ≠ configPlace root →
            (command.run current world).2.tree.entry? place = world.tree.entry? place)
          ∧ (Config.load root).Finds (command.run current world).2.tree (some config)
          ∧ Usable config
          ∧ ∀ current' build later, build.verb = .build →
            (projectRoot current' build later).1 = .ok root →
            later.tree.read (Config.pathIn root)
              = (command.run current world).2.tree.read (Config.pathIn root) →
            GoesBy config root current' build later := by
  obtain ⟨hconfigure, hbuild⟩ := tasks_config hverb
  have hdelete : command.verb ≠ .delete := by simp [hverb]
  have hfailed {stop : Stop} {after : World}
      (h : generate current command world = (.error stop, after))
      (htree : after.tree = world.tree) :
      (command.run current world).1.code ≠ 0
        ∧ (command.run current world).2.tree = world.tree := by
    obtain ⟨hexit, hafter⟩ := run_of_generate hdelete h
    rw [hexit, hafter]
    exact ⟨Nat.one_ne_zero, htree⟩
  by_cases hunknown : ∀ root known, (projectRoot current command world).1 = .ok root →
      ¬ (knownOf root).Finds world.tree known
  · obtain ⟨stop, after, hgenerate, htree⟩ := generate_of_unknown hunknown
    exact Or.inl (hfailed hgenerate htree)
  simp only [not_forall, not_not] at hunknown
  obtain ⟨root, known, hroot, hknown⟩ := hunknown
  obtain ⟨-, hup⟩ := projectRoot_eq_ok hroot
  obtain ⟨between, htree, hgenerate⟩ := generate_of_known hroot hknown
  obtain ⟨hkeeps, hgood⟩ := yields_settle known command.tasks.ask between
  rcases hsettle : settle known command.tasks.ask between with ⟨stop | config, settled⟩
  · rw [hsettle] at hkeeps
    rw [bind_of_error hsettle] at hgenerate
    exact Or.inl (hfailed hgenerate (hkeeps.trans htree))
  rw [hsettle] at hkeeps hgood
  rw [bind_of_ok hsettle] at hgenerate
  obtain ⟨husable, hjoined, hwhole⟩ := hgood config rfl
  obtain ⟨last, hlast, hperform⟩ := exists_perform root known config command.tasks settled
  have htree' : last.tree = world.tree := hlast.trans (hkeeps.trans htree)
  rw [hperform] at hgenerate
  rcases perform_configure root known.kind config hconfigure hbuild last with
    ⟨stop, after, hends, hafter⟩ | ⟨result, after, hends, hdone, hwrite⟩
  · exact Or.inl (hfailed (hgenerate.trans hends) (hafter.trans htree'))
  · obtain ⟨hexit, hafter⟩ := run_of_generate hdelete (hgenerate.trans hends)
    rw [hexit, hafter, code_eq_zero_iff, exit_eq_done_iff]
    rw [htree'] at hwrite
    have hread := Config.read_of_write_step (by decide) hwrite
    have hjoined' := hjoined (read_of_knownOf hknown).1
    refine Or.inr ⟨root, config, hroot, hdone, fun hask => ?_, fun place hplace => ?_,
      Config.finds_load_of_read hjoined' hread, husable, fun current' build later hverb' hroot' hsame => ?_⟩
    · exact ⟨hwhole hask _ (by simp [Config.texts]), hwhole hask _ (by simp [Config.texts])⟩
    · obtain ⟨_, -, hne, htree⟩ := write_eq_ok hwrite
      rw [htree, entry?_put hne, if_neg]
      rintro rfl
      exact hplace (configPlace_eq hup)
    · exact goesBy_of_load hverb' hroot'
        (Config.finds_load_of_read hjoined' (hsame.trans hread)) husable

/-- The package file of some books, by their name and the one library that they depend on. -/
def booksPackage (name library : String) : Bytes :=
  Text.toBytes
    ("\x7b\"name\": \"" ++ name ++ "\", \"dependencies\": \x7b\"" ++ library
      ++ "\": \"1.0.0\"\x7d\x7d").toList

/-- A project that consists of its package file. -/
def books : World where
  tree := ⟨[(["books".toList], .folder),
    (["books".toList, Project.packageFile], .file (booksPackage "books" "express"))]⟩

/-- The path of the books. -/
def booksPath : Path := ⟨['/'], ["books".toList]⟩

/-- The configuration that the books show of themselves. -/
def booksConfig : Config where
  name := "books".toList
  main := "/src/index.js".toList
  schema := "/models".toList

/-- The command that configures and asks nothing. -/
def configureAuto : Command := { verb := .config, set := [(.auto, true)] }

/-- The books after they were configured, given another name and another library. -/
def journals : World where
  tree := (configureAuto.run booksPath books).2.tree.put ["books".toList, Project.packageFile]
    (.file (booksPackage "journals" "mongoose"))

/-- The books are configured by what they show of themselves, and are built by it under any other
    name. -/
theorem configuration_of_books :
    (configureAuto.run booksPath books).1.code = 0
      ∧ ((survey booksPath journals).1.toOption.map fun known => known.orm)
        = some "mongoose".toList
      ∧ GoesBy booksConfig booksPath booksPath { verb := .build } journals := by
  have hcode : (configureAuto.run booksPath books).1.code = 0 := by decide +kernel
  obtain ⟨root, config, hroot, -, -, -, hload, -, hlater⟩ :=
    (configuration_of_run booksPath (rfl : configureAuto.verb = .config) books).resolve_left
      (fun h => h.1 hcode)
  have hbooks : (projectRoot booksPath configureAuto books).1 = .ok booksPath := by decide +kernel
  obtain rfl : root = booksPath := Except.ok.inj (hroot.symm.trans hbooks)
  have hfound : (Config.load booksPath).Finds (configureAuto.run booksPath books).2.tree
      (some booksConfig) := by
    unfold Survey.Finds
    decide +kernel
  obtain rfl : config = booksConfig := Option.some.inj (hload.unique hfound)
  exact ⟨hcode, by decide +kernel, hlater booksPath { verb := .build } journals rfl
    (by decide +kernel) (by decide +kernel)⟩

/-- The books under a name that is half of a surrogate pair. -/
def namelessBooks : World where
  tree := ⟨[(["books".toList], .folder),
    (["books".toList, Project.packageFile], .file (booksPackage "\\ud800" "express"))]⟩

/-- The books are configured, and then the terminal refuses their name. -/
theorem configuration_of_namelessBooks :
    (configureAuto.run booksPath namelessBooks).1.code ≠ 0
      ∧ (configureAuto.run booksPath namelessBooks).2.tree ≠ namelessBooks.tree := by
  decide +kernel

end ApiScan.CommandLine
