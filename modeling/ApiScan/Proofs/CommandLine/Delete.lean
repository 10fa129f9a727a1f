import ApiScan.Proofs.CommandLine.Session
import ApiScan.Proofs.Tree.Removed
import ApiScan.Proofs.Tree.WellFormed

set_option autoImplicit false

/-! # What is deleted

Deleting what was generated for a project takes away the configuration and the folder that the docs
value leads to. A value without steps up leads to a folder inside the project. A value with steps up
may lead anywhere: it is compared with the path of the project as it is written, and everything
below the place that it leads to is lost. -/

namespace ApiScan.CommandLine

open ApiScan.Tree Session

variable {current root docs : Path} {command : Command} {config : Config} {world world' : World}
  {tree : Tree} {place folder : Place}

/-! ## Deleting -/

/-- The deletion goes ahead: nothing is asked, or the answer is yes. -/
def Confirmed (command : Command) (world : World) : Prop :=
  command.tasks.ask = false ∨ (Config.askDelete world.input).2.map Prod.fst = some true

/-- The places that are lost when a docs path is deleted: the folder that it leads to, unless it is
    the project itself as it is written, and everything below. -/
def OfDocs (root docs : Path) (tree : Tree) (place : Place) : Prop :=
  docs ≠ root ∧ ∃ folder, tree.folder? docs = .ok (some folder) ∧ folder <+: place

/-- A docs value without steps up leads into the project. -/
theorem eq_of_not_mem_up {value : Text} (hup : Path.up ∉ root.steps)
    (hsteps : Path.up ∉ Path.stepsUnder value)
    (hfolder : tree.folder? (root.under value) = .ok (some folder)) :
    folder = root.steps ++ Path.stepsUnder value := by
  have hleads := (folder?_eq_some.1 hfolder).2
  rw [place_of_follow hleads, Path.under_eq]
  exact Path.foldl_takeStep (fun h => (List.mem_append.1 h).elim hup hsteps) []

theorem losesOnly_deleteDocs (root docs : Path) (world : World) :
    LosesOnly (OfDocs root docs world.tree) world.tree ((deleteDocs root docs).treeAfter world) := by
  refine treeAfter_bind _ (LosesOnly.refl _ _) fun found world' hlook _ => ?_
  obtain ⟨hfound, htree⟩ := look_eq_ok hlook
  obtain ⟨place?, hplace, rfl⟩ := Survey.finds_isFolder.1 hfound
  split
  · next hboth =>
      rw [Bool.and_eq_true, decide_eq_true_eq] at hboth
      obtain ⟨folder, rfl⟩ := Option.isSome_iff_exists.1 hboth.1
      obtain ⟨hfits, hleads⟩ := folder?_eq_some.1 hplace
      refine treeAfter_bind _ ?_ fun _ _ _ h => h
      rw [treeAfter_work, htree]
      exact (losesOnly_removeFolder hfits hleads).1.mono fun _ hbelow =>
        ⟨hboth.2, folder, hplace, hbelow⟩
  · rw [Session.warn, treeAfter_report, htree]
    exact LosesOnly.refl _ _

/-- Everything below the folder that a docs path leads to is gone. -/
theorem entry?_deleteDocs (hne : docs ≠ root) (hfolder : world.tree.folder? docs = .ok (some folder))
    (hbelow : folder <+: place) (hplace : place ≠ folder) :
    Tree.entry? ((deleteDocs root docs).treeAfter world) place = none := by
  obtain ⟨log, hlook⟩ := look_of_finds world (Survey.finds_isFolder.2 ⟨_, hfolder, rfl⟩)
  unfold deleteDocs
  rw [treeAfter_bind_of_ok hlook, if_pos (by simpa using hne)]
  obtain ⟨hfits, hleads⟩ := folder?_eq_some.1 hfolder
  refine treeAfter_bind (fun tree => tree.entry? place = none) ?_ fun _ _ _ h => h
  exact (losesOnly_removeFolder hfits hleads).2 place hbelow hplace

theorem losesOnly_remove (hup : Path.up ∉ root.steps) (tree : Tree) :
    LosesOnly (configPlace root <+: ·) tree (Config.remove root tree).1 := by
  unfold Config.remove
  cases hremove : tree.remove (Config.pathIn root) with
  | ok tree' =>
      obtain ⟨_, -, rfl⟩ := remove_eq_ok hremove
      rw [configPlace_eq hup]
      exact losesOnly_erase tree _
  | error fault =>
      cases fault
      all_goals exact LosesOnly.refl _ tree

/-- Show what was deleted. -/
def concludeDeletion (config : Config) (removed : Bool) : Session Exit := do
  if removed then
    Session.say (Failure.configFile ++ " has been removed".toList)
  Session.sayPoints (title config ++ Points.ofText " has been De-Swagged!".toList)
  return .done

theorem treeAfter_concludeDeletion (config : Config) (removed : Bool) (world : World) :
    (concludeDeletion config removed).treeAfter world = world.tree := by
  have hlast (world' : World) : treeAfter (do
      sayPoints (title config ++ Points.ofText " has been De-Swagged!".toList)
      return Exit.done) world' = world'.tree :=
    treeAfter_bind (· = world'.tree) (treeAfter_sayPoints _ world') fun _ _ _ h => h
  cases removed with
  | false => exact hlast world
  | true =>
      obtain ⟨world', htree, hsay⟩ := (talks_say _).exists_world world
      exact (treeAfter_bind_of_ok hsay).trans ((hlast world').trans htree)

/-- Delete the docs folder and the configuration of a project. -/
def deleteAll (root : Path) (config : Config) : Session Exit := do
  deleteDocs root (root.under config.docs.inPath)
  concludeDeletion config (← Session.work (Config.remove root))

theorem losesOnly_deleteAll (hup : Path.up ∉ root.steps) (config : Config) (world : World) :
    LosesOnly (fun place => configPlace root <+: place
        ∨ OfDocs root (root.under config.docs.inPath) world.tree place)
      world.tree ((deleteAll root config).treeAfter world) := by
  refine treeAfter_bind _ ((losesOnly_deleteDocs _ _ world).mono fun _ => Or.inr) fun _ world' _ h => ?_
  refine treeAfter_bind _ ?_ fun removed world'' _ h' => ?_
  · rw [treeAfter_work]
    exact h.trans ((losesOnly_remove hup world'.tree).mono fun _ => Or.inl)
  · rwa [treeAfter_concludeDeletion]

theorem entry?_deleteAll (hup : Path.up ∉ root.steps)
    (hne : root.under config.docs.inPath ≠ root)
    (hfolder : world.tree.folder? (root.under config.docs.inPath) = .ok (some folder))
    (hbelow : folder <+: place) (hplace : place ≠ folder) :
    Tree.entry? ((deleteAll root config).treeAfter world) place = none := by
  refine treeAfter_bind (fun tree => tree.entry? place = none)
    (entry?_deleteDocs hne hfolder hbelow hplace) fun _ world' _ h => ?_
  refine treeAfter_bind (fun tree => tree.entry? place = none) ?_ fun removed world'' _ h' => ?_
  · rw [treeAfter_work]
    exact (losesOnly_remove hup world'.tree).entry?_eq_none h
  · rwa [treeAfter_concludeDeletion]

/-! ## The command -/

theorem tree_run (hverb : command.verb = .delete) :
    (command.run current world).2.tree = (delete current command).treeAfter world := by
  have hsession : command.session current = delete current command := by
    rw [Command.session, hverb]
  unfold Command.run treeAfter
  rw [hsession]
  rcases delete current command world with ⟨failure | exit, world'⟩
  · rfl
  · rfl

/-- What is done with the configuration that was read. -/
def deleteIfConfirmed (command : Command) (root : Path) (config : Config) : Session Exit := do
  if command.tasks.ask then
    if !(← Session.converse Config.askDelete) then return .done
  deleteAll root config

theorem treeAfter_delete (hroot : (projectRoot current command world).1 = .ok root)
    (hload : (Config.load root).Finds world.tree (some config)) (hname : config.name ≠ []) :
    ∃ log, (delete current command).treeAfter world
      = (deleteIfConfirmed command root config).treeAfter { world with log } := by
  obtain ⟨hroot', -⟩ := projectRoot_eq_ok hroot
  obtain ⟨log, hlook⟩ := look_of_finds world hload
  refine ⟨log, ?_⟩
  have hsaved : (some config).filter (fun config => !config.name.isEmpty) = some config := by
    simp [hname]
  unfold delete
  rw [treeAfter_bind_of_ok hroot', treeAfter_bind_of_ok hlook, hsaved]
  rfl

/-- Without a confirmation the tree stays as it is. -/
theorem treeAfter_deleteIfConfirmed_of_not (h : ¬ Confirmed command world) :
    (deleteIfConfirmed command root config).treeAfter world = world.tree := by
  unfold Confirmed at h
  rw [not_or, Bool.not_eq_false] at h
  unfold deleteIfConfirmed
  rw [if_pos h.1]
  refine treeAfter_bind (fun tree => tree = world.tree) (treeAfter_converse _ _) ?_
  intro yes world' hconverse htree
  cases yes with
  | false => exact htree
  | true => exact absurd (exists_converse_eq_ok.1 ⟨world', hconverse, htree⟩) h.2

/-- With a confirmation all that was generated goes. -/
theorem treeAfter_deleteIfConfirmed (root : Path) (config : Config)
    (h : Confirmed command world) :
    ∃ world', world'.tree = world.tree
      ∧ (deleteIfConfirmed command root config).treeAfter world
        = (deleteAll root config).treeAfter world' := by
  unfold deleteIfConfirmed
  by_cases hask : command.tasks.ask = true
  · obtain ⟨world', hconverse, htree⟩ := exists_converse_eq_ok.2
      (h.resolve_left (by simp [hask]))
    rw [if_pos hask, treeAfter_bind_of_ok hconverse]
    exact ⟨world', htree, rfl⟩
  · rw [if_neg hask]
    exact ⟨world, rfl, rfl⟩

/-- **What a deletion takes away.** Without a confirmation the tree stays as it is. With one, the
    configuration goes, and the folder that the docs value leads to loses everything below it.
    Nothing else is lost: for a value without steps up the folder is inside the project. A value
    with steps up may lead to the project itself, or out of it. -/
theorem tree_of_delete (htree : world.tree.WellFormed) (hverb : command.verb = .delete)
    (hroot : (projectRoot current command world).1 = .ok root)
    (hload : (Config.load root).Finds world.tree (some config)) (hname : config.name ≠ []) :
    (¬ Confirmed command world → (command.run current world).2.tree = world.tree)
      ∧ LosesOnly (fun place => place = configPlace root
          ∨ OfDocs root (root.under config.docs.inPath) world.tree place)
        world.tree (command.run current world).2.tree
      ∧ (Path.up ∉ Path.stepsUnder config.docs.inPath →
        LosesOnly (fun place => place = configPlace root
            ∨ (Path.stepsUnder config.docs.inPath ≠ []
              ∧ root.steps ++ Path.stepsUnder config.docs.inPath <+: place))
          world.tree (command.run current world).2.tree)
      ∧ (Confirmed command world → root.under config.docs.inPath ≠ root →
        ∀ folder, world.tree.folder? (root.under config.docs.inPath) = .ok (some folder) →
          ∀ place, folder <+: place → place ≠ folder →
            (command.run current world).2.tree.entry? place = none) := by
  obtain ⟨-, hup⟩ := projectRoot_eq_ok hroot
  obtain ⟨log, hafter⟩ := treeAfter_delete hroot hload hname
  have hnot : ¬ Confirmed command world → (command.run current world).2.tree = world.tree := by
    intro h
    rw [tree_run hverb, hafter]
    exact treeAfter_deleteIfConfirmed_of_not h
  have hall (h : Confirmed command world) : ∃ world', world'.tree = world.tree
      ∧ (command.run current world).2.tree = (deleteAll root config).treeAfter world' := by
    have hconfirmed : Confirmed command { world with log } := h
    obtain ⟨world', htree', hsame⟩ := treeAfter_deleteIfConfirmed root config hconfirmed
    exact ⟨world', htree', by rw [tree_run hverb, hafter, hsame]⟩
  have hloses : LosesOnly (fun place => place = configPlace root
        ∨ OfDocs root (root.under config.docs.inPath) world.tree place)
      world.tree (command.run current world).2.tree := by
    by_cases h : Confirmed command world
    · obtain ⟨world', htree', hsame⟩ := hall h
      have hdeleted := losesOnly_deleteAll hup config world'
      rw [htree'] at hdeleted
      rw [hsame]
      intro place
      rcases hdeleted place with hkept | ⟨hbelow | hdocs, hgone⟩
      · exact Or.inl hkept
      · by_cases hplace : place = configPlace root
        · exact Or.inr ⟨Or.inl hplace, hgone⟩
        · -- nothing stands below the file of the configuration
          obtain ⟨content, hfile⟩ := entry?_of_load hup hload
          obtain ⟨rest, rfl⟩ := hbelow
          cases he : world.tree.entry? (configPlace root ++ rest) with
          | none => exact Or.inl hgone
          | some entry =>
              have hrest : rest ≠ [] := fun hnil => hplace (by rw [hnil, List.append_nil])
              exact nomatch (htree.entry?_above hrest he).symm.trans hfile
      · exact Or.inr ⟨Or.inr hdocs, hgone⟩
    · rw [hnot h]
      exact LosesOnly.refl _ _
  refine ⟨hnot, hloses, fun hsteps => hloses.mono fun place => Or.imp_right ?_,
    fun h hne folder hfolder place hbelow hplace => ?_⟩
  · rintro ⟨hne, folder, hfolder, hbelow⟩
    obtain rfl := eq_of_not_mem_up hup hsteps hfolder
    refine ⟨fun hnil => hne ?_, hbelow⟩
    rw [Path.under_eq, hnil, List.append_nil]
  · obtain ⟨world', htree', hsame⟩ := hall h
    rw [hsame]
    rw [← htree'] at hfolder
    exact entry?_deleteAll hup hne hfolder hbelow hplace

/-- A shop whose docs value leads through its docs folder back to the shop. -/
def shop : World where
  tree := ⟨[
    (["shop"].map String.toList, .folder),
    (["shop", "docs"].map String.toList, .folder),
    (["shop", "index.js"].map String.toList, .file []),
    (["shop", "swagme.config.json"].map String.toList,
      .file (Text.toBytes "\x7b\"name\": \"shop\", \"docs\": \"docs/..\"\x7d".toList))]⟩

/-- The configuration of the shop. -/
def shopConfig : Config :=
  { name := Points.ofText "shop".toList, docs := Points.ofText "docs/..".toList }

/-- The path of the shop. -/
def shopPath : Path := ⟨['/'], ["shop".toList]⟩

/-- The command that deletes what was generated and asks nothing. -/
def deleteAuto : Command := { verb := .delete, set := [(.auto, true)] }

/-- Deleting the docs of the shop takes away a source file that is not in its docs folder. -/
theorem index_of_shop_lost :
    shop.tree.entry? (["shop", "index.js"].map String.toList) = some (.file [])
      ∧ (deleteAuto.run shopPath shop).2.tree.entry? (["shop", "index.js"].map String.toList)
        = none := by
  have htree : shop.tree.WellFormed := by decide +kernel
  have hroot : (projectRoot shopPath deleteAuto shop).1 = .ok shopPath := by decide +kernel
  have hload : (Config.load shopPath).Finds shop.tree (some shopConfig) := by
    unfold Survey.Finds
    decide +kernel
  have hfolder : shop.tree.folder? (shopPath.under shopConfig.docs.inPath)
      = .ok (some ["shop".toList]) := by decide +kernel
  obtain ⟨-, -, -, hgone⟩ := tree_of_delete htree rfl hroot hload (by decide)
  exact ⟨by decide +kernel, hgone (Or.inl rfl) (by decide +kernel) _ hfolder _
    (by decide +kernel) (by decide +kernel)⟩

end ApiScan.CommandLine
