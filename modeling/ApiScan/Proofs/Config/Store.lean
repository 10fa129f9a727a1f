import ApiScan.Config
import ApiScan.Config.Store
import ApiScan.Proofs.Docs.Found
import ApiScan.Proofs.Docs.Stored
import ApiScan.Proofs.Json.Plain
import ApiScan.Proofs.Json.Read
import ApiScan.Proofs.Tree.MakeFolders
import ApiScan.Proofs.Work

set_option autoImplicit false

/-! # The configuration file

A configuration that is written as an object is the configuration that the object holds. Through a
file it comes back if no text in it holds halves to be joined, and no text of a configuration that
was itself read from a file does.

A configuration is found exactly if the file holds the text of an object that holds the
configuration. Whatever spelling it was read from, it is written in one form: every field under its
own name, a choice by its name, in ASCII. What is saved is found again by every project whose file
still holds what was written, and saved again it is the same text. -/

namespace ApiScan.Config

open ApiScan.Tree
open ApiScan.Json (Settled SettledFields)

variable {root path : Path} {fields : Json.Fields} {config : Config} {tree tree' : Tree}

/-! ## Texts -/

/-- The texts of a configuration. -/
def texts (config : Config) : List Points :=
  [config.name, config.version, config.description, config.baseurl, config.main, config.schema,
    config.routes, config.docs]

/-- No text of a configuration holds halves to be joined. -/
def Joined (config : Config) : Prop := ∀ text ∈ config.texts, Points.joined text = text

theorem joined_iff : config.Joined ↔
    Points.joined config.name = config.name ∧ Points.joined config.version = config.version
      ∧ Points.joined config.description = config.description
      ∧ Points.joined config.baseurl = config.baseurl ∧ Points.joined config.main = config.main
      ∧ Points.joined config.schema = config.schema ∧ Points.joined config.routes = config.routes
      ∧ Points.joined config.docs = config.docs := by
  simp [Joined, texts]

theorem joined_of_settled {text : Points} (h : Settled (.str text)) :
    Points.joined text = text := Json.str.inj h.reread_eq

/-- A text field takes its default value or a text of the object. -/
theorem readField_text (names : List String) (unset : Points) (fields : Json.Fields) :
    (readField names unset readText fields).1 = unset
      ∨ ∃ name, (name, Json.str (readField names unset readText fields).1) ∈ fields := by
  unfold readField
  split
  · exact Or.inl rfl
  · next found hfound =>
      obtain ⟨name, -, hget⟩ := List.exists_of_findSome?_eq_some hfound
      obtain ⟨value, hvalue, he⟩ := Option.map_eq_some_iff.1 hget
      obtain ⟨rfl, rfl⟩ := Prod.mk.inj he
      cases value with
      | str text => exact Or.inr ⟨_, Assoc.mem_of_get?_eq_some hvalue⟩
      | _ => exact Or.inl rfl

theorem joined_readField (h : ∀ name text, (name, Json.str text) ∈ fields → Points.joined text = text)
    (names : List String) (unset : Text) :
    Points.joined (readField names (Points.ofText unset) readText fields).1
      = (readField names (Points.ofText unset) readText fields).1 := by
  obtain hunset | ⟨name, hmem⟩ := readField_text names (Points.ofText unset) fields
  · rw [hunset]
    exact Points.joined_ofText unset
  · exact h name _ hmem

/-- **A configuration that is read from an object of joined texts has joined texts.** -/
theorem joined_of_fields (h : ∀ name text, (name, Json.str text) ∈ fields → Points.joined text = text)
    (hconfig : ofFields? fields = .ok config) : config.Joined := by
  unfold ofFields? at hconfig
  dsimp only at hconfig
  split at hconfig
  · obtain rfl := Except.ok.inj hconfig
    have htext := joined_readField h
    exact joined_iff.2 ⟨htext _ [], htext _ "1.0.0".toList, htext _ [],
      htext _ "http://localhost:3000".toList, htext _ [], htext _ [], htext _ "/routes".toList,
      htext _ "/docs".toList⟩
  · exact nomatch hconfig

theorem joined_of_ofFields? (h : SettledFields fields) (hconfig : ofFields? fields = .ok config) :
    config.Joined :=
  joined_of_fields (fun _ _ hmem => joined_of_settled (h.settled _ hmem)) hconfig

/-! ## Objects -/

theorem settled_toJson (h : config.Joined) : Settled config.toJson := by
  obtain ⟨hname, hversion, hdescription, hbaseurl, hmain, hschema, hroutes, hdocs⟩ := joined_iff.1 h
  have hstr {text : Points} (htext : Points.joined text = text) : Settled (.str text) :=
    ⟨trivial, congrArg Json.str htext⟩
  have hnodup : ["name", "version", "description", "authorization", "baseurl", "main", "database",
      "schema", "routes", "docs", "gitignore"].Nodup := by decide
  refine Json.settled_object (Json.settledFields_named ?_ ?_)
  · exact hnodup
  · simp only [List.forall_mem_cons]
    exact ⟨hstr hname, hstr hversion, hstr hdescription, Json.settled_str _, hstr hbaseurl,
      hstr hmain, Json.settled_str _, hstr hschema, hstr hroutes, hstr hdocs, ⟨trivial, rfl⟩,
      List.forall_mem_nil _⟩

/-- A field that is present is read under its first name. -/
theorem readField_of_get? {α : Type} {name : String} {more : List String} {unset a : α}
    {read : Json → Except Issue α} {value : Json}
    (hget : Assoc.get? (Points.ofText name.toList) fields = some value) (hread : read value = .ok a) :
    readField (name :: more) unset read fields = (a, []) := by
  unfold readField
  rw [List.findSome?_cons, hget]
  simp only [Option.map_some, hread]

theorem readChoice_authorization (authorization : Authorization) :
    readChoice .none Authorization.ofName? (.str authorization.name) = .ok authorization := by
  cases authorization <;> rfl

theorem readChoice_database (database : Database) :
    readChoice .unknown Database.ofName? (.str database.name) = .ok database := by
  cases database <;> rfl

/-- **The object of a configuration holds the configuration.** -/
theorem ofFields?_toJson (config : Config) : ofFields? config.toJson.fields = .ok config := by
  have hauthorization : readField ["authorization"] .none
      (readChoice .none Authorization.ofName?) config.toJson.fields = (config.authorization, []) :=
    readField_of_get? rfl (readChoice_authorization config.authorization)
  have hdatabase : readField ["database"] .unknown
      (readChoice .unknown Database.ofName?) config.toJson.fields = (config.database, []) :=
    readField_of_get? rfl (readChoice_database config.database)
  unfold ofFields?
  dsimp only
  rw [hauthorization, hdatabase]
  rfl

/-! ## Loading -/

theorem finds_load_some_iff :
    (load root).Finds tree (some config) ↔
      tree.present (pathIn root) = .ok true ∧
        ∃ fields, (Survey.document (pathIn root)).Finds tree (.ok (.object fields))
          ∧ ofFields? fields = .ok config := by
  unfold load
  dsimp only
  rw [Survey.finds_bind]
  constructor
  · rintro ⟨found, hpresent, hrest⟩
    cases found with
    | false => exact nomatch Survey.finds_pure.1 hrest
    | true =>
        obtain ⟨doc?, hdocument, hrest⟩ := Survey.finds_bind.1 hrest
        refine ⟨Survey.finds_ask.1 hpresent, ?_⟩
        rcases doc? with fault | doc
        · exact absurd hrest Survey.not_finds_fail
        · cases doc with
          | object fields =>
              dsimp only at hrest
              split at hrest
              · next hfields =>
                  obtain rfl := Option.some.inj (Survey.finds_pure.1 hrest)
                  exact ⟨fields, hdocument, hfields⟩
              · exact absurd hrest Survey.not_finds_fail
          | _ => exact absurd hrest Survey.not_finds_fail
  · rintro ⟨hpresent, fields, hdocument, hfields⟩
    refine ⟨true, Survey.finds_ask.2 hpresent, Survey.finds_bind.2 ⟨_, hdocument, ?_⟩⟩
    simp only [hfields]
    rfl

/-- A configuration that is loaded has joined texts. -/
theorem joined_of_load (h : (load root).Finds tree (some config)) : config.Joined := by
  obtain ⟨-, fields, hdocument, hfields⟩ := finds_load_some_iff.1 h
  obtain ⟨text, -, hjson⟩ := Docs.finds_document_ok_iff.1 hdocument
  exact joined_of_ofFields? (Json.settledFields_of_read hjson) hfields

/-! ## Saving -/

/-- **A file that holds the text of a configuration is loaded as the configuration.** -/
theorem finds_load_of_read (hjoined : config.Joined)
    (h : tree.read (pathIn root) = .ok (Text.toBytes config.text)) :
    (load root).Finds tree (some config) := by
  obtain ⟨place, hlocate⟩ := read_eq_ok_iff.1 h
  have hpresent : tree.present (pathIn root) = .ok true := by
    unfold present status
    rw [hlocate]
    rfl
  have htext : Docs.textAt? tree (pathIn root) = some config.text := by
    refine Docs.textAt?_eq_some_iff.2 ⟨_, h, ?_⟩
    rw [Text.ofBytes?_toBytes]
    exact congrArg some (Json.unifyBreaks_text config.toJson)
  refine finds_load_some_iff.2 ⟨hpresent, config.toJson.fields, ?_, ofFields?_toJson config⟩
  exact Docs.finds_document_ok_iff.2 ⟨_, htext, (settled_toJson hjoined).read_text⟩

/-- What is written is read back, by the same path. -/
theorem read_of_write_step {path : Path} {name : Text} {content : Bytes} (hup : name ≠ Path.up)
    (h : tree.write (path.step name) (fun _ => content) = .ok tree') :
    tree'.read (path.step name) = .ok content := by
  have hkeeps := keepsFolders_write h
  obtain ⟨target, hlocate, -⟩ := Yaml.Value.bind_eq_ok h
  obtain ⟨folder, hfolder⟩ := exists_folder_of_follow_append (locate_eq_ok.1 hlocate).2
    (List.cons_ne_nil name [])
  obtain ⟨hname, -, rfl⟩ := write_step_eq_ok hfolder hup h
  refine read_step (LeadsTo.of_keepsFolders hkeeps hfolder) hname ?_
  rw [entry?_put (append_singleton_ne_nil folder name), if_pos rfl]

/-- A configuration is saved by one write, or not at all. -/
theorem save_cases (root : Path) (config : Config) (tree : Tree) :
    ((save root config tree).1 = tree ∧ ∃ failure, (save root config tree).2.2 = .error failure)
      ∨ ∃ tree', tree.write (pathIn root) (fun _ => Text.toBytes config.text) = .ok tree'
        ∧ (save root config).Ends tree tree' (pathIn root) := by
  cases hwrite : tree.write (pathIn root) fun _ => Text.toBytes config.text with
  | error fault =>
      have hchange : Work.write (pathIn root) config.text tree
          = (tree, [], .error (.file fault (pathIn root))) := by
        simp only [Work.write, Work.change, hwrite]
      left
      unfold save
      rw [Work.bind_of_error hchange]
      exact ⟨rfl, _, rfl⟩
  | ok tree' =>
      exact Or.inr ⟨tree', rfl, Work.ends_bind.2 ⟨tree', (), Work.ends_change.2 hwrite, rfl, rfl⟩⟩

/-- **A configuration is saved** where the root of the project is a folder that takes the file, and
    then the tree has the file and is otherwise as it was. -/
theorem ends_save_iff :
    (save root config).Ends tree tree' path ↔
      path = pathIn root ∧ ∃ folder, LeadsTo tree root folder
        ∧ TakesIn tree root folder [Failure.configFile]
        ∧ tree' = tree.putIn folder [(Failure.configFile, Text.toBytes config.text)] := by
  have hup : Failure.configFile ≠ Path.up := by decide
  constructor
  · intro h
    obtain ⟨between, _, hwrite, hrest⟩ := Work.ends_bind.1 h
    obtain ⟨_, _, htell, hpure⟩ := Work.ends_bind.1 hrest
    obtain ⟨rfl, -⟩ := Work.ends_survey.1 htell
    obtain ⟨rfl, rfl⟩ := Work.ends_pure.1 hpure
    -- the path of the file leads through the root
    obtain ⟨target, hlocate, -⟩ := Yaml.Value.bind_eq_ok (Work.ends_change.1 hwrite)
    obtain ⟨folder, hfolder⟩ := exists_folder_of_follow_append (locate_eq_ok.1 hlocate).2
      (List.cons_ne_nil Failure.configFile [])
    exact ⟨rfl, folder, hfolder, (Docs.ends_write_iff hfolder hup).1 hwrite⟩
  · rintro ⟨rfl, folder, hfolder, hput⟩
    exact Work.ends_bind.2 ⟨tree', (), (Docs.ends_write_iff hfolder hup).2 hput, rfl, rfl⟩

/-- A configuration that has been saved is in its file, and saving it again changes nothing. -/
theorem read_and_ends_of_save (h : (save root config).Ends tree tree' path) :
    tree'.read (pathIn root) = .ok (Text.toBytes config.text)
      ∧ (save root config).Ends tree' tree' path := by
  obtain ⟨rfl, folder, hfolder, htakes, rfl⟩ := ends_save_iff.1 h
  have hholds := holds_putIn tree folder [(Failure.configFile, Text.toBytes config.text)]
  have hleads : LeadsTo (tree.putIn folder [(Failure.configFile, Text.toBytes config.text)]) root
      folder := leadsTo_putIn hfolder htakes
  refine ⟨read_step hleads (htakes _ List.mem_cons_self).1 (hholds _ _ rfl), ?_⟩
  exact ends_save_iff.2 ⟨rfl, folder, hleads, takesIn_putIn htakes, hholds.putIn_eq.symm⟩

/-! ## Loading what was saved -/

/-- **A configuration that an object of whole characters holds is saved and loaded without loss.**
    Its own object holds it, too, and has a text in plain ASCII that reads as the object. It is saved
    exactly where the root is a folder that takes the file; then the file has the text, the
    configuration is loaded from it, and saving that one again leaves everything as it is. -/
theorem saved_and_loaded (hconfig : ofFields? fields = .ok config)
    (hwhole : ∀ name text, (name, Json.str text) ∈ fields → Json.IsWholeText text) :
    ofFields? config.toJson.fields = .ok config
      ∧ Json.read config.text = .ok config.toJson
      ∧ config.text.all Json.isPlain = true
      ∧ ∀ root tree,
        ((∃ tree' path, (save root config).Ends tree tree' path) ↔
          ∃ folder, LeadsTo tree root folder ∧ TakesIn tree root folder [Failure.configFile])
        ∧ ∀ tree' path, (save root config).Ends tree tree' path →
          tree'.read (pathIn root) = .ok (Text.toBytes config.text)
            ∧ (load root).Finds tree' (some config)
            ∧ ∀ loaded, (load root).Finds tree' (some loaded) →
              (save root loaded).Ends tree' tree' (pathIn root) := by
  have hjoined : config.Joined :=
    joined_of_fields (fun name text hmem => (hwhole name text hmem).joined_eq) hconfig
  refine ⟨ofFields?_toJson config, (settled_toJson hjoined).read_text,
    Json.all_isPlain_print 0 rfl config.toJson, fun root tree => ⟨?_, fun tree' path hsave => ?_⟩⟩
  · constructor
    · rintro ⟨tree', path, hsave⟩
      obtain ⟨-, folder, hfolder, htakes, -⟩ := ends_save_iff.1 hsave
      exact ⟨folder, hfolder, htakes⟩
    · rintro ⟨folder, hfolder, htakes⟩
      exact ⟨_, _, ends_save_iff.2 ⟨rfl, folder, hfolder, htakes, rfl⟩⟩
  · obtain ⟨hread, hagain⟩ := read_and_ends_of_save hsave
    have hload := finds_load_of_read hjoined hread
    obtain ⟨rfl, -⟩ := ends_save_iff.1 hsave
    refine ⟨hread, hload, fun loaded hloaded => ?_⟩
    obtain rfl : loaded = config := Option.some.inj (hloaded.unique hload)
    exact hagain

/-- A configuration in mixed case, under both names of the schema folder and with a field that is
    not known. -/
def shopFields : Json.Fields := Json.named [
  ("schema_path", .ofString "/old"),
  ("name", .ofString "Büro \"😀\"\n"),
  ("authorization", .ofString "BASIC"),
  ("database", .null),
  ("schema", .ofString "/models"),
  ("gitignore", .ofString "OFF"),
  ("owner", .list [.ofString "me"])]

/-- What the fields hold. -/
def shopConfig : Config where
  name := Points.ofText "Büro \"😀\"\n".toList
  authorization := .basic
  schema := Points.ofText "/models".toList
  gitignore := false

/-- The path of a project at the top. -/
def shopPath : Path := ⟨['/'], []⟩

/-- The configuration is loaded from the file that it was saved in, and the file keeps its text. -/
theorem shopConfig_saved_and_loaded :
    ofFields? shopFields = .ok shopConfig
      ∧ (∀ name text, (name, Json.str text) ∈ shopFields → Json.IsWholeText text)
      ∧ ∃ tree', (save shopPath shopConfig).Ends {} tree' (pathIn shopPath)
        ∧ (load shopPath).Finds tree' (some shopConfig)
        ∧ (save shopPath shopConfig).Ends tree' tree' (pathIn shopPath) := by
  have hconfig : ofFields? shopFields = .ok shopConfig := by decide +kernel
  have hwhole : ∀ name text, (name, Json.str text) ∈ shopFields → Json.IsWholeText text := by
    intro name text hmem
    simp only [shopFields, Json.named, Json.ofString, List.map_cons, List.map_nil, List.mem_cons,
      List.not_mem_nil, or_false, Prod.mk.injEq, Json.str.injEq, reduceCtorEq, and_false,
      false_or] at hmem
    rcases hmem with ⟨-, rfl⟩ | ⟨-, rfl⟩ | ⟨-, rfl⟩ | ⟨-, rfl⟩ | ⟨-, rfl⟩ <;> exact ⟨_, rfl⟩
  obtain ⟨-, -, -, hsaved⟩ := saved_and_loaded hconfig hwhole
  obtain ⟨hsaves, hloads⟩ := hsaved shopPath {}
  have hfits : TakesIn {} shopPath [] [Failure.configFile] :=
    List.forall_mem_singleton.2 ⟨by decide +kernel, (Option.some_ne_none _).symm⟩
  obtain ⟨tree', path, hsave⟩ := hsaves.2 ⟨[], rfl, hfits⟩
  obtain ⟨-, hload, hagain⟩ := hloads tree' path hsave
  obtain ⟨rfl, -⟩ := ends_save_iff.1 hsave
  exact ⟨hconfig, hwhole, tree', hsave, hload, hagain _ hload⟩

end ApiScan.Config
