import ApiScan.Config.Store
import ApiScan.Project.Detection
import ApiScan.Proofs.Docs.Found
import ApiScan.Proofs.Failing

set_option autoImplicit false

/-! # Contents that readers foresee

Three kinds of JSON files are read: the configuration, the package file, and the documents in the
docs folder. The readers foresee a file that cannot be read and one that is no JSON text. They do
not foresee a file that is not UTF-8 and a whole number of too many digits, which end them in a
failure of another kind. -/

namespace ApiScan

variable {α β : Type} {tree : Tree} {root path docs : Path} {kind : Failure → Prop}

/-- A failure that is told as one of the configuration file. -/
def Failure.OfConfig : Failure → Prop
  | .unreadableConfig _ | .configNotAnObject _ | .invalidConfig _ => True
  | _ => False

/-- A failure that is told as one of the package file. -/
def Failure.OfPackage : Failure → Prop
  | .noPackageFile _ | .unreadablePackage _ | .noDependencies => True
  | _ => False

/-! ## Foreseen ends -/

namespace Survey

/-- The survey of a tree finds something or fails in a way of a kind. -/
def Foreseen (kind : Failure → Prop) (survey : Survey α) (tree : Tree) : Prop :=
  (∃ a, survey.Finds tree a) ∨ ∃ failure, survey.Fails tree failure ∧ kind failure

theorem foreseen_pure (a : α) : (pure a : Survey α).Foreseen kind tree := Or.inl ⟨a, rfl⟩

theorem foreseen_fail {failure : Failure} (h : kind failure) :
    (fail failure : Survey α).Foreseen kind tree := Or.inr ⟨failure, rfl, h⟩

/-- If only the first part of a survey can end in a way that is not foreseen, and its failures are
    never foreseen, then the whole is foreseen exactly if the first part finds something from which
    the rest goes on. -/
theorem foreseen_bind_iff {survey : Survey α} {next : α → Survey β}
    (h : survey.FailsOnly fun failure => ¬ kind failure) :
    (survey >>= next).Foreseen kind tree ↔
      ∃ a, survey.Finds tree a ∧ (next a).Foreseen kind tree := by
  constructor
  · rintro (⟨b, hb⟩ | ⟨failure, hfails, hkind⟩)
    · obtain ⟨a, ha, hnext⟩ := finds_bind.1 hb
      exact ⟨a, ha, Or.inl ⟨b, hnext⟩⟩
    · rcases fails_bind.1 hfails with hfirst | ⟨a, ha, hnext⟩
      · exact absurd hkind (h tree failure hfirst)
      · exact ⟨a, ha, Or.inr ⟨failure, hnext, hkind⟩⟩
  · rintro ⟨a, ha, ⟨b, hb⟩ | ⟨failure, hfails, hkind⟩⟩
    · exact Or.inl ⟨b, finds_bind.2 ⟨a, ha, hb⟩⟩
    · exact Or.inr ⟨failure, fails_bind.2 (Or.inr ⟨a, ha, hfails⟩), hkind⟩

/-- A survey that reads a document and foresees all that the document may be. -/
theorem foreseen_document_bind_iff {next : Except DocumentFault Json → Survey β}
    (hkind : ∀ failure : Failure, failure.OfFiles → ¬ kind failure)
    (hnext : ∀ document?, (next document?).Foreseen kind tree) :
    (document path >>= next).Foreseen kind tree ↔
      Docs.Decodes tree path ∧ ¬ Docs.HasLongNumber tree path := by
  rw [foreseen_bind_iff ((failsOnly_document path).mono hkind), ← Docs.exists_finds_document_iff]
  simp only [hnext, and_true]

/-! ## What documents tell -/

theorem log_ask (question : Tree → Path → Except FileFault α) (path : Path) (tree : Tree) :
    (ask question path tree).1 = [] := by
  unfold ask
  split <;> rfl

theorem log_isFolder {found : Bool} (h : (isFolder path).Finds tree found) :
    (isFolder path tree).1 = [] := by
  obtain ⟨_, hask, -⟩ := finds_bind.1 h
  unfold isFolder
  rw [log_bind hask, log_ask, List.nil_append]
  rfl

theorem log_strictText (path : Path) (tree : Tree) : (strictText path tree).1 = [] := by
  unfold strictText
  split
  · split <;> rfl
  · rfl
  · rfl

theorem log_document {document? : Except DocumentFault Json}
    (h : (document path).Finds tree document?) : (document path tree).1 = [] := by
  obtain ⟨text?, htext?, -⟩ := finds_bind.1 h
  unfold document
  rw [log_bind htext?, log_strictText, List.nil_append]
  cases text? with
  | error fault => rfl
  | ok text =>
      dsimp only
      rcases Json.read text with (_ | digits) | doc <;> rfl

end Survey

open Survey

/-! ## The configuration and the package file -/

theorem Failure.OfFiles.not_ofConfig {failure : Failure} (h : failure.OfFiles) :
    ¬ failure.OfConfig := by
  cases failure <;> first | exact id | exact absurd h id

theorem Failure.OfFiles.not_ofPackage {failure : Failure} (h : failure.OfFiles) :
    ¬ failure.OfPackage := by
  cases failure <;> first | exact id | exact absurd h id

/-- The configuration is read as foreseen exactly if its file can be asked for and, where there is
    one, is UTF-8 without a whole number that is too long. -/
theorem Config.foreseen_load_iff (root : Path) (tree : Tree) :
    (Config.load root).Foreseen Failure.OfConfig tree ↔
      ∃ found, tree.present (Config.pathIn root) = .ok found
        ∧ (found = true → Docs.Decodes tree (Config.pathIn root)
            ∧ ¬ Docs.HasLongNumber tree (Config.pathIn root)) := by
  have hkind : ∀ failure : Failure, failure.OfFiles → ¬ failure.OfConfig :=
    fun _ hfailure => hfailure.not_ofConfig
  have hpresent : (present (Config.pathIn root)).FailsOnly fun failure => ¬ failure.OfConfig :=
    (failsOnly_ask _ _).mono hkind
  unfold Config.load
  dsimp only
  rw [foreseen_bind_iff hpresent]
  refine exists_congr fun found => and_congr finds_ask ?_
  cases found with
  | false => exact ⟨fun _ h => (nomatch h), fun _ => foreseen_pure none⟩
  | true =>
      refine Iff.trans (foreseen_document_bind_iff hkind fun document? => ?_)
        ⟨fun h _ => h, fun h => h rfl⟩
      rcases document? with fault | doc
      · exact foreseen_fail trivial
      · cases doc with
        | object fields =>
            dsimp only
            split
            · exact foreseen_pure _
            · exact foreseen_fail trivial
        | _ => exact foreseen_fail trivial

/-- The package file is read as foreseen exactly if it is UTF-8 without a whole number that is too
    long. -/
theorem Project.foreseen_readPackage_iff (root : Path) (tree : Tree) :
    (Project.readPackage root).Foreseen Failure.OfPackage tree ↔
      Docs.Decodes tree (root.step Project.packageFile)
        ∧ ¬ Docs.HasLongNumber tree (root.step Project.packageFile) := by
  refine foreseen_document_bind_iff (fun _ hfailure => hfailure.not_ofPackage) fun document? => ?_
  split
  · exact foreseen_fail trivial
  · exact foreseen_fail trivial
  · split
    · exact foreseen_pure _
    · exact foreseen_fail trivial

/-- The package file that is found is an object whose dependencies are an object. -/
theorem Project.object_of_readPackage {package : Json}
    (h : (Project.readPackage root).Finds tree package) :
    ∃ fields dependencies, package = .object fields
      ∧ package.field? Project.dependenciesField = some (.object dependencies) := by
  obtain ⟨document?, -, h⟩ := finds_bind.1 h
  split at h
  · exact absurd h not_finds_fail
  · exact absurd h not_finds_fail
  · next found =>
      split at h
      · next dependencies hfield =>
          obtain rfl := finds_pure.1 h
          cases found with
          | object fields => exact ⟨fields, dependencies, rfl, hfield⟩
          | _ => exact nomatch hfield
      · exact absurd h not_finds_fail

/-! ## The docs folder -/

namespace Docs

/-- The file that a path leads to holds a JSON text. -/
def holdsJson (tree : Tree) (path : Path) : Bool :=
  ((textAt? tree path).bind fun text => (Json.read text).toOption).isSome

/-- The documents in the folder that a path leads to, in the order in which they are taken. -/
def documentsAt (tree : Tree) (path : Path) : List Json.Fields :=
  match tree.folder? path with
  | .ok (some folder) => (documentsIn tree path (tree.names folder)).map Prod.snd
  | _ => []

/-- The names of documents in the folder that a path leads to whose files hold no JSON text. -/
def passedOver (tree : Tree) (path : Path) : List Text :=
  match tree.folder? path with
  | .ok (some folder) =>
    (documentNames (tree.names folder)).filter fun name => !holdsJson tree (path.step name)
  | _ => []

/-- The folder that a path leads to can be asked for, and where there is one, each file of a
    document in it is UTF-8 without a whole number that is too long. -/
def IsForeseen (tree : Tree) (path : Path) : Prop :=
  ∃ folder?, tree.folder? path = .ok folder? ∧ ∀ folder ∈ folder?, ∀ name ∈ tree.names folder,
    Text.endsWith extension name = true →
      Decodes tree (path.step name) ∧ ¬ HasLongNumber tree (path.step name)

/-- A file that holds no JSON text is told. -/
theorem log_loadDocument {found : List Json.Fields} (h : (loadDocument path).Finds tree found) :
    (loadDocument path tree).1
      = if holdsJson tree path then [] else [.docsFileSkipped] := by
  obtain ⟨document?, hdocument, -⟩ := finds_bind.1 h
  unfold loadDocument holdsJson
  rw [log_bind hdocument, log_document hdocument, List.nil_append, ← finds_document_iff hdocument]
  rcases document? with fault | doc
  · rfl
  · cases doc <;> rfl

/-- **A folder loads as its documents**, and its files without a JSON text are told. -/
theorem finds_loadDocuments_at {found : List Json.Fields} :
    (loadDocuments path).Finds tree found ↔
      IsForeseen tree path ∧ found = documentsAt tree path := by
  unfold IsForeseen documentsAt
  constructor
  · intro hload
    obtain ⟨_, hisFolder, hrest⟩ := finds_bind.1 hload
    obtain ⟨folder?, hfolder, rfl⟩ := finds_isFolder.1 hisFolder
    rw [hfolder]
    cases folder? with
    | none => exact ⟨⟨none, rfl, fun _ h => (nomatch h)⟩, (finds_pure.1 hrest).symm⟩
    | some folder =>
        obtain ⟨hfits, hleads⟩ := Tree.folder?_eq_some.1 hfolder
        obtain ⟨hall, rfl⟩ := (finds_loadDocuments_iff hfits hleads).1 hload
        exact ⟨⟨_, rfl, fun _ h => Option.some.inj h ▸ hall⟩, rfl⟩
  · rintro ⟨⟨folder?, hfolder, hall⟩, rfl⟩
    rw [hfolder]
    cases folder? with
    | none => exact finds_bind.2 ⟨false, finds_isFolder.2 ⟨none, hfolder, rfl⟩, rfl⟩
    | some folder =>
        obtain ⟨hfits, hleads⟩ := Tree.folder?_eq_some.1 hfolder
        exact (finds_loadDocuments_iff hfits hleads).2 ⟨hall folder rfl, rfl⟩

theorem log_loadDocuments {found : List Json.Fields}
    (h : (loadDocuments path).Finds tree found) :
    (loadDocuments path tree).1 = (passedOver tree path).map fun _ => .docsFileSkipped := by
  obtain ⟨_, hisFolder, hrest⟩ := finds_bind.1 h
  obtain ⟨folder?, hfolder, rfl⟩ := finds_isFolder.1 hisFolder
  unfold loadDocuments passedOver
  rw [log_bind hisFolder, log_isFolder hisFolder, List.nil_append, hfolder]
  cases folder? with
  | none => rfl
  | some folder =>
      obtain ⟨hfits, hleads⟩ := Tree.folder?_eq_some.1 hfolder
      obtain ⟨names, hnames, hrest⟩ := finds_bind.1 hrest
      obtain ⟨parts, hparts, -⟩ := finds_bind.1 hrest
      obtain rfl : names = tree.names folder := by
        rw [Tree.names_eq]
        exact Except.ok.inj ((finds_ask.1 hnames).symm.trans (Tree.namesAt_of_leadsTo hfits hleads))
      have htold : ∀ file ∈ (documentNames (tree.names folder)).map path.step, ∀ found,
          (loadDocument file).Finds tree found →
            (loadDocument file tree).1 = if holdsJson tree file then [] else [.docsFileSkipped] :=
        fun _ _ _ => log_loadDocument
      have hnames' : (Survey.names path tree).1 = [] := log_ask _ _ _
      have hskipped (names : List Text) : (names.flatMap fun name =>
          if holdsJson tree (path.step name) then [] else [Event.docsFileSkipped])
            = (names.filter fun name => !holdsJson tree (path.step name)).map
                fun _ => .docsFileSkipped := by
        induction names with
        | nil => rfl
        | cons name more ih =>
            rw [List.flatMap_cons, ih, List.filter_cons]
            cases holdsJson tree (path.step name) <;> rfl
      refine (log_bind hnames _).trans ?_
      rw [hnames', List.nil_append, log_bind hparts, log_mapM htold hparts, List.flatMap_map]
      exact (List.append_nil _).trans (hskipped _)

/-- **The docs folder loads as the merged documents**, if its files are as foreseen, and its files
    without a JSON text are told. -/
theorem finds_load_iff {contents : Contents} :
    (load docs).Finds tree contents ↔
      (IsForeseen tree (schemasFolder docs) ∧ IsForeseen tree (routesFolder docs))
        ∧ contents = ⟨(documentsAt tree (schemasFolder docs)).foldl Assoc.update [],
            (documentsAt tree (routesFolder docs)).foldl OpenApi.mergePaths []⟩ := by
  unfold load
  simp only [finds_bind, finds_loadDocuments_at, finds_pure]
  constructor
  · rintro ⟨_, ⟨hschemas, rfl⟩, _, ⟨hroutes, rfl⟩, rfl⟩
    exact ⟨⟨hschemas, hroutes⟩, rfl⟩
  · rintro ⟨⟨hschemas, hroutes⟩, rfl⟩
    exact ⟨_, ⟨hschemas, rfl⟩, _, ⟨hroutes, rfl⟩, rfl⟩

theorem log_load {contents : Contents} (h : (load docs).Finds tree contents) :
    (load docs tree).1
      = (passedOver tree (schemasFolder docs) ++ passedOver tree (routesFolder docs)).map
          fun _ => .docsFileSkipped := by
  obtain ⟨_, hschemas, hrest⟩ := finds_bind.1 h
  obtain ⟨_, hroutes, -⟩ := finds_bind.1 hrest
  unfold load
  rw [log_bind hschemas, log_bind hroutes, log_loadDocuments hschemas, log_loadDocuments hroutes,
    List.map_append]
  exact congrArg _ (List.append_nil _)

end Docs

/-- **What the readers of JSON files foresee.** Reading the configuration gives one or none, or a
    failure told as one of its file, exactly if the file can be asked for and its content is UTF-8
    without a whole number of too many digits. Reading the package file gives an object or a failure
    told as one of that file exactly on the same condition, and reading the docs folder ends at all
    exactly if all its documents meet it; then each file without a JSON text is told and passed
    over, and the others are merged. -/
theorem foreseen_of_readers (root docs : Path) (tree : Tree) :
    ((Config.load root).Foreseen Failure.OfConfig tree ↔
      ∃ found, tree.present (Config.pathIn root) = .ok found
        ∧ (found = true → Docs.Decodes tree (Config.pathIn root)
            ∧ ¬ Docs.HasLongNumber tree (Config.pathIn root)))
    ∧ ((Project.readPackage root).Foreseen Failure.OfPackage tree ↔
      Docs.Decodes tree (root.step Project.packageFile)
        ∧ ¬ Docs.HasLongNumber tree (root.step Project.packageFile))
    ∧ (∀ package, (Project.readPackage root).Finds tree package →
      ∃ fields dependencies, package = .object fields
        ∧ package.field? Project.dependenciesField = some (.object dependencies))
    ∧ ((∃ contents, (Docs.load docs).Finds tree contents) ↔
      Docs.IsForeseen tree (Docs.schemasFolder docs)
        ∧ Docs.IsForeseen tree (Docs.routesFolder docs))
    ∧ ∀ contents, (Docs.load docs).Finds tree contents →
      contents = ⟨(Docs.documentsAt tree (Docs.schemasFolder docs)).foldl Assoc.update [],
          (Docs.documentsAt tree (Docs.routesFolder docs)).foldl OpenApi.mergePaths []⟩
        ∧ (Docs.load docs tree).1
          = (Docs.passedOver tree (Docs.schemasFolder docs)
              ++ Docs.passedOver tree (Docs.routesFolder docs)).map fun _ => .docsFileSkipped := by
  refine ⟨Config.foreseen_load_iff root tree, Project.foreseen_readPackage_iff root tree,
    fun _ => Project.object_of_readPackage, ?_, fun contents h => ?_⟩
  · simp only [Docs.finds_load_iff, exists_and_left, exists_eq, and_true]
  · exact ⟨(Docs.finds_load_iff.1 h).2, Docs.log_load h⟩

/-- A project with a configuration, a package file and a schema document of one content, and
    another schema document. -/
def threeFiles (content : Bytes) : Tree where
  entries := [
    ([Failure.configFile], .file content),
    ([Project.packageFile], .file content),
    (["docs"].map String.toList, .folder),
    (["docs", "schemas"].map String.toList, .folder),
    (["docs", "schemas", "a.json"].map String.toList, .file content),
    (["docs", "schemas", "b.json"].map String.toList,
      .file (Text.toBytes "\x7b\"User\": \x7b\x7d\x7d".toList))]

/-- A text that is not JSON is told and passed over in the docs folder. A byte that is not UTF-8
    ends each of the readers in a failure that it does not foresee. -/
theorem foreseen_of_readers_of_threeFiles :
    (∃ contents, (Docs.load (.ofText "docs".toList)).Finds (threeFiles (Text.toBytes ['[']))
        contents
      ∧ Assoc.keys contents.schemas = [Points.ofText "User".toList]
      ∧ (Docs.load (.ofText "docs".toList) (threeFiles (Text.toBytes ['[']))).1
        = [.docsFileSkipped])
    ∧ ¬ (Config.load {}).Foreseen Failure.OfConfig (threeFiles [0xff])
    ∧ ¬ (Project.readPackage {}).Foreseen Failure.OfPackage (threeFiles [0xff])
    ∧ ¬ ∃ contents, (Docs.load (.ofText "docs".toList)).Finds (threeFiles [0xff]) contents := by
  have hreaders := foreseen_of_readers {} (.ofText "docs".toList)
  have hnotText {path : Path} (hread : (threeFiles [0xff]).read path = .ok [0xff]) :
      ¬ Docs.Decodes (threeFiles [0xff]) path :=
    fun h => absurd (h.isText _ hread) (by decide)
  refine ⟨?_, fun h => ?_, fun h => ?_, fun h => ?_⟩
  · have hends : (Docs.load (.ofText "docs".toList)
        (threeFiles (Text.toBytes ['[']))).2.toOption.isSome = true := by decide +kernel
    obtain ⟨contents, hcontents⟩ := Option.isSome_iff_exists.1 hends
    have hfinds : (Docs.load (.ofText "docs".toList)).Finds (threeFiles (Text.toBytes ['[']))
        contents := eq_ok_of_mem_toOption hcontents
    obtain ⟨rfl, hlog⟩ := (hreaders _).2.2.2.2 contents hfinds
    refine ⟨_, hfinds, by decide +kernel, ?_⟩
    rw [hlog]
    decide +kernel
  · obtain ⟨found, hfound, htaken⟩ := (hreaders _).1.1 h
    obtain rfl : true = found := Except.ok.inj (hfound.symm.trans (by decide +kernel)).symm
    exact hnotText (by decide +kernel) (htaken rfl).1
  · exact hnotText (by decide +kernel) ((hreaders _).2.1.1 h).1
  · obtain ⟨⟨folder?, hfolder, hall⟩, -⟩ := (hreaders _).2.2.2.1.1 h
    obtain rfl : folder? = some (["docs", "schemas"].map String.toList) :=
      Except.ok.inj (hfolder.symm.trans (by decide +kernel))
    exact hnotText (by decide +kernel) (hall _ rfl "a.json".toList (by decide +kernel) (by decide)).1

end ApiScan
