import ApiScan.Build
import ApiScan.Proofs.Docs.Comments
import ApiScan.Proofs.Docs.Schemas
import ApiScan.Proofs.Docs.Stored
import ApiScan.Proofs.Tree.MakeFolders
import ApiScan.Proofs.Tree.WellFormed

set_option autoImplicit false

/-! # Docs folders and files at the root

A docs folder stands with its two folders of documents once it was made, and making it again changes
nothing. One that is made where nothing was yet holds two empty folders of documents. -/

namespace ApiScan.Docs

open ApiScan.Tree

variable {tree tree' : Tree} {root docs : Path} {folder place : Place} {steps : List Text}

/-- The name of the folder of schema documents. -/
abbrev schemasName : Text := "schemas".toList

/-- The name of the folder of path documents. -/
abbrev routesName : Text := "routes".toList

/-- The folders of a docs folder and those on the way to them. -/
def IsDocsFolder (docs place : Place) (entry : Entry) : Prop :=
  (place <+: docs ++ [schemasName] ∨ place <+: docs ++ [routesName]) ∧ entry = .folder

theorem not_isDocsFolder {docs : Place} (sub name : Text) (entry : Entry) :
    ¬ IsDocsFolder docs (docs ++ [sub] ++ [name]) entry := by
  have hlong (last : Text) : ¬ docs ++ [sub] ++ [name] <+: docs ++ [last] := fun h => by
    have hlength := h.length_le
    simp only [List.length_append, List.length_singleton] at hlength
    omega
  rintro ⟨h | h, -⟩
  · exact hlong _ h
  · exact hlong _ h

/-! ## Folders that stand -/

/-- The docs folder and its two folders of documents stand where their paths lead. -/
structure Stands (tree : Tree) (docs : Path) (place : Place) : Prop where
  folder : LeadsTo tree docs place
  schemas : LeadsTo tree (schemasFolder docs) (place ++ [schemasName])
  routes : LeadsTo tree (routesFolder docs) (place ++ [routesName])
  fitsSchemas : Fits (schemasFolder docs)
  fitsRoutes : Fits (routesFolder docs)

namespace Stands

theorem fits (h : Stands tree docs place) : Fits docs := fits_of_append h.fitsSchemas

theorem of_keepsFolders (h : Stands tree docs place) (hkeeps : KeepsFolders tree tree') :
    Stands tree' docs place where
  folder := h.folder.of_keepsFolders hkeeps
  schemas := h.schemas.of_keepsFolders hkeeps
  routes := h.routes.of_keepsFolders hkeeps
  fitsSchemas := h.fitsSchemas
  fitsRoutes := h.fitsRoutes

/-- A docs folder that stands is not made again. -/
theorem ends_create_iff (h : Stands tree docs place) {done : Unit} :
    (create docs).Ends tree tree' done ↔ tree' = tree := by
  constructor
  · intro hend
    obtain ⟨made, _, hmade, hend⟩ := Work.ends_bind.1 hend
    obtain ⟨made', _, hschemas, hend⟩ := Work.ends_bind.1 hend
    obtain ⟨made'', _, hroutes, hend⟩ := Work.ends_bind.1 hend
    obtain ⟨rfl, -⟩ := Work.ends_pure.1 hend
    obtain rfl := makeFolders_of_leadsTo h.folder (Work.ends_makeFolders.1 hmade)
    obtain rfl := makeFolders_of_leadsTo h.schemas (Work.ends_makeFolders.1 hschemas)
    exact makeFolders_of_leadsTo h.routes (Work.ends_makeFolders.1 hroutes)
  · rintro rfl
    refine Work.ends_bind.2 ⟨tree', (), Work.ends_makeFolders.2 (makeFolders_eq_ok h.fits h.folder), ?_⟩
    refine Work.ends_bind.2
      ⟨tree', (), Work.ends_makeFolders.2 (makeFolders_eq_ok h.fitsSchemas h.schemas), ?_⟩
    exact Work.ends_bind.2
      ⟨tree', (), Work.ends_makeFolders.2 (makeFolders_eq_ok h.fitsRoutes h.routes), rfl, rfl⟩

end Stands

/-- **A docs folder that is made stands then**, and nothing else comes in but folders on the way. -/
theorem stands_of_create (hroot : LeadsTo tree root folder) (hfits : Fits root) (hup : Path.up ∉ steps)
    {done : Unit}
    (hend : (create { root with steps := root.steps ++ steps }).Ends tree tree' done) :
    Stands tree' { root with steps := root.steps ++ steps } (folder ++ steps)
      ∧ Grows (fun place entry => folder <+: place ∧ IsDocsFolder (folder ++ steps) place entry)
          tree tree' := by
  obtain ⟨made, _, hmade, hend⟩ := Work.ends_bind.1 hend
  obtain ⟨made', _, hschemas, hend⟩ := Work.ends_bind.1 hend
  obtain ⟨made'', _, hroutes, hend⟩ := Work.ends_bind.1 hend
  obtain ⟨rfl, -⟩ := Work.ends_pure.1 hend
  obtain ⟨hleads, hfits', hgrows⟩ :=
    grows_of_makeFolders hroot hfits hup (Work.ends_makeFolders.1 hmade)
  obtain ⟨hschemasleads, hschemasfits, hgrows'⟩ :=
    grows_of_makeFolders hleads hfits' (by decide) (Work.ends_makeFolders.1 hschemas)
  have hleads' := hleads.of_keepsFolders hgrows'.keepsFolders
  obtain ⟨hroutesleads, hroutesfits, hgrows''⟩ :=
    grows_of_makeFolders hleads' hfits' (by decide) (Work.ends_makeFolders.1 hroutes)
  refine ⟨⟨hleads'.of_keepsFolders hgrows''.keepsFolders,
    hschemasleads.of_keepsFolders hgrows''.keepsFolders, hroutesleads, hschemasfits, hroutesfits⟩, ?_⟩
  have hbelow {place : Place} (h : folder ++ steps <+: place) : folder <+: place :=
    (List.prefix_append _ _).trans h
  refine ((hgrows.mono fun _ _ h => ?_).trans (hgrows'.mono fun _ _ h => ?_)).trans
    (hgrows''.mono fun _ _ h => ?_)
  · exact ⟨h.1, Or.inl (h.2.1.trans (List.prefix_append _ _)), h.2.2⟩
  · exact ⟨hbelow h.1, Or.inl h.2.1, h.2.2⟩
  · exact ⟨hbelow h.1, Or.inr h.2.1, h.2.2⟩

/-! ## New folders -/

/-- **A new docs folder holds two empty folders of documents.** -/
theorem stores_create (htree : tree.WellFormed) (hroot : LeadsTo tree root folder)
    (hfits : Fits root) (hup : Path.up ∉ steps)
    (hnew : tree.present { root with steps := root.steps ++ steps } = .ok false)
    (hend : (create { root with steps := root.steps ++ steps }).Ends tree tree' ()) :
    LeadsTo tree' { root with steps := root.steps ++ steps } (folder ++ steps)
      ∧ tree.entry? (folder ++ steps) = none
      ∧ Grows (IsDocsFolder (folder ++ steps)) tree tree'
      ∧ Stores tree' (schemasFolder { root with steps := root.steps ++ steps })
          (folder ++ steps ++ [schemasName]) []
      ∧ Stores tree' (routesFolder { root with steps := root.steps ++ steps })
          (folder ++ steps ++ [routesName]) [] := by
  obtain ⟨hstands, hgrows⟩ := stands_of_create hroot hfits hup hend
  have hall : Grows (IsDocsFolder (folder ++ steps)) tree tree' := hgrows.mono fun _ _ h => h.2
  have hsteps : ∀ name ∈ steps, IsStep name := isStep_of_follow hup
    ((follow_append (hroot.of_keepsFolders hgrows.keepsFolders)).symm.trans hstands.folder)
  have habsent := htree.entry?_eq_none hroot hstands.fits hsteps hnew
  -- nothing was below the new folder, and nothing has come in there but the two folders
  have hnone (sub name : Text) :
      tree'.entry? (folder ++ steps ++ [sub] ++ [name]) = none := by
    rw [hall.entry?_eq (not_isDocsFolder sub name)]
    cases he : tree.entry? (folder ++ steps ++ [sub] ++ [name]) with
    | none => rfl
    | some entry =>
        have hnext : folder ++ steps ++ [sub] ++ [name] = folder ++ steps ++ [sub, name] :=
          List.append_assoc _ _ _
        rw [hnext] at he
        exact nomatch (htree.entry?_above (List.cons_ne_nil _ _) he).symm.trans habsent
  exact ⟨hstands.folder, habsent, hall, stores_nil hstands.fitsSchemas hstands.schemas
    (hnone schemasName), stores_nil hstands.fitsRoutes hstands.routes (hnone routesName)⟩

end ApiScan.Docs

/-! ## The docs folder of a build

A build that makes its docs folder where nothing was yet leaves in it the schema documents of the
models, the path documents of the route groups, and the document of the comments. The comments are
looked for when all other documents are written. -/

namespace ApiScan.Docs

open ApiScan.Tree OpenApi

variable {tree tree' : Tree} {root docs : Path} {folder : Place} {steps : List Text}
  {config : Config} {models : List Model} {groups : List RouteGroup}

/-- The name of the text that explains the folder. -/
abbrev readmeName : Text := "README.md".toList

/-- What a build puts into a tree before it looks for comments. -/
inductive OfDocs (config : Config) (models : List Model) (groups : List RouteGroup) (docs : Place) :
    Place → Entry → Prop
  | folder {place : Place} {entry : Entry} (h : IsDocsFolder docs place entry) :
      OfDocs config models groups docs place entry
  | readme : OfDocs config models groups docs (docs ++ [readmeName]) (.file (Text.toBytes readme))
  | schema {place : Place} {entry : Entry}
      (h : IsDocument (docs ++ [schemasName]) (schemaDocuments models) place entry) :
      OfDocs config models groups docs place entry
  | routes {place : Place} {entry : Entry}
      (h : IsDocument (docs ++ [routesName]) (groups.map fun group =>
        (fileName group.source, pathsDocument group config.authorization)) place entry) :
      OfDocs config models groups docs place entry

/-- What a build puts into a tree are folders, and files below its docs folder. -/
theorem ofFolder_of_ofDocs {docs place : Place} {entry : Entry} (hdocs : ∀ name ∈ docs, IsName name)
    (hmodels : ∀ model ∈ models, '/' ∉ model.source)
    (hgroups : ∀ group ∈ groups, '/' ∉ group.source)
    (h : OfDocs config models groups docs place entry) : OfFolder docs place entry := by
  have hbelow (steps : List Text) (hsteps : ∀ name ∈ steps, IsName name) :
      ∀ name ∈ docs ++ steps, IsName name :=
    List.forall_mem_append.2 ⟨hdocs, hsteps⟩
  have hin {sub name : Text} (hsub : IsName sub) (hname : IsName name) :
      OfFolder docs (docs ++ [sub] ++ [name]) entry := by
    rw [List.append_assoc]
    exact ⟨hbelow _ (by simpa using ⟨hsub, hname⟩), Or.inr ⟨sub, [name], rfl⟩⟩
  cases h with
  | folder h =>
      refine ⟨fun name hn => ?_, Or.inl h.2⟩
      rcases h.1 with hfront | hfront
      · exact hbelow [schemasName] (by decide) name (hfront.subset hn)
      · exact hbelow [routesName] (by decide) name (hfront.subset hn)
  | readme => exact ⟨hbelow [readmeName] (by decide), Or.inr ⟨readmeName, [], rfl⟩⟩
  | schema h =>
      obtain ⟨document, hm, rfl, -⟩ := h
      obtain ⟨model, hmodel, he⟩ := mem_keys_schemaDocuments.1 (List.mem_map_of_mem hm)
      exact hin (by decide) (he ▸ isName_fileName (hmodels model hmodel))
  | routes h =>
      obtain ⟨document, hm, rfl, -⟩ := h
      obtain ⟨group, hgroup, rfl⟩ := List.mem_map.1 hm
      exact hin (by decide) (isName_fileName (hgroups group hgroup))

theorem grows_writeReadme (h : LeadsTo tree docs folder) {written : Path}
    (hend : (writeReadme docs).Ends tree tree' written) :
    GrowsIn folder tree tree'
      ∧ Grows (OfDocs config models groups folder) tree tree' := by
  obtain ⟨_, _, hchange, hpure⟩ := Work.ends_bind.1 hend
  obtain ⟨rfl, -⟩ := Work.ends_pure.1 hpure
  obtain ⟨-, hfolder, rfl⟩ := write_step_eq_ok h (by decide) (Work.ends_change.1 hchange)
  exact ⟨growsIn_put hfolder _,
    grows_put (append_singleton_ne_nil folder _) OfDocs.readme (takes_file _ hfolder)⟩

/-- **A build leaves the documents of what it scanned in its docs folder.** -/
theorem stores_writeDocs {kind : Option Project.Kind} {written : List Path} (htree : tree.WellFormed)
    (hroot : LeadsTo tree root folder) (hfits : Fits root) (hup : Path.up ∉ steps)
    (hdocs : root.under config.docs.inPath = { root with steps := root.steps ++ steps })
    (hnew : tree.present (root.under config.docs.inPath) = .ok false)
    (hmodels : ∀ model ∈ models, '/' ∉ model.source)
    (hgroups : ∀ group ∈ groups, '/' ∉ group.source)
    (hend : (Build.writeDocs root config kind {} models groups).Ends tree tree' written) :
    ∃ scanned entries comments,
      Grows (OfDocs config models groups (folder ++ steps)) tree scanned
        ∧ tree.entry? (folder ++ steps) = none
        ∧ (Project.scanDocs root config kind).Finds scanned entries
        ∧ commentsDocument entries = .ok (.object comments)
        ∧ Json.AllShort (.object comments)
        ∧ KeepsFolders tree tree'
        ∧ Stores tree' (schemasFolder (root.under config.docs.inPath))
            (folder ++ steps ++ [schemasName]) (schemaDocuments models)
        ∧ Stores tree' (routesFolder (root.under config.docs.inPath))
            (folder ++ steps ++ [routesName])
            (withComments comments (routeDocuments config.authorization groups)) := by
  have hother : folder ++ steps ++ [schemasName] ≠ folder ++ steps ++ [routesName] := fun he =>
    absurd (List.append_cancel_left he) (by decide)
  have hbelow (sub : Text) : folder ++ steps ++ [sub] ≠ folder ++ steps := by simp
  obtain ⟨made, _, hcreate, hend₁⟩ := Work.ends_bind.1 hend
  obtain ⟨explained, _, hreadme, hend₂⟩ := Work.ends_bind.1 hend₁
  obtain ⟨schemed, _, hschemas, hend₃⟩ := Work.ends_bind.1 hend₂
  obtain ⟨scanned, _, hroutes, hend₄⟩ := Work.ends_bind.1 hend₃
  obtain ⟨scanned', entries, hscan, hend₅⟩ := Work.ends_bind.1 hend₄
  obtain ⟨commented, _, hcomments, hpure⟩ := Work.ends_bind.1 hend₅
  obtain ⟨rfl, -⟩ := Work.ends_pure.1 hpure
  obtain ⟨rfl, hentries⟩ := Work.ends_survey.1 hscan
  rw [hdocs] at hnew hcreate hreadme hschemas hroutes hcomments ⊢
  obtain ⟨hleads, habsent, hmade, hnoschemas, hnoroutes⟩ :=
    stores_create htree hroot hfits hup hnew hcreate
  obtain ⟨hin, hexplained⟩ := grows_writeReadme hleads hreadme
  obtain ⟨hstores, hschemed⟩ :=
    stores_writeSchemas hmodels (hnoschemas.of_growsIn hin (hbelow _)) hschemas
  have hnoroutes' := (hnoroutes.of_growsIn hin (hbelow _)).of_growsIn
    (growsIn_of_documents hschemed) hother.symm
  obtain ⟨hroutestores, hrouted⟩ := stores_writeRoutes hgroups hnoroutes' hroutes
  obtain ⟨comments, hdoc, hshort, hcommentstores, hcommented⟩ :=
    stores_writeComments hroutestores hcomments
  have hgrows : Grows (OfDocs config models groups (folder ++ steps)) tree scanned :=
    (((hmade.mono fun _ _ => OfDocs.folder).trans hexplained).trans
      (hschemed.mono fun _ _ => OfDocs.schema)).trans (hrouted.mono fun _ _ => OfDocs.routes)
  exact ⟨scanned, entries, comments, hgrows, habsent, hentries, hdoc, hshort,
    hgrows.keepsFolders.trans hcommented.keepsFolders,
    (hstores.of_growsIn (growsIn_of_documents hrouted) hother).of_growsIn hcommented hother,
    hcommentstores⟩

end ApiScan.Docs

/-! ## The files at the root

What is written at the root of a project leaves the docs folder as it is, and the files of the
document read as its forms. -/

namespace ApiScan.Docs

open ApiScan.Tree OpenApi

variable {tree tree' : Tree} {root docs : Path} {folder schemas routes : Place}
  {config : Config} {models : List Model} {groups : List RouteGroup} {comments : Json.Fields}

/-- A text that is written is what the file holds then, and all else stays. -/
theorem ends_write {text name : Text} {done : Unit} (h : LeadsTo tree root folder)
    (hup : name ≠ Path.up) (hend : (Work.write (root.step name) text).Ends tree tree' done) :
    GrowsIn folder tree tree' ∧ FitsIn root name
      ∧ tree'.entry? (folder ++ [name]) = some (.file (Text.toBytes text))
      ∧ ∀ other ≠ name, tree'.entry? (folder ++ [other]) = tree.entry? (folder ++ [other]) := by
  obtain ⟨hfits, hfolder, rfl⟩ := write_step_eq_ok h hup (Work.ends_change.1 hend)
  refine ⟨growsIn_put hfolder _, hfits, ?_, fun other ho => ?_⟩
  · rw [entry?_put (append_singleton_ne_nil folder name), if_pos rfl]
  · rw [entry?_put (append_singleton_ne_nil folder name), if_neg]
    exact fun he => ho (List.singleton_inj.1 (List.append_cancel_left he))

theorem growsIn_updateIgnore (h : LeadsTo tree root folder) {value : Text} {appended : Bool}
    (hend : (updateIgnore root value).Ends tree tree' appended) : GrowsIn folder tree tree' := by
  obtain ⟨_, text?, hread, hend⟩ := Work.ends_bind.1 hend
  obtain ⟨rfl, -⟩ := Work.ends_survey.1 hread
  split at hend
  · obtain ⟨_, _, htell, hpure⟩ := Work.ends_bind.1 hend
    obtain ⟨rfl, -⟩ := Work.ends_survey.1 htell
    obtain ⟨rfl, -⟩ := Work.ends_pure.1 hpure
    exact Grows.refl
  · exact absurd hend Work.not_ends_fail
  · split at hend
    · obtain ⟨rfl, -⟩ := Work.ends_pure.1 hend
      exact Grows.refl
    · obtain ⟨_, _, hchange, hpure⟩ := Work.ends_bind.1 hend
      obtain ⟨rfl, -⟩ := Work.ends_pure.1 hpure
      obtain ⟨-, hfolder, rfl⟩ := write_step_eq_ok h (by decide) (Work.ends_change.1 hchange)
      exact growsIn_put hfolder _

/-! ### The document -/

/-- What a docs folder of scanned documents holds. -/
theorem finds_load
    (hschemas : Stores tree (schemasFolder docs) schemas (schemaDocuments models))
    (hroutes : Stores tree (routesFolder docs) routes
      (withComments comments (routeDocuments config.authorization groups)))
    (hshort : Json.AllShort (.object comments)) (hnodup : (groups.map RouteGroup.source).Nodup)
    (hsources : ∀ group ∈ groups, fileName group.source ≠ commentsFile) :
    (load docs).Finds tree
      ⟨putSchemas [] (byFile Model.source fileOrder models),
        mergePaths (mergeGroups config.authorization [] (byFile RouteGroup.source Text.sort groups))
          (rereadDocument comments)⟩ := by
  obtain ⟨found, hfound, hpaths⟩ := hroutes.finds_loadPaths hshort hnodup hsources
  refine Survey.finds_bind.2 ⟨_, hschemas.finds_loadSchemas, ?_⟩
  refine Survey.finds_bind.2 ⟨_, hfound, Survey.finds_pure.2 ?_⟩
  rw [hpaths, foldl_inOrder_schemaDocuments]

/-- **The files at the root read as the forms of the document.** -/
theorem reads_writeOutput (hroot : LeadsTo tree root folder) {contents : Contents}
    (hload : (load docs).Finds tree contents) {written : List Path}
    (hend : (writeOutput root config docs {}).Ends tree tree' written) :
    tree'.read (root.step jsonFile) = .ok (Text.toBytes (Json.text
        (.object (OpenApi.document config contents.schemas contents.paths))))
      ∧ tree'.read (root.step yamlFile) = .ok (Text.toBytes (Yaml.text
        (.object (OpenApi.document config contents.schemas contents.paths)))) := by
  obtain ⟨_, found, hloaded, hend₁⟩ := Work.ends_bind.1 hend
  obtain ⟨rfl, hfound⟩ := Work.ends_survey.1 hloaded
  obtain rfl := hload.unique hfound
  obtain ⟨_, _, hjson, hend₂⟩ := Work.ends_bind.1 hend₁
  obtain ⟨_, _, hyaml, hpure⟩ := Work.ends_bind.1 hend₂
  obtain ⟨rfl, -⟩ := Work.ends_pure.1 hpure
  obtain ⟨hgrows, hjsonfits, hjsonfile, -⟩ := ends_write hroot (by decide) hjson
  have hroot₁ := hroot.of_keepsFolders hgrows.keepsFolders
  obtain ⟨hgrows', hyamlfits, hyamlfile, hothers⟩ := ends_write hroot₁ (by decide) hyaml
  have hroot₂ := hroot₁.of_keepsFolders hgrows'.keepsFolders
  refine ⟨read_step hroot₂ hjsonfits ?_, read_step hroot₂ hyamlfits hyamlfile⟩
  rw [hothers jsonFile (by decide), hjsonfile]

end ApiScan.Docs
