import ApiScan.Proofs.Docs.Written
import ApiScan.Proofs.OpenApi.Worded
import ApiScan.Proofs.Project.Documented
import ApiScan.Proofs.Project.Routes

set_option autoImplicit false

/-! # Documents hold no comments

A docs folder may stand below the folder of file routes, so that a scan reads the documents in it as
source files. None of them documents a path: what comments document is the same before and after the
documents are written. -/

namespace ApiScan.Docs

open ApiScan.Tree DocComment OpenApi

variable {tree tree' : Tree} {root : Path} {config : Config} {folder new place : Place}
  {models : List Model} {groups : List RouteGroup} {entries : Entries}

/-! ## Documents as source files -/

/-- A document that was written is read as the text of the document. -/
theorem ofSource_fileOf (document : Json.Fields) :
    Text.ofSource (fileOf document) = Json.text (.object document) := by
  rw [Text.ofSource, fileOf, Text.ofBytesLossy_toBytes, Json.unifyBreaks_text]

theorem itemsOf_readme : itemsOf (Text.ofSource (Text.toBytes readme)) = [] := by
  rw [itemsOf, blocks_of_not_holds (by decide +kernel), List.foldl_nil]

/-- The schemas of models hold texts. -/
theorem filled_putSchemas (models : List Model) {schemas : Json.Fields}
    (h : ∀ entry ∈ schemas, Json.Filled entry.2) :
    ∀ entry ∈ putSchemas schemas models, Json.Filled entry.2 := by
  induction models generalizing schemas with
  | nil => exact h
  | cons model more ih =>
      refine ih fun entry he => ?_
      rcases Assoc.mem_alter he with hm | rfl
      · exact h entry hm
      · exact filled_of_mem_schemaDocument model _ List.mem_cons_self

theorem worded_of_mem_schemaDocuments {document : Text × Json.Fields}
    (h : document ∈ schemaDocuments models) : Json.Worded (.object document.2) := by
  obtain ⟨⟨source, fields⟩, hsource, rfl⟩ := List.mem_map.1 h
  rw [eq_putSchemas_of_mem hsource]
  exact Json.worded_object (filled_putSchemas _ fun _ h => absurd h List.not_mem_nil)

/-- **What a build writes to its docs folder documents nothing when it is read as a source file.** -/
theorem OfDocs.itemsOf_eq_nil {content : Bytes}
    (h : OfDocs config models groups new place (.file content)) :
    itemsOf (Text.ofSource content) = [] := by
  cases h with
  | folder h => exact nomatch h.2
  | readme => exact itemsOf_readme
  | schema h =>
      obtain ⟨document, hm, -, he⟩ := h
      rw [Entry.file.inj he, ofSource_fileOf]
      exact Json.itemsOf_text (worded_of_mem_schemaDocuments hm)
  | routes h =>
      obtain ⟨document, hm, -, he⟩ := h
      obtain ⟨group, -, rfl⟩ := List.mem_map.1 hm
      rw [Entry.file.inj he, ofSource_fileOf]
      exact Json.itemsOf_text (worded_pathsDocument group config.authorization)

/-! ## The tree with the docs folder -/

theorem isName_of_leadsTo (htree : tree.WellFormed) (h : LeadsTo tree root folder) :
    ∀ name ∈ folder, IsName name := by
  intro name hname
  have hkey := mem_keys_of_standing (List.ne_nil_of_mem hname) h.entry?
  exact htree.isName folder hkey name hname

/-- What a build puts into a tree comes with its docs folder. -/
theorem growsBelow_of_ofDocs (htree : tree.WellFormed) (hleads : LeadsTo tree root folder)
    {steps : List Text} (hsteps : ∀ name ∈ steps, IsName name)
    (habsent : tree.entry? (folder ++ steps) = none)
    (hmodels : ∀ model ∈ models, '/' ∉ model.source)
    (hgroups : ∀ group ∈ groups, '/' ∉ group.source)
    (h : Grows (OfDocs config models groups (folder ++ steps)) tree tree') :
    GrowsBelow (folder ++ steps) tree tree' where
  wellFormed := htree
  absent := habsent
  grows := h.mono fun _ _ hkind => ofFolder_of_ofDocs
    (List.forall_mem_append.2 ⟨isName_of_leadsTo htree hleads, hsteps⟩) hmodels hgroups hkind

/-- A source text that documents something was there before the docs folder. -/
theorem itemsOf_sourceAt_eq_nil (h : Grows (OfDocs config models groups new) tree tree')
    (htree : tree.WellFormed) (habsent : tree.entry? new = none) {path : Path} {steps : List Text}
    (hleads : LeadsTo tree' path folder) (hup : Path.up ∉ steps)
    (hbelow : new <+: folder ++ steps) :
    itemsOf (Project.sourceAt tree' { path with steps := path.steps ++ steps }) = [] := by
  unfold Project.sourceAt Tree.sourceText?
  cases hread : tree'.read { path with steps := path.steps ++ steps } with
  | error fault => rfl
  | ok content =>
      -- the file that is read stands where the steps say, and so did not stand there before
      have hentry : tree'.entry? (folder ++ steps) = some (.file content) := by
        unfold Tree.read at hread
        cases hlocate : tree'.locate { path with steps := path.steps ++ steps } with
        | error fault =>
            rw [hlocate] at hread
            exact nomatch hread
        | ok target =>
            rw [hlocate] at hread
            obtain ⟨-, hfollow⟩ := locate_eq_ok.1 hlocate
            rw [follow_append hleads] at hfollow
            cases target with
            | vacant place => exact nomatch hread
            | present place entry =>
                obtain rfl := place_eq_of_follow hup hfollow
                cases entry with
                | folder => exact nomatch hread
                | file found =>
                    obtain rfl := Except.ok.inj hread
                    exact entry?_of_follow hfollow
      rcases h.entry?_cases hentry with hold | hkind
      · exact absurd hbelow (htree.not_prefix habsent (by rw [hold]; rfl))
      · exact hkind.itemsOf_eq_nil

/-- **The comments that a build finds are those of the project before the build.** -/
theorem finds_scanDocs_of_ofDocs {kind : Project.Kind} {found : List RouteGroup}
    (hbelow : GrowsBelow new tree tree')
    (hdocs : Grows (OfDocs config models groups new) tree tree')
    (hroutes : (Project.scanRoutes root config (some kind)).Finds tree found)
    (h : (Project.scanDocs root config (some kind)).Finds tree' entries) :
    (Project.scanDocs root config (some kind)).Finds tree entries := by
  cases kind with
  | express =>
      obtain ⟨_, files, hfiles, -⟩ := Project.finds_scanRoutes_express hroutes
      exact Project.finds_scanDocs_express hbelow hfiles h
  | nextjs =>
      obtain ⟨files, hfiles, -⟩ := Project.finds_scanRoutes_nextjs hroutes
      obtain ⟨start, hstart, -⟩ := Project.finds_routeFilesBelow.1 hfiles
      obtain ⟨-, hleads⟩ := folder?_eq_some.1 hstart
      refine Project.finds_scanDocs_nextjs hbelow hleads ?_ h
      rintro steps items hsteps ⟨name, more, hplace⟩ hitems
      obtain ⟨-, rfl⟩ := Project.finds_scanDocFile.1 hitems
      refine itemsOf_sourceAt_eq_nil hdocs hbelow.wellFormed hbelow.absent
        (hleads.of_keepsFolders hdocs.keepsFolders) (fun hm => (hsteps _ hm).2.2.2 rfl) ?_
      exact hplace ▸ List.prefix_append _ _

end ApiScan.Docs
