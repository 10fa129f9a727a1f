import ApiScan.Docs.Folder
import ApiScan.Proofs.Docs.Stored
import ApiScan.Proofs.Json.Plain
import ApiScan.Proofs.Json.Settled
import ApiScan.Proofs.Text.Order
import ApiScan.Proofs.Text.Search
import Mathlib.Data.List.Dedup

set_option autoImplicit false

/-! # Loading folders of documents

A folder that holds documents loads as these documents, as they are read back and in the order of
their names. What a folder loads as depends on nothing but what stands in it. -/

namespace ApiScan.Docs

open ApiScan.Tree

variable {tree tree' : Tree} {path : Path} {folder : Place} {documents : List (Text × Json.Fields)}
  {name : Text}

/-! ## Stored documents -/

/-- The fields of a document as they are read back. -/
def rereadDocument (document : Json.Fields) : Json.Fields :=
  Assoc.ofPairs (Json.rereadFields document)

theorem rereadDocument_of_settled {document : Json.Fields} (h : Json.SettledFields document) :
    rereadDocument document = document := by
  rw [rereadDocument, h.rereadFields_eq, Assoc.ofPairs_of_nodup h.nodup]

theorem finds_document (h : LeadsTo tree path folder) (hname : FitsIn path name)
    {document : Json.Fields} (hshort : Json.AllShort (.object document))
    (he : tree.entry? (folder ++ [name]) = some (.file (fileOf document))) :
    (Survey.document (path.step name)).Finds tree (.ok (.object (rereadDocument document))) := by
  have htext : (Survey.strictText (path.step name)).Finds tree
      (.ok (Json.text (.object document))) := by
    unfold Survey.Finds Survey.strictText
    simp only [read_step h hname he, fileOf, Text.ofBytes?_toBytes, Json.unifyBreaks_text]
  refine Survey.finds_bind.2 ⟨_, htext, ?_⟩
  simp only [Json.read_text hshort]
  rfl

theorem finds_loadDocument (h : LeadsTo tree path folder) (hname : FitsIn path name)
    {document : Json.Fields} (hshort : Json.AllShort (.object document))
    (he : tree.entry? (folder ++ [name]) = some (.file (fileOf document))) :
    (loadDocument (path.step name)).Finds tree [rereadDocument document] :=
  Survey.finds_bind.2 ⟨_, finds_document h hname hshort he, rfl⟩

theorem mem_documentNames {names : List Text} :
    name ∈ documentNames names ↔ name ∈ names ∧ Text.endsWith extension name = true := by
  simp only [documentNames, List.mem_append, List.mem_filter, decide_eq_true_eq]
  by_cases hc : name = commentsFile <;> simp [hc]

/-- The documents of a list in the order in which they are taken. -/
def inOrder (documents : List (Text × Json.Fields)) : List Json.Fields :=
  (documentNames (Text.sort (Assoc.keys documents))).flatMap fun name =>
    (Assoc.get? name documents).toList

theorem mem_inOrder {document : Json.Fields} :
    document ∈ inOrder documents ↔
      ∃ name, Text.endsWith extension name = true ∧ Assoc.get? name documents = some document := by
  simp only [inOrder, List.mem_flatMap, mem_documentNames, Text.mem_sort, Option.mem_toList]
  constructor
  · rintro ⟨name, ⟨-, hends⟩, hg⟩
    exact ⟨name, hends, hg⟩
  · rintro ⟨name, hends, hg⟩
    exact ⟨name, ⟨Assoc.has_iff_mem_keys.1 (by rw [Assoc.has, hg]; rfl), hends⟩, hg⟩

/-- A folder of documents loads as its documents, in the order of their names. -/
theorem Stores.finds_loadDocuments (h : Stores tree path folder documents)
    (hshort : ∀ entry ∈ documents, Json.AllShort (.object entry.2)) :
    (loadDocuments path).Finds tree ((inOrder documents).map rereadDocument) := by
  have hfolder : (Survey.isFolder path).Finds tree true :=
    Survey.finds_isFolder.2 ⟨some folder, folder?_eq_some.2 ⟨h.fits, h.leadsTo⟩, rfl⟩
  have hnames : (Survey.names path).Finds tree (Text.sort (Assoc.keys documents)) := by
    rw [← h.children_eq]
    exact Survey.finds_ask.2 (namesAt_of_leadsTo h.fits h.leadsTo)
  refine Survey.finds_bind.2 ⟨true, hfolder, ?_⟩
  refine Survey.finds_bind.2 ⟨_, hnames, ?_⟩
  rw [inOrder, List.map_flatMap]
  refine Survey.finds_bind.2 ⟨_, Survey.finds_mapM.2 ?_, Survey.finds_pure.2 List.flatMap_def.symm⟩
  rw [List.forall₂_map_left_iff, List.forall₂_map_right_iff, List.forall₂_same]
  intro name hm
  have hkey : name ∈ Assoc.keys documents := Text.mem_sort.1 (mem_documentNames.1 hm).1
  obtain ⟨document, hg⟩ := Option.isSome_iff_exists.1 (Assoc.has_iff_mem_keys.2 hkey)
  have hload := finds_loadDocument h.leadsTo (h.fitsIn name hkey)
    (hshort _ (Assoc.mem_of_get?_eq_some hg)) (by rw [h.entry?_eq, hg]; rfl)
  rw [hg]
  exact hload

/-- Documents that read back as they are load as they are. -/
theorem Stores.finds_loadDocuments_of_settled (h : Stores tree path folder documents)
    (hsettled : ∀ entry ∈ documents, Json.SettledFields entry.2) :
    (loadDocuments path).Finds tree (inOrder documents) := by
  have hload := h.finds_loadDocuments fun entry he =>
    (Json.settled_object (hsettled entry he)).allShort
  rwa [List.map_congr_left (g := id), List.map_id] at hload
  intro document hd
  obtain ⟨name, -, hg⟩ := mem_inOrder.1 hd
  exact rereadDocument_of_settled (hsettled _ (Assoc.mem_of_get?_eq_some hg))

/-! ## Changes elsewhere -/

theorem finds_loadDocument_congr (hread : tree'.read path = tree.read path)
    {found : List Json.Fields} (h : (loadDocument path).Finds tree found) :
    (loadDocument path).Finds tree' found := by
  have htext : (Survey.strictText path tree').2 = (Survey.strictText path tree).2 := by
    unfold Survey.strictText
    rw [hread]
  obtain ⟨result, hresult, hfound⟩ := Survey.finds_bind.1 h
  obtain ⟨text?, ht, hdocument⟩ := Survey.finds_bind.1 hresult
  have hresult' : (Survey.document path).Finds tree' result := by
    refine Survey.finds_bind.2 ⟨text?, htext.trans ht, ?_⟩
    cases text? with
    | error fault => exact hdocument
    | ok text =>
        cases hr : Json.read text with
        | ok doc =>
            simp only [hr] at hdocument ⊢
            exact hdocument
        | error fault =>
            cases fault <;>
              · simp only [hr] at hdocument ⊢
                exact hdocument
  refine Survey.finds_bind.2 ⟨result, hresult', ?_⟩
  revert hfound
  cases result with
  | error fault => exact id
  | ok doc => cases doc <;> exact id

/-- A folder loads the same from two trees that hold the same in it. -/
theorem finds_loadDocuments_congr {parent : Place} (h : LeadsTo tree path parent)
    (h' : LeadsTo tree' path parent) (hup : name ≠ Path.up)
    (hself : tree'.entry? (parent ++ [name]) = tree.entry? (parent ++ [name]))
    (hchild : ∀ child, tree'.entry? (parent ++ [name, child]) = tree.entry? (parent ++ [name, child]))
    (hnames : tree'.names (parent ++ [name]) = tree.names (parent ++ [name]))
    {found : List Json.Fields} (hfound : (loadDocuments (path.step name)).Finds tree found) :
    (loadDocuments (path.step name)).Finds tree' found := by
  have hself' : ∀ front, front <+: [name] →
      tree'.entry? (parent ++ front) = tree.entry? (parent ++ front) := fun front hfront => by
    rcases List.prefix_cons_iff.1 hfront with rfl | ⟨rest, rfl, hrest⟩
    · rw [List.append_nil, h.entry?, h'.entry?]
    · rw [List.prefix_nil.1 hrest]
      exact hself
  have hlocate : tree'.locate (path.step name) = tree.locate (path.step name) :=
    locate_congr h h' (by simpa using Ne.symm hup) hself'
  have hread (child : Text) (hchild' : child ≠ Path.up) :
      tree'.read ((path.step name).step child) = tree.read ((path.step name).step child) := by
    have hsame : tree'.locate ((path.step name).step child)
        = tree.locate ((path.step name).step child) := by
      have hstep : (path.step name).step child
          = { path with steps := path.steps ++ [name, child] } := by
        simp [Path.step]
      rw [hstep]
      refine locate_congr h h' (by simp [Ne.symm hup, Ne.symm hchild']) fun front hfront => ?_
      rcases List.prefix_cons_iff.1 hfront with rfl | ⟨rest, rfl, hrest⟩
      · exact hself' [] List.nil_prefix
      · rcases List.prefix_cons_iff.1 hrest with rfl | ⟨last, rfl, hlast⟩
        · exact hself
        · rw [List.prefix_nil.1 hlast]
          exact hchild child
    unfold Tree.read
    rw [hsame]
  obtain ⟨b, hfolder, hrest⟩ := Survey.finds_bind.1 hfound
  refine Survey.finds_bind.2 ⟨b, ?_, ?_⟩
  · rw [Survey.finds_isFolder] at hfolder ⊢
    unfold folder? status at hfolder ⊢
    rwa [hlocate]
  · cases b with
    | false => exact hrest
    | true =>
        obtain ⟨names, hlisted, hrest⟩ := Survey.finds_bind.1 hrest
        obtain ⟨parts, hparts, hflatten⟩ := Survey.finds_bind.1 hrest
        refine Survey.finds_bind.2 ⟨names, ?_, Survey.finds_bind.2 ⟨parts, ?_, hflatten⟩⟩
        · obtain ⟨place?, hplace, hsome⟩ := Survey.finds_isFolder.1 hfolder
          obtain ⟨place, rfl⟩ := Option.isSome_iff_exists.1 hsome
          obtain ⟨hfits, hleads⟩ := folder?_eq_some.1 hplace
          have hleads' : LeadsTo tree' (path.step name) place :=
            (locate_eq_ok.1 (hlocate.trans (locate_eq_ok.2 ⟨hfits, hleads⟩))).2
          obtain rfl := h.eq_step hup hleads
          refine Survey.finds_ask.2 ?_
          rw [namesAt_of_leadsTo hfits hleads', ← names_eq, hnames, names_eq,
            ← namesAt_of_leadsTo hfits hleads]
          exact Survey.finds_ask.1 hlisted
        · refine Survey.finds_mapM_of_forall (fun file hfile part hpart => ?_) hparts
          obtain ⟨child, hchild', rfl⟩ := List.mem_map.1 hfile
          refine finds_loadDocument_congr (hread child ?_) hpart
          rintro rfl
          exact absurd (mem_documentNames.1 hchild').2 (by decide)

/-- A folder loads the same when files are written right inside another one. -/
theorem finds_loadDocuments_of_growsIn {parent other : Place} {name : Text}
    (h : LeadsTo tree path parent) (hgrows : GrowsIn other tree tree') (hup : name ≠ Path.up)
    (hparent : parent ≠ other) (hself : parent ++ [name] ≠ other) {found : List Json.Fields}
    (hfound : (loadDocuments (path.step name)).Finds tree found) :
    (loadDocuments (path.step name)).Finds tree' found := by
  refine finds_loadDocuments_congr h (h.of_keepsFolders hgrows.keepsFolders) hup
    (hgrows.entry?_child hparent name) (fun child => ?_) (names_congr (hgrows.children_eq hself))
    hfound
  have hplace : parent ++ [name, child] = parent ++ [name] ++ [child] := by simp
  rw [hplace]
  exact hgrows.entry?_child hself child

end ApiScan.Docs

/-! ## Records by their files

Scanned records are documented by the files of their sources. Taking the files of a folder in order
takes the records with their files in order, and in their own order within a file. -/

namespace ApiScan.Docs

theorem endsWith_fileName (source : Text) : Text.endsWith extension (fileName source) = true :=
  Text.endsWith_iff.2 (List.suffix_append source extension)

/-- The name of a document that is not the one of the comments. -/
theorem fileName_ne_commentsFile {source : Text} (h : source ≠ "swagger-comments".toList) :
    fileName source ≠ commentsFile := fun he =>
  h (fileName_inj.1 (he.trans (show commentsFile = fileName "swagger-comments".toList by decide)))

section
variable {α : Type} {sourceOf : α → Text} {records : List α}

/-- Records with the files of their sources in an order, and in their own order within a file. -/
def byFile (sourceOf : α → Text) (order : List Text → List Text) (records : List α) : List α :=
  (order (records.map fun record => fileName (sourceOf record)).dedup).flatMap fun name =>
    records.filter fun record => fileName (sourceOf record) = name

/-- The order in which the files of a folder are taken. -/
def fileOrder (names : List Text) : List Text := documentNames (Text.sort names)

theorem documentNames_eq_self {names : List Text}
    (hends : ∀ name ∈ names, Text.endsWith extension name = true)
    (hne : ∀ name ∈ names, name ≠ commentsFile) : documentNames names = names := by
  have hall : names.filter (Text.endsWith extension) = names := List.filter_eq_self.2 hends
  have hbefore : names.filter (· ≠ commentsFile) = names :=
    List.filter_eq_self.2 fun name hn => decide_eq_true (hne name hn)
  have hlast : names.filter (· = commentsFile) = [] :=
    List.filter_eq_nil_iff.2 fun name hn => by simpa using hne name hn
  show (names.filter (Text.endsWith extension)).filter (· ≠ commentsFile)
    ++ (names.filter (Text.endsWith extension)).filter (· = commentsFile) = names
  rw [hall, hbefore, hlast, List.append_nil]

/-- Without the file of comments, the files are taken in the order of their names. -/
theorem byFile_fileOrder (h : ∀ record ∈ records, fileName (sourceOf record) ≠ commentsFile) :
    byFile sourceOf fileOrder records = byFile sourceOf Text.sort records := by
  have hnames : ∀ name ∈ Text.sort (records.map fun record => fileName (sourceOf record)).dedup,
      Text.endsWith extension name = true ∧ name ≠ commentsFile := fun name hn => by
    rw [Text.mem_sort, List.mem_dedup, List.mem_map] at hn
    obtain ⟨record, hr, rfl⟩ := hn
    exact ⟨endsWith_fileName _, h record hr⟩
  unfold byFile fileOrder
  rw [documentNames_eq_self (fun name hn => (hnames name hn).1) fun name hn => (hnames name hn).2]

/-- **Reading the files of a folder one after another is going through the records by file**, if
    reading a file is going through the records of the file. -/
theorem foldl_inOrder {σ : Type} {documents : List (Text × Json.Fields)}
    {read : σ → Json.Fields → σ} {step : σ → α → σ} (hnodup : (Assoc.keys documents).Nodup)
    (hkeys : ∀ name, name ∈ Assoc.keys documents ↔
      ∃ record ∈ records, fileName (sourceOf record) = name)
    (hfile : ∀ name document, Assoc.get? name documents = some document → ∀ state,
      read state document
        = (records.filter fun record => fileName (sourceOf record) = name).foldl step state)
    (state : σ) :
    (inOrder documents).foldl read state = (byFile sourceOf fileOrder records).foldl step state := by
  have hperm : (Assoc.keys documents).Perm
      (records.map fun record => fileName (sourceOf record)).dedup := by
    rw [List.perm_ext_iff_of_nodup hnodup (List.nodup_dedup _)]
    intro name
    rw [hkeys, List.mem_dedup, List.mem_map]
  have hall (names : List Text) (hnames : ∀ name ∈ names, name ∈ Assoc.keys documents) (state : σ) :
      (names.flatMap fun name => (Assoc.get? name documents).toList).foldl read state
        = (names.flatMap fun name =>
            records.filter fun record => fileName (sourceOf record) = name).foldl step state := by
    induction names generalizing state with
    | nil => rfl
    | cons name more ih =>
        obtain ⟨hname, hmore⟩ := List.forall_mem_cons.1 hnames
        obtain ⟨document, hg⟩ := Option.isSome_iff_exists.1 (Assoc.has_iff_mem_keys.2 hname)
        rw [List.flatMap_cons, List.flatMap_cons, List.foldl_append, List.foldl_append, ih hmore,
          ← hfile name document hg state, hg]
        rfl
  rw [inOrder, byFile, fileOrder, ← Text.sort_congr hperm]
  exact hall _ (fun name hm => Text.mem_sort.1 (mem_documentNames.1 hm).1) state

end

end ApiScan.Docs
