import ApiScan.Proofs.Docs.Loaded
import ApiScan.Proofs.Text.Order
import ApiScan.Proofs.Tree.Access

set_option autoImplicit false

/-! # What folders load as

Whatever a folder holds, it loads as the documents in its files, in the order of their names and
with the file of comments last. A file without a document is passed over, unless it ends the
loading. -/

namespace ApiScan.Docs

open ApiScan.Tree

variable {tree : Tree} {path : Path} {folder : Place} {name : Text}

/-! ## Files -/

/-- The text of the file that a path leads to, if it can be read and is UTF-8. -/
def textAt? (tree : Tree) (path : Path) : Option Text :=
  (tree.read path).toOption.bind fun content => (Text.ofBytes? content).map Text.unifyBreaks

/-- The fields of the document in the file that a path leads to: there are some if the file holds
    the text of a JSON object. -/
def documentAt? (tree : Tree) (path : Path) : Option Json.Fields :=
  (textAt? tree path).bind fun text =>
    match Json.read text with
    | .ok (.object fields) => some fields
    | _ => none

/-- The file that a path leads to holds a whole number with more digits than the reader takes. -/
def HasLongNumber (tree : Tree) (path : Path) : Prop :=
  ∃ text ∈ textAt? tree path, ∃ digits, Json.read text = .error (.numberTooLong digits)

/-- The file that a path leads to is UTF-8, if it can be read at all, and the path holds no NUL. -/
structure Decodes (tree : Tree) (path : Path) : Prop where
  isPath : tree.read path ≠ .error .nulInPath
  isText : ∀ content, tree.read path = .ok content → (Text.ofBytes? content).isSome

theorem textAt?_eq_some_iff {text : Text} :
    textAt? tree path = some text ↔ ∃ content, tree.read path = .ok content
      ∧ (Text.ofBytes? content).map Text.unifyBreaks = some text := by
  unfold textAt?
  cases tree.read path with
  | error fault => exact ⟨nofun, nofun⟩
  | ok content =>
      exact ⟨fun h => ⟨content, rfl, h⟩, fun ⟨_, hread, h⟩ => Except.ok.inj hread ▸ h⟩

theorem finds_strictText {text : Text} (h : textAt? tree path = some text) :
    (Survey.strictText path).Finds tree (.ok text) := by
  unfold Survey.Finds Survey.strictText
  unfold textAt? at h
  cases hread : tree.read path with
  | error fault =>
      rw [hread] at h
      exact nomatch h
  | ok content =>
      rw [hread] at h
      obtain ⟨points, hpoints, rfl⟩ := Option.map_eq_some_iff.1 h
      simp only [hpoints]

theorem finds_strictText_error (h : Decodes tree path) (hnone : textAt? tree path = none) :
    ∃ fault, (Survey.strictText path).Finds tree (.error fault) := by
  unfold Survey.Finds Survey.strictText
  cases hread : tree.read path with
  | error fault =>
      refine ⟨fault, ?_⟩
      cases fault
      case nulInPath => exact absurd hread h.isPath
      all_goals rfl
  | ok content =>
      obtain ⟨text, htext⟩ := Option.isSome_iff_exists.1 (h.isText content hread)
      rw [textAt?, hread] at hnone
      exact nomatch (Option.map_eq_none_iff.1 hnone).symm.trans htext

theorem decodes_of_finds_strictText {text? : Except FileFault Text}
    (h : (Survey.strictText path).Finds tree text?) : Decodes tree path := by
  unfold Survey.Finds Survey.strictText at h
  cases hread : tree.read path with
  | error fault =>
      refine ⟨?_, fun content hc => nomatch hread.symm.trans hc⟩
      rw [hread] at h ⊢
      rintro he
      rw [Except.error.inj he] at h
      exact nomatch h
  | ok content =>
      refine ⟨by simp [hread], fun found hfound => ?_⟩
      obtain rfl := Except.ok.inj (hread.symm.trans hfound)
      cases htext : Text.ofBytes? content with
      | some text => rfl
      | none =>
          simp only [hread, htext] at h
          exact nomatch h

theorem finds_document_of_text {text : Text} {doc : Json} (h : textAt? tree path = some text)
    (hjson : Json.read text = .ok doc) : (Survey.document path).Finds tree (.ok doc) :=
  Survey.finds_bind.2 ⟨_, finds_strictText h, by simp only [hjson]; rfl⟩

/-- Some answer is found about the document in a file exactly if the file is UTF-8 and no whole
    number in it is too long. -/
theorem exists_finds_document_iff :
    (∃ document?, (Survey.document path).Finds tree document?) ↔
      Decodes tree path ∧ ¬ HasLongNumber tree path := by
  constructor
  · rintro ⟨document?, hdocument⟩
    obtain ⟨text?, htext?, hread⟩ := Survey.finds_bind.1 hdocument
    refine ⟨decodes_of_finds_strictText htext?, ?_⟩
    rintro ⟨text, htext, digits, hjson⟩
    obtain rfl := htext?.unique (finds_strictText htext)
    simp only [hjson] at hread
    exact Survey.not_finds_fail hread
  · rintro ⟨hdecodes, hshort⟩
    cases htext : textAt? tree path with
    | none =>
        obtain ⟨fault, hfault⟩ := finds_strictText_error hdecodes htext
        exact ⟨_, Survey.finds_bind.2 ⟨_, hfault, rfl⟩⟩
    | some text =>
        cases hjson : Json.read text with
        | ok doc => exact ⟨_, finds_document_of_text htext hjson⟩
        | error fault =>
            cases fault with
            | malformed =>
                exact ⟨.error .malformed,
                  Survey.finds_bind.2 ⟨_, finds_strictText htext, by simp only [hjson]; rfl⟩⟩
            | numberTooLong digits => exact absurd ⟨text, htext, digits, hjson⟩ hshort

/-- The answer about the document in a file: there is one exactly if the file holds a JSON text. -/
theorem finds_document_iff {document? : Except Survey.DocumentFault Json}
    (h : (Survey.document path).Finds tree document?) :
    document?.toOption = (textAt? tree path).bind fun text => (Json.read text).toOption := by
  cases htext : textAt? tree path with
  | none =>
      obtain ⟨hdecodes, -⟩ := exists_finds_document_iff.1 ⟨_, h⟩
      obtain ⟨fault, hfault⟩ := finds_strictText_error hdecodes htext
      obtain rfl := h.unique (Survey.finds_bind.2 ⟨_, hfault, rfl⟩)
      rfl
  | some text =>
      rw [Option.bind_some]
      cases hjson : Json.read text with
      | ok doc =>
          obtain rfl := h.unique (finds_document_of_text htext hjson)
          rfl
      | error fault =>
          cases document? with
          | error fault => rfl
          | ok doc =>
              obtain ⟨text?, htext?, hread⟩ := Survey.finds_bind.1 h
              obtain rfl := htext?.unique (finds_strictText htext)
              simp only [hjson] at hread
              cases fault with
              | malformed => exact nomatch Survey.finds_pure.1 hread
              | numberTooLong digits => exact absurd hread Survey.not_finds_fail

theorem finds_document_ok_iff {doc : Json} :
    (Survey.document path).Finds tree (.ok doc) ↔
      ∃ text, textAt? tree path = some text ∧ Json.read text = .ok doc := by
  constructor
  · intro h
    obtain ⟨text, htext, hjson⟩ := Option.bind_eq_some_iff.1 (finds_document_iff h).symm
    exact ⟨text, htext, Survey.eq_ok_of_mem_toOption hjson⟩
  · rintro ⟨text, htext, hjson⟩
    exact finds_document_of_text htext hjson

theorem documentAt?_eq_some_iff {fields : Json.Fields} :
    documentAt? tree path = some fields ↔
      ((textAt? tree path).bind fun text => (Json.read text).toOption) = some (.object fields) := by
  unfold documentAt?
  rw [Option.bind_eq_some_iff, Option.bind_eq_some_iff]
  refine exists_congr fun text => and_congr_right fun _ => ?_
  rcases Json.read text with fault | doc
  · exact ⟨nofun, nofun⟩
  · cases doc with
    | object found =>
        exact Option.some_inj.trans ⟨fun he => he ▸ rfl, fun he => Json.object.inj (Option.some.inj he)⟩
    | _ => exact ⟨nofun, fun he => nomatch Option.some.inj he⟩

theorem finds_loadDocument_of_document {document? : Except Survey.DocumentFault Json}
    (h : (Survey.document path).Finds tree document?) :
    (loadDocument path).Finds tree (documentAt? tree path).toList := by
  have hdocument {fields : Json.Fields} :
      documentAt? tree path = some fields ↔ document?.toOption = some (.object fields) :=
    documentAt?_eq_some_iff.trans (by rw [finds_document_iff h])
  cases he : documentAt? tree path with
  | some fields =>
      obtain rfl := Survey.eq_ok_of_mem_toOption (hdocument.1 he)
      exact Survey.finds_bind.2 ⟨_, h, rfl⟩
  | none =>
      rcases document? with fault | doc
      · exact Survey.finds_bind.2 ⟨_, h, rfl⟩
      · cases doc with
        | object fields => exact nomatch he.symm.trans (hdocument.2 rfl)
        | _ => exact Survey.finds_bind.2 ⟨_, h, rfl⟩

/-- **A file loads as the document in it**, if it is UTF-8 and no whole number in it is too long;
    otherwise it ends the loading. -/
theorem finds_loadDocument_iff {found : List Json.Fields} :
    (loadDocument path).Finds tree found ↔
      (Decodes tree path ∧ ¬ HasLongNumber tree path) ∧ found = (documentAt? tree path).toList := by
  constructor
  · intro h
    obtain ⟨_, hdocument, -⟩ := Survey.finds_bind.1 h
    exact ⟨exists_finds_document_iff.1 ⟨_, hdocument⟩,
      h.unique (finds_loadDocument_of_document hdocument)⟩
  · rintro ⟨hpasses, rfl⟩
    obtain ⟨_, hdocument⟩ := exists_finds_document_iff.2 hpasses
    exact finds_loadDocument_of_document hdocument

/-! ## Files in a folder -/

theorem read_step_ne_nulInPath (hfits : Fits path) (hname : '\x00' ∉ name) :
    tree.read (path.step name) ≠ .error .nulInPath := by
  have hstep : name.contains '\x00' = false := by simpa using hname
  have hsteps : ((path.step name).steps.any fun step => step.contains '\x00') = false := by
    simp only [Path.step, List.any_append, hfits.1, List.any_cons, hstep, List.any_nil, Bool.or_false]
  rw [ne_eq, read_eq_nulInPath_iff, hsteps]
  exact Bool.false_ne_true

/-- The file of a document that reads back as it is. -/
theorem documentAt?_of_file (h : LeadsTo tree path folder) (hname : FitsIn path name)
    {document : Json.Fields} (hsettled : Json.SettledFields document)
    (he : tree.entry? (folder ++ [name]) = some (.file (fileOf document))) :
    documentAt? tree (path.step name) = some document
      ∧ Decodes tree (path.step name) ∧ ¬ HasLongNumber tree (path.step name) := by
  have hload := finds_loadDocument h hname (Json.settled_object hsettled).allShort he
  rw [rereadDocument_of_settled hsettled] at hload
  obtain ⟨hpass, hfound⟩ := finds_loadDocument_iff.1 hload
  rw [← Option.toList_eq_singleton_iff]
  exact ⟨hfound.symm, hpass⟩

theorem documentAt?_of_not_file (h : ∀ content, tree.read path ≠ .ok content)
    (hpath : tree.read path ≠ .error .nulInPath) :
    documentAt? tree path = none ∧ Decodes tree path ∧ ¬ HasLongNumber tree path := by
  have htext : textAt? tree path = none := by
    unfold textAt?
    cases hread : tree.read path with
    | error fault => rfl
    | ok content => exact absurd hread (h content)
  refine ⟨by rw [documentAt?, htext]; rfl, ⟨hpath, fun content hc => absurd hc (h content)⟩, ?_⟩
  rintro ⟨text, hsome, -⟩
  rw [htext] at hsome
  exact nomatch hsome

/-! ## Folders -/

/-- The documents of a folder with the names of their files, in the order in which they are
    taken. -/
def documentsIn (tree : Tree) (path : Path) (names : List Text) : List (Text × Json.Fields) :=
  (documentNames names).filterMap fun name =>
    (documentAt? tree (path.step name)).map fun document => (name, document)

theorem mem_documentsIn {names : List Text} {document : Json.Fields} :
    (name, document) ∈ documentsIn tree path names ↔
      name ∈ names ∧ Text.endsWith extension name = true
        ∧ documentAt? tree (path.step name) = some document := by
  simp only [documentsIn, List.mem_filterMap, Option.map_eq_some_iff, mem_documentNames]
  constructor
  · rintro ⟨other, ⟨hmem, hends⟩, found, hfound, he⟩
    obtain ⟨rfl, rfl⟩ := Prod.mk.inj he
    exact ⟨hmem, hends, hfound⟩
  · rintro ⟨hmem, hends, hfound⟩
    exact ⟨name, ⟨hmem, hends⟩, document, hfound, rfl⟩

/-- **A folder loads as the documents in its files**, if no file of a document ends the loading. -/
theorem finds_loadDocuments_iff (hfits : Fits path) (h : LeadsTo tree path folder)
    {found : List Json.Fields} :
    (loadDocuments path).Finds tree found ↔
      (∀ name ∈ tree.names folder, Text.endsWith extension name = true →
          Decodes tree (path.step name) ∧ ¬ HasLongNumber tree (path.step name))
        ∧ found = (documentsIn tree path (tree.names folder)).map Prod.snd := by
  have hfolder : (Survey.isFolder path).Finds tree true :=
    Survey.finds_isFolder.2 ⟨some folder, folder?_eq_some.2 ⟨hfits, h⟩, rfl⟩
  have hnames : (Survey.names path).Finds tree (tree.names folder) := by
    rw [names_eq]
    exact Survey.finds_ask.2 (namesAt_of_leadsTo hfits h)
  have hall : (∀ name ∈ tree.names folder, Text.endsWith extension name = true →
        Decodes tree (path.step name) ∧ ¬ HasLongNumber tree (path.step name))
      ↔ ∀ name ∈ documentNames (tree.names folder),
        Decodes tree (path.step name) ∧ ¬ HasLongNumber tree (path.step name) := by
    simp only [mem_documentNames, and_imp]
  have hparts {parts : List (List Json.Fields)} :
      (((documentNames (tree.names folder)).map path.step).mapM loadDocument).Finds tree parts ↔
        (∀ name ∈ documentNames (tree.names folder),
            Decodes tree (path.step name) ∧ ¬ HasLongNumber tree (path.step name))
          ∧ parts = (documentNames (tree.names folder)).map fun name =>
              (documentAt? tree (path.step name)).toList := by
    rw [Survey.finds_mapM_iff_of_forall fun _ _ _ => finds_loadDocument_iff, List.forall_mem_map,
      List.map_map]
    rfl
  have hflatten (names : List Text) :
      (names.map fun name => (documentAt? tree (path.step name)).toList).flatten
        = (names.filterMap fun name =>
            (documentAt? tree (path.step name)).map fun document => (name, document)).map
              Prod.snd := by
    simp only [← List.flatMap_def, ← List.filterMap_eq_flatMap_toList, List.map_filterMap,
      Option.map_map, Function.comp_def, Option.map_id']
  rw [hall]
  constructor
  · intro hload
    obtain ⟨_, hfolder', hrest⟩ := Survey.finds_bind.1 hload
    obtain rfl := hfolder.unique hfolder'
    obtain ⟨_, hnames', hrest⟩ := Survey.finds_bind.1 hrest
    obtain rfl := hnames.unique hnames'
    obtain ⟨parts, hfound, hpure⟩ := Survey.finds_bind.1 hrest
    obtain rfl := Survey.finds_pure.1 hpure
    obtain ⟨hpass, rfl⟩ := hparts.1 hfound
    exact ⟨hpass, hflatten _⟩
  · rintro ⟨hpass, rfl⟩
    exact Survey.finds_bind.2 ⟨true, hfolder, Survey.finds_bind.2 ⟨_, hnames,
      Survey.finds_bind.2 ⟨_, hparts.2 ⟨hpass, rfl⟩, Survey.finds_pure.2 (hflatten _)⟩⟩⟩

/-! ## The order of files -/

/-- Whether a file is taken before another or is the same: the file of comments is the last one, and
    all others come in the order of their names. -/
def Precedes (name other : Text) : Prop :=
  other = commentsFile ∨ name ≠ commentsFile ∧ Text.le name other = true

theorem pairwise_documentNames {names : List Text} (h : Text.Sorted names) :
    (documentNames names).Pairwise Precedes := by
  refine List.pairwise_append.2 ⟨?_, ?_, fun name _ other hother => Or.inl ?_⟩
  · refine List.Pairwise.imp_of_mem (fun hname _ hle => ?_) ((h.filter _).filter _)
    exact Or.inr ⟨of_decide_eq_true (List.mem_filter.1 hname).2, hle⟩
  · refine List.Pairwise.imp_of_mem (fun _ hother _ => Or.inl ?_) ((h.filter _).filter _)
    exact of_decide_eq_true (List.mem_filter.1 hother).2
  · exact of_decide_eq_true (List.mem_filter.1 hother).2

theorem pairwise_documentsIn (tree : Tree) (path : Path) (folder : Place) :
    (documentsIn tree path (tree.names folder)).Pairwise fun file other =>
      Precedes file.1 other.1 := by
  have hsorted : Text.Sorted (tree.names folder) := by
    rw [names_eq]
    exact Text.sorted_sort _
  refine List.Pairwise.filterMap _ (fun name other h file hfile next hnext => ?_)
    (pairwise_documentNames hsorted)
  obtain ⟨document, -, rfl⟩ := Option.map_eq_some_iff.1 hfile
  obtain ⟨document', -, rfl⟩ := Option.map_eq_some_iff.1 hnext
  exact h

end ApiScan.Docs
