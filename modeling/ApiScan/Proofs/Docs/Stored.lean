import ApiScan.Docs.Folder
import ApiScan.Proofs.Path
import ApiScan.Proofs.Tree.Growth
import ApiScan.Proofs.Tree.MakeFolders
import ApiScan.Proofs.Tree.WellFormed
import ApiScan.Proofs.Work

set_option autoImplicit false

/-! # Folders of documents

A folder that holds documents and nothing else, one in each file, is described by the list of its
documents under their names. Writing a document puts it into the list, and files written elsewhere
leave the list as it is. -/

namespace ApiScan.Docs

open ApiScan.Tree

variable {tree tree' : Tree} {path : Path} {folder : Place} {documents : List (Text × Json.Fields)}
  {name : Text}

/-! ## What a folder holds -/

/-- The bytes of the file of a document. -/
def fileOf (document : Json.Fields) : Bytes := Text.toBytes (Json.text (.object document))

/-- The folder at a path holds the documents under their names, and nothing else. -/
structure Stores (tree : Tree) (path : Path) (folder : Place)
    (documents : List (Text × Json.Fields)) : Prop where
  fits : Fits path
  leadsTo : LeadsTo tree path folder
  children_eq : tree.children folder = Assoc.keys documents
  entry?_eq : ∀ name, tree.entry? (folder ++ [name])
    = (Assoc.get? name documents).map fun document => .file (fileOf document)
  fitsIn : ∀ name ∈ Assoc.keys documents, FitsIn path name

theorem stores_nil (hfits : Fits path) (h : LeadsTo tree path folder)
    (hnone : ∀ name, tree.entry? (folder ++ [name]) = none) : Stores tree path folder [] where
  fits := hfits
  leadsTo := h
  children_eq := List.eq_nil_iff_forall_not_mem.2 fun name hm => by
    rw [mem_children, hnone name] at hm
    exact Bool.noConfusion hm
  entry?_eq := hnone
  fitsIn := fun _ hm => absurd hm List.not_mem_nil

/-- Files in another folder leave the documents as they are. -/
theorem Stores.of_growsIn (h : Stores tree path folder documents) {other : Place}
    (hgrows : GrowsIn other tree tree') (hne : folder ≠ other) :
    Stores tree' path folder documents where
  fits := h.fits
  leadsTo := h.leadsTo.of_keepsFolders hgrows.keepsFolders
  children_eq := (GrowsIn.children_eq hgrows hne).trans h.children_eq
  entry?_eq := fun name => (GrowsIn.entry?_child hgrows hne name).trans (h.entry?_eq name)
  fitsIn := h.fitsIn

/-- A document that is written is put into the list. -/
theorem Stores.put (h : Stores tree path folder documents) {document : Json.Fields}
    (hfits : FitsIn path name) :
    Stores (tree.put (folder ++ [name]) (.file (fileOf document))) path folder
      (Assoc.put name document documents) where
  fits := h.fits
  leadsTo := h.leadsTo.of_keepsFolders (keepsFolders_put (append_singleton_ne_nil folder name)
    (by
      rw [h.entry?_eq]
      cases Assoc.get? name documents <;> nofun) _)
  children_eq := by
    have hne := append_singleton_ne_nil folder name
    cases hg : Assoc.get? name documents with
    | some old =>
        have hhas : Assoc.has name documents = true := by rw [Assoc.has, hg]; rfl
        rw [children_put_of_isSome hne (by rw [h.entry?_eq, hg]; rfl), h.children_eq, Assoc.put,
          Assoc.keys_alter_of_has hhas]
    | none =>
        have hhas : Assoc.has name documents = false := by rw [Assoc.has, hg]; rfl
        rw [children_put_of_none hne (by rw [h.entry?_eq, hg]; rfl), h.children_eq, Assoc.put,
          Assoc.keys_alter_of_not_has hhas, childName?_eq_some.2 rfl]
        rfl
  entry?_eq := fun other => by
    rw [entry?_put (append_singleton_ne_nil folder name), Assoc.get?_put]
    by_cases ho : name = other
    · subst ho
      rw [if_pos rfl, if_pos (beq_self_eq_true name)]
      rfl
    · rw [if_neg fun he => ho (List.append_cancel_left he |> List.singleton_inj.1).symm,
        if_neg (by simpa using ho), h.entry?_eq]
  fitsIn := fun other ho => by
    rcases Assoc.mem_keys_alter.1 ho with rfl | ho
    · exact hfits
    · exact h.fitsIn other ho

/-! ## Writing -/

/-- The name of the file that documents a source. -/
def fileName (source : Text) : Text := source ++ extension

theorem fileName_inj {source other : Text} : fileName source = fileName other ↔ source = other :=
  ⟨List.append_cancel_right, congrArg fileName⟩

/-- The file of a source without slashes has a name. -/
theorem isName_fileName {source : Text} (h : '/' ∉ source) : IsName (fileName source) := by
  have hlength (s : Text) (hs : s.length < 5) : fileName source ≠ s := by
    rintro rfl
    rw [fileName, List.length_append] at hs
    exact absurd hs (Nat.not_lt.2 (Nat.le_add_left 5 source.length))
  refine ⟨?_, hlength [] (by decide), hlength ['.'] (by decide), hlength Path.up (by decide)⟩
  rw [fileName, List.mem_append, not_or]
  exact ⟨h, by decide⟩

/-- The file of a source is a name in the folder. -/
theorem join_source (path : Path) {source : Text} (h : '/' ∉ source) :
    path.join (source ++ extension) = path.step (fileName source) ∧ fileName source ≠ Path.up := by
  obtain ⟨hslash, hne, hdot, hup⟩ := isName_fileName h
  exact ⟨Path.join_eq_step path hslash hne hdot, hup⟩

theorem ends_writeDocument (h : LeadsTo tree path folder) (hup : name ≠ Path.up)
    {document : Json.Fields} {written : Path}
    (hend : (Work.writeDocument (path.step name) (.object document)).Ends tree tree' written) :
    FitsIn path name ∧ tree.entry? (folder ++ [name]) ≠ some .folder
      ∧ tree' = tree.put (folder ++ [name]) (.file (fileOf document)) := by
  have hparent : (path.step name).parent = path := by
    simp [Path.parent, Path.step]
  unfold Work.writeDocument at hend
  obtain ⟨between, _, hmade, hafter⟩ := Work.ends_bind.1 hend
  rw [Work.ends_makeFolders, hparent] at hmade
  obtain rfl := makeFolders_of_leadsTo h hmade
  obtain ⟨_, _, hwrite, hpure⟩ := Work.ends_bind.1 hafter
  obtain ⟨rfl, -⟩ := Work.ends_pure.1 hpure
  exact write_step_eq_ok h hup (Work.ends_change.1 hwrite)

/-- The file of one of some documents in a folder. -/
def IsDocument (folder : Place) (documents : List (Text × Json.Fields)) (place : Place)
    (entry : Entry) : Prop :=
  ∃ document ∈ documents, place = folder ++ [document.1] ∧ entry = .file (fileOf document.2)

theorem growsIn_of_documents {written : List (Text × Json.Fields)}
    (h : Grows (IsDocument folder written) tree tree') : GrowsIn folder tree tree' :=
  h.mono fun _ _ ⟨document, _, hplace, hentry⟩ => ⟨⟨document.1, hplace⟩, _, hentry⟩

/-- Documents that are written one after another are put into the list in order, and the tree grows
    by nothing but their files. -/
theorem stores_mapM_writeDocument {α : Type} {pathOf : α → Path} {nameOf : α → Text}
    {documentOf : α → Json.Fields} {items : List α}
    (hname : ∀ a ∈ items, pathOf a = path.step (nameOf a) ∧ nameOf a ≠ Path.up)
    {written : List Path} (h : Stores tree path folder documents)
    (hend : (items.mapM fun a =>
      Work.writeDocument (pathOf a) (.object (documentOf a))).Ends tree tree' written) :
    Stores tree' path folder
        (items.foldl (fun documents a => Assoc.put (nameOf a) (documentOf a) documents) documents)
      ∧ Grows (IsDocument folder (items.map fun a => (nameOf a, documentOf a))) tree tree' := by
  induction items generalizing tree documents written with
  | nil =>
      obtain ⟨rfl, -⟩ := Work.ends_mapM_nil.1 hend
      exact ⟨h, Grows.refl⟩
  | cons a more ih =>
      obtain ⟨between, _, _, hfirst, hmore, -⟩ := Work.ends_mapM_cons.1 hend
      obtain ⟨hpath, hup⟩ := hname a List.mem_cons_self
      rw [hpath] at hfirst
      obtain ⟨hfits, hfolder, rfl⟩ := ends_writeDocument h.leadsTo hup hfirst
      obtain ⟨hstores, hgrows⟩ :=
        ih (fun b hb => hname b (List.mem_cons_of_mem a hb)) (h.put hfits) hmore
      have hput : Grows (IsDocument folder ((a :: more).map fun a => (nameOf a, documentOf a))) tree
          (tree.put (folder ++ [nameOf a]) (.file (fileOf (documentOf a)))) :=
        grows_put (append_singleton_ne_nil folder _) ⟨_, List.mem_cons_self, rfl, rfl⟩
          (takes_file _ hfolder)
      exact ⟨hstores, hput.trans (hgrows.mono fun _ _ ⟨document, hm, hd⟩ =>
        ⟨document, List.mem_cons_of_mem _ hm, hd⟩)⟩

end ApiScan.Docs

/-! ## Documents put into a folder

Writing files into a folder that is there ends exactly if their names can stand in it and no folder
is in the way; the files are put in, and nothing else changes. -/

namespace ApiScan.Docs

open ApiScan.Tree

variable {tree tree' : Tree} {path : Path} {folder : Place} {name : Text} {α β : Type}
  {files more : List (Text × Bytes)}

/-! ## Work that puts files -/

/-- Work that puts files into the folder that a path leads to, and gives a value. -/
def Puts (work : Work α) (path : Path) (folder : Place) (files : List (Text × Bytes)) (a : α) :
    Prop :=
  ∀ tree tree' b, LeadsTo tree path folder → (work.Ends tree tree' b ↔
    TakesIn tree path folder (files.map Prod.fst) ∧ tree' = tree.putIn folder files ∧ b = a)

theorem puts_pure (path : Path) (folder : Place) (a : α) :
    Puts (pure a : Work α) path folder [] a := fun tree tree' b _ => by
  rw [Work.ends_pure]
  exact ⟨fun ⟨he, hb⟩ => ⟨fun _ h => absurd h List.not_mem_nil, he.symm, hb.symm⟩,
    fun ⟨_, he, hb⟩ => ⟨he.symm, hb.symm⟩⟩

/-- What two parts put is put one after the other. -/
theorem Puts.bind {work : Work α} {next : α → Work β} {a : α} {b : β}
    (h : Puts work path folder files a) (hnext : Puts (next a) path folder more b) :
    Puts (work >>= next) path folder (files ++ more) b := fun tree tree' c hleads => by
  rw [Work.ends_bind, TakesIn, List.map_append, List.forall_mem_append, putIn_append]
  constructor
  · rintro ⟨between, _, hwork, hrest⟩
    obtain ⟨htakes, rfl, rfl⟩ := (h _ _ _ hleads).1 hwork
    obtain ⟨htakesmore, rfl, rfl⟩ := (hnext _ _ _ (leadsTo_putIn hleads htakes)).1 hrest
    exact ⟨⟨htakes, takesIn_of_putIn htakes htakesmore⟩, rfl, rfl⟩
  · rintro ⟨⟨htakes, htakesmore⟩, rfl, rfl⟩
    exact ⟨_, a, (h _ _ _ hleads).2 ⟨htakes, rfl, rfl⟩,
      (hnext _ _ _ (leadsTo_putIn hleads htakes)).2 ⟨takesIn_putIn htakesmore, rfl, rfl⟩⟩

theorem Puts.ite {work : Work α} {a other : α} (h : Puts work path folder files a)
    (c : Prop) [Decidable c] : Puts (if c then work else pure other) path folder
      (if c then files else []) (if c then a else other) := by
  split
  · exact h
  · exact puts_pure path folder other

/-! ## Single files -/

theorem write_step {content : Bytes → Bytes} (h : LeadsTo tree path folder)
    (hname : FitsIn path name) (hfolder : tree.entry? (folder ++ [name]) ≠ some .folder) :
    tree.write (path.step name) content
      = .ok (tree.put (folder ++ [name]) (.file (content (tree.contentAt (folder ++ [name]))))) := by
  unfold write contentAt
  rw [locate_step h hname]
  cases he : tree.entry? (folder ++ [name]) with
  | none =>
      rw [targetAt_of_none he]
      rfl
  | some entry =>
      rw [targetAt_of_some he]
      cases entry with
      | folder => exact absurd he hfolder
      | file old => rfl

theorem ends_write_iff {text : Text} {done : Unit} (h : LeadsTo tree path folder)
    (hup : name ≠ Path.up) :
    (Work.write (path.step name) text).Ends tree tree' done ↔
      TakesIn tree path folder [name] ∧ tree' = tree.putIn folder [(name, Text.toBytes text)] := by
  unfold Work.write TakesIn
  rw [Work.ends_change, List.forall_mem_singleton]
  constructor
  · intro hwrite
    obtain ⟨hfits, hfolder, rfl⟩ := write_step_eq_ok h hup hwrite
    exact ⟨⟨hfits, hfolder⟩, rfl⟩
  · rintro ⟨⟨hfits, hfolder⟩, rfl⟩
    exact write_step h hfits hfolder

theorem ends_writeDocument_iff {document : Json.Fields} {written : Path}
    (h : LeadsTo tree path folder) (hup : name ≠ Path.up) :
    (Work.writeDocument (path.step name) (.object document)).Ends tree tree' written ↔
      TakesIn tree path folder [name] ∧ tree' = tree.putIn folder [(name, fileOf document)]
        ∧ written = path.step name := by
  have hparent : (path.step name).parent = path := by
    simp [Path.parent, Path.step]
  unfold Work.writeDocument
  simp only [Work.ends_bind, Work.ends_pure, hparent, Work.ends_makeFolders]
  constructor
  · rintro ⟨made, _, hmade, between, _, hwrite, rfl, rfl⟩
    obtain rfl := makeFolders_of_leadsTo h hmade
    obtain ⟨htakes, rfl⟩ := (ends_write_iff h hup).1 hwrite
    exact ⟨htakes, rfl, rfl⟩
  · rintro ⟨htakes, rfl, rfl⟩
    have hfits : Fits path := fits_of_append (htakes name List.mem_cons_self).1.1
    exact ⟨tree, (), makeFolders_eq_ok hfits h, _, (), (ends_write_iff h hup).2 ⟨htakes, rfl⟩, rfl,
      rfl⟩

/-! ## Lists of documents -/

/-- The files of documents. -/
def documentFiles (documents : List (Text × Json.Fields)) : List (Text × Bytes) :=
  documents.map fun entry => (entry.1, fileOf entry.2)

theorem keys_documentFiles (documents : List (Text × Json.Fields)) :
    (documentFiles documents).map Prod.fst = Assoc.keys documents := by
  simp only [documentFiles, List.map_map]
  rfl

theorem get?_documentFiles (name : Text) (documents : List (Text × Json.Fields)) :
    Assoc.get? name (documentFiles documents) = (Assoc.get? name documents).map fileOf :=
  Assoc.get?_map (fun _ _ h => h) name documents

theorem ends_mapM_writeDocument_iff {pathOf : α → Path} {nameOf : α → Text}
    {documentOf : α → Json.Fields} {items : List α}
    (hname : ∀ a ∈ items, pathOf a = path.step (nameOf a) ∧ nameOf a ≠ Path.up)
    (h : LeadsTo tree path folder) {written : List Path} :
    (items.mapM fun a => Work.writeDocument (pathOf a) (.object (documentOf a))).Ends tree tree'
        written ↔
      TakesIn tree path folder (items.map nameOf)
        ∧ tree' = tree.putIn folder (documentFiles (items.map fun a => (nameOf a, documentOf a)))
        ∧ written = items.map pathOf := by
  induction items generalizing tree written with
  | nil =>
      rw [Work.ends_mapM_nil]
      exact ⟨fun ⟨he, hw⟩ => ⟨fun _ h => absurd h List.not_mem_nil, he.symm, hw⟩,
        fun ⟨_, he, hw⟩ => ⟨he.symm, hw⟩⟩
  | cons a more ih =>
      rw [List.forall_mem_cons] at hname
      obtain ⟨⟨hpath, hup⟩, hmore⟩ := hname
      have hleads (htakes : TakesIn tree path folder [nameOf a]) :
          LeadsTo (tree.putIn folder [(nameOf a, fileOf (documentOf a))]) path folder :=
        leadsTo_putIn h htakes
      rw [Work.ends_mapM_cons, hpath]
      constructor
      · rintro ⟨between, _, rest, hfirst, hrest, rfl⟩
        obtain ⟨htakes, rfl, rfl⟩ := (ends_writeDocument_iff h hup).1 hfirst
        obtain ⟨htakesmore, rfl, rfl⟩ := (ih hmore (hleads htakes)).1 hrest
        exact ⟨List.forall_mem_cons.2 ⟨htakes _ List.mem_cons_self,
          takesIn_of_putIn (by exact htakes) htakesmore⟩, rfl, by rw [List.map_cons, hpath]⟩
      · rintro ⟨htakes, rfl, rfl⟩
        rw [List.map_cons, TakesIn, List.forall_mem_cons] at htakes
        have hfirst : TakesIn tree path folder [nameOf a] := List.forall_mem_singleton.2 htakes.1
        refine ⟨_, _, _, (ends_writeDocument_iff h hup).2 ⟨hfirst, rfl, rfl⟩,
          (ih hmore (hleads hfirst)).2 ⟨takesIn_putIn htakes.2, rfl, rfl⟩, ?_⟩
        rw [List.map_cons, hpath]

end ApiScan.Docs
