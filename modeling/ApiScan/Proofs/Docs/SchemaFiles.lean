import ApiScan.Proofs.Docs.Found
import ApiScan.Proofs.Docs.Schemas
import ApiScan.Proofs.Docs.Stored

set_option autoImplicit false

/-! # Schemas in a folder without documents

Models that are written to a schemas folder without documents are what the folder loads as then. One
file is written for each source. Of the models of one table, the last one gives the schema, with the
files in the order in which they are taken, and of the fields of one name the last one gives the
property. -/

namespace ApiScan.Docs

open ApiScan.Tree OpenApi

variable {tree tree' : Tree} {docs path : Path} {folder : Place} {models : List Model}

/-! ## Writing -/

theorem keys_schemasBySource :
    Assoc.keys (schemasBySource models) = (models.map Model.source).eraseDups := by
  have hnil : (Assoc.keys ([] : List (Text × Json.Fields))).Nodup := List.nodup_nil
  unfold schemasBySource
  rw [Assoc.keys_foldl_alter models hnil]
  rfl

theorem keys_schemaDocuments_eq :
    Assoc.keys (schemaDocuments models) = (models.map Model.source).eraseDups.map fileName := by
  rw [keys_schemaDocuments, keys_schemasBySource]

/-- **The models of each source are written to one file.** -/
theorem ends_writeSchemas_iff (hsources : ∀ model ∈ models, '/' ∉ model.source)
    (h : LeadsTo tree (schemasFolder docs) folder) {written : List Path} :
    (writeSchemas docs models).Ends tree tree' written ↔
      TakesIn tree (schemasFolder docs) folder ((models.map Model.source).eraseDups.map fileName)
        ∧ tree' = tree.putIn folder (documentFiles (schemaDocuments models))
        ∧ written = (models.map Model.source).eraseDups.map fun source =>
            (schemasFolder docs).step (fileName source) := by
  have hname : ∀ entry ∈ schemasBySource models,
      (schemasFolder docs).join (entry.1 ++ extension) = (schemasFolder docs).step (fileName entry.1)
        ∧ fileName entry.1 ≠ Path.up := fun entry he => by
    have hkey : entry.1 ∈ (models.map Model.source).eraseDups :=
      keys_schemasBySource ▸ List.mem_map_of_mem he
    obtain ⟨model, hmodel, hkey⟩ := List.mem_map.1 (List.mem_eraseDups.1 hkey)
    exact join_source _ (hkey ▸ hsources model hmodel)
  have hnames : (schemasBySource models).map (fun entry => fileName entry.1)
      = (models.map Model.source).eraseDups.map fileName := by
    rw [← keys_schemasBySource, Assoc.keys, List.map_map]
    rfl
  have hpaths : (schemasBySource models).map
        (fun entry => (schemasFolder docs).join (entry.1 ++ extension))
      = (models.map Model.source).eraseDups.map fun source =>
        (schemasFolder docs).step (fileName source) := by
    rw [← keys_schemasBySource, Assoc.keys, List.map_map]
    exact List.map_congr_left fun entry he => (hname entry he).1
  rw [← hnames, ← hpaths]
  exact ends_mapM_writeDocument_iff hname h

/-! ## Loading -/

theorem filter_documentNames (p : Text → Bool) (names : List Text) :
    (documentNames names).filter p = documentNames (names.filter p) := by
  have hcomm (q : Text → Bool) (names : List Text) :
      (names.filter q).filter p = (names.filter p).filter q := by
    rw [List.filter_filter, List.filter_filter]
    exact List.filter_congr fun name _ => Bool.and_comm _ _
  simp only [documentNames, List.filter_append, hcomm]

theorem documentsIn_eq_of_forall {names : List Text} {p : Text → Bool}
    (h : ∀ name ∈ names, Text.endsWith extension name = true → p name = false →
      documentAt? tree (path.step name) = none) :
    documentsIn tree path names = documentsIn tree path (names.filter p) := by
  unfold documentsIn
  rw [← filter_documentNames, List.filterMap_filter]
  refine List.filterMap_congr fun name hname => ?_
  cases hp : p name with
  | true => rfl
  | false =>
      obtain ⟨hname, hends⟩ := mem_documentNames.1 hname
      rw [h name hname hends hp]
      rfl

theorem map_snd_documentsIn {documents : List (Text × Json.Fields)}
    (h : ∀ name ∈ Assoc.keys documents,
      documentAt? tree (path.step name) = Assoc.get? name documents) :
    (documentsIn tree path (Text.sort (Assoc.keys documents))).map Prod.snd = inOrder documents := by
  unfold documentsIn inOrder
  rw [List.map_filterMap, ← List.filterMap_eq_flatMap_toList]
  refine List.filterMap_congr fun name hname => ?_
  rw [h name (Text.mem_sort.1 (mem_documentNames.1 hname).1), Option.map_map]
  exact Option.map_id'

section
variable {documents : List (Text × Json.Fields)}

theorem entry?_putIn_documentFiles {name : Text} {document : Json.Fields}
    (hnodup : (Assoc.keys documents).Nodup) (hg : Assoc.get? name documents = some document) :
    entry? (tree.putIn folder (documentFiles documents)) (folder ++ [name])
      = some (.file (fileOf document)) := by
  have hfiles : (Assoc.keys (documentFiles documents)).Nodup := by
    rwa [Assoc.keys, keys_documentFiles]
  rw [entry?_putIn, Assoc.ofPairs_of_nodup hfiles, get?_documentFiles, hg]
  rfl

/-- A document that is put into a folder is found there. -/
theorem documentAt?_putIn (h : LeadsTo tree path folder) (hnodup : (Assoc.keys documents).Nodup)
    (hsettled : ∀ entry ∈ documents, Json.SettledFields entry.2)
    (htakes : TakesIn tree path folder (Assoc.keys documents)) (name : Text)
    (document : Json.Fields) (hg : Assoc.get? name documents = some document) :
    documentAt? (tree.putIn folder (documentFiles documents)) (path.step name) = some document
      ∧ Decodes (tree.putIn folder (documentFiles documents)) (path.step name)
      ∧ ¬ HasLongNumber (tree.putIn folder (documentFiles documents)) (path.step name) := by
  have hmem := Assoc.mem_of_get?_eq_some hg
  have hname : name ∈ Assoc.keys documents := List.mem_map_of_mem hmem
  have hfits := (htakes name hname).1
  rw [← keys_documentFiles] at htakes
  exact documentAt?_of_file (leadsTo_putIn h htakes) hfits (hsettled _ hmem)
    (entry?_putIn_documentFiles hnodup hg)

/-- A folder is no document. -/
theorem documentAt?_of_folder (hfits : Fits path) (h : LeadsTo tree path folder) {name : Text}
    (hname : '\x00' ∉ name) (hextension : Text.endsWith extension name = true)
    (hfolder : tree.entry? (folder ++ [name]) = some .folder) :
    documentAt? tree (path.step name) = none
      ∧ Decodes tree (path.step name) ∧ ¬ HasLongNumber tree (path.step name) := by
  have hup : name ≠ Path.up := by
    rintro rfl
    exact absurd hextension (by decide)
  refine documentAt?_of_not_file (fun content hread => ?_) (read_step_ne_nulInPath hfits hname)
  exact nomatch ((read_step_eq_ok_iff h hup).1 hread).2.symm.trans hfolder

/-- **A folder without documents loads as the documents that are put into it.** -/
theorem finds_loadDocuments_putIn (hfits : Fits path) (h : LeadsTo tree path folder)
    (hnames : ∀ name ∈ tree.children folder, '\x00' ∉ name)
    (hnone : ∀ name ∈ tree.children folder, Text.endsWith extension name = true →
      tree.entry? (folder ++ [name]) = some .folder)
    (hnodup : (Assoc.keys documents).Nodup)
    (hsettled : ∀ entry ∈ documents, Json.SettledFields entry.2)
    (hends : ∀ name ∈ Assoc.keys documents, Text.endsWith extension name = true)
    (htakes : TakesIn tree path folder (Assoc.keys documents)) :
    (loadDocuments path).Finds (tree.putIn folder (documentFiles documents))
      (inOrder documents) := by
  have hput := documentAt?_putIn h hnodup hsettled htakes
  have habsent : ∀ name ∈ Assoc.keys documents, tree.entry? (folder ++ [name]) = none := by
    intro name hname
    refine Option.not_isSome_iff_eq_none.1 fun hsome => (htakes name hname).2 ?_
    exact hnone name (mem_children.2 hsome) (hends name hname)
  rw [← keys_documentFiles] at htakes hnodup
  have hleads := leadsTo_putIn h htakes
  have hfolders : ∀ name ∈ tree.children folder, Text.endsWith extension name = true → _ :=
    fun name hname hextension => documentAt?_of_folder hfits hleads (hnames name hname) hextension
      ((grows_putIn htakes).keepsFolders _ (hnone name hname hextension))
  have hchildren : names folder (tree.putIn folder (documentFiles documents))
      = Text.sort (tree.children folder ++ Assoc.keys documents) := by
    rw [names_eq, children_putIn hnodup (by rwa [keys_documentFiles]), keys_documentFiles]
  have hall : ∀ name ∈ tree.children folder ++ Assoc.keys documents,
      Text.endsWith extension name = true →
        Decodes (tree.putIn folder (documentFiles documents)) (path.step name)
          ∧ ¬ HasLongNumber (tree.putIn folder (documentFiles documents)) (path.step name) := by
    intro name hname hextension
    rcases List.mem_append.1 hname with hname | hname
    · exact (hfolders name hname hextension).2
    · obtain ⟨document, hg⟩ := Option.isSome_iff_exists.1 (Assoc.has_iff_mem_keys.2 hname)
      exact (hput name document hg).2
  refine (finds_loadDocuments_iff hfits hleads).2 ⟨fun name hname => hall name ?_, ?_⟩
  · rwa [hchildren, Text.mem_sort] at hname
  · have hkept : (tree.children folder ++ Assoc.keys documents).filter
        (· ∈ Assoc.keys documents) = Assoc.keys documents := by
      rw [List.filter_append, List.filter_eq_nil_iff.2, List.nil_append, List.filter_eq_self.2]
      · exact fun name hname => decide_eq_true hname
      · intro name hname hkey
        have hnone := habsent name (of_decide_eq_true hkey)
        rw [mem_children, hnone] at hname
        exact Bool.noConfusion hname
    have hskip : ∀ name ∈ Text.sort (tree.children folder ++ Assoc.keys documents),
        Text.endsWith extension name = true → decide (name ∈ Assoc.keys documents) = false →
          documentAt? (tree.putIn folder (documentFiles documents)) (path.step name) = none := by
      intro name hname hextension hkey
      rcases List.mem_append.1 (Text.mem_sort.1 hname) with hname | hname
      · exact (hfolders name hname hextension).1
      · exact absurd hname (of_decide_eq_false hkey)
    rw [hchildren, documentsIn_eq_of_forall hskip, Text.filter_sort, hkept, map_snd_documentsIn]
    intro name hname
    obtain ⟨document, hg⟩ := Option.isSome_iff_exists.1 (Assoc.has_iff_mem_keys.2 hname)
    rw [hg, (hput name document hg).1]

end

/-! ## The order of records -/

section
variable {α : Type} {sourceOf : α → Text} {records : List α}

theorem mem_byFile_fileOrder {record : α} :
    record ∈ byFile sourceOf fileOrder records ↔ record ∈ records := by
  simp only [byFile, fileOrder, List.mem_flatMap, mem_documentNames, Text.mem_sort, List.mem_dedup,
    List.mem_map, List.mem_filter, decide_eq_true_eq]
  constructor
  · rintro ⟨_, -, hr, -⟩
    exact hr
  · intro hr
    exact ⟨_, ⟨⟨record, hr, rfl⟩, endsWith_fileName _⟩, hr, rfl⟩

theorem nodup_fileOrder {names : List Text} (h : names.Nodup) : (fileOrder names).Nodup := by
  have hsorted := ((Text.sort_perm names).nodup_iff.2 h).filter (Text.endsWith extension)
  refine (hsorted.filter _).append (hsorted.filter _) fun name hname hother => ?_
  exact of_decide_eq_true (List.mem_filter.1 hname).2 (of_decide_eq_true (List.mem_filter.1 hother).2)

/-- The part of one name in a list in which it stands once. -/
theorem flatMap_ite_of_mem {names : List Text} {name : Text} {part : List α} (h : names.Nodup)
    (hmem : name ∈ names) : (names.flatMap fun other => if other = name then part else []) = part := by
  induction names with
  | nil => exact absurd hmem List.not_mem_nil
  | cons first more ih =>
      obtain ⟨hfirst, hmore⟩ := List.nodup_cons.1 h
      rw [List.flatMap_cons]
      rcases List.mem_cons.1 hmem with rfl | hm
      · have hrest : (more.flatMap fun other => if other = name then part else []) = [] :=
          List.flatMap_eq_nil_iff.2 fun other ho => if_neg (ne_of_mem_of_not_mem ho hfirst)
        rw [if_pos rfl, hrest, List.append_nil]
      · rw [if_neg (ne_of_mem_of_not_mem hm hfirst).symm, ih hmore hm, List.nil_append]

theorem precedes_self (name : Text) : Precedes name name := by
  by_cases h : name = commentsFile
  · exact Or.inl h
  · exact Or.inr ⟨h, (Text.le_total name name).elim id id⟩

/-- Records come with their files in the order in which these are taken. -/
theorem pairwise_byFile : (byFile sourceOf fileOrder records).Pairwise fun record later =>
    Precedes (fileName (sourceOf record)) (fileName (sourceOf later)) := by
  have hfile {record : α} {name : Text}
      (h : record ∈ records.filter fun record => fileName (sourceOf record) = name) :
      fileName (sourceOf record) = name := of_decide_eq_true (List.mem_filter.1 h).2
  refine List.pairwise_flatMap.2 ⟨fun name _ => ?_, ?_⟩
  · refine List.pairwise_of_forall_mem_list fun record hr later hl => ?_
    rw [hfile hr, hfile hl]
    exact precedes_self name
  · refine (pairwise_documentNames (Text.sorted_sort _)).imp fun hle record hr later hl => ?_
    rwa [hfile hr, hfile hl]

/-- The records of one source keep their order. -/
theorem filter_byFile (source : Text) :
    (byFile sourceOf fileOrder records).filter (fun record => sourceOf record = source)
      = records.filter fun record => sourceOf record = source := by
  have hpart (name : Text) :
      (records.filter fun record => fileName (sourceOf record) = name).filter
          (fun record => sourceOf record = source)
        = if name = fileName source then records.filter fun record => sourceOf record = source
          else [] := by
    rw [List.filter_filter]
    split
    · next h =>
        refine List.filter_congr fun record _ => ?_
        simp [h, fileName_inj]
    · next h =>
        refine List.filter_eq_nil_iff.2 fun record _ hr => h ?_
        simp only [Bool.and_eq_true, decide_eq_true_eq] at hr
        rw [← hr.2, hr.1]
  rw [byFile, List.filter_flatMap]
  simp only [hpart]
  by_cases h : ∃ record ∈ records, sourceOf record = source
  · obtain ⟨record, hr, rfl⟩ := h
    have hmem : fileName (sourceOf record)
        ∈ fileOrder (records.map fun record => fileName (sourceOf record)).dedup := by
      rw [fileOrder, mem_documentNames, Text.mem_sort, List.mem_dedup]
      exact ⟨List.mem_map_of_mem hr, endsWith_fileName _⟩
    rw [flatMap_ite_of_mem (nodup_fileOrder (List.nodup_dedup _)) hmem]
  · have hnone : (records.filter fun record => sourceOf record = source) = [] :=
      List.filter_eq_nil_iff.2 fun record hr he => h ⟨record, hr, of_decide_eq_true he⟩
    simp [hnone]

end

/-! ## The schemas -/

/-- The schemas that are put one after another are those of the last models of their tables. -/
theorem get?_putSchemas {table : Points} {schema : Json} :
    Assoc.get? table (putSchemas [] models) = some schema ↔
      ∃ before model after, models = before ++ model :: after
        ∧ (∀ later ∈ after, Points.ofText later.table ≠ table)
        ∧ schemaDocument model = [(table, schema)] := by
  refine Assoc.get?_foldl_put_eq_some_iff.trans ?_
  simp only [schemaDocument, List.singleton_inj, Prod.mk.injEq]

theorem mem_keys_putSchemas {table : Points} :
    table ∈ Assoc.keys (putSchemas [] models) ↔
      ∃ model ∈ models, Points.ofText model.table = table := by
  refine Assoc.mem_keys_foldl_alter.trans ((or_iff_left List.not_mem_nil).trans ?_)
  simp only [eq_comm]

theorem get?_properties {fields : List Field} {name : Points} {schema : Json} :
    Assoc.get? name (properties fields) = some schema ↔
      ∃ before field after, fields = before ++ field :: after
        ∧ (∀ later ∈ after, Points.ofText later.name ≠ name)
        ∧ Points.ofText field.name = name ∧ .object (fieldSchema field) = schema := by
  unfold properties Assoc.ofPairs Assoc.update
  rw [List.foldl_map]
  exact Assoc.get?_foldl_put_eq_some_iff

theorem mem_keys_properties {fields : List Field} {name : Points} :
    name ∈ Assoc.keys (properties fields) ↔ ∃ field ∈ fields, Points.ofText field.name = name := by
  unfold properties Assoc.ofPairs Assoc.update
  rw [List.foldl_map]
  refine Assoc.mem_keys_foldl_alter.trans ((or_iff_left List.not_mem_nil).trans ?_)
  simp only [eq_comm]

/-! ## Schemas written and loaded -/

/-- Models are written to a folder in which their files fit: each of them has its file then, and
    nothing else changes. -/
theorem ends_writeSchemas_of_fits (hleads : LeadsTo tree (schemasFolder docs) folder)
    (hsources : ∀ model ∈ models, '/' ∉ model.source)
    (hfits : ∀ model ∈ models, FitsIn (schemasFolder docs) (fileName model.source)
      ∧ tree.entry? (folder ++ [fileName model.source]) ≠ some .folder) :
    (writeSchemas docs models).Ends tree (tree.putIn folder (documentFiles (schemaDocuments models)))
        ((models.map Model.source).eraseDups.map fun source =>
          (schemasFolder docs).step (fileName source))
      ∧ (∀ model ∈ models, ∃ content,
          Tree.entry? (tree.putIn folder (documentFiles (schemaDocuments models)))
            (folder ++ [fileName model.source]) = some (.file content))
      ∧ ∀ place, (∀ model ∈ models, place ≠ folder ++ [fileName model.source]) →
          Tree.entry? (tree.putIn folder (documentFiles (schemaDocuments models))) place
            = tree.entry? place := by
  have htakes : TakesIn tree (schemasFolder docs) folder (Assoc.keys (schemaDocuments models)) := by
    intro name hname
    obtain ⟨model, hmodel, rfl⟩ := mem_keys_schemaDocuments.1 hname
    exact hfits model hmodel
  rw [keys_schemaDocuments_eq] at htakes
  refine ⟨(ends_writeSchemas_iff hsources hleads).2 ⟨htakes, rfl, rfl⟩, fun model hmodel => ?_,
    fun place hplace => entry?_putIn_of_ne fun name hname => ?_⟩
  · have hkey := mem_keys_schemaDocuments.2 ⟨model, hmodel, rfl⟩
    obtain ⟨document, hg⟩ := Option.isSome_iff_exists.1 (Assoc.has_iff_mem_keys.2 hkey)
    exact ⟨_, entry?_putIn_documentFiles nodup_keys_schemaDocuments hg⟩
  · rw [keys_documentFiles] at hname
    obtain ⟨model, hmodel, rfl⟩ := mem_keys_schemaDocuments.1 hname
    exact hplace model hmodel

/-- What the docs folder loads as when models were written to its schemas folder, which held no
    documents. -/
theorem finds_load_of_putIn {paths : List Json.Fields}
    (hpath : Fits (schemasFolder docs)) (hleads : LeadsTo tree (schemasFolder docs) folder)
    (hnames : ∀ name ∈ tree.names folder, '\x00' ∉ name)
    (hnone : ∀ name ∈ tree.names folder, Text.endsWith extension name = true →
      tree.entry? (folder ++ [name]) = some .folder)
    (hfits : ∀ model ∈ models, FitsIn (schemasFolder docs) (fileName model.source)
      ∧ tree.entry? (folder ++ [fileName model.source]) ≠ some .folder)
    (hroutes : (loadDocuments (routesFolder docs)).Finds tree paths) :
    (load docs).Finds (tree.putIn folder (documentFiles (schemaDocuments models)))
      ⟨putSchemas [] (byFile Model.source fileOrder models), paths.foldl mergePaths []⟩ := by
  obtain ⟨start, hstart⟩ := exists_folder_of_follow_append hleads (List.cons_ne_nil _ _)
  have hplace : folder = start ++ ["schemas".toList] := LeadsTo.eq_step hstart (by decide) hleads
  have htakes : TakesIn tree (schemasFolder docs) folder (Assoc.keys (schemaDocuments models)) := by
    intro name hname
    obtain ⟨model, hmodel, rfl⟩ := mem_keys_schemaDocuments.1 hname
    exact hfits model hmodel
  have hends : ∀ name ∈ Assoc.keys (schemaDocuments models),
      Text.endsWith extension name = true := fun name hname => by
    obtain ⟨model, -, rfl⟩ := mem_keys_schemaDocuments.1 hname
    exact endsWith_fileName _
  rw [names_eq] at hnames hnone
  have hschemas := finds_loadDocuments_putIn hpath hleads
    (fun name hname => hnames name (Text.mem_sort.2 hname))
    (fun name hname => hnone name (Text.mem_sort.2 hname)) nodup_keys_schemaDocuments
    (fun _ => settledFields_of_mem_schemaDocuments) hends htakes
  rw [← keys_documentFiles] at htakes
  have hloaded := finds_loadDocuments_of_growsIn hstart (growsIn_putIn htakes) (by decide)
    (by rw [hplace]; simp) (by rw [hplace]; simp) hroutes
  refine Survey.finds_bind.2 ⟨_, hschemas, Survey.finds_bind.2 ⟨_, hloaded, ?_⟩⟩
  rw [foldl_inOrder_schemaDocuments]
  rfl

/-- **Models written to a schemas folder without documents are the schemas that the docs folder
    loads.** One file is written for each source and nothing else changes. The tables are those of
    the models, and of the models of one table the last one counts, with the models file by file in
    the order in which the files are taken, and in their own order within a file. The properties of
    a model are its fields, of which the last one of a name counts. If no source is named like the
    comments, the files are taken in the order of their names. -/
theorem schemas_of_written {paths : List Json.Fields}
    (hfolder : tree.folder? (schemasFolder docs) = .ok (some folder))
    (hnames : ∀ name ∈ tree.names folder, '\x00' ∉ name)
    (hnone : ∀ name ∈ tree.names folder, Text.endsWith extension name = true →
      tree.entry? (folder ++ [name]) = some .folder)
    (hsources : ∀ model ∈ models, '/' ∉ model.source)
    (hfits : ∀ model ∈ models, FitsIn (schemasFolder docs) (fileName model.source)
      ∧ tree.entry? (folder ++ [fileName model.source]) ≠ some .folder)
    (hroutes : (loadDocuments (routesFolder docs)).Finds tree paths) :
    ∃ tree' ordered contents,
      (writeSchemas docs models).Ends tree tree' ((models.map Model.source).eraseDups.map
          fun source => (schemasFolder docs).step (fileName source))
        ∧ (∀ model ∈ models, ∃ content,
            tree'.entry? (folder ++ [fileName model.source]) = some (.file content))
        ∧ (∀ place, (∀ model ∈ models, place ≠ folder ++ [fileName model.source]) →
            tree'.entry? place = tree.entry? place)
        ∧ (load docs).Finds tree' contents
        ∧ contents.paths = paths.foldl mergePaths []
        ∧ (ordered.Pairwise fun model later =>
            Precedes (fileName model.source) (fileName later.source))
        ∧ (∀ source, ordered.filter (fun model => model.source = source)
            = models.filter fun model => model.source = source)
        ∧ (∀ table, table ∈ Assoc.keys contents.schemas ↔
            ∃ model ∈ models, Points.ofText model.table = table)
        ∧ (∀ table schema, Assoc.get? table contents.schemas = some schema ↔
            ∃ before model after, ordered = before ++ model :: after
              ∧ (∀ later ∈ after, Points.ofText later.table ≠ table)
              ∧ schemaDocument model = [(table, schema)])
        ∧ (∀ model ∈ models, ∃ properties,
            schemaDocument model = [(Points.ofText model.table, .record [
                ("type", .ofString "object"), ("properties", .object properties)])]
              ∧ (∀ name, name ∈ Assoc.keys properties ↔
                  ∃ field ∈ model.fields, Points.ofText field.name = name)
              ∧ ∀ name schema, Assoc.get? name properties = some schema ↔
                  ∃ before field after, model.fields = before ++ field :: after
                    ∧ (∀ later ∈ after, Points.ofText later.name ≠ name)
                    ∧ Points.ofText field.name = name ∧ .object (fieldSchema field) = schema)
        ∧ ((∀ model ∈ models, model.source ≠ "swagger-comments".toList) →
            ordered.Pairwise fun model later =>
              Text.le (fileName model.source) (fileName later.source) = true) := by
  obtain ⟨hpath, hleads⟩ := folder?_eq_some.1 hfolder
  obtain ⟨hwrite, hfile, hkept⟩ := ends_writeSchemas_of_fits hleads hsources hfits
  refine ⟨_, byFile Model.source fileOrder models, _, hwrite, hfile, hkept,
    finds_load_of_putIn hpath hleads hnames hnone hfits hroutes, rfl, pairwise_byFile,
    filter_byFile, fun table => ?_, fun _ _ => get?_putSchemas, fun model _ =>
      ⟨properties model.fields, rfl, fun _ => mem_keys_properties, fun _ _ => get?_properties⟩,
    fun hcomments => ?_⟩
  · rw [mem_keys_putSchemas]
    simp only [mem_byFile_fileOrder]
  · refine pairwise_byFile.imp_of_mem fun _ hlater hle => ?_
    exact (hle.resolve_left (fileName_ne_commentsFile
      (hcomments _ (mem_byFile_fileOrder.1 hlater)))).2

/-- A docs folder without a schema document, although one name has the extension. -/
def folderNamedAsDocument : Tree where
  entries := [
    (["docs"].map String.toList, .folder),
    (["docs", "schemas"].map String.toList, .folder),
    (["docs", "schemas", "old.json"].map String.toList, .folder),
    (["docs", "schemas", "notes.txt"].map String.toList, .file (Text.toBytes "see users".toList)),
    (["docs", "routes"].map String.toList, .folder),
    (["docs", "routes", "users.json"].map String.toList, .file (Text.toBytes
      "\x7b\"/users\": \x7b\"get\": \x7b\x7d\x7d\x7d".toList))]

/-- Models of which two are of one table and two from one source. -/
def modelsOfUsers : List Model := [
  ⟨"users".toList, "user".toList, [⟨"name".toList, "string".toList⟩]⟩,
  ⟨"users".toList, "account".toList, [⟨"age".toList, "int".toList⟩, ⟨"age".toList, "date".toList⟩]⟩,
  ⟨"posts".toList, "user".toList, []⟩]

/-- The models are loaded after they were written to two files. -/
theorem schemas_of_users_written : ∃ tree' contents,
    (writeSchemas (Path.ofText "docs".toList) modelsOfUsers).Ends folderNamedAsDocument tree'
        ((["user", "account"].map String.toList).map fun source =>
          (schemasFolder (Path.ofText "docs".toList)).step (fileName source))
      ∧ (load (Path.ofText "docs".toList)).Finds tree' contents
      ∧ Points.ofText "users".toList ∈ Assoc.keys contents.schemas
      ∧ Points.ofText "posts".toList ∈ Assoc.keys contents.schemas := by
  have hfolder : folderNamedAsDocument.folder? (schemasFolder (Path.ofText "docs".toList))
      = .ok (some (["docs", "schemas"].map String.toList)) := by
    decide +kernel
  have hroutes : (loadDocuments (routesFolder (Path.ofText "docs".toList))
      folderNamedAsDocument).2.toOption.isSome = true := by
    decide +kernel
  obtain ⟨paths, hpaths⟩ := Option.isSome_iff_exists.1 hroutes
  have hsources : ∀ model ∈ modelsOfUsers, '/' ∉ model.source := by decide
  obtain ⟨tree', _, contents, hwrite, -, -, hload, -, -, -, hkeys, -⟩ :=
    schemas_of_written hfolder (by decide +kernel) (by decide +kernel) hsources (by decide +kernel)
      (Survey.eq_ok_of_mem_toOption hpaths)
  exact ⟨tree', contents, hwrite, hload, (hkeys _).2 ⟨_, List.mem_cons_self, rfl⟩,
    (hkeys _).2 ⟨_, List.mem_of_mem_getLast? rfl, rfl⟩⟩

/-- An empty docs folder. -/
def emptyDocs : Tree where
  entries := [
    (["docs"].map String.toList, .folder),
    (["docs", "schemas"].map String.toList, .folder),
    (["docs", "routes"].map String.toList, .folder)]

/-- The model of a source that is named like the comments. -/
def modelNamedAsComments : Model :=
  ⟨"users".toList, "swagger-comments".toList, [⟨"name".toList, "string".toList⟩]⟩

/-- A model of the same table from a source with a later name. -/
def modelWithLaterName : Model := ⟨"users".toList, "user".toList, [⟨"age".toList, "int".toList⟩]⟩

/-- The model of the source that is named like the comments wins, not the one of the file with the
    last name. -/
theorem schema_not_of_last_name : ∃ tree' written contents schema,
    emptyDocs.names (["docs", "schemas"].map String.toList) = []
      ∧ '/' ∉ modelNamedAsComments.source ∧ '/' ∉ modelWithLaterName.source
      ∧ (writeSchemas (Path.ofText "docs".toList) [modelNamedAsComments, modelWithLaterName]).Ends
          emptyDocs tree' written
      ∧ (load (Path.ofText "docs".toList)).Finds tree' contents
      ∧ Text.le (fileName modelNamedAsComments.source) (fileName modelWithLaterName.source) = true
      ∧ Assoc.get? (Points.ofText "users".toList) contents.schemas = some schema
      ∧ schemaDocument modelWithLaterName ≠ [(Points.ofText "users".toList, schema)] := by
  have hrun : ∃ written ∈ (writeSchemas (Path.ofText "docs".toList)
        [modelNamedAsComments, modelWithLaterName] emptyDocs).2.2.toOption,
      ∃ contents ∈ (load (Path.ofText "docs".toList) (writeSchemas (Path.ofText "docs".toList)
        [modelNamedAsComments, modelWithLaterName] emptyDocs).1).2.toOption,
        ∃ schema ∈ Assoc.get? (Points.ofText "users".toList) contents.schemas,
          Json.text (.object (schemaDocument modelWithLaterName))
            ≠ Json.text (.object [(Points.ofText "users".toList, schema)]) := by
    decide +kernel
  obtain ⟨written, hwritten, contents, hcontents, schema, hschema, hother⟩ := hrun
  exact ⟨_, written, contents, schema, by decide +kernel, by decide, by decide,
    ⟨rfl, Survey.eq_ok_of_mem_toOption hwritten⟩, Survey.eq_ok_of_mem_toOption hcontents,
    by decide, hschema, fun he => hother (by rw [he])⟩

end ApiScan.Docs
