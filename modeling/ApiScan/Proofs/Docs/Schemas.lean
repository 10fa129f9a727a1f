import ApiScan.Proofs.Docs.Loaded
import ApiScan.Proofs.OpenApi.Settled

set_option autoImplicit false

/-! # Schemas through the docs folder

The schemas of models are written to the docs folder, one file for each source, and read back from
there. What is read back are the schemas of the models, put one after another, with the sources in
the order in which their files are taken. -/

namespace ApiScan.Docs

open ApiScan.Tree OpenApi

variable {tree tree' : Tree} {docs : Path} {folder : Place} {models : List Model}

/-! ## The files of models -/

/-- The schema documents of models, by the names of their files. -/
def schemaDocuments (models : List Model) : List (Text × Json.Fields) :=
  (schemasBySource models).map fun (source, document) => (fileName source, document)

theorem keys_schemaDocuments :
    Assoc.keys (schemaDocuments models) = (Assoc.keys (schemasBySource models)).map fileName := by
  simp only [Assoc.keys, schemaDocuments, List.map_map]
  rfl

theorem nodup_schemasBySource : (Assoc.keys (schemasBySource models)).Nodup := by
  have hall (entries : List (Text × Json.Fields)) (h : (Assoc.keys entries).Nodup) :
      (Assoc.keys (models.foldl (fun documents model => Assoc.alter model.source
        (fun document => Assoc.update (document.getD []) (schemaDocument model)) documents)
        entries)).Nodup := by
    induction models generalizing entries with
    | nil => exact h
    | cons model more ih => exact ih _ (Assoc.nodup_keys_alter h)
  exact hall [] List.nodup_nil

theorem nodup_keys_schemaDocuments : (Assoc.keys (schemaDocuments models)).Nodup := by
  rw [keys_schemaDocuments]
  exact nodup_schemasBySource.map fun _ _ he => fileName_inj.1 he

theorem mem_keys_schemaDocuments {name : Text} :
    name ∈ Assoc.keys (schemaDocuments models) ↔ ∃ model ∈ models, fileName model.source = name := by
  rw [keys_schemaDocuments, List.mem_map]
  have hsource (source : Text) : source ∈ Assoc.keys (schemasBySource models)
      ↔ ∃ model ∈ models, source = model.source := by
    unfold schemasBySource
    rw [Assoc.mem_keys_foldl_alter]
    exact or_iff_left List.not_mem_nil
  constructor
  · rintro ⟨source, hs, rfl⟩
    obtain ⟨model, hmodel, rfl⟩ := (hsource source).1 hs
    exact ⟨model, hmodel, rfl⟩
  · rintro ⟨model, hmodel, rfl⟩
    exact ⟨model.source, (hsource _).2 ⟨model, hmodel, rfl⟩, rfl⟩

/-- The schemas of models, put one after another. -/
def putSchemas (schemas : Json.Fields) (models : List Model) : Json.Fields :=
  models.foldl (fun schemas model => Assoc.update schemas (schemaDocument model)) schemas

/-- The document of a source holds the schemas of its models. -/
theorem eq_putSchemas_of_mem {source : Text} {document : Json.Fields}
    (h : (source, document) ∈ schemasBySource models) :
    document = putSchemas [] (models.filter fun model => model.source == source) := by
  rw [← Assoc.get?_eq_some_iff_mem nodup_schemasBySource, schemasBySource,
    Assoc.get?_foldl_alter] at h
  have hall (some? : Option Json.Fields) (models : List Model) :
      models.foldl (fun old model => some (Assoc.update (old.getD []) (schemaDocument model))) some?
          = some document → document = putSchemas (some?.getD []) models := by
    induction models generalizing some? with
    | nil =>
        rintro rfl
        rfl
    | cons model more ih => exact ih _
  exact hall none _ h

theorem settledFields_update {fields : Json.Fields} (h : Json.SettledFields fields) (model : Model) :
    Json.SettledFields (Assoc.update fields (schemaDocument model)) :=
  h.put model.table ((settledFields_schemaDocument model).settled _ List.mem_cons_self)

theorem settledFields_putSchemas {schemas : Json.Fields} (h : Json.SettledFields schemas)
    (models : List Model) : Json.SettledFields (putSchemas schemas models) := by
  induction models generalizing schemas with
  | nil => exact h
  | cons model more ih => exact ih (settledFields_update h model)

theorem settledFields_of_mem_schemaDocuments {entry : Text × Json.Fields}
    (h : entry ∈ schemaDocuments models) : Json.SettledFields entry.2 := by
  obtain ⟨⟨source, document⟩, hm, rfl⟩ := List.mem_map.1 h
  rw [eq_putSchemas_of_mem hm]
  exact settledFields_putSchemas Json.settledFields_nil _

theorem stores_writeSchemas (hsources : ∀ model ∈ models, '/' ∉ model.source)
    (h : Stores tree (schemasFolder docs) folder []) {written : List Path}
    (hwrite : (writeSchemas docs models).Ends tree tree' written) :
    Stores tree' (schemasFolder docs) folder (schemaDocuments models)
      ∧ Grows (IsDocument folder (schemaDocuments models)) tree tree' := by
  have hname : ∀ entry ∈ schemasBySource models,
      (schemasFolder docs).join (entry.1 ++ extension) = (schemasFolder docs).step (fileName entry.1)
        ∧ fileName entry.1 ≠ Path.up := fun entry he => by
    obtain ⟨model, hmodel, hkey⟩ := mem_keys_schemaDocuments.1
      (List.mem_map.2 ⟨_, List.mem_map_of_mem he, rfl⟩)
    rw [fileName_inj] at hkey
    exact join_source _ (hkey ▸ hsources model hmodel)
  obtain ⟨hstores, hgrows⟩ := stores_mapM_writeDocument hname h hwrite
  refine ⟨?_, hgrows⟩
  have hput (more : List (Text × Json.Fields)) :
      more.foldl (fun documents entry => Assoc.put (fileName entry.1) entry.2 documents) []
        = Assoc.ofPairs (more.map fun (source, document) => (fileName source, document)) := by
    rw [Assoc.ofPairs, Assoc.update, List.foldl_map]
  rw [hput] at hstores
  have hpairs : Assoc.ofPairs (schemaDocuments models) = schemaDocuments models :=
    Assoc.ofPairs_of_nodup nodup_keys_schemaDocuments
  unfold schemaDocuments at hpairs ⊢
  rwa [hpairs] at hstores

/-! ## The schemas that are read back -/

theorem update_putSchemas (schemas : Json.Fields) (models : List Model) :
    Assoc.update schemas (putSchemas [] models) = putSchemas schemas models :=
  Assoc.update_foldl_update models List.nodup_nil

/-- **What the files of the schema folder come to are the schemas of all models, file by file.** -/
theorem foldl_inOrder_schemaDocuments :
    (inOrder (schemaDocuments models)).foldl Assoc.update []
      = putSchemas [] (byFile Model.source fileOrder models) := by
  refine foldl_inOrder nodup_keys_schemaDocuments (fun _ => mem_keys_schemaDocuments)
    (fun name document hg schemas => ?_) []
  obtain ⟨⟨source, found⟩, hm, he⟩ := List.mem_map.1 (Assoc.mem_of_get?_eq_some hg)
  obtain ⟨rfl, rfl⟩ := Prod.mk.inj he
  have hfilter : (models.filter fun model => model.source == source)
      = models.filter fun model => fileName model.source = fileName source :=
    List.filter_congr fun model _ => by
      have hiff : fileName model.source = fileName source ↔ model.source = source := fileName_inj
      rw [decide_eq_decide.2 hiff]
      exact beq_eq_decide _ _
  rw [eq_putSchemas_of_mem hm, update_putSchemas, hfilter]
  rfl

theorem Stores.finds_loadSchemas
    (h : Stores tree (schemasFolder docs) folder (schemaDocuments models)) :
    (loadDocuments (schemasFolder docs)).Finds tree (inOrder (schemaDocuments models)) :=
  h.finds_loadDocuments_of_settled fun _ => settledFields_of_mem_schemaDocuments

end ApiScan.Docs
