import ApiScan.Proofs.Docs.Loaded
import ApiScan.Proofs.OpenApi.Paths
import ApiScan.Proofs.Project.Routes
import ApiScan.Proofs.Text.Search
import ApiScan.Proofs.Yaml.JsonForm

set_option autoImplicit false

/-! # Documented paths through the docs folder

The paths that comments document stand in a file of their own, which is taken after all others. What
the folder of path documents comes to are the paths of the route groups, file by file, and then the
documented ones as they read back. -/

/-! ## Routes through the docs folder

Route groups are written to the docs folder, one file for each source, and read back from there. The
operations of a group are kept exactly when no later group has the same source, since the file of a
source holds the document of the last group that is written to it. -/

namespace ApiScan.Docs

open ApiScan.Tree OpenApi

variable {tree tree' : Tree} {docs : Path} {folder : Place} {authorization : Authorization}
  {groups : List RouteGroup}

/-! ## The files of route groups -/

/-- The path documents of route groups, by the names of their files. -/
def routeDocuments (authorization : Authorization) (groups : List RouteGroup) :
    List (Text × Json.Fields) :=
  groups.foldl (fun documents group =>
    Assoc.put (fileName group.source) (pathsDocument group authorization) documents) []

theorem get?_routeDocuments {name : Text} {document : Json.Fields} :
    Assoc.get? name (routeDocuments authorization groups) = some document ↔
      ∃ before group after, groups = before ++ group :: after
        ∧ (∀ other ∈ after, fileName other.source ≠ name)
        ∧ fileName group.source = name ∧ pathsDocument group authorization = document :=
  Assoc.get?_foldl_put_eq_some_iff

theorem pathItems_of_mem_routeDocuments {entry : Text × Json.Fields}
    (h : entry ∈ routeDocuments authorization groups) : PathItems entry.2 := by
  obtain ⟨group, -, rfl⟩ := (Assoc.mem_foldl_put h).resolve_left List.not_mem_nil
  exact pathItems_pathsDocument group authorization

theorem stores_writeRoutes (hsources : ∀ group ∈ groups, '/' ∉ group.source)
    (h : Stores tree (routesFolder docs) folder []) {written : List Path}
    (hwrite : (writeRoutes docs authorization groups).Ends tree tree' written) :
    Stores tree' (routesFolder docs) folder (routeDocuments authorization groups)
      ∧ Grows (IsDocument folder (groups.map fun group =>
          (fileName group.source, pathsDocument group authorization))) tree tree' :=
  stores_mapM_writeDocument (fun group hgroup => join_source _ (hsources group hgroup)) h hwrite

/-! ## The paths that are read back -/

theorem Stores.finds_loadRoutes
    (h : Stores tree (routesFolder docs) folder (routeDocuments authorization groups)) :
    (loadDocuments (routesFolder docs)).Finds tree (inOrder (routeDocuments authorization groups)) :=
  h.finds_loadDocuments_of_settled fun _ he => (pathItems_of_mem_routeDocuments he).settledFields

/-- The last group of each source keeps its operations. -/
theorem documented_inOrder {path : Text} {method : Method} :
    Documented ((inOrder (routeDocuments authorization groups)).foldl mergePaths []) path method ↔
      ∃ before group after, groups = before ++ group :: after
        ∧ (∀ other ∈ after, other.source ≠ group.source)
        ∧ ∃ entry ∈ group.entries,
            joinRoute group.base entry.path = path ∧ entry.method = method := by
  have hitems : ∀ document ∈ inOrder (routeDocuments authorization groups), PathItems document := by
    intro document hd
    obtain ⟨name, -, hg⟩ := mem_inOrder.1 hd
    exact pathItems_of_mem_routeDocuments (Assoc.mem_of_get?_eq_some hg)
  rw [documented_foldl_mergePaths hitems]
  constructor
  · rintro ⟨document, hd, hdocumented⟩
    obtain ⟨name, -, hg⟩ := mem_inOrder.1 hd
    obtain ⟨before, group, after, hgroups, hlast, rfl, rfl⟩ := get?_routeDocuments.1 hg
    refine ⟨before, group, after, hgroups, fun other ho he => hlast other ho ?_,
      documented_pathsDocument.1 hdocumented⟩
    rw [he]
  · rintro ⟨before, group, after, hgroups, hlast, hentry⟩
    refine ⟨pathsDocument group authorization, mem_inOrder.2 ⟨fileName group.source, ?_, ?_⟩,
      documented_pathsDocument.2 hentry⟩
    · exact Text.endsWith_iff.2 (List.suffix_append _ _)
    · exact get?_routeDocuments.2 ⟨before, group, after, hgroups,
        fun other ho he => hlast other ho (fileName_inj.1 he), rfl, rfl⟩

/-- **A route group keeps its operations on the way through the docs folder exactly when it is the
    last one of its source.** -/
theorem documented_iff_last_of_source {root : Path} {config : Config} {kind : Project.Kind}
    {scanned : Tree} {schemas : List Json.Fields} {written : List Path}
    (htree : scanned.WellFormed)
    (hscan : (Project.scanRoutes root config (some kind)).Finds scanned groups)
    (hfolder : tree.folder? (routesFolder docs) = .ok (some folder))
    (hempty : tree.names folder = [])
    (hschemas : (loadDocuments (schemasFolder docs)).Finds tree schemas)
    (hwrite : (writeRoutes docs authorization groups).Ends tree tree' written) :
    ∃ contents, (load docs).Finds tree' contents ∧ ∀ path method,
      Documented contents.paths path method ↔
        ∃ before group after, groups = before ++ group :: after
          ∧ (∀ other ∈ after, other.source ≠ group.source)
          ∧ ∃ entry ∈ group.entries,
              joinRoute group.base entry.path = path ∧ entry.method = method := by
  obtain ⟨hfits, hleads⟩ := folder?_eq_some.1 hfolder
  obtain ⟨parent, hparent⟩ : ∃ parent, LeadsTo tree docs parent :=
    exists_folder_of_follow_append hleads (List.cons_ne_nil _ _)
  obtain rfl := hparent.eq_step (by decide) hleads
  have hstart : Stores tree (routesFolder docs) (parent ++ ["routes".toList]) [] :=
    stores_nil hfits hleads fun name => by
      rw [← Option.not_isSome_iff_eq_none, ← mem_children, ← Text.mem_sort, ← names_eq, hempty]
      exact List.not_mem_nil
  obtain ⟨hstores, hdocuments⟩ := stores_writeRoutes
    (fun group hg => Project.not_slash_of_finds_scanRoutes htree hscan hg) hstart hwrite
  have hgrows := growsIn_of_documents hdocuments
  have hother : parent ++ ["schemas".toList] ≠ parent ++ ["routes".toList] := fun he =>
    absurd (List.append_cancel_left he) (by decide)
  have hschemas' : (loadDocuments (schemasFolder docs)).Finds tree' schemas :=
    finds_loadDocuments_of_growsIn hparent hgrows (by decide) (by simp) hother hschemas
  refine ⟨⟨schemas.foldl Assoc.update [],
    (inOrder (routeDocuments authorization groups)).foldl mergePaths []⟩, ?_, ?_⟩
  · exact Survey.finds_bind.2 ⟨_, hschemas', Survey.finds_bind.2 ⟨_, hstores.finds_loadRoutes, rfl⟩⟩
  · intro path method
    exact documented_inOrder

/-- An application with two router files of one name, and with empty docs folders. -/
def twoUserFiles : Tree where
  entries := [
    (["src"].map String.toList, .folder),
    (["src", "index.js"].map String.toList,
      .file (Text.toBytes "app.use('/users', require('./routes/user'));".toList)),
    (["routes"].map String.toList, .folder),
    (["routes", "user.js"].map String.toList, .file (Text.toBytes "r.get('/a', h);".toList)),
    (["routes", "user.ts"].map String.toList, .file (Text.toBytes "r.get('/b', h);".toList)),
    (["docs"].map String.toList, .folder),
    (["docs", "schemas"].map String.toList, .folder),
    (["docs", "routes"].map String.toList, .folder)]

/-- The groups of the two files, in the order of the files. -/
def userGroups : List RouteGroup := ["/a", "/b"].map fun path => {
  tag := "USER".toList
  source := "user".toList
  base := "/users".toList
  entries := [⟨.get, path.toList⟩] }

/-- Of two router files of one name, the first one loses its route. -/
theorem second_user_file_documented : ∃ contents,
    (load ⟨[], ["docs".toList]⟩).Finds
      (writeRoutes ⟨[], ["docs".toList]⟩ .none userGroups twoUserFiles).1 contents
    ∧ ¬ Documented contents.paths "/users/a".toList .get
    ∧ Documented contents.paths "/users/b".toList .get := by
  have hscan : (Project.scanRoutes {} {} (some .express)).Finds twoUserFiles userGroups := by
    unfold Survey.Finds
    decide +kernel
  have hwrite : (writeRoutes ⟨[], ["docs".toList]⟩ .none userGroups).Ends twoUserFiles
      (writeRoutes ⟨[], ["docs".toList]⟩ .none userGroups twoUserFiles).1
      [⟨[], ["docs", "routes", "user.json"].map String.toList⟩,
        ⟨[], ["docs", "routes", "user.json"].map String.toList⟩] :=
    ⟨rfl, by decide +kernel⟩
  obtain ⟨contents, hload, hdocumented⟩ := documented_iff_last_of_source
    (by decide +kernel : twoUserFiles.WellFormed) hscan
    (by decide +kernel : twoUserFiles.folder? (routesFolder ⟨[], ["docs".toList]⟩)
      = .ok (some (["docs", "routes"].map String.toList)))
    (by decide +kernel) (show (loadDocuments _ _).2 = .ok [] from rfl) hwrite
  refine ⟨contents, hload, fun ha => ?_, (hdocumented _ _).2 ?_⟩
  · obtain ⟨before, group, after, hgroups, hlast, entry, hentry, hpath, -⟩ :=
      (hdocumented _ _).1 ha
    cases before with
    | nil =>
        obtain ⟨rfl, rfl⟩ := List.cons.inj hgroups
        exact hlast _ List.mem_cons_self rfl
    | cons first rest =>
        cases rest with
        | nil =>
            obtain ⟨rfl, -⟩ := List.cons.inj (List.cons.inj hgroups).2
            rw [List.mem_singleton.1 hentry] at hpath
            exact absurd hpath (by decide +kernel)
        | cons second rest => exact absurd (congrArg List.length hgroups) (by simp [userGroups])
  · exact ⟨userGroups.take 1, _, [], rfl, fun _ h => absurd h List.not_mem_nil, _,
      List.mem_singleton_self _, by decide +kernel, rfl⟩

end ApiScan.Docs

namespace ApiScan.Docs

open ApiScan.Tree OpenApi

variable {tree tree' : Tree} {docs : Path} {folder : Place} {authorization : Authorization}
  {groups : List RouteGroup} {documents : List (Text × Json.Fields)} {comments : Json.Fields}

/-! ## The file of comments -/

/-- Documents with the one of the comments among them, if there is any. -/
def withComments (comments : Json.Fields) (documents : List (Text × Json.Fields)) :
    List (Text × Json.Fields) :=
  if comments = [] then documents else Assoc.put commentsFile comments documents

theorem commentsDocument_eq_ok {entries : List (Yaml.Value × Yaml.Value)} {doc : Json}
    (h : commentsDocument entries = .ok doc) :
    ∃ fields, doc = .object fields ∧ Json.AllShort (.object fields)
      ∧ (fields = [] ↔ entries = []) := by
  obtain ⟨fields, hfields, rfl⟩ : ∃ fields, Yaml.Value.entryForms entries = .ok fields
      ∧ doc = .object fields := by
    unfold commentsDocument Yaml.Value.toJson? at h
    cases hforms : Yaml.Value.entryForms entries with
    | error fault =>
        rw [hforms] at h
        exact nomatch h
    | ok fields =>
        rw [hforms] at h
        exact ⟨fields, rfl, (Except.ok.inj h).symm⟩
  refine ⟨fields, rfl, Yaml.Value.allShort_of_entryForms hfields, ?_⟩
  cases entries with
  | nil => exact iff_of_true (Except.ok.inj hfields).symm rfl
  | cons entry more =>
      obtain ⟨name, -, h⟩ := Yaml.Value.bind_eq_ok hfields
      obtain ⟨form, -, h⟩ := Yaml.Value.bind_eq_ok h
      obtain ⟨rest, -, h⟩ := Yaml.Value.bind_eq_ok h
      obtain rfl := Except.ok.inj h
      exact iff_of_false (List.cons_ne_nil _ _) (List.cons_ne_nil _ _)

theorem stores_writeComments {entries : List (Yaml.Value × Yaml.Value)}
    (h : Stores tree (routesFolder docs) folder documents) {written : List Path}
    (hwrite : (writeComments docs entries).Ends tree tree' written) :
    ∃ comments, commentsDocument entries = .ok (.object comments)
      ∧ Json.AllShort (.object comments)
      ∧ Stores tree' (routesFolder docs) folder (withComments comments documents)
      ∧ GrowsIn folder tree tree' := by
  unfold writeComments at hwrite
  cases hempty : entries.isEmpty with
  | true =>
      rw [hempty] at hwrite
      obtain ⟨rfl, -⟩ := Work.ends_pure.1 hwrite
      rw [List.isEmpty_iff] at hempty
      subst hempty
      exact ⟨[], rfl, trivial, h, Grows.refl⟩
  | false =>
      rw [hempty] at hwrite
      have hparent : ((routesFolder docs).step commentsFile).parent = routesFolder docs := by
        simp [Path.parent, Path.step]
      obtain ⟨between, _, hmade, hrest⟩ := Work.ends_bind.1 hwrite
      rw [Work.ends_makeFolders, hparent] at hmade
      obtain rfl := makeFolders_of_leadsTo h.leadsTo hmade
      cases hdoc : commentsDocument entries with
      | error failure =>
          rw [hdoc] at hrest
          exact absurd hrest Work.not_ends_fail
      | ok doc =>
          rw [hdoc] at hrest
          obtain ⟨comments, rfl, hshort, hnil⟩ := commentsDocument_eq_ok hdoc
          obtain ⟨_, _, hchange, hpure⟩ := Work.ends_bind.1 hrest
          obtain ⟨rfl, -⟩ := Work.ends_pure.1 hpure
          obtain ⟨hfits, hfolder, rfl⟩ :=
            write_step_eq_ok h.leadsTo (by decide) (Work.ends_change.1 hchange)
          have hne : comments ≠ [] := fun he => by
            rw [hnil.1 he] at hempty
            cases hempty
          refine ⟨comments, rfl, hshort, ?_, growsIn_put hfolder _⟩
          rw [withComments, if_neg hne]
          exact h.put hfits

/-- The file of comments is taken after all others. -/
theorem inOrder_put_comments (hkeys : commentsFile ∉ Assoc.keys documents) :
    inOrder (Assoc.put commentsFile comments documents) = inOrder documents ++ [comments] := by
  have hhas : Assoc.has commentsFile documents = false := by
    rw [← Bool.not_eq_true, Assoc.has_iff_mem_keys]
    exact hkeys
  have hnames : documentNames (Text.sort (Assoc.keys documents ++ [commentsFile]))
      = documentNames (Text.sort (Assoc.keys documents)) ++ [commentsFile] := by
    have hbefore (names : List Text) (hnot : commentsFile ∉ names) :
        names.filter (· = commentsFile) = [] :=
      List.filter_eq_nil_iff.2 fun name hn he => hnot (of_decide_eq_true he ▸ hn)
    have hends : Text.endsWith extension commentsFile = true := by decide
    have hnot : commentsFile ∉ (Assoc.keys documents).filter (Text.endsWith extension) := fun hm =>
      hkeys (List.mem_filter.1 hm).1
    simp only [documentNames, Text.filter_sort, List.filter_append]
    rw [hbefore _ hnot, List.filter_cons_of_pos hends, List.filter_nil]
    simp [Text.sort, Text.insert]
  have hflat (names : List Text) (hnot : commentsFile ∉ names) :
      (names.flatMap fun name =>
          (Assoc.get? name (Assoc.put commentsFile comments documents)).toList)
        = names.flatMap fun name => (Assoc.get? name documents).toList :=
    List.flatMap_congr fun name hn => by
      rw [Assoc.get?_put, if_neg]
      rw [beq_iff_eq]
      rintro rfl
      exact hnot hn
  have hnot : commentsFile ∉ documentNames (Text.sort (Assoc.keys documents)) := fun hm =>
    hkeys (Text.mem_sort.1 (mem_documentNames.1 hm).1)
  have hkeys' : Assoc.keys (Assoc.put commentsFile comments documents)
      = Assoc.keys documents ++ [commentsFile] := Assoc.keys_alter_of_not_has hhas _
  rw [inOrder, hkeys', hnames, List.flatMap_append, hflat _ hnot, inOrder, List.flatMap_singleton,
    Assoc.get?_put, if_pos (beq_self_eq_true _)]
  rfl

/-! ## The paths that are read back -/

/-- The paths of route groups, merged one after another. -/
def mergeGroups (authorization : Authorization) (paths : Json.Fields) (groups : List RouteGroup) :
    Json.Fields :=
  groups.foldl (fun paths group => mergePaths paths (pathsDocument group authorization)) paths

theorem mem_keys_routeDocuments {name : Text} :
    name ∈ Assoc.keys (routeDocuments authorization groups) ↔
      ∃ group ∈ groups, fileName group.source = name := by
  unfold routeDocuments Assoc.put
  rw [Assoc.mem_keys_foldl_alter]
  constructor
  · rintro (⟨group, hg, rfl⟩ | hnil)
    · exact ⟨group, hg, rfl⟩
    · exact absurd hnil List.not_mem_nil
  · rintro ⟨group, hg, rfl⟩
    exact Or.inl ⟨group, hg, rfl⟩

theorem nodup_keys_routeDocuments :
    (Assoc.keys (routeDocuments authorization groups)).Nodup := by
  have hall (entries : List (Text × Json.Fields)) (h : (Assoc.keys entries).Nodup) :
      (Assoc.keys (groups.foldl (fun documents group => Assoc.put (fileName group.source)
        (pathsDocument group authorization) documents) entries)).Nodup := by
    induction groups generalizing entries with
    | nil => exact h
    | cons group more ih => exact ih _ (Assoc.nodup_keys_alter h)
  exact hall [] List.nodup_nil

/-- What the files of route groups come to are the paths of all groups, file by file. -/
theorem foldl_inOrder_routeDocuments (hnodup : (groups.map RouteGroup.source).Nodup) :
    (inOrder (routeDocuments authorization groups)).foldl mergePaths []
      = mergeGroups authorization [] (byFile RouteGroup.source fileOrder groups) := by
  refine foldl_inOrder nodup_keys_routeDocuments (fun _ => mem_keys_routeDocuments)
    (fun name document hg paths => ?_) []
  obtain ⟨before, group, after, rfl, hlast, rfl, rfl⟩ := get?_routeDocuments.1 hg
  have hbefore : ∀ other ∈ before, other.source ≠ group.source := fun other ho he => by
    rw [List.map_append, List.nodup_append] at hnodup
    exact hnodup.2.2 _ (List.mem_map_of_mem ho) _ List.mem_cons_self he
  have hnone (others : List RouteGroup) (h : ∀ other ∈ others, other.source ≠ group.source) :
      others.filter (fun other => fileName other.source = fileName group.source) = [] :=
    List.filter_eq_nil_iff.2 fun other ho he => h other ho (fileName_inj.1 (of_decide_eq_true he))
  rw [List.filter_append, hnone before hbefore, List.filter_cons, if_pos (decide_eq_true rfl),
    hnone after fun other ho he => hlast other ho (congrArg fileName he)]
  rfl

/-- **What the folder of path documents comes to are the paths of the route groups in the order of
    their files, and then the documented paths as they read back.** -/
theorem Stores.finds_loadPaths
    (h : Stores tree (routesFolder docs) folder
      (withComments comments (routeDocuments authorization groups)))
    (hshort : Json.AllShort (.object comments)) (hnodup : (groups.map RouteGroup.source).Nodup)
    (hsources : ∀ group ∈ groups, fileName group.source ≠ commentsFile) :
    ∃ found, (loadDocuments (routesFolder docs)).Finds tree found
      ∧ found.foldl mergePaths [] = mergePaths
          (mergeGroups authorization [] (byFile RouteGroup.source Text.sort groups))
          (rereadDocument comments) := by
  have hgroups : (inOrder (routeDocuments authorization groups)).foldl mergePaths []
      = mergeGroups authorization [] (byFile RouteGroup.source Text.sort groups) := by
    rw [foldl_inOrder_routeDocuments hnodup, byFile_fileOrder hsources]
  unfold withComments at h
  split at h
  · next hnil =>
      subst hnil
      exact ⟨_, h.finds_loadRoutes, hgroups⟩
  · refine ⟨_, h.finds_loadDocuments fun entry he => ?_, ?_⟩
    · rcases Assoc.mem_alter he with hm | rfl
      · exact (Json.settled_object (pathItems_of_mem_routeDocuments hm).settledFields).allShort
      · exact hshort
    · have hkeys : commentsFile ∉ Assoc.keys (routeDocuments authorization groups) := fun hm => by
        obtain ⟨group, hg, he⟩ := mem_keys_routeDocuments.1 hm
        exact hsources group hg he
      have hsame : (inOrder (routeDocuments authorization groups)).map rereadDocument
          = inOrder (routeDocuments authorization groups) := by
        refine (List.map_congr_left fun document hd => ?_).trans (List.map_id _)
        obtain ⟨name, -, hg⟩ := mem_inOrder.1 hd
        exact rereadDocument_of_settled
          (pathItems_of_mem_routeDocuments (Assoc.mem_of_get?_eq_some hg)).settledFields
      rw [inOrder_put_comments hkeys, List.map_append, hsame, List.foldl_append, hgroups]
      rfl

end ApiScan.Docs
