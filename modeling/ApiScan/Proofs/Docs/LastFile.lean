import ApiScan.Proofs.Docs.Found
import ApiScan.Proofs.Json.Read
import ApiScan.Proofs.OpenApi.Merged

set_option autoImplicit false

/-! # The paths of a folder of documents

Whoever wrote the documents of the routes folder, every operation of each of them is among the paths
that are loaded, unless a document that is taken later has an operation of the same path and method.
The document of the comments is taken last, so that its operations win. -/

namespace ApiScan.Docs

open ApiScan.Tree OpenApi

variable {tree : Tree} {path docs : Path} {folder : Place}

theorem distinctItems_of_documentAt? {document : Json.Fields}
    (h : documentAt? tree path = some document) (hitems : Items document) :
    DistinctItems document := by
  obtain ⟨text, -, hread⟩ := Option.bind_eq_some_iff.1 h
  have hobject : Json.read text = .ok (.object document) := by
    revert hread
    cases Json.read text with
    | error fault => exact nofun
    | ok doc =>
        cases doc with
        | object fields => exact fun he => congrArg (Except.ok ∘ Json.object) (Option.some.inj he)
        | _ => exact nofun
  obtain ⟨hnodup, hvalues⟩ := Json.namesOnce_of_read hobject
  refine ⟨hitems, hnodup, fun entry hentry => ?_⟩
  have hvalue := Json.namesOnceFields_iff.1 hvalues entry hentry
  obtain ⟨fields, hfields⟩ := exists_fields (hitems entry hentry)
  rw [hfields] at hvalue ⊢
  exact hvalue.1

section
variable {files : List (Text × Json.Fields)} {paths : Json.Fields} {route method : Points}

/-- What is merged from some files is what the last file says that has the path and the method. -/
theorem operationAt?_eq_some_iff_last (h : ∀ file ∈ files, DistinctItems file.2) {value : Json} :
    operationAt? route method ((files.map Prod.snd).foldl mergePaths []) = some value ↔
      ∃ before file after, files = before ++ file :: after
        ∧ operationAt? route method file.2 = some value
        ∧ ∀ later ∈ after, operationAt? route method later.2 = none := by
  rw [operationAt?_foldl_mergePaths (List.forall_mem_map.2 h), ← List.map_reverse,
    List.findSome?_map, List.findSome?_eq_some_iff]
  constructor
  · rintro ⟨after, file, before, he, hvalue, hafter⟩
    refine ⟨before.reverse, file, after.reverse, ?_, hvalue, fun later hl => ?_⟩
    · rw [← List.reverse_reverse files, he]
      simp
    · exact hafter later (List.mem_reverse.1 hl)
  · rintro ⟨before, file, after, rfl, hvalue, hafter⟩
    refine ⟨after.reverse, file, before.reverse, by simp, hvalue, fun later hl => ?_⟩
    exact hafter later (List.mem_reverse.1 hl)

theorem isSome_operationAt?_iff (h : ∀ file ∈ files, DistinctItems file.2) :
    (operationAt? route method ((files.map Prod.snd).foldl mergePaths [])).isSome ↔
      ∃ file ∈ files, (operationAt? route method file.2).isSome := by
  rw [operationAt?_foldl_mergePaths (List.forall_mem_map.2 h), ← List.map_reverse,
    List.findSome?_map, List.findSome?_isSome_iff]
  simp only [List.mem_reverse, Function.comp_apply]

/-- A file that no other file comes after has the last word. -/
theorem operationAt?_of_last (h : ∀ file ∈ files, DistinctItems file.2)
    (horder : files.Pairwise fun file later => Precedes file.1 later.1)
    (hname : ∀ file ∈ files, ∀ other ∈ files, file.1 = other.1 → file.2 = other.2)
    {document : Json.Fields} (hlast : (commentsFile, document) ∈ files) {value : Json}
    (hvalue : operationAt? route method document = some value) :
    operationAt? route method ((files.map Prod.snd).foldl mergePaths []) = some value := by
  have hsome := (isSome_operationAt?_iff h).2 ⟨_, hlast, by rw [hvalue]; rfl⟩
  obtain ⟨found, hfound⟩ := Option.isSome_iff_exists.1 hsome
  rw [hfound]
  obtain ⟨before, file, after, rfl, hfile, hafter⟩ := (operationAt?_eq_some_iff_last h).1 hfound
  have hsame : file.1 = commentsFile → some found = some value := fun he => by
    rw [← hfile, hname file (by simp) _ hlast he, hvalue]
  rcases List.mem_append.1 hlast with hbefore | hrest
  · -- the file of comments stands before no other file
    have hprecedes := (List.pairwise_append.1 horder).2.2 _ hbefore file List.mem_cons_self
    exact hsame (hprecedes.resolve_right fun hne => hne.1 rfl)
  · rcases List.mem_cons.1 hrest with rfl | hlater
    · exact hsame rfl
    · exact nomatch hvalue.symm.trans (hafter _ hlater)

end

/-- **Of each path and method, the last document that has them gives what is loaded.** The routes
    folder loads unless a document in it holds a whole number that is too long, whatever else its
    files hold. No operation of a document is lost, those of the comments win, and the paths stand
    in the order in which they first come in. -/
theorem loaded_iff_last_document
    (hfolder : tree.folder? (routesFolder docs) = .ok (some folder))
    (hnames : ∀ name ∈ tree.names folder, '\x00' ∉ name)
    (hutf8 : ∀ name ∈ tree.names folder, Text.endsWith extension name = true →
      ∀ content, tree.read ((routesFolder docs).step name) = .ok content →
        (Text.ofBytes? content).isSome)
    (hitems : ∀ name ∈ tree.names folder, Text.endsWith extension name = true →
      ∀ document, documentAt? tree ((routesFolder docs).step name) = some document →
        Items document) :
    ∃ files : List (Text × Json.Fields),
      (∀ name document, (name, document) ∈ files ↔
        name ∈ tree.names folder ∧ Text.endsWith extension name = true
          ∧ documentAt? tree ((routesFolder docs).step name) = some document)
      ∧ (files.Pairwise fun file later => Precedes file.1 later.1)
      ∧ ((∃ contents, (load docs).Finds tree contents) ↔
        (∃ schemas, (loadDocuments (schemasFolder docs)).Finds tree schemas)
          ∧ ∀ name ∈ tree.names folder, Text.endsWith extension name = true →
            ¬ HasLongNumber tree ((routesFolder docs).step name))
      ∧ ∀ contents, (load docs).Finds tree contents →
        (∀ route method value, operationAt? route method contents.paths = some value ↔
          ∃ before file after, files = before ++ file :: after
            ∧ operationAt? route method file.2 = some value
            ∧ ∀ later ∈ after, operationAt? route method later.2 = none)
        ∧ (∀ route method, (operationAt? route method contents.paths).isSome ↔
          ∃ file ∈ files, (operationAt? route method file.2).isSome)
        ∧ (∀ document, (commentsFile, document) ∈ files → ∀ route method value,
          operationAt? route method document = some value →
            operationAt? route method contents.paths = some value)
        ∧ Assoc.keys contents.paths
          = (files.flatMap fun file => Assoc.keys file.2).eraseDups := by
  obtain ⟨hfits, hleads⟩ := folder?_eq_some.1 hfolder
  have hload (found : List Json.Fields) :
      (loadDocuments (routesFolder docs)).Finds tree found ↔ _ ∧ _ :=
    finds_loadDocuments_iff hfits hleads
  have hpass : (∀ name ∈ tree.names folder, Text.endsWith extension name = true →
        Decodes tree ((routesFolder docs).step name)
          ∧ ¬ HasLongNumber tree ((routesFolder docs).step name))
      ↔ ∀ name ∈ tree.names folder, Text.endsWith extension name = true →
        ¬ HasLongNumber tree ((routesFolder docs).step name) := by
    exact forall₃_congr fun name hname hends => and_iff_right
      ⟨read_step_ne_nulInPath hfits (hnames name hname), hutf8 name hname hends⟩
  simp only [hpass] at hload
  have hmem (name : Text) (document : Json.Fields) :
      (name, document) ∈ documentsIn tree (routesFolder docs) (tree.names folder) ↔ _ :=
    mem_documentsIn
  have hdistinct : ∀ file ∈ documentsIn tree (routesFolder docs) (tree.names folder),
      DistinctItems file.2 := fun file hfile => by
    obtain ⟨hname, hends, hdocument⟩ := (hmem file.1 file.2).1 hfile
    exact distinctItems_of_documentAt? hdocument (hitems _ hname hends _ hdocument)
  have horder := pairwise_documentsIn tree (routesFolder docs) folder
  refine ⟨documentsIn tree (routesFolder docs) (tree.names folder), hmem, horder, ?_,
    fun contents hcontents => ?_⟩
  · constructor
    · rintro ⟨contents, hcontents⟩
      obtain ⟨schemas, hschemas, hrest⟩ := Survey.finds_bind.1 hcontents
      obtain ⟨paths, hpaths, -⟩ := Survey.finds_bind.1 hrest
      exact ⟨⟨schemas, hschemas⟩, ((hload _).1 hpaths).1⟩
    · rintro ⟨⟨schemas, hschemas⟩, hshort⟩
      exact ⟨_, Survey.finds_bind.2 ⟨schemas, hschemas,
        Survey.finds_bind.2 ⟨_, (hload _).2 ⟨hshort, rfl⟩, rfl⟩⟩⟩
  · obtain ⟨schemas, -, hrest⟩ := Survey.finds_bind.1 hcontents
    obtain ⟨paths, hpaths, hpure⟩ := Survey.finds_bind.1 hrest
    obtain rfl := Survey.finds_pure.1 hpure
    obtain rfl := ((hload _).1 hpaths).2
    refine ⟨fun route method value => operationAt?_eq_some_iff_last hdistinct,
      fun route method => isSome_operationAt?_iff hdistinct,
      fun document hlast route method value hvalue =>
        operationAt?_of_last hdistinct horder (fun file hfile other hother he => ?_) hlast hvalue,
      ?_⟩
    · have hfile' := ((hmem file.1 file.2).1 hfile).2.2
      rw [he] at hfile'
      exact Option.some.inj (hfile'.symm.trans ((hmem other.1 other.2).1 hother).2.2)
    · rw [keys_foldl_mergePaths, List.flatMap_map]

/-- A docs folder with the documents of a route file and of comments, and with a broken file. -/
def usersAndComments : Tree where
  entries := [
    (["docs"].map String.toList, .folder),
    (["docs", "routes"].map String.toList, .folder),
    (["docs", "routes", "swagger-comments.json"].map String.toList, .file (Text.toBytes
      "\x7b\"/users\": \x7b\"post\": \x7b\"summary\": \"new user\"\x7d\x7d\x7d".toList)),
    (["docs", "routes", "broken.json"].map String.toList, .file (Text.toBytes "\x7b".toList)),
    (["docs", "routes", "users.json"].map String.toList, .file (Text.toBytes
      "\x7b\"/users\": \x7b\"get\": \x7b\x7d, \"post\": \x7b\x7d\x7d\x7d".toList))]

/-- The operation of the comments wins, and the other method of its path stays. -/
theorem summary_of_comments_loaded : ∃ contents value,
    (load (Path.ofText "docs".toList)).Finds usersAndComments contents
      ∧ operationAt? "/users".toList "post".toList contents.paths = some value
      ∧ value.text = "\x7b\n  \"summary\": \"new user\"\n\x7d\n".toList
      ∧ (operationAt? "/users".toList "get".toList contents.paths).isSome := by
  have hutf8 : ∀ name ∈ usersAndComments.names (["docs", "routes"].map String.toList),
      ∀ content ∈ (usersAndComments.read
        ((routesFolder (Path.ofText "docs".toList)).step name)).toOption,
        (Text.ofBytes? content).isSome := by
    decide +kernel
  have hitems : ∀ name ∈ usersAndComments.names (["docs", "routes"].map String.toList),
      ∀ document ∈ documentAt? usersAndComments
        ((routesFolder (Path.ofText "docs".toList)).step name),
        ∀ entry ∈ document, entry.2.isObject = true := by
    decide +kernel
  have hfolder : usersAndComments.folder? (routesFolder (Path.ofText "docs".toList))
      = .ok (some (["docs", "routes"].map String.toList)) := by
    decide +kernel
  obtain ⟨files, hfiles, -, -, hloaded⟩ := loaded_iff_last_document hfolder (by decide +kernel)
    (fun name hname _ content hread => hutf8 name hname content (by rw [hread]; rfl))
    (fun name hname _ => hitems name hname)
  have hload : (load (Path.ofText "docs".toList) usersAndComments).2.toOption.isSome = true := by
    decide +kernel
  obtain ⟨contents, hcontents⟩ := Option.isSome_iff_exists.1 hload
  have hfinds := Survey.eq_ok_of_mem_toOption hcontents
  obtain ⟨-, hkept, hcomments, -⟩ := hloaded contents hfinds
  have hdocument : ∃ document ∈ documentAt? usersAndComments
        ((routesFolder (Path.ofText "docs".toList)).step commentsFile),
      ∃ value ∈ operationAt? "/users".toList "post".toList document,
        value.text = "\x7b\n  \"summary\": \"new user\"\n\x7d\n".toList := by
    decide +kernel
  have husers : ∃ document ∈ documentAt? usersAndComments
        ((routesFolder (Path.ofText "docs".toList)).step "users.json".toList),
      (operationAt? "/users".toList "get".toList document).isSome := by
    decide +kernel
  obtain ⟨document, hfound, value, hvalue, htext⟩ := hdocument
  obtain ⟨other, hother, hget⟩ := husers
  refine ⟨contents, value, hfinds, hcomments document ((hfiles _ _).2 ⟨?_, ?_, hfound⟩) _ _ _ hvalue,
    htext, (hkept _ _).2 ⟨_, (hfiles _ _).2 ⟨?_, ?_, hother⟩, hget⟩⟩
  all_goals decide +kernel

end ApiScan.Docs
