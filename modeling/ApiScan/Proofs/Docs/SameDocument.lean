import ApiScan.Proofs.Docs.Found
import ApiScan.Proofs.Docs.Written
import ApiScan.Proofs.OpenApi.Settled
import ApiScan.Proofs.Yaml.Form.Reread
import Mathlib

set_option autoImplicit false

/-! # One document in two files

The two files at the root of a project hold the same document, the one as JSON and the other as YAML:
read back, they give the same fields in the same order. The documents in the docs folder were read, so
what is put together from them reads back as it is; what is written as YAML has to be kept besides,
because not every text comes back from the style that it is written in. -/

namespace ApiScan.Docs

open ApiScan.Tree OpenApi

variable {tree tree' : Tree} {root docs path : Path} {folder : Place} {config : Config}
  {contents : Contents}

/-! ## What is loaded -/

theorem settledFields_of_documentAt? {document : Json.Fields} (h : documentAt? tree path = some document) :
    Json.SettledFields document := by
  obtain ⟨text, -, hread⟩ := Option.bind_eq_some_iff.1 (documentAt?_eq_some_iff.1 h)
  exact Json.settledFields_of_read (Survey.eq_ok_of_mem_toOption hread)

theorem settledFields_of_finds_loadDocuments {documents : List Json.Fields}
    (h : (loadDocuments path).Finds tree documents) :
    ∀ document ∈ documents, Json.SettledFields document := by
  obtain ⟨isFolder, -, hrest⟩ := Survey.finds_bind.1 h
  cases isFolder with
  | false =>
      obtain rfl := Survey.finds_pure.1 hrest
      exact fun document hd => absurd hd List.not_mem_nil
  | true =>
      obtain ⟨names, -, hrest⟩ := Survey.finds_bind.1 hrest
      obtain ⟨parts, hparts, hflatten⟩ := Survey.finds_bind.1 hrest
      obtain rfl := Survey.finds_pure.1 hflatten
      intro document hd
      obtain ⟨part, hpart, hd⟩ := List.mem_flatten.1 hd
      obtain ⟨file, -, hfile⟩ := Survey.mem_of_finds_mapM hparts hpart
      obtain ⟨-, rfl⟩ := finds_loadDocument_iff.1 hfile
      exact settledFields_of_documentAt? (Option.mem_toList.1 hd)

theorem settledFields_foldl {merge : Json.Fields → Json.Fields → Json.Fields}
    (hmerge : ∀ {target incoming}, Json.SettledFields target → Json.SettledFields incoming →
      Json.SettledFields (merge target incoming))
    {documents : List Json.Fields} (h : ∀ document ∈ documents, Json.SettledFields document) :
    Json.SettledFields (documents.foldl merge []) :=
  List.foldlRecOn documents merge Json.settledFields_nil fun _ htarget document hd =>
    hmerge htarget (h document hd)

/-- **What the docs folder holds reads back as it is** when it is written. -/
theorem settledFields_of_finds_load (h : (load docs).Finds tree contents) :
    Json.SettledFields contents.schemas ∧ Json.SettledFields contents.paths := by
  obtain ⟨schemas, hschemas, hrest⟩ := Survey.finds_bind.1 h
  obtain ⟨paths, hpaths, hpure⟩ := Survey.finds_bind.1 hrest
  obtain rfl := Survey.finds_pure.1 hpure
  exact ⟨settledFields_foldl Json.SettledFields.update (settledFields_of_finds_loadDocuments hschemas),
    settledFields_foldl settledFields_mergePaths (settledFields_of_finds_loadDocuments hpaths)⟩

/-! ## What is written -/

/-- **The files at the root hold the same document**: the one as JSON gives the document, and the one
    as YAML gives the value of the same document, if its texts are made of whole characters, its
    numbers are whole numbers, and its texts are kept where they stand. -/
theorem sameDocument_of_writeOutput (hroot : tree.folder? root = .ok (some folder))
    (hconfig : WholeConfig config) (hload : (load docs).Finds tree contents)
    (hschemas : Json.WholeFields contents.schemas) (hpaths : Json.WholeFields contents.paths)
    (hkept : Yaml.KeptFields 0 (document config contents.schemas contents.paths))
    {written : List Path} (hend : (writeOutput root config docs {}).Ends tree tree' written) :
    ∃ doc yaml, doc = .object (document config contents.schemas contents.paths)
      ∧ (Survey.document (root.step jsonFile)).Finds tree' (.ok doc)
      ∧ (Survey.strictText (root.step yamlFile)).Finds tree' (.ok yaml)
      ∧ Yaml.Value.ofText yaml = .ok (Yaml.Value.ofJson doc) := by
  obtain ⟨hjson, hyaml⟩ := reads_writeOutput (folder?_eq_some.1 hroot).2 hload hend
  obtain ⟨hsettledSchemas, hsettledPaths⟩ := settledFields_of_finds_load hload
  have hsettled := Json.settled_object (settledFields_document hconfig hsettledSchemas hsettledPaths)
  have hwhole := wholeFields_document hconfig hschemas hpaths
  have hne : document config contents.schemas contents.paths ≠ [] := List.cons_ne_nil _ _
  have htext {name : Text} {text : Text} (hread : tree'.read (root.step name) = .ok (Text.toBytes text))
      (hbreaks : Text.unifyBreaks text = text) : textAt? tree' (root.step name) = some text :=
    textAt?_eq_some_iff.2 ⟨_, hread, by rw [Text.ofBytes?_toBytes, Option.map_some, hbreaks]⟩
  refine ⟨_, _, rfl, ?_, finds_strictText (htext hyaml (Yaml.unifyBreaks_text hne hwhole hkept)), ?_⟩
  · exact finds_document_of_text (htext hjson (Json.unifyBreaks_text _)) hsettled.read_text
  · exact Yaml.Value.ofText_text hne hwhole hkept ⟨hsettled.allShort, Json.namesOnce_of_settled _ hsettled⟩

/-- A project whose docs folder holds texts that are written in each of the styles. -/
def styledProject : Tree where
  entries := [
    (["docs"].map String.toList, .folder),
    (["docs", "schemas"].map String.toList, .folder),
    (["docs", "schemas", "user.json"].map String.toList, .file (Text.toBytes
      "\x7b\"User\": \x7b\"type\": \"object\", \"title\": \" two\\nlines\", \"example\": \"0x1F\"\x7d\x7d".toList)),
    (["docs", "routes"].map String.toList, .folder),
    (["docs", "routes", "user.json"].map String.toList, .file (Text.toBytes
      "\x7b\"/users\": \x7b\"get\": \x7b\"summary\": \"a\\ttab \", \"deprecated\": true\x7d\x7d\x7d".toList))]

/-- What the docs folder of the project holds. -/
def styledContents : Contents where
  schemas := Json.named [("User", .record [("type", .ofString "object"),
    ("title", .ofString " two\nlines"), ("example", .ofString "0x1F")])]
  paths := Json.named [("/users", .record [("get", .record
    [("summary", .ofString "a\ttab "), ("deprecated", .bool true)])])]

/-- The configuration of the project. -/
def styledConfig : Config := { name := "shop".toList, authorization := .bearer }

theorem sameDocument_of_styledProject :
    ∃ doc yaml, doc = .object (document styledConfig styledContents.schemas styledContents.paths)
      ∧ (Survey.document (Path.step {} jsonFile)).Finds
          (writeOutput {} styledConfig ⟨[], ["docs".toList]⟩ {} styledProject).1 (.ok doc)
      ∧ (Survey.strictText (Path.step {} yamlFile)).Finds
          (writeOutput {} styledConfig ⟨[], ["docs".toList]⟩ {} styledProject).1 (.ok yaml)
      ∧ Yaml.Value.ofText yaml = .ok (Yaml.Value.ofJson doc) := by
  have hload : (load ⟨[], ["docs".toList]⟩).Finds styledProject styledContents := by
    unfold Survey.Finds
    cbv
  have htext (s : String) : Json.IsWholeText s.toList := ⟨s.toList, rfl⟩
  have hconfig : WholeConfig styledConfig :=
    ⟨htext "shop", htext "1.0.0", htext "", htext "http://localhost:3000"⟩
  have hschemas : Json.WholeFields styledContents.schemas :=
    ⟨htext "User", ⟨htext "type", htext "object", htext "title", htext " two\nlines", htext "example",
      htext "0x1F", trivial⟩, trivial⟩
  have hpaths : Json.WholeFields styledContents.paths :=
    ⟨htext "/users", ⟨htext "get", ⟨htext "summary", htext "a\ttab ", htext "deprecated", trivial,
      trivial⟩, trivial⟩, trivial⟩
  have hend : (writeOutput {} styledConfig ⟨[], ["docs".toList]⟩ {}).Ends styledProject
      (writeOutput {} styledConfig ⟨[], ["docs".toList]⟩ {} styledProject).1
      [Path.step {} jsonFile, Path.step {} yamlFile] := ⟨rfl, by decide +kernel⟩
  have hroot : styledProject.folder? {} = .ok (some []) := by decide +kernel
  exact sameDocument_of_writeOutput hroot hconfig hload hschemas hpaths (by decide +kernel) hend

end ApiScan.Docs
