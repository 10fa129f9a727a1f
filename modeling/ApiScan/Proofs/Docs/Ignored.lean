import ApiScan.Docs.Output
import ApiScan.Proofs.Docs.Found
import ApiScan.Proofs.Docs.Stored
import ApiScan.Proofs.Text.Lines
import ApiScan.Proofs.Text.Search

set_option autoImplicit false

/-! # The ignore file

The lines of the docs folder are appended to the ignore file once: afterwards both names stand in
it. A project without an ignore file gets none. -/

namespace ApiScan

open ApiScan.Tree

/-! ## The lines -/

theorem Text.mem_of_mem_strip {s : Text} {c : Char} (h : c ∈ Text.strip s) : c ∈ s := by
  have hstart := List.mem_reverse.1
    ((List.dropWhile_sublist _).subset (List.mem_reverse.1 h))
  exact (List.dropWhile_sublist _).subset hstart

namespace Docs

variable {tree tree' : Tree} {root : Path} {start : Place} {docs : Text}

/-- The entry of a docs folder holds no character that the folder does not have, slashes and dots
    apart. -/
theorem not_mem_ignoreEntry {c : Char} (hslash : c ≠ '/') (hdot : c ≠ '.') (h : c ∉ docs) :
    c ∉ ignoreEntry docs := by
  have hstep : ∀ step ∈ (Path.under {} docs).steps, c ∉ step := by
    intro step hstep hmem
    rw [Path.under, Path.join_eq _ (Path.head?_dropWhile_slash _)] at hstep
    have hpiece := Text.isInfix_of_mem_pieces (List.mem_filter.1 hstep).1
    have hvalue := Text.mem_of_mem_strip (Path.mem_of_mem_dropDotSlash
      ((List.dropWhile_sublist _).subset (hpiece.subset hmem)))
    obtain ⟨d, hd, he⟩ := List.mem_map.1 hvalue
    split at he
    · exact hslash he.symm
    · exact h (he ▸ hd)
  have htext : c ∉ (Path.under {} docs).text := by
    unfold Path.text
    split
    · simpa using hdot
    · intro hmem
      have hanchor : (Path.under {} docs).anchor = [] := by
        rw [Path.under, Path.join_eq _ (Path.head?_dropWhile_slash _)]
      rw [hanchor, List.nil_append] at hmem
      rcases Text.mem_joinWith hmem with hsep | ⟨step, hmemstep, hc⟩
      · exact hslash (List.mem_singleton.1 hsep)
      · exact hstep step hmemstep hc
  rw [ignoreEntry, List.mem_cons, not_or]
  exact ⟨hslash, htext⟩

/-- The names as they end the lines that are appended. -/
def nameLines (docs : Text) : Text :=
  '\n' :: (ignoreEntry docs ++ '\n' :: (Failure.configFile ++ ['\n']))

theorem exists_ignoreLines_eq (docs : Text) :
    ∃ header, ignoreLines docs = '\n' :: (header ++ nameLines docs) ∧ '\r' ∉ header := by
  obtain ⟨header, hlines, hheader⟩ : ∃ header, ignoreLines docs
      = '\n' :: (header ++ ['\n'] ++ ignoreEntry docs ++ ['\n'] ++ Failure.configFile ++ ['\n'])
        ∧ '\r' ∉ header := ⟨"\n# Ignore Swagme Files".toList, rfl, by decide⟩
  refine ⟨header, ?_, hheader⟩
  rw [hlines]
  simp only [nameLines, List.append_assoc, List.cons_append, List.nil_append]

/-- A text to which the lines were appended ends with the names. -/
theorem suffix_append_ignoreLines (docs content : Text) :
    nameLines docs <:+ content ++ ignoreLines docs := by
  obtain ⟨header, hlines, -⟩ := exists_ignoreLines_eq docs
  exact ⟨content ++ '\n' :: header, by rw [hlines, List.append_assoc, List.cons_append]⟩

/-- So it does when its line breaks are unified. -/
theorem suffix_unifyBreaks_ignoreLines (h : '\r' ∉ docs) (content : Text) :
    nameLines docs <:+ Text.unifyBreaks (content ++ ignoreLines docs) := by
  obtain ⟨header, hlines, hheader⟩ := exists_ignoreLines_eq docs
  have hreturn : '\r' ∉ header ++ nameLines docs := by
    simp only [nameLines, List.mem_append, List.mem_cons, not_or]
    exact ⟨hheader, by decide, not_mem_ignoreEntry (by decide) (by decide) h, by decide, by decide,
      by decide⟩
  have hsuffix := Text.suffix_unifyBreaks_append content (header ++ nameLines docs)
  rw [Text.unifyBreaks_eq_self hreturn, ← hlines] at hsuffix
  exact (List.suffix_append _ _).trans hsuffix

/-- Both names stand in a text to which the lines were appended. -/
theorem holds_append_ignoreLines (h : '\r' ∉ docs) (content : Text) :
    Text.holds (ignoreEntry docs) (Text.unifyBreaks (content ++ ignoreLines docs)) = true
      ∧ Text.holds Failure.configFile (Text.unifyBreaks (content ++ ignoreLines docs)) = true := by
  have hsuffix := (suffix_unifyBreaks_ignoreLines h content).isInfix
  rw [Text.holds_iff, Text.holds_iff]
  refine ⟨List.IsInfix.trans ?_ hsuffix, List.IsInfix.trans ?_ hsuffix⟩
  · exact ⟨['\n'], '\n' :: (Failure.configFile ++ ['\n']), rfl⟩
  · refine ⟨'\n' :: (ignoreEntry docs ++ ['\n']), ['\n'], ?_⟩
    simp only [nameLines, List.append_assoc, List.cons_append, List.nil_append]

/-! ## Appending -/

theorem finds_strictText_ok_iff {path : Path} {text : Text} :
    (Survey.strictText path).Finds tree (.ok text) ↔ textAt? tree path = some text := by
  refine ⟨fun h => ?_, finds_strictText⟩
  cases htext : textAt? tree path with
  | some found => rw [Except.ok.inj (h.unique (finds_strictText htext))]
  | none =>
      obtain ⟨fault, hfault⟩ := finds_strictText_error (decodes_of_finds_strictText h) htext
      exact nomatch h.unique hfault

/-- The text of a file to which another one was appended. -/
theorem textAt?_put_append {path : Path} {folder : Place} {name text : Text} (more : Text)
    (hleads : LeadsTo tree path folder) (hname : FitsIn path name)
    (hfolder : tree.entry? (folder ++ [name]) ≠ some .folder)
    (h : textAt? tree (path.step name) = some text) :
    ∃ content, text = Text.unifyBreaks content
      ∧ textAt? (tree.put (folder ++ [name])
          (.file (tree.contentAt (folder ++ [name]) ++ Text.toBytes more))) (path.step name)
        = some (Text.unifyBreaks (content ++ more)) := by
  unfold textAt? at h
  cases hread : tree.read (path.step name) with
  | error fault =>
      rw [hread] at h
      exact nomatch h
  | ok bytes =>
      rw [hread] at h
      obtain ⟨content, hcontent, rfl⟩ := Option.map_eq_some_iff.1 h
      obtain ⟨-, he⟩ := (read_step_eq_ok_iff hleads hname.2.1).1 hread
      have hbytes : tree.contentAt (folder ++ [name]) = bytes := by rw [contentAt, he]
      have hne := append_singleton_ne_nil folder name
      have hleads' := hleads.of_keepsFolders
        (keepsFolders_put hne hfolder (.file (bytes ++ Text.toBytes more)))
      refine ⟨content, rfl, ?_⟩
      rw [hbytes, textAt?, read_step hleads' hname (by rw [entry?_put hne, if_pos rfl])]
      exact congrArg (Option.map Text.unifyBreaks) (Text.ofBytes?_append hcontent more)

/-- Nothing is to be appended: the ignore file is missing, or both names stand in it. -/
def Ignores (tree : Tree) (root : Path) (docs : Text) : Prop :=
  (Survey.strictText (root.step ignoreFile)).Finds tree (.error .notFound)
    ∨ ∃ text, (Survey.strictText (root.step ignoreFile)).Finds tree (.ok text)
        ∧ (Text.holds (ignoreEntry docs) text && Text.holds Failure.configFile text) = true

/-- What the ignore file is to become, if anything is to be appended to it. -/
def FindsIgnored (root : Path) (docs : Text) (start : Place) (tree : Tree)
    (files : List (Text × Bytes)) : Prop :=
  (Ignores tree root docs ∧ files = [])
    ∨ ∃ text, (Survey.strictText (root.step ignoreFile)).Finds tree (.ok text)
        ∧ (Text.holds (ignoreEntry docs) text && Text.holds Failure.configFile text) = false
        ∧ files = [(ignoreFile, tree.contentAt (start ++ [ignoreFile])
            ++ Text.toBytes (ignoreLines docs))]

theorem ends_append_iff {name text : Text} {done : Unit} (hleads : LeadsTo tree root start)
    (hup : name ≠ Path.up) :
    (Work.append (root.step name) text).Ends tree tree' done ↔
      TakesIn tree root start [name]
        ∧ tree' = tree.putIn start
            [(name, tree.contentAt (start ++ [name]) ++ Text.toBytes text)] := by
  unfold Work.append TakesIn
  rw [Work.ends_change, List.forall_mem_singleton]
  constructor
  · intro hwrite
    obtain ⟨hfits, hfolder, rfl⟩ := write_step_eq_ok hleads hup hwrite
    exact ⟨⟨hfits, hfolder⟩, rfl⟩
  · rintro ⟨⟨hfits, hfolder⟩, rfl⟩
    exact write_step hleads hfits hfolder

/-- **An update changes nothing but the ignore file.** -/
theorem ends_updateIgnore_iff (hleads : LeadsTo tree root start) :
    (∃ appended, (updateIgnore root docs).Ends tree tree' appended) ↔
      ∃ files, FindsIgnored root docs start tree files
        ∧ TakesIn tree root start (files.map Prod.fst) ∧ tree' = tree.putIn start files := by
  unfold updateIgnore
  simp only [Work.ends_bind, Work.ends_survey]
  constructor
  · rintro ⟨appended, _, text?, ⟨rfl, htext⟩, hrest⟩
    have hnone (h : Ignores tree root docs) : ∃ files, FindsIgnored root docs start tree files
        ∧ TakesIn tree root start (files.map Prod.fst) ∧ tree = tree.putIn start files :=
      ⟨[], Or.inl ⟨h, rfl⟩, fun _ h => absurd h List.not_mem_nil, rfl⟩
    split at hrest
    · obtain ⟨_, _, htell, hpure⟩ := Work.ends_bind.1 hrest
      obtain ⟨rfl, -⟩ := Work.ends_survey.1 htell
      obtain ⟨rfl, -⟩ := Work.ends_pure.1 hpure
      exact hnone (Or.inl htext)
    · exact absurd hrest Work.not_ends_fail
    · next text =>
        split at hrest
        · next hholds =>
            obtain ⟨rfl, -⟩ := Work.ends_pure.1 hrest
            exact hnone (Or.inr ⟨text, htext, hholds⟩)
        · next hholds =>
            obtain ⟨_, _, happend, hpure⟩ := Work.ends_bind.1 hrest
            obtain ⟨rfl, -⟩ := Work.ends_pure.1 hpure
            obtain ⟨htakes, rfl⟩ := (ends_append_iff hleads (by decide)).1 happend
            exact ⟨_, Or.inr ⟨text, htext, Bool.eq_false_iff.2 hholds, rfl⟩, htakes, rfl⟩
  · rintro ⟨_, ⟨hmissing | ⟨text, htext, hholds⟩, rfl⟩ | ⟨text, htext, hholds, rfl⟩, htakes, rfl⟩
    · exact ⟨false, _, _, ⟨rfl, hmissing⟩,
        Work.ends_bind.2 ⟨_, (), Work.ends_survey.2 ⟨rfl, rfl⟩, rfl, rfl⟩⟩
    · refine ⟨false, _, _, ⟨rfl, htext⟩, ?_⟩
      simp only [hholds, if_true]
      exact Work.ends_pure.2 ⟨rfl, rfl⟩
    · refine ⟨true, _, _, ⟨rfl, htext⟩, ?_⟩
      simp only [hholds, Bool.false_eq_true, if_false]
      exact Work.ends_bind.2 ⟨_, (), (ends_append_iff hleads (by decide)).2 ⟨htakes, rfl⟩,
        Work.ends_pure.2 ⟨rfl, rfl⟩⟩

theorem FindsIgnored.eq_ignoreFile {files : List (Text × Bytes)} {name : Text}
    (h : FindsIgnored root docs start tree files) (hname : name ∈ files.map Prod.fst) :
    name = ignoreFile := by
  rcases h with ⟨-, rfl⟩ | ⟨text, -, -, rfl⟩
  · exact absurd hname List.not_mem_nil
  · exact List.mem_singleton.1 hname

/-- **After an update nothing is to be appended.** -/
theorem FindsIgnored.ignores {files : List (Text × Bytes)} (hleads : LeadsTo tree root start)
    (hdocs : '\r' ∉ docs) (h : FindsIgnored root docs start tree files)
    (htakes : TakesIn tree root start (files.map Prod.fst)) :
    Ignores (tree.putIn start files) root docs := by
  rcases h with ⟨h, rfl⟩ | ⟨text, htext, -, rfl⟩
  · exact h
  · obtain ⟨hfits, hfolder⟩ := htakes ignoreFile List.mem_cons_self
    obtain ⟨old, -, hnew⟩ := textAt?_put_append (ignoreLines docs) hleads hfits hfolder
      (finds_strictText_ok_iff.1 htext)
    obtain ⟨hentry, hconfig⟩ := holds_append_ignoreLines hdocs old
    exact Or.inr ⟨_, finds_strictText_ok_iff.2 hnew, by rw [hentry, hconfig]; rfl⟩

section
variable (hleads : LeadsTo tree root start) (hleads' : LeadsTo tree' root start)
  (hsame : tree'.entry? (start ++ [ignoreFile]) = tree.entry? (start ++ [ignoreFile]))
include hleads hleads' hsame

theorem finds_strictText_ignoreFile {text? : Except FileFault Text} :
    (Survey.strictText (root.step ignoreFile)).Finds tree' text? ↔
      (Survey.strictText (root.step ignoreFile)).Finds tree text? := by
  unfold Survey.Finds Survey.strictText
  rw [read_step_congr hleads hleads' (by decide) hsame]

/-- Only the ignore file counts. -/
theorem Ignores.congr (h : Ignores tree root docs) : Ignores tree' root docs := by
  unfold Ignores at h ⊢
  simpa only [finds_strictText_ignoreFile hleads hleads' hsame] using h

theorem FindsIgnored.congr {files : List (Text × Bytes)}
    (h : FindsIgnored root docs start tree files) : FindsIgnored root docs start tree' files := by
  rcases h with ⟨h, rfl⟩ | ⟨text, htext, hholds, rfl⟩
  · exact Or.inl ⟨h.congr hleads hleads' hsame, rfl⟩
  · refine Or.inr ⟨text, (finds_strictText_ignoreFile hleads hleads' hsame).2 htext, hholds, ?_⟩
    rw [contentAt, contentAt, hsame]

end

end Docs

end ApiScan

/-! ## Lines of the ignore file

An update of the ignore file keeps what stands in it. Both names stand on lines of their own afterwards
if their lines were appended. They are not appended if both names stand anywhere in the file, which may
be in a longer name or in a comment: then they are on lines of their own only if they were before. -/

namespace ApiScan.Docs

open ApiScan.Tree

variable {tree : Tree} {root : Path} {docs content : Text} {bytes : Bytes}

/-- Both names are among the lines. -/
def Listed (docs : Text) (lines : List Text) : Prop :=
  ignoreEntry docs ∈ lines ∧ Failure.configFile ∈ lines

/-- Both names stand somewhere in a text. -/
def Mentioned (docs text : Text) : Prop :=
  (Text.holds (ignoreEntry docs) text && Text.holds Failure.configFile text) = true

instance (docs text : Text) : Decidable (Mentioned docs text) := inferInstanceAs (Decidable (_ = _))

instance (docs : Text) (lines : List Text) : Decidable (Listed docs lines) :=
  inferInstanceAs (Decidable (_ ∧ _))

/-- Both names stand on lines of a text that ends with them. -/
theorem listed_of_suffix {text : Text} (hdocs : '\n' ∉ docs) (h : nameLines docs <:+ text) :
    Listed docs (Text.lines text) := by
  obtain ⟨front, rfl⟩ := h
  have hentry : '\n' ∉ ignoreEntry docs := not_mem_ignoreEntry (by decide) (by decide) hdocs
  have hconfig : '\n' ∉ Failure.configFile := by decide
  rw [nameLines, Text.lines_append_break, Text.lines_append_cons hentry, Text.lines_append_cons hconfig]
  exact ⟨by simp, by simp⟩

/-! ## An update -/

/-- An ignore file with a text is brought up to date: the lines are appended unless both names stand in
    it. -/
theorem ends_updateIgnore (hread : tree.read (root.step ignoreFile) = .ok bytes)
    (htext : Text.ofBytes? bytes = some content) :
    ∃ tree' more,
      (updateIgnore root docs).Ends tree tree' (!decide (Mentioned docs (Text.unifyBreaks content)))
      ∧ tree'.read (root.step ignoreFile) = .ok (bytes ++ Text.toBytes more)
      ∧ more = if Mentioned docs (Text.unifyBreaks content) then [] else ignoreLines docs := by
  have hstrict : (Survey.strictText (root.step ignoreFile)).Finds tree
      (.ok (Text.unifyBreaks content)) :=
    finds_strictText (textAt?_eq_some_iff.2 ⟨bytes, hread, by rw [htext]; rfl⟩)
  obtain ⟨place, hlocate⟩ := read_eq_ok_iff.1 hread
  obtain ⟨start, hleads⟩ : ∃ start, LeadsTo tree root start :=
    exists_folder_of_follow_append (locate_eq_ok.1 hlocate).2 (List.cons_ne_nil _ _)
  obtain ⟨hfits, hentry⟩ := (read_step_eq_ok_iff hleads (by decide)).1 hread
  unfold updateIgnore
  simp only [Work.ends_bind, Work.ends_survey]
  by_cases hmentioned : Mentioned docs (Text.unifyBreaks content)
  · refine ⟨tree, [], ⟨tree, _, ⟨rfl, hstrict⟩, ?_⟩, ?_, by rw [if_pos hmentioned]⟩
    · simp only [show (_ && _) = true from hmentioned, if_true]
      exact Work.ends_pure.2 ⟨rfl, by rw [decide_eq_true hmentioned]; rfl⟩
    · rw [hread, Text.toBytes, List.flatMap_nil, List.append_nil]
  · have htakes : TakesIn tree root start [ignoreFile] :=
      List.forall_mem_singleton.2 ⟨hfits, by simp [hentry]⟩
    have hcontent : tree.contentAt (start ++ [ignoreFile]) = bytes := by rw [contentAt, hentry]
    refine ⟨tree.putIn start [(ignoreFile, bytes ++ Text.toBytes (ignoreLines docs))], ignoreLines docs,
      ⟨tree, _, ⟨rfl, hstrict⟩, ?_⟩, ?_, by rw [if_neg hmentioned]⟩
    · simp only [Bool.eq_false_iff.2 hmentioned, Bool.false_eq_true, if_false]
      refine Work.ends_bind.2 ⟨_, (), (ends_append_iff hleads (by decide)).2 ⟨htakes, rfl⟩, ?_⟩
      exact Work.ends_pure.2 ⟨by rw [hcontent], by rw [decide_eq_false hmentioned]; rfl⟩
    · refine read_step (leadsTo_putIn hleads htakes) hfits ?_
      rw [putIn_cons, putIn_nil, entry?_put (append_singleton_ne_nil start ignoreFile), if_pos rfl]

/-- **Both names are on lines of their own after an update exactly if they were before, or one of them
    did not stand in the file at all.** What stood in the file is kept in front. Lines are counted by
    line feeds, and by all line breaks if the folder has no carriage return. -/
theorem listed_iff_of_updateIgnore (hread : tree.read (root.step ignoreFile) = .ok bytes)
    (htext : Text.ofBytes? bytes = some content) (hdocs : '\n' ∉ docs) :
    ∃ tree' appended more, (updateIgnore root docs).Ends tree tree' appended
      ∧ tree'.read (root.step ignoreFile) = .ok (bytes ++ Text.toBytes more)
      ∧ Text.ofBytes? (bytes ++ Text.toBytes more) = some (content ++ more)
      ∧ (Listed docs (Text.lines (content ++ more)) ↔
          Listed docs (Text.lines content) ∨ ¬ Mentioned docs (Text.unifyBreaks content))
      ∧ ('\r' ∉ docs → (Listed docs (Text.lines (Text.unifyBreaks (content ++ more))) ↔
          Listed docs (Text.lines (Text.unifyBreaks content))
            ∨ ¬ Mentioned docs (Text.unifyBreaks content))) := by
  obtain ⟨tree', more, hends, hread', hmore⟩ := ends_updateIgnore hread htext
  refine ⟨tree', _, more, hends, hread', Text.ofBytes?_append htext more, ?_, fun hreturn => ?_⟩
  all_goals
    rw [hmore]
    split
    · next hmentioned => rw [List.append_nil, or_iff_left (not_not.2 hmentioned)]
  · next hmentioned =>
      exact iff_of_true (listed_of_suffix hdocs (suffix_append_ignoreLines docs content))
        (Or.inr hmentioned)
  · next hmentioned =>
      exact iff_of_true (listed_of_suffix hdocs (suffix_unifyBreaks_ignoreLines hreturn content))
        (Or.inr hmentioned)

/-- The text of an ignore file that names the configuration, and a folder whose name starts as that of
    the docs folder does. -/
def oldDocsText : Text := "/docs-old\nswagme.config.json\n".toList

/-- A project with this ignore file. -/
def oldDocsProject : Tree where
  entries := [([ignoreFile], .file (Text.toBytes oldDocsText))]

/-- The docs folder does not get a line of its own. -/
theorem not_listed_of_oldDocs :
    '\n' ∉ "/docs".toList ∧ ∃ tree' appended more,
      (updateIgnore {} "/docs".toList).Ends oldDocsProject tree' appended
        ∧ tree'.read (({} : Path).step ignoreFile)
            = .ok (Text.toBytes oldDocsText ++ Text.toBytes more)
        ∧ ¬ Listed "/docs".toList (Text.lines (oldDocsText ++ more)) := by
  have hdocs : '\n' ∉ "/docs".toList := by decide
  obtain ⟨tree', appended, more, hends, hread, -, hiff, -⟩ := listed_iff_of_updateIgnore
    (show oldDocsProject.read (({} : Path).step ignoreFile) = .ok (Text.toBytes oldDocsText) by
      decide +kernel)
    (Text.ofBytes?_toBytes oldDocsText) hdocs
  refine ⟨hdocs, tree', appended, more, hends, hread, ?_⟩
  rw [hiff]
  decide +kernel

end ApiScan.Docs
