import ApiScan.Model.SchemaFile
import ApiScan.Proofs.Route.Mounted
import ApiScan.Proofs.Source.Places
import ApiScan.Route.FileRoute

set_option autoImplicit false

/-! # Extraction never misses

The extractors of models and routes, with every lookup in them made by place: the name of a field in
front of its colon, the two words of a field line, the brace that opens a block, the part of a statement
behind a folder token. Each lookup comes only where something else has made sure of it, often another
function. So none of them misses, on any text, and what is read by places is what `extract` gives. -/

namespace ApiScan

open Lookup

/-! ## Document schemas -/

namespace DocumentSchema

open Text Source

variable {mark text block rest : Text}

/-- The field on one line of a laid out block, with the name cut off at the first colon. -/
def parseFieldByPlace (line : Text) : Except Miss (Option Field) :=
  let line := strip (dropReference line)
  let line := strip (line.dropWhile (· = ','))
  if line.isEmpty then pure none
  else
    match first? typeToken? none line with
    | none => pure none
    | some token => do
      let name := trimToWord (← frontOf [':'] line)
      pure (if name.isEmpty then none else some ⟨name, Field.lowerType token⟩)

/-- Whether the options behind a block of fields switch time stamps on. The opening brace of the block
    is looked up once more to know where the block ends. -/
def optionsByPlace (text mark block : Text) : Except Miss Bool := do
  let first ← placeFrom ['{'] text (placeOf mark text)
  let rest := text.drop (first + block.length)
  if startsOptions rest then
    match ← blockByPlace ['{'] rest with
    | none => pure false
    | some options => pure (enablesTimestamps (stripComments options))
  else pure false

/-- The model of a file, read by places. -/
def extractByPlace (file text : Text) : Except Miss (Findings Model) := do
  match ← firstMarkByPlace marks text with
  | none => pure ⟨[], []⟩
  | some mark =>
    match ← blockByPlace mark text with
    | none => pure (.skipped .unbalancedSchema)
    | some block =>
      let table := modelName text
      if table.isEmpty then pure (.skipped .noModelName)
      else
        let flat := flatten block
        let fields ← (lines (reflow flat)).mapM parseFieldByPlace
        let stamped ← if enablesTimestamps flat then pure true else optionsByPlace text mark block
        let stamps := if stamped then timestampFields else []
        pure ⟨[⟨table, stripExtension file, fields.filterMap id ++ stamps⟩], []⟩

theorem parseFieldByPlace_eq (line : Text) : parseFieldByPlace line = .ok (parseField? line) := by
  unfold parseFieldByPlace parseField?
  dsimp only
  generalize strip ((strip (dropReference line)).dropWhile (· = ',')) = line
  cases line with
  | nil => rfl
  | cons c s =>
      rw [List.isEmpty_cons, if_neg Bool.false_ne_true, frontOf_char]
      cases first? typeToken? none (c :: s) <;> rfl

theorem optionsByPlace_eq (h : blockAfter? mark text = some (block, rest)) :
    optionsByPlace text mark block
      = .ok ((options? rest).any fun options => enablesTimestamps (stripComments options)) := by
  obtain ⟨first, hopens⟩ := exists_opensAt h
  rw [optionsByPlace, hopens.found, ok_bind, hopens.rest_eq, options?_eq_block?]
  dsimp only
  split
  · rw [blockByPlace_eq, ok_bind]
    cases block? ['{'] rest <;> rfl
  · rfl

/-- **The model of a file is read without a miss.** -/
theorem extractByPlace_eq (file text : Text) : extractByPlace file text = .ok (extract file text) := by
  rw [extractByPlace, extract, firstMarkByPlace_eq apart_marks, ok_bind]
  cases firstMark? marks text with
  | none => rfl
  | some mark =>
      dsimp only
      rw [blockByPlace_eq, ok_bind, block?]
      cases hblock : blockAfter? mark text with
      | none => rfl
      | some found =>
          obtain ⟨block, rest⟩ := found
          dsimp only [Option.map_some]
          rw [mapM_of_forall parseFieldByPlace_eq, ok_bind, List.filterMap_map, optionsByPlace_eq hblock]
          split
          · rfl
          · cases enablesTimestamps (flatten block) <;> rfl

end DocumentSchema

/-! ## Column tables -/

namespace ColumnTable

open Text Source

/-- The model of a file, read by places. -/
def extractByPlace (file text : Text) : Except Miss (Findings Model) := do
  match ← firstMarkByPlace marks text with
  | none => pure ⟨[], []⟩
  | some mark =>
    let table := tableName text mark
    if table.isEmpty then pure (.skipped .noTableName)
    else
      match ← blockByPlace mark text with
      | none => pure (.skipped .unbalancedTable)
      | some block =>
        pure ⟨[⟨table, stripExtension file, (fragments block).filterMap parseColumn?⟩], []⟩

theorem extractByPlace_eq (file text : Text) : extractByPlace file text = .ok (extract file text) := by
  rw [extractByPlace, extract, firstMarkByPlace_eq apart_marks, ok_bind]
  cases firstMark? marks text with
  | none => rfl
  | some mark =>
      dsimp only
      rw [blockByPlace_eq, ok_bind]
      split
      · rfl
      · cases block? mark text <;> rfl

end ColumnTable

/-! ## Schema definition files -/

namespace SchemaFile

open Text Source

/-- The name and the field lines of a chunk: the name is cut off at the brace behind it, and a field is
    the two words of a line that has no others. -/
def parseLinesByPlace (table : Text) : List Text → Except Miss (Text × List Field)
  | [] => pure (table, [])
  | line :: more => do
    if line.contains '{' && table.isEmpty then
      parseLinesByPlace (strip (← frontOf ['{'] line)) more
    else if line.contains '}' || allBlank line then parseLinesByPlace table more
    else
      let parts := words line
      if parts.length ≠ 2 then parseLinesByPlace table more
      else
        let name ← itemAt parts 0
        let type ← itemAt parts 1
        let (table, fields) ← parseLinesByPlace table more
        pure (table, ⟨name, Field.lowerType type⟩ :: fields)

/-- The model of a chunk, read by places. -/
def parseChunkByPlace (source chunk : Text) : Except Miss (Findings Model) := do
  let (table, fields) ← parseLinesByPlace [] (lines chunk)
  if table.isEmpty then pure ⟨[], []⟩
  else if table.all isWord then pure ⟨[⟨table, source, fields⟩], []⟩
  else pure (.skipped .otherBlock)

/-- The models of a file, read by places. -/
def extractByPlace (file text : Text) : Except Miss (Findings Model) := do
  let body := strip (stripComments text)
  let chunks := (chunks body).filter fun chunk => !allBlank chunk
  pure (.join (← chunks.mapM (parseChunkByPlace (stripExtension file))))

theorem parseLinesByPlace_eq (table : Text) (lines : List Text) :
    parseLinesByPlace table lines = .ok (parseLines table lines) := by
  induction lines generalizing table with
  | nil => rfl
  | cons line lines ih =>
      rw [parseLinesByPlace, parseLines, Bool.and_comm, frontOf_char, ok_bind]
      split
      · exact ih _
      · cases hclose : line.contains '}' with
        | true => exact ih table
        | false =>
            simp only [Bool.false_or, Bool.false_eq_true, if_false, ih, ok_bind]
            -- a blank line has no words
            by_cases hblank : allBlank line = true
            · rw [if_pos hblank, words_of_blank (List.all_eq_true.1 hblank)]
            · rw [if_neg hblank]
              rcases words line with - | ⟨name, - | ⟨type, - | ⟨word, more⟩⟩⟩ <;> rfl

theorem parseChunkByPlace_eq (source chunk : Text) :
    parseChunkByPlace source chunk = .ok (parseChunk source chunk) := by
  rw [parseChunkByPlace, parseLinesByPlace_eq, ok_bind, parseChunk]
  dsimp only
  split
  · rfl
  · split <;> rfl

theorem extractByPlace_eq (file text : Text) : extractByPlace file text = .ok (extract file text) := by
  rw [extractByPlace, mapM_of_forall (parseChunkByPlace_eq _)]
  rfl

end SchemaFile

/-! ## Mounted routers -/

namespace Mount

/-- The folder token of a statement, with the last segment of the folder looked up. -/
def folderTokenByPlace (folder line : Text) : Except Miss (Option Text) := do
  let tail ← lastItem (cutLast '/' folder)
  let tokens := (folder ++ ['/']) :: if tail ≠ folder then [tail ++ ['/']] else []
  pure (tokens.find? (Text.holds · line))

/-- The module named after a token: the second part of a statement that is cut there. -/
def moduleByPlace (token line : Text) : Except Miss Text := do
  let module := (← behind token line).takeWhile fun c => !Source.isQuote c
  pure (if module.isEmpty then [] else Source.stripExtension (Text.strip module))

/-- Read one statement by places. -/
def Statement.readByPlace (folder line : Text) : Except Miss Statement := do
  let token? ← folderTokenByPlace folder line
  if Text.holds useCall line then
    match Text.find? pathArgument? line with
    | none => pure .other
    | some path =>
      match token? with
      | none => pure (.mountVariables (withoutLiterals line) path)
      | some token =>
        if Text.holds requireCall line then
          let module ← moduleByPlace token line
          pure (if module.isEmpty then .other else .mountModule module path)
        else pure (.mountVariables (withoutLiterals line) path)
  else
    match token? with
    | none => pure .other
    | some token =>
      let module ← moduleByPlace token line
      match boundName? line with
      | none => pure .other
      | some name => pure (if module.isEmpty then .other else .bind name module)

/-- The mount path of each router module of a main file, read by places. -/
def resolveByPlace (mainText routesFolder : Text) : Except Miss (List (Text × Text)) :=
  let folder := normalizeFolder routesFolder
  if folder.isEmpty then pure []
  else do
    let mounts ← (statements mainText).foldlM (fun mounts line => do
      pure (mounts.step (← Statement.readByPlace folder line))) ({} : Mounts)
    pure mounts.paths

theorem folderTokenByPlace_eq (folder line : Text) :
    folderTokenByPlace folder line = .ok (folderToken? folder line) := by
  rw [folderTokenByPlace, lastItem_cutLast, ok_bind, folderToken?, lastSegment]
  generalize (folder.reverse.takeWhile (· ≠ '/')).reverse = tail
  refine congrArg Except.ok ?_
  rw [List.find?_cons]
  cases Text.holds (folder ++ ['/']) line with
  | true => rfl
  | false =>
      by_cases htail : tail = folder
      · simp [htail]
      · cases hholds : Text.holds (tail ++ ['/']) line <;> simp [htail, hholds]

/-- **The second part of a statement is there where a token was found in it.** -/
theorem exists_behind {folder line token : Text} (h : folderToken? folder line = some token) :
    ∃ front rest, line = front ++ token ++ rest ∧ behind token line = .ok rest
      ∧ moduleByPlace token line = .ok (moduleName token line) := by
  have htoken := folderToken?_eq_some_iff.1 h
  obtain ⟨⟨front, rest⟩, hcut⟩ := Option.isSome_iff_exists.1 (Text.cut?_isSome_iff.2 htoken.1)
  have hne : token.isEmpty = false := by
    rcases htoken.2 with rfl | ⟨rfl, -⟩ <;> simp
  have hbehind : behind token line = .ok rest := by
    rw [behind, cutOnce, hne, hcut]
    rfl
  refine ⟨front, rest, Text.eq_of_cut?_eq_some hcut, hbehind, ?_⟩
  rw [moduleByPlace, hbehind, ok_bind, moduleName, hcut]
  dsimp only
  cases rest.takeWhile fun c => !Source.isQuote c <;> rfl

theorem Statement.readByPlace_eq (folder line : Text) :
    Statement.readByPlace folder line = .ok (Statement.read folder line) := by
  rw [Statement.readByPlace, Statement.read, folderTokenByPlace_eq, ok_bind]
  dsimp only
  cases htoken : folderToken? folder line with
  | none =>
      dsimp only
      split
      · cases Text.find? pathArgument? line <;> rfl
      · rfl
  | some token =>
      obtain ⟨-, -, -, -, hmodule⟩ := exists_behind htoken
      simp only [hmodule, ok_bind]
      split
      · cases Text.find? pathArgument? line with
        | none => rfl
        | some path =>
            dsimp only
            split
            · split <;> rfl
            · rfl
      · cases boundName? line with
        | none => rfl
        | some name =>
            dsimp only
            split <;> rfl

theorem resolveByPlace_eq (mainText routesFolder : Text) :
    resolveByPlace mainText routesFolder = .ok (resolve mainText routesFolder) := by
  have hstep (mounts : Mounts) (line : Text) :
      (do pure (mounts.step (← Statement.readByPlace (normalizeFolder routesFolder) line)))
        = (.ok (mounts.step (Statement.read (normalizeFolder routesFolder) line)) : Except Miss Mounts) := by
    rw [Statement.readByPlace_eq]
    rfl
  rw [resolveByPlace, resolve, Mounts.run, List.foldl_map, foldlM_of_forall hstep]
  split <;> rfl

end Mount

/-! ## Router files -/

namespace Router

/-- What a call of each method looks like. -/
def verbCalls : List (Method × (Text → Option Text)) :=
  methods.map fun method => (method, servedPath? method)

/-- The entry of a statement, with each method looked up in the table of its calls. -/
def entryByTable (line : Text) : Except Miss (Option RouteEntry) :=
  methods.findSomeM? fun method => do
    let served? ← valueOf method verbCalls
    pure ((Text.find? served? line).map fun path => ⟨method, templateParams path⟩)

/-- The group of one router file, read by places. -/
def groupByPlace (mounts : List (Text × Text)) (lookup : Text → Option Text) (file : Text) :
    Except Miss (Findings RouteGroup) :=
  let source := Source.stripExtension file
  match Assoc.get? source mounts with
  | none => pure (.skipped .routerNotMounted)
  | some base =>
    match lookup file with
    | none => pure (.skipped .routerUnavailable)
    | some text => do
      let entries ← (Mount.statements text).mapM entryByTable
      pure ⟨[⟨Text.upper source, source, base, entries.filterMap id⟩], []⟩

/-- The groups of the mounted router files, read by places. -/
def extractByPlace (mainText routesFolder : Text) (files : List Text) (lookup : Text → Option Text) :
    Except Miss (Findings RouteGroup) := do
  let mounts ← Mount.resolveByPlace mainText routesFolder
  pure (.join (← files.mapM (groupByPlace mounts lookup)))

theorem valueOf_verbCalls {method : Method} (h : method ∈ methods) :
    valueOf method verbCalls = .ok (servedPath? method) := by
  simp only [methods, List.mem_cons, List.not_mem_nil, or_false] at h
  rcases h with rfl | rfl | rfl | rfl | rfl <;> rfl

theorem entryByTable_eq (line : Text) : entryByTable line = (Except.ok ∘ entry?) line := by
  refine findSomeM?_of_forall fun method hmethod => ?_
  rw [valueOf_verbCalls hmethod]
  rfl

theorem groupByPlace_eq (mounts : List (Text × Text)) (lookup : Text → Option Text) (file : Text) :
    groupByPlace mounts lookup file = .ok (groupOf mounts lookup file) := by
  unfold groupByPlace groupOf
  dsimp only
  cases Assoc.get? (Source.stripExtension file) mounts with
  | none => rfl
  | some base =>
      cases lookup file with
      | none => rfl
      | some text =>
          dsimp only
          rw [mapM_of_forall entryByTable_eq, ok_bind, List.filterMap_map]
          rfl

theorem extractByPlace_eq (mainText routesFolder : Text) (files : List Text)
    (lookup : Text → Option Text) :
    extractByPlace mainText routesFolder files lookup
      = .ok (extract mainText routesFolder files lookup) := by
  rw [extractByPlace, Mount.resolveByPlace_eq, ok_bind, mapM_of_forall (groupByPlace_eq _ lookup)]
  rfl

end Router

/-! ## File routes -/

namespace FileRoute

/-- The tag of a file, with its first segment looked up. -/
def tagByPlace (path : Text) : Except Miss Text := do
  pure (Source.stripExtension (← frontOf ['/'] (normalize path)))

/-- The entries of one file, read by places. -/
def entriesByPlace (lookup : Text → Option Text) (file : Text) :
    Except Miss (Findings (Text × List RouteEntry)) := do
  let tag ← tagByPlace file
  if tag.isEmpty then pure (.skipped .noRouteSegment)
  else
    match lookup file with
    | none => pure ⟨[], []⟩
    | some text =>
      if isHandler text then pure ⟨[(tag, methods.map fun method => ⟨method, path file⟩)], []⟩
      else pure ⟨[], []⟩

/-- A group for each tag, read by places. -/
def extractByPlace (files : List Text) (lookup : Text → Option Text) :
    Except Miss (Findings RouteGroup) := do
  let parts := Findings.join (← files.mapM (entriesByPlace lookup))
  pure ⟨(grouped parts.found).map fun (tag, entries) => ⟨tag, tag, [], entries⟩, parts.log⟩

theorem entriesByPlace_eq (lookup : Text → Option Text) (file : Text) :
    entriesByPlace lookup file = .ok (entriesOf lookup file) := by
  rw [entriesByPlace, tagByPlace, frontOf_char, ok_bind, pure_bind, entriesOf, tag]
  split
  · rfl
  · cases lookup file with
    | none => rfl
    | some text =>
        dsimp only
        split <;> rfl

theorem extractByPlace_eq (files : List Text) (lookup : Text → Option Text) :
    extractByPlace files lookup = .ok (extract files lookup) := by
  rw [extractByPlace, mapM_of_forall (entriesByPlace_eq lookup)]
  rfl

end FileRoute

/-! ## Every text -/

namespace Extraction

open Source

/-- **No lookup of the extractors misses, on any text.** A block is read by places as it is read from left
    to right, and where it ends, whatever is done there, the next brace from the mark on has been passed.
    The brace that is looked up for the options behind a block is the one that opens it, so that the text
    is what stands in front of it, the block, and what follows the block. A statement that has a folder
    token has a part behind it. So all that is read by places is what the extractors give. -/
theorem lookups_never_miss :
    (∀ mark s : Text, blockByPlace mark s = .ok (block? mark s)
        ∧ ∀ (ended : Nat → Except Miss (Option Text)) (start : Nat), Text.indexOf? mark s = some start →
          scanFrom s ended start = .ok none
            ∨ ∃ i first, placeFrom ['{'] s start = .ok first ∧ start ≤ first ∧ first ≤ i
              ∧ s[first]? = some '{' ∧ scanFrom s ended start = ended i)
      ∧ (∀ mark s block rest : Text, blockAfter? mark s = some (block, rest) →
          (∃ first, OpensAt mark s block rest first)
            ∧ DocumentSchema.optionsByPlace s mark block = .ok ((DocumentSchema.options? rest).any
                fun options => DocumentSchema.enablesTimestamps (stripComments options)))
      ∧ (∀ folder line token : Text, Mount.folderToken? folder line = some token →
          ∃ front rest, line = front ++ token ++ rest ∧ behind token line = .ok rest
            ∧ Mount.moduleByPlace token line = .ok (Mount.moduleName token line))
      ∧ (∀ file text : Text,
          DocumentSchema.extractByPlace file text = .ok (DocumentSchema.extract file text)
            ∧ ColumnTable.extractByPlace file text = .ok (ColumnTable.extract file text)
            ∧ SchemaFile.extractByPlace file text = .ok (SchemaFile.extract file text))
      ∧ ∀ (mainText routesFolder : Text) (files : List Text) (lookup : Text → Option Text),
          Router.extractByPlace mainText routesFolder files lookup
              = .ok (Router.extract mainText routesFolder files lookup)
            ∧ FileRoute.extractByPlace files lookup = .ok (FileRoute.extract files lookup) := by
  refine ⟨fun mark s => ⟨blockByPlace_eq mark s, fun _ _ => scanFrom_cases⟩, fun mark s block rest h => ?_,
    fun folder line token => Mount.exists_behind, fun file text => ?_, fun mainText folder files lookup => ?_⟩
  · exact ⟨exists_opensAt h, DocumentSchema.optionsByPlace_eq h⟩
  · exact ⟨DocumentSchema.extractByPlace_eq file text, ColumnTable.extractByPlace_eq file text,
      SchemaFile.extractByPlace_eq file text⟩
  · exact ⟨Router.extractByPlace_eq mainText folder files lookup,
      FileRoute.extractByPlace_eq files lookup⟩

/-- The start of a schema with time stamps. -/
def stampedMark : Text := "new Schema(".toList

/-- Its fields. -/
def stampedBlock : Text := "\x7b name: \x7b type: String \x7d \x7d".toList

/-- Its options. -/
def stampedOptions : Text := ", \x7b timestamps: true \x7d);".toList

/-- The whole of it. -/
def stampedSource : Text := stampedMark ++ stampedBlock ++ stampedOptions

/-- A statement that loads a router. -/
def loadingStatement : Text := "const users = require('./routes/user')".toList

/-- The brace of the fields is passed, and found again for the options; the module behind the folder is
    there. -/
theorem lookups_never_miss_of_stampedSource :
    Text.indexOf? stampedMark stampedSource = some 0
      ∧ (∃ first, placeFrom ['{'] stampedSource 0 = .ok first ∧ stampedSource[first]? = some '{')
      ∧ blockAfter? stampedMark stampedSource = some (stampedBlock, stampedOptions)
      ∧ (∃ first, OpensAt stampedMark stampedSource stampedBlock stampedOptions first)
      ∧ DocumentSchema.optionsByPlace stampedSource stampedMark stampedBlock = .ok true
      ∧ Mount.folderToken? "routes".toList loadingStatement = some "routes/".toList
      ∧ (∃ front rest, loadingStatement = front ++ "routes/".toList ++ rest
          ∧ behind "routes/".toList loadingStatement = .ok rest)
      ∧ Mount.moduleByPlace "routes/".toList loadingStatement = .ok "user".toList := by
  obtain ⟨hblocks, hoptions, hmodules, -⟩ := lookups_never_miss
  have hmark : Text.indexOf? stampedMark stampedSource = some 0 := by decide
  have hblock : blockAfter? stampedMark stampedSource = some (stampedBlock, stampedOptions) := by
    decide
  have htoken : Mount.folderToken? "routes".toList loadingStatement = some "routes/".toList := by
    decide
  obtain ⟨hopens, hstamped⟩ := hoptions _ _ _ _ hblock
  obtain ⟨front, rest, hline, hbehind, hmodule⟩ := hmodules _ _ _ htoken
  refine ⟨hmark, ?_, hblock, hopens, hstamped.trans (congrArg Except.ok (by decide)), htoken,
    ⟨front, rest, hline, hbehind⟩, hmodule.trans (congrArg Except.ok (by decide))⟩
  -- the end of the block is reached, so what is done there is done
  have hended : scanFrom stampedSource (fun _ => .error .noMark) 0 = .error .noMark := by decide
  rcases (hblocks stampedMark stampedSource).2 _ 0 hmark with hnone | ⟨_, first, hfirst, -, -, hbrace, -⟩
  · exact nomatch hended.symm.trans hnone
  · exact ⟨first, hfirst, hbrace⟩

end Extraction

end ApiScan
