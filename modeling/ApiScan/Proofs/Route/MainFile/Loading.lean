import ApiScan.Proofs.Route.MainFile.Statement
import ApiScan.Proofs.Route.RouterSource

set_option autoImplicit false

/-! # Statements that load modules

A statement that loads a module counts if the token of the routes folder stands anywhere in its paths,
also behind the start of another folder's name and in a mount path, and the module is what follows the
first token up to the quote. So a statement may mount a module that it does not load, and it may take a
module of another folder for one of the routes folder. -/

namespace ApiScan.Mount

open Text Source DocumentSchema

variable {s t path module token mark : Text} {c : Char}

/-! ## The routes folder -/

/-- A routes folder as it is configured. -/
structure RoutesFolder where
  value : Text
  ne_nil : normalizeFolder value ≠ []
  plain : ∀ c ∈ normalizeFolder value, isQuote c = false ∧ isEnd c = false

/-- The folder as it is looked for. -/
def RoutesFolder.name (folder : RoutesFolder) : Text := normalizeFolder folder.value

theorem ne_of_mem_normalizeFolder {value : Text} (h : c ∈ normalizeFolder value) : c ≠ '\\' := by
  have hmem := Path.mem_of_mem_dropDotSlash
    ((List.dropWhile_sublist _).subset ((dropEndWhile_isPrefix _ _).subset h))
  obtain ⟨d, -, rfl⟩ := List.mem_map.1 (strip_isInfix.subset hmem)
  split
  · decide
  · next hd => exact hd

/-- A folder as it is looked for does not start with a slash. -/
theorem head?_normalizeFolder (value : Text) : (normalizeFolder value).head? ≠ some '/' := by
  intro h
  have hprefix := dropEndWhile_isPrefix (fun c : Char => decide (c = '/'))
    ((Path.dropDotSlash (strip (value.map fun c => if c = '\\' then '/' else c))).dropWhile (· = '/'))
  rw [← normalizeFolder] at hprefix
  obtain ⟨rest, hrest⟩ := hprefix
  refine Path.head?_dropWhile_slash
    (Path.dropDotSlash (strip (value.map fun c => if c = '\\' then '/' else c))) ?_
  rw [← hrest, List.head?_append, h, Option.some_or]

theorem lastSegment_suffix (s : Text) : lastSegment s <:+ s :=
  List.reverse_prefix.1 (by rw [lastSegment, List.reverse_reverse]; exact List.takeWhile_prefix _)

theorem not_mem_lastSegment (s : Text) : '/' ∉ lastSegment s := by
  intro h
  simpa using List.mem_takeWhile_imp (List.mem_reverse.1 h)

/-- A text that may be a token of the folder: it holds a slash, and no quote. -/
def TokenLike (token : Text) : Prop := (∀ c ∈ token, isQuote c = false) ∧ '/' ∈ token

theorem RoutesFolder.tokenLike (folder : RoutesFolder) :
    TokenLike (folder.name ++ ['/']) ∧ TokenLike (lastSegment folder.name ++ ['/']) := by
  have hname : ∀ c ∈ folder.name, isQuote c = false := fun c hc => (folder.plain c hc).1
  have hquote : ∀ c ∈ ['/'], isQuote c = false := by decide
  refine ⟨⟨List.forall_mem_append.2 ⟨hname, hquote⟩, by simp⟩,
    ⟨List.forall_mem_append.2 ⟨fun c hc => hname c ((lastSegment_suffix _).subset hc), hquote⟩, by simp⟩⟩

/-! ## Segments of a path -/

/-- A text that ends with a character is found in front of that character or behind it. -/
theorem infix_segment_iff (hmark : c ∉ mark) (hs : c ∉ s) :
    mark ++ [c] <:+: s ++ c :: t ↔ mark <:+ s ∨ mark ++ [c] <:+: t := by
  constructor
  · rintro ⟨front, rest, h⟩
    have hsplit : s ++ c :: t = front ++ mark ++ c :: rest := by
      rw [← h]
      simp
    rcases split_of_not_mem hmark hsplit with ⟨more, hmore, hrest⟩ | ⟨more, -, hmore⟩
    · cases more with
      | nil => exact Or.inl ⟨front, by rw [hmore, List.append_nil]⟩
      | cons d more =>
          obtain ⟨rfl, -⟩ := List.cons.inj hrest
          exact absurd (by simp [hmore]) hs
    · exact Or.inr ⟨more, rest, by rw [hmore]; simp⟩
  · rintro (⟨front, rfl⟩ | h)
    · exact ⟨front, t, by simp⟩
    · exact h.trans ((List.suffix_cons c t).trans (List.suffix_append s _)).isInfix

/-- **A text with a slash behind it is found where a segment ends with it** that is not the last one. -/
theorem infix_iff_exists_segment (hmark : c ∉ mark) (s : Text) : mark ++ [c] <:+: s
    ↔ ∃ segment ∈ (pieces (· = c) s).dropLast, mark <:+ segment := by
  by_cases hc : c ∈ s
  · obtain ⟨first, rest, rfl, hfirst⟩ := List.eq_append_cons_of_mem hc
    have hpieces : pieces (· = c) (first ++ c :: rest) = first :: pieces (· = c) rest :=
      pieces_append_cons (fun d hd => decide_eq_false (ne_of_mem_of_not_mem hd hfirst))
        (decide_eq_true rfl)
    rw [hpieces, List.dropLast_cons_of_ne_nil (pieces_ne_nil rest), List.exists_mem_cons_iff,
      infix_segment_iff hmark hfirst, infix_iff_exists_segment hmark rest]
  · have hpieces : pieces (· = c) s = [s] :=
      pieces_of_forall fun d hd => decide_eq_false (ne_of_mem_of_not_mem hd hc)
    rw [hpieces]
    refine iff_of_false (fun h => hc (h.subset (by simp))) ?_
    simp
termination_by s.length

/-! ## What stands behind the token -/

/-- The token of a folder that counts for a statement with some paths: the folder if one of the paths
    holds it, and its last segment otherwise. -/
def tokenOf (folder : Text) (paths : List Text) : Text :=
  if ∃ path ∈ paths, folder ++ ['/'] <:+: path then folder ++ ['/'] else lastSegment folder ++ ['/']

/-- What stands behind the first token of the folder in some paths. -/
def behindToken? (folder : Text) (paths : List Text) : Option Text :=
  paths.findSome? fun path => (cut? (tokenOf folder paths) path).map Prod.snd

theorem isSome_behindToken?_iff {folder : Text} {paths : List Text} :
    (behindToken? folder paths).isSome = true ↔ ∃ path ∈ paths, tokenOf folder paths <:+: path := by
  simp only [behindToken?, List.findSome?_isSome_iff, Option.isSome_map, cut?_isSome_iff]

/-- **No token is found** if no segment but the last of a path ends with the last segment of the
    folder. -/
theorem behindToken?_eq_none_iff (folder : Text) (paths : List Text) : behindToken? folder paths = none
    ↔ ∀ path ∈ paths, ∀ segment ∈ (pieces (· = '/') path).dropLast, ¬ lastSegment folder <:+ segment := by
  have htoken : behindToken? folder paths = none
      ↔ ∀ path ∈ paths, ¬ lastSegment folder ++ ['/'] <:+: path := by
    rw [← Option.not_isSome_iff_eq_none, isSome_behindToken?_iff, tokenOf]
    push Not
    split
    · next h =>
        obtain ⟨path, hpath, hfolder⟩ := h
        have hlast : lastSegment folder ++ ['/'] <:+: path := by
          obtain ⟨front, hfront⟩ := lastSegment_suffix folder
          refine List.IsInfix.trans ⟨front, [], ?_⟩ hfolder
          rw [List.append_nil, ← List.append_assoc, hfront]
        exact iff_of_false (fun hnone => hnone path hpath hfolder) fun hnone => hnone path hpath hlast
    · rfl
  rw [htoken]
  refine forall₂_congr fun path _ => ?_
  rw [infix_iff_exists_segment (not_mem_lastSegment folder)]
  push Not
  rfl

/-- A module has a name if what stands behind the token is not blank. -/
theorem stripExtension_strip_eq_nil_iff (s : Text) : stripExtension (strip s) = [] ↔ AllBlank s := by
  rw [← strip_eq_nil_iff]
  constructor
  · intro h
    by_contra hne
    exact stripExtension_ne_nil hne h
  · intro h
    rw [h]
    rfl

/-! ## Lines with quoted paths -/

/-- A path in a literal. -/
structure QuotedPath where
  quote : Char
  path : Text
  isQuote : isQuote quote = true
  plain : ∀ c ∈ path, Source.isQuote c = false ∧ c ≠ '\\' ∧ isEnd c = false

/-- An absolute path in a literal. -/
structure AbsolutePath extends QuotedPath where
  absolute : path.head? = some '/'

/-- The text of the literal. -/
def QuotedPath.text (quoted : QuotedPath) : Text := quoted.quote :: (quoted.path ++ [quoted.quote])

theorem QuotedPath.ne_of_mem (quoted : QuotedPath) (hc : c ∈ quoted.path) :
    c ≠ quoted.quote ∧ c ≠ '\\' ∧ c ≠ '\n' := by
  obtain ⟨hquote, hslash, hend⟩ := quoted.plain c hc
  refine ⟨ne_of_isQuote quoted.isQuote hquote, hslash, ?_⟩
  rintro rfl
  exact absurd hend (by decide)

/-- Code without slashes on one line. -/
def IsCode (s : Text) : Prop := ∀ c ∈ s, isQuote c = false ∧ c ≠ '/' ∧ isEnd c = false

instance (s : Text) : Decidable (IsCode s) :=
  List.decidableBAll (fun c => isQuote c = false ∧ c ≠ '/' ∧ isEnd c = false) s

theorem isCode_append (hs : IsCode s) (ht : IsCode t) : IsCode (s ++ t) := List.forall_mem_append.2 ⟨hs, ht⟩

theorem isCode_name {name : Text} (hname : ∀ c ∈ name, isNameChar c = true) : IsCode name := by
  intro c hc
  rcases isWord_or_eq_dollar (hname c hc) with hword | rfl
  · have hslash : c ≠ '/' := by
      rintro rfl
      exact absurd hword (by decide)
    exact ⟨isQuote_eq_false (Or.inl hword), hslash, isEnd_eq_false (Or.inl hword)⟩
  · decide

/-- A line of quoted paths, each with code in front of it, and code at the end. -/
structure PathLine where
  parts : List (Text × QuotedPath)
  tail : Text
  isCode : (∀ part ∈ parts, IsCode part.1) ∧ IsCode tail

namespace PathLine

variable (line : PathLine)

/-- The paths of a line. -/
def paths : List Text := line.parts.map fun part => part.2.path

/-- The text of a line. -/
def text : Text := line.parts.flatMap (fun part => part.1 ++ part.2.text) ++ line.tail

variable {line}

theorem kept_part {part : Text × QuotedPath} (h : IsCode part.1) : Kept (part.1 ++ part.2.text) := by
  have hcode : NoMark part.1 := fun c hc => ⟨(h c hc).2.1, (h c hc).1⟩
  exact hcode.kept.append (kept_literal part.2.isQuote
    (literalBody_of_plain fun c hc => part.2.ne_of_mem hc))

/-- A line holds no comment. -/
theorem kept_text (line : PathLine) : Kept line.text := by
  obtain ⟨parts, tail, hparts, htail⟩ := line
  have hcode : NoMark tail := fun c hc => ⟨(htail c hc).2.1, (htail c hc).1⟩
  rw [text]
  induction parts with
  | nil => exact hcode.kept
  | cons part parts ih =>
      obtain ⟨hpart, hparts⟩ := List.forall_mem_cons.1 hparts
      have hall := (kept_part hpart).append (ih hparts)
      simpa using hall

theorem isEnd_of_mem_text (line : PathLine) : ∀ c ∈ line.text, isEnd c = false := by
  refine List.forall_mem_append.2 ⟨fun c hc => ?_, fun c hc => (line.isCode.2 c hc).2.2⟩
  obtain ⟨part, hpart, hc⟩ := List.mem_flatMap.1 hc
  have hquote : isEnd part.2.quote = false := isEnd_eq_false (Or.inr part.2.isQuote)
  simp only [QuotedPath.text, List.mem_append, List.mem_cons, List.not_mem_nil, or_false] at hc
  rcases hc with hc | rfl | hc | rfl
  · exact (line.isCode.1 part hpart c hc).2.2
  · exact hquote
  · exact (part.2.plain c hc).2.2
  · exact hquote

/-- The first token of a line is the first one of its paths. -/
theorem cut?_text (line : PathLine) (htoken : TokenLike token) :
    (cut? token line.text).map (fun found => found.2.takeWhile fun c => !isQuote c)
      = line.paths.findSome? fun path => (cut? token path).map Prod.snd := by
  obtain ⟨parts, tail, hparts, htail⟩ := line
  have hcode {s : Text} (hs : IsCode s) : ¬ token <:+: s := fun h => (hs '/' (h.subset htoken.2)).2.1 rfl
  rw [text, paths]
  induction parts with
  | nil => rw [List.flatMap_nil, List.nil_append, cut?_eq_none_iff.2 (hcode htail)]; rfl
  | cons part parts ih =>
      obtain ⟨hpart, hparts⟩ := List.forall_mem_cons.1 hparts
      have hquote : part.2.quote ∉ token := fun hc => nomatch (htoken.1 _ hc).symm.trans part.2.isQuote
      have htext : (part :: parts).flatMap (fun part => part.1 ++ part.2.text) ++ tail
          = part.1 ++ part.2.quote :: (part.2.path ++ part.2.quote ::
            (parts.flatMap (fun part => part.1 ++ part.2.text) ++ tail)) := by
        simp [QuotedPath.text]
      rw [htext, cut?_append_cons hquote (hcode hpart), List.map_cons, List.findSome?_cons]
      cases hcut : cut? token part.2.path with
      | none =>
          rw [cut?_append_cons hquote (cut?_eq_none_iff.1 hcut)]
          simp only [Option.map_map]
          exact ih hparts
      | some found =>
          obtain ⟨front, rest⟩ := found
          have hrest : ∀ c ∈ rest, (!isQuote c) = true := by
            intro c hc
            have hmem : c ∈ part.2.path := by
              rw [eq_of_cut?_eq_some hcut]
              exact List.mem_append_right _ hc
            simp [(part.2.plain c hmem).1]
          rw [cut?_append_of_some hcut]
          simp only [Option.map_some]
          rw [(takeWhile_append_cons hrest (by simp [part.2.isQuote]) _).1]

theorem infix_text_iff (line : PathLine) (htoken : TokenLike token) :
    token <:+: line.text ↔ ∃ path ∈ line.paths, token <:+: path := by
  rw [← cut?_isSome_iff, ← Option.isSome_map (f := fun found => found.2.takeWhile fun c => !isQuote c),
    line.cut?_text htoken]
  simp only [List.findSome?_isSome_iff, Option.isSome_map, cut?_isSome_iff]

/-- A line has the token of its paths. -/
theorem folderToken_text (folder : RoutesFolder) (line : PathLine) : FolderToken folder.name line.text token
    ↔ token = tokenOf folder.name line.paths ∧ (behindToken? folder.name line.paths).isSome = true := by
  obtain ⟨hfolder, hlast⟩ := folder.tokenLike
  rw [isSome_behindToken?_iff, FolderToken, tokenOf, line.infix_text_iff hfolder]
  split
  · next h =>
      constructor
      · rintro ⟨-, rfl | ⟨-, hnot⟩⟩
        · exact ⟨rfl, h⟩
        · exact absurd h hnot
      · rintro ⟨rfl, h⟩
        exact ⟨(line.infix_text_iff hfolder).2 h, Or.inl rfl⟩
  · next h =>
      constructor
      · rintro ⟨hin, rfl | ⟨rfl, -⟩⟩
        · exact absurd ((line.infix_text_iff hfolder).1 hin) h
        · exact ⟨rfl, (line.infix_text_iff hlast).1 hin⟩
      · rintro ⟨rfl, hin⟩
        exact ⟨(line.infix_text_iff hlast).2 hin, Or.inr ⟨rfl, h⟩⟩

theorem tokenLike_tokenOf (folder : RoutesFolder) (paths : List Text) :
    TokenLike (tokenOf folder.name paths) := by
  obtain ⟨hfolder, hlast⟩ := folder.tokenLike
  rw [tokenOf]
  split
  · exact hfolder
  · exact hlast

/-- **A line names the module behind its first token.** -/
theorem namesModule_text (folder : RoutesFolder) (line : PathLine) : NamesModule folder.name line.text module
    ↔ ∃ rest, behindToken? folder.name line.paths = some rest ∧ ¬ AllBlank rest
      ∧ stripExtension (strip rest) = module := by
  have hcut := line.cut?_text (tokenLike_tokenOf folder line.paths)
  rw [← behindToken?] at hcut
  constructor
  · rintro ⟨hne, token, htoken, hmodule⟩
    obtain ⟨rfl, hsome⟩ := (folderToken_text folder line).1 htoken
    obtain ⟨rest, hrest⟩ := Option.isSome_iff_exists.1 hsome
    rw [hrest] at hcut
    obtain ⟨⟨front, found⟩, hfound, rfl⟩ := Option.map_eq_some_iff.1 hcut
    rw [moduleName, hfound] at hmodule
    refine ⟨_, hrest, fun hblank => hne ?_, hmodule⟩
    rw [← hmodule]
    exact (stripExtension_strip_eq_nil_iff _).2 hblank
  · rintro ⟨rest, hrest, hblank, rfl⟩
    have htoken := (folderToken_text folder line).2 ⟨rfl, Option.isSome_iff_exists.2 ⟨rest, hrest⟩⟩
    rw [hrest] at hcut
    obtain ⟨⟨front, found⟩, hfound, rfl⟩ := Option.map_eq_some_iff.1 hcut
    refine ⟨fun h => hblank ((stripExtension_strip_eq_nil_iff _).1 h), _, htoken, ?_⟩
    rw [moduleName, hfound]

end PathLine

/-! ## Statements that load modules -/

/-- An identifier. -/
structure Identifier where
  text : Text
  ne_nil : text ≠ []
  chars : ∀ c ∈ text, isNameChar c = true

theorem exists_identifier_takeWhile (h : ¬ (s.takeWhile isNameChar).isEmpty = true) :
    ∃ name : Identifier, name.text = s.takeWhile isNameChar :=
  ⟨⟨s.takeWhile isNameChar, fun he => h (by rw [he]; rfl), fun _ hc => List.mem_takeWhile_imp hc⟩, rfl⟩

theorem exists_identifier_of_imported? {name : Text} (h : imported? s = some name) :
    ∃ identifier : Identifier, identifier.text = name := by
  unfold imported? at h
  simp only [Option.bind_eq_bind, Option.bind_eq_some_iff] at h
  obtain ⟨_, -, rest, -, h⟩ := h
  -- an import of everything, or of the default
  split at h
  all_goals
    split at h
    · exact absurd h.symm (Option.some_ne_none name)
    · next hne =>
        obtain ⟨_, -, h⟩ := Option.bind_eq_some_iff.1 h
        obtain ⟨_, -, h⟩ := Option.bind_eq_some_iff.1 h
        split at h
        · exact absurd h.symm (Option.some_ne_none name)
        · obtain rfl := Option.some.inj h
          exact exists_identifier_takeWhile hne

theorem exists_identifier_of_declared? {before : Option Char} {name : Text}
    (h : declared? before s = some name) : ∃ identifier : Identifier, identifier.text = name := by
  unfold declared? at h
  simp only [Option.bind_eq_bind] at h
  split at h
  · exact absurd h.symm (Option.some_ne_none name)
  · obtain ⟨_, -, h⟩ := Option.bind_eq_some_iff.1 h
    obtain ⟨rest, -, h⟩ := Option.bind_eq_some_iff.1 h
    split at h
    · exact absurd h.symm (Option.some_ne_none name)
    · next hne =>
        split at h
        · obtain ⟨_, -, h⟩ := Option.bind_eq_some_iff.1 h
          split at h
          · obtain rfl := Option.some.inj h
            exact exists_identifier_takeWhile hne
          · exact absurd h.symm (Option.some_ne_none name)
        · exact absurd h.symm (Option.some_ne_none name)

/-- What a statement binds is an identifier. -/
theorem exists_identifier_of_boundName? {name : Text} (h : boundName? s = some name) :
    ∃ identifier : Identifier, identifier.text = name := by
  unfold boundName? at h
  split at h
  · next himported =>
      obtain rfl := Option.some.inj h
      exact exists_identifier_of_imported? himported
  · obtain ⟨front, rest, -, hdeclared, -⟩ := first?_eq_some_iff.1 h
    exact exists_identifier_of_declared? hdeclared

/-- The code of a statement that binds a variable to the module that it loads. -/
inductive Binder where
  /-- Such as `const users = require('./routes/user')`. -/
  | declare (keyword : Text) (known : keyword ∈ keywords) (name : Identifier)
  /-- Such as `import users from './routes/user'` and `import * as users from './routes/user'`. -/
  | importFrom (mark : Text) (known : ImportMark mark) (name : Identifier)

namespace Binder

/-- The variable that is bound. -/
def name : Binder → Identifier
  | declare _ _ name => name
  | importFrom _ _ name => name

/-- The code in front of the path. -/
def code : Binder → Text
  | declare keyword _ name => keyword ++ ' ' :: name.text ++ " = require(".toList
  | importFrom mark _ name => "import ".toList ++ mark ++ name.text ++ " from ".toList

/-- The code behind the path. -/
def last : Binder → Text
  | declare _ _ _ => [')']
  | importFrom _ _ _ => []

theorem code_declare {keyword : Text} (known : keyword ∈ keywords) (name : Identifier) :
    (declare keyword known name).code = keyword ++ ' ' :: name.text ++ " = require(".toList := rfl

theorem code_importFrom {mark : Text} (known : ImportMark mark) (name : Identifier) :
    (importFrom mark known name).code = "import ".toList ++ mark ++ name.text ++ " from ".toList := rfl

theorem isCode_code (binder : Binder) : IsCode binder.code := by
  cases binder with
  | declare keyword known name =>
      have hkeyword : IsCode (keyword ++ [' ']) :=
        (show ∀ keyword ∈ keywords, IsCode (keyword ++ [' ']) by decide) keyword known
      have hcode := isCode_append (isCode_append hkeyword (isCode_name name.chars))
        (show IsCode " = require(".toList by decide)
      rw [code_declare]
      simpa using hcode
  | importFrom mark known name =>
      have hmark : IsCode ("import ".toList ++ mark) := by
        rcases known with rfl | rfl <;> decide
      exact isCode_append (isCode_append hmark (isCode_name name.chars)) (by decide)

theorem isCode_last (binder : Binder) : IsCode binder.last := by
  cases binder with
  | declare keyword known name => exact (by decide : IsCode [')'])
  | importFrom mark known name => exact (by decide : IsCode [])

/-- The call that mounts is no part of the code. -/
theorem not_mem_code (binder : Binder) : '.' ∉ binder.code ∧ '.' ∉ binder.last ∧ ',' ∉ binder.last := by
  have hdot (name : Identifier) : '.' ∉ name.text := not_mem_name name.chars (by decide)
  cases binder with
  | declare keyword known name =>
      have hkeyword : '.' ∉ keyword := (show ∀ keyword ∈ keywords, '.' ∉ keyword by decide) keyword known
      rw [code_declare]
      exact ⟨by simp [hkeyword, hdot name], (by decide : '.' ∉ [')']), (by decide : ',' ∉ [')'])⟩
  | importFrom mark known name =>
      have hmark : '.' ∉ mark := by rcases known with rfl | rfl <;> decide
      rw [code_importFrom]
      exact ⟨by simp [hmark, hdot name], List.not_mem_nil, List.not_mem_nil⟩

theorem boundName?_code (binder : Binder) (s : Text) :
    boundName? (binder.code ++ s) = some binder.name.text := by
  cases binder with
  | declare keyword known name => exact boundName?_require known name.ne_nil name.chars s
  | importFrom mark known name =>
      rw [code_importFrom, boundName?, imported?_import known name.ne_nil name.chars]
      rfl

end Binder

/-- A statement that loads a module. -/
inductive Loading where
  | bind (binder : Binder) (path : QuotedPath)
  /-- Such as `app.use('/users', require('./routes/user'))`. -/
  | mount (receiver : Identifier) (point : AbsolutePath) (path : QuotedPath)

namespace Loading

/-- A statement as a line of paths. -/
def line : Loading → PathLine
  | bind binder path =>
    ⟨[(binder.code, path)], binder.last,
      List.forall_mem_singleton.2 binder.isCode_code, binder.isCode_last⟩
  | mount receiver point path =>
    ⟨[(receiver.text ++ ".use(".toList, point.toQuotedPath), (", require(".toList, path)], "))".toList,
      List.forall_mem_cons.2 ⟨isCode_append (isCode_name receiver.chars) (by decide),
        List.forall_mem_singleton.2 (show IsCode ", require(".toList by decide)⟩, by decide⟩

/-- The text of a statement. -/
def text (loading : Loading) : Text := loading.line.text

/-- The paths of a statement: the one that it loads, behind the one that it is mounted at. -/
def paths (loading : Loading) : List Text := loading.line.paths

theorem text_bind (binder : Binder) (path : QuotedPath) : (bind binder path).text
    = binder.code ++ path.quote :: (path.path ++ path.quote :: binder.last) := by
  simp [text, line, PathLine.text, QuotedPath.text]

theorem text_mount (receiver : Identifier) (point : AbsolutePath) (path : QuotedPath) :
    (mount receiver point path).text
      = receiver.text ++ ".use(".toList ++ point.quote :: (point.path ++ point.quote ::
        (", require(".toList ++ path.quote :: (path.path ++ path.quote :: "))".toList))) := by
  simp [text, line, PathLine.text, QuotedPath.text]

/-! ### Reading a binding -/

/-- What stands behind a text without quotes starts with the next quote. -/
theorem dropWhile_not_quote {quote : Char} (hs : ∀ c ∈ s, isQuote c = false) (hquote : isQuote quote = true)
    (rest : Text) : (s ++ quote :: rest).dropWhile (fun c => !isQuote c) = quote :: rest :=
  (takeWhile_append_cons (fun c hc => by simp [hs c hc]) (by simp [hquote]) rest).2

variable {folder : RoutesFolder} {binder : Binder} {quoted : QuotedPath} {rest : Text}

/-- A binding holds the call that mounts if its path does. -/
theorem useCall_text_bind : useCall <:+: (bind binder quoted).text ↔ useCall <:+: quoted.path := by
  have hquote : quoted.quote ∉ useCall := fun hc =>
    nomatch ((show ∀ c ∈ useCall, isQuote c = false by decide) _ hc).symm.trans quoted.isQuote
  have hno {s : Text} (hs : '.' ∉ s) : ¬ useCall <:+: s := fun h => hs (h.subset (by decide))
  rw [text_bind, infix_append_cons_iff hquote, infix_append_cons_iff hquote]
  simp only [hno binder.not_mem_code.1, hno binder.not_mem_code.2.1, false_or, or_false]

/-- No comma follows the path of a binding, and so it is no mount path. -/
theorem not_mountPath_bind (other : Text) : ¬ MountPath (bind binder quoted).text other := by
  have hcomma := binder.not_mem_code.2.2
  have hplain {s : Text} (hs : ∀ c ∈ s, isQuote c = false) (rest : Text) :
      find? pathArgument? (s ++ rest) = find? pathArgument? rest :=
    find?_append_of_forall (fun c hc s => (recognised_of_not_quote (hs c hc) s).1) rest
  have hpath : ∀ c ∈ quoted.path, isQuote c = false := fun c hc => (quoted.plain c hc).1
  have hfirst : pathArgument? (quoted.quote :: (quoted.path ++ quoted.quote :: binder.last)) = none := by
    rw [Option.eq_none_iff_forall_ne_some]
    intro found hfound
    obtain ⟨quote, blanks, rest, hquote, -, hchars, -, htext⟩ := pathArgument?_eq_some_iff.1 hfound
    have hrest : quoted.path ++ quoted.quote :: binder.last
        = found ++ quote :: (blanks ++ ',' :: rest) := by
      simpa using (List.cons.inj htext).2
    have hbehind := dropWhile_not_quote hpath quoted.isQuote binder.last
    rw [hrest, dropWhile_not_quote hchars hquote] at hbehind
    exact hcomma (by simp [← (List.cons.inj hbehind).2])
  have hsecond : pathArgument? (quoted.quote :: binder.last) = none := by
    rw [Option.eq_none_iff_forall_ne_some]
    intro found hfound
    obtain ⟨quote, blanks, rest, -, -, -, -, htext⟩ := pathArgument?_eq_some_iff.1 hfound
    exact hcomma (by simp [(List.cons.inj htext).2])
  have hnone : find? pathArgument? (bind binder quoted).text = none := by
    have hlast := hplain (fun c hc => (binder.isCode_last c hc).1) []
    rw [List.append_nil] at hlast
    rw [text_bind, hplain fun c hc => (binder.isCode_code c hc).1, find?_cons, hfirst, hplain hpath,
      find?_cons, hsecond, hlast]
    rfl
  intro h
  rw [(find?_pathArgument?_eq_some_iff h.1).2 h] at hnone
  exact nomatch hnone

/-- **A binding binds its variable to the module that it names.** -/
theorem exists_binds_bind : (∃ name module, Binds folder.name name (bind binder quoted).text module)
    ↔ ¬ useCall <:+: quoted.path
      ∧ ∃ rest, behindToken? folder.name [quoted.path] = some rest ∧ ¬ AllBlank rest := by
  have hnames {module : Text} : NamesModule folder.name (bind binder quoted).text module
      ↔ ∃ rest, behindToken? folder.name [quoted.path] = some rest ∧ ¬ AllBlank rest
        ∧ stripExtension (strip rest) = module :=
    PathLine.namesModule_text folder (bind binder quoted).line
  constructor
  · rintro ⟨name, module, huse, -, hmodule⟩
    obtain ⟨rest, hrest, hblank, -⟩ := hnames.1 hmodule
    exact ⟨fun h => huse (useCall_text_bind.2 h), rest, hrest, hblank⟩
  · rintro ⟨huse, rest, hrest, hblank⟩
    have hbound : boundName? (bind binder quoted).text = some binder.name.text := by
      rw [text_bind, binder.boundName?_code]
    exact ⟨binder.name.text, _, fun h => huse (useCall_text_bind.1 h), hbound,
      hnames.2 ⟨rest, hrest, hblank, rfl⟩⟩

/-! ### Reading a mount -/

variable {receiver : Identifier} {point : AbsolutePath}

theorem isCode_mount (receiver : Identifier) : IsCode (receiver.text ++ ".use(".toList) :=
  isCode_append (isCode_name receiver.chars) (by decide)

theorem mountPath_mount (receiver : Identifier) (point : AbsolutePath) (quoted : QuotedPath) :
    MountPath (mount receiver point quoted).text point.path := by
  have huse : useCall <:+: receiver.text ++ ".use(".toList :=
    (List.suffix_append receiver.text useCall).isInfix
  rw [text_mount]
  exact mountPath_literal huse (fun c hc => (isCode_mount receiver c hc).1) point.isQuote point.absolute
    (fun c hc => (point.plain c hc).1) _

theorem loadsInPlace_mount : LoadsInPlace folder.name (mount receiver point quoted).text
    ↔ (behindToken? folder.name [point.path, quoted.path]).isSome = true := by
  have hrequire : requireCall <:+: (mount receiver point quoted).text := by
    have hmark : ", require(".toList = ", ".toList ++ requireCall := rfl
    rw [text_mount, hmark]
    refine ⟨receiver.text ++ ".use(".toList ++ point.quote :: (point.path ++ point.quote :: ", ".toList),
      quoted.quote :: (quoted.path ++ quoted.quote :: "))".toList), ?_⟩
    simp only [List.append_assoc, List.cons_append]
  rw [LoadsInPlace, and_iff_left hrequire]
  constructor
  · rintro ⟨token, htoken⟩
    exact ((PathLine.folderToken_text folder _).1 htoken).2
  · intro hsome
    exact ⟨_, (PathLine.folderToken_text folder _).2 ⟨rfl, hsome⟩⟩

/-- **A mount mounts the module that it names.** -/
theorem read_mount (hrest : behindToken? folder.name [point.path, quoted.path] = some rest)
    (hblank : ¬ AllBlank rest) : Statement.read folder.name (mount receiver point quoted).text
      = .mountModule (stripExtension (strip rest)) point.path :=
  read_of_loadsInPlace (mountPath_mount receiver point quoted)
    (loadsInPlace_mount.2 (Option.isSome_iff_exists.2 ⟨rest, hrest⟩))
    ((PathLine.namesModule_text folder _).2 ⟨rest, hrest, hblank, rfl⟩)

/-- A mount with a token and no name behind it says nothing. -/
theorem read_mount_blank (hrest : behindToken? folder.name [point.path, quoted.path] = some rest)
    (hblank : AllBlank rest) :
    Statement.read folder.name (mount receiver point quoted).text = .other := by
  rcases read_of_useCall folder.name (mountPath_mount receiver point quoted).1 with
    ⟨path, module, -, -, hmodule, -⟩ | ⟨path, -, hloads, -⟩ | ⟨-, hread⟩
  · obtain ⟨other, hother, hne, -⟩ := (PathLine.namesModule_text folder _).1 hmodule
    obtain rfl := Option.some.inj (hrest.symm.trans hother)
    exact absurd hblank hne
  · exact absurd (loadsInPlace_mount.2 (Option.isSome_iff_exists.2 ⟨rest, hrest⟩)) hloads
  · exact hread

end Loading

end ApiScan.Mount
