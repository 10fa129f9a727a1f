import ApiScan.Proofs.Route.MainFile.Command
import ApiScan.Proofs.Route.Mounted

set_option autoImplicit false

/-! # Reading a command of a main file

A command is read as the statement that does what it means. The module of a binding stands behind the
only token of the folder, the path of a mount is the first literal, and the code of a mount has no
identifier but the two of the call and the variable. So no variable is mistaken for another one, as
long as only identifiers other than the words of the call are bound. -/

namespace ApiScan.Mount

open Text Source DocumentSchema

variable {folder : Word} {name rest s line path module : Text} {c : Char} {mounts : Mounts}

/-! ## The folder -/

theorem normalizeFolder_word (folder : Word) : normalizeFolder folder.text = folder.text := by
  have hother {c : Char} (hc : c ∈ folder.text) (d : Char) (hd : isWord d = false) : c ≠ d := by
    rintro rfl
    exact nomatch (folder.allWord c hc).symm.trans hd
  have hmap : folder.text.map (fun c => if c = '\\' then '/' else c) = folder.text :=
    (List.map_congr_left fun c hc => if_neg (hother hc '\\' (by decide))).trans (List.map_id _)
  have hdot : Path.dropDotSlash folder.text = folder.text := by
    unfold Path.dropDotSlash
    split
    · next he => exact absurd rfl (hother (he ▸ List.mem_cons_self) '.' (by decide))
    · rfl
  have hslash : ∀ c ∈ folder.text, decide (c = '/') = false := fun c hc =>
    decide_eq_false (hother hc '/' (by decide))
  rw [normalizeFolder, hmap, strip_of_allWord folder.allWord, hdot, dropWhile_of_forall hslash,
    dropEndWhile_of_forall hslash]

theorem lastSegment_word (folder : Word) : lastSegment folder.text = folder.text := by
  have hslash : ∀ c ∈ folder.text.reverse, decide (c ≠ '/') = true := by
    intro c hc
    rw [decide_eq_true_eq]
    rintro rfl
    exact absurd (folder.allWord '/' (List.mem_reverse.1 hc)) (by decide)
  rw [lastSegment, List.takeWhile_eq_self_iff.2 hslash, List.reverse_reverse]

/-- A folder of one segment has one token. -/
theorem folderToken_word : FolderToken folder.text line path ↔
    path = folder.text ++ ['/'] ∧ folder.text ++ ['/'] <:+: line := by
  rw [FolderToken, lastSegment_word]
  constructor
  · rintro ⟨hin, rfl | ⟨rfl, hn⟩⟩
    · exact ⟨rfl, hin⟩
    · exact absurd hin hn
  · rintro ⟨rfl, hin⟩
    exact ⟨hin, Or.inl rfl⟩

theorem not_mem_token (hword : isWord c = false) (hslash : c ≠ '/') : c ∉ folder.text ++ ['/'] := by
  simp only [List.mem_append, List.mem_singleton, not_or]
  refine ⟨fun hc => ?_, hslash⟩
  exact nomatch (folder.allWord c hc).symm.trans hword

/-- The module of a router file is named behind the token. -/
theorem moduleName_literal (file : RouterFile) (hs : ¬ folder.text ++ ['/'] <:+: s) (rest : Text) :
    moduleName (folder.text ++ ['/']) (s ++ (file.literal folder ++ rest)) = file.module := by
  have hdot : ¬ folder.text ++ ['/'] <:+: [] := by simp
  -- the token stands behind the slash of `./`, and not at it
  have hslash (t : Text) : cut? (folder.text ++ ['/']) ('/' :: (folder.text ++ ['/'] ++ t))
      = some (['/'], t) := by
    have hnone : after? (folder.text ++ ['/']) ('/' :: (folder.text ++ ['/'] ++ t)) = none := by
      obtain ⟨d, w, hfolder⟩ := List.exists_cons_of_ne_nil folder.ne_nil
      have hd : d ≠ '/' := by
        rintro rfl
        exact absurd (folder.allWord '/' (by rw [hfolder]; exact List.mem_cons_self)) (by decide)
      rw [hfolder]
      exact if_neg hd
    rw [cut?, hnone, cut?_append (by simp)]
    rfl
  have htext : s ++ (file.literal folder ++ rest) = s ++ '\'' :: ([] ++ '.' :: '/' ::
      (folder.text ++ ['/'] ++ (file.name ++ '\'' :: rest))) := by
    simp [RouterFile.literal, RouterFile.path]
  have hname : ∀ c ∈ file.name, isQuote c = false ∧ isBlank c = false := by
    intro c hc
    rcases file.char_of_mem_name hc with hword | hmark
    · exact ⟨isQuote_eq_false (Or.inl hword), isBlank_eq_false_of_isWord hword⟩
    · have hplain : ∀ d ∈ ['.', '-'], isQuote d = false ∧ isBlank d = false := by decide
      exact hplain c hmark
  rw [moduleName, htext, cut?_append_cons (not_mem_token (by decide) (by decide)) hs,
    cut?_append_cons (not_mem_token (by decide) (by decide)) hdot, hslash]
  simp only [Option.map_some]
  rw [(takeWhile_append_cons (fun c hc => by simp [(hname c hc).1]) rfl _).1,
    strip_of_forall fun c hc => (hname c hc).2, file.stripExtension_name]

theorem not_infix_of_not_mem_slash (hs : '/' ∉ s) : ¬ folder.text ++ ['/'] <:+: s :=
  fun h => hs (h.subset (by simp))

/-- The token does not stand in front of the code of a mount, nor in it. -/
theorem not_infix_mount (point : MountPoint folder) (hs : '/' ∉ s) :
    ¬ folder.text ++ ['/'] <:+: "app.use(".toList ++ (point.literal ++ s) := by
  have hquote : '\'' ∉ folder.text ++ ['/'] := not_mem_token (by decide) (by decide)
  have htext : "app.use(".toList ++ (point.literal ++ s)
      = "app.use(".toList ++ '\'' :: (point.path ++ '\'' :: s) := by
    simp [MountPoint.literal]
  rw [htext, infix_append_cons_iff hquote, infix_append_cons_iff hquote]
  rintro (h | h | h)
  · exact not_infix_of_not_mem_slash (by decide) h
  · exact point.outside h
  · exact not_infix_of_not_mem_slash hs h

/-- A statement that has the literal of a router file names its module. -/
theorem namesModule_literal (file : RouterFile) (hs : ¬ folder.text ++ ['/'] <:+: s) (rest : Text) :
    NamesModule folder.text (s ++ (file.literal folder ++ rest)) file.module := by
  have htoken : folder.text ++ ['/'] <:+: s ++ (file.literal folder ++ rest) :=
    ⟨s ++ ['\'', '.', '/'], file.name ++ '\'' :: rest, by simp [RouterFile.literal, RouterFile.path]⟩
  exact ⟨file.module_ne_nil, _, folderToken_word.2 ⟨rfl, htoken⟩, moduleName_literal file hs rest⟩

/-! ## Reading a command -/

theorem read_of_binds {folder : Text} (h : Binds folder name line module) :
    Statement.read folder line = .bind name module := by
  rcases read_of_not_useCall h.1 with ⟨name', module', h', hread⟩ | ⟨hno, -⟩
  · rw [hread, Option.some.inj (h'.2.1.symm.trans h.2.1), h'.2.2.unique h.2.2]
  · exact absurd h (hno name module)

theorem read_of_loadsInPlace {folder : Text} (hpath : MountPath line path)
    (hloads : LoadsInPlace folder line) (hmodule : NamesModule folder line module) :
    Statement.read folder line = .mountModule module path := by
  rcases read_of_useCall folder hpath.1 with
    ⟨path', module', hpath', -, hmodule', hread⟩ | ⟨-, -, hnot, -⟩ | ⟨hno, -⟩
  · rw [hread, hpath'.unique hpath, hmodule'.unique hmodule]
  · exact absurd hloads hnot
  · exact absurd ⟨hpath, Or.inl ⟨hloads, hmodule⟩⟩ (hno module [] path)

theorem read_of_mountPath {folder : Text} (hpath : MountPath line path)
    (hloads : ¬ LoadsInPlace folder line) :
    Statement.read folder line = .mountVariables (withoutLiterals line) path := by
  simp only [Statement.read, holds_iff, hpath.1, if_true,
    (find?_pathArgument?_eq_some_iff hpath.1).2 hpath]
  cases htoken : folderToken? folder line with
  | none => rfl
  | some token =>
      have hrequire : ¬ requireCall <:+: line := fun h =>
        hloads ⟨⟨token, folderToken?_eq_some_iff.1 htoken⟩, h⟩
      simp only [hrequire, if_false]

/-- An empty statement says nothing. -/
theorem read_nil (folder : Text) : Statement.read folder [] = .other := by
  have huse : ¬ useCall <:+: [] := by decide
  rcases read_of_not_useCall huse with ⟨name, module, hbinds, -⟩ | ⟨-, hread⟩
  · exact nomatch hbinds.2.1
  · exact hread

/-! ### The variable of a binding -/

/-- White space in front of an identifier is passed over. -/
theorem afterBlank?_name (hne : name ≠ []) (hname : ∀ c ∈ name, isNameChar c = true) (s : Text) :
    afterBlank? (' ' :: (name ++ s)) = some (name ++ s) := by
  obtain ⟨c, more, rfl⟩ := List.exists_cons_of_ne_nil hne
  have hstart : stripStart (' ' :: (c :: more ++ s)) = c :: more ++ s :=
    stripStart_cons (isBlank_eq_false_of_isNameChar (hname c List.mem_cons_self))
  rw [afterBlank?, hstart]
  rfl

/-- What stands between the keyword of an import and its variable. -/
def ImportMark (mark : Text) : Prop := mark = [] ∨ mark = "* as ".toList

theorem imported?_import {mark : Text} (hmark : ImportMark mark) (hne : name ≠ [])
    (hname : ∀ c ∈ name, isNameChar c = true) (s : Text) :
    imported? ("import ".toList ++ mark ++ name ++ " from ".toList ++ s) = some name := by
  have hafter (mark s : Text) : after? mark (mark ++ s) = some s := after?_eq_some_iff.2 rfl
  have hstart : stripStart ("import".toList ++ ' ' :: (mark ++ (name ++ ' ' :: ("from".toList ++ ' ' :: s))))
      = "import".toList ++ ' ' :: (mark ++ (name ++ ' ' :: ("from".toList ++ ' ' :: s))) := rfl
  obtain ⟨htake, hdrop⟩ := takeWhile_append_cons hname (by decide : isNameChar ' ' = false)
    ("from".toList ++ ' ' :: s)
  have hblank : isWord ' ' = false := by decide
  have hfrom : afterBlank? (' ' :: ("from".toList ++ ' ' :: s)) = some ("from".toList ++ ' ' :: s) := rfl
  have htext : "import ".toList ++ mark ++ name ++ " from ".toList ++ s
      = "import".toList ++ ' ' :: (mark ++ (name ++ ' ' :: ("from".toList ++ ' ' :: s))) := by
    simp
  rw [htext, imported?, hstart]
  rcases hmark with rfl | rfl
  · simp only [hafter, Option.bind_eq_bind, Option.bind_some, List.nil_append,
      afterBlank?_name hne hname]
    split
    · -- no identifier is a star
      next he =>
        obtain ⟨c, tail, rfl⟩ := List.exists_cons_of_ne_nil hne
        obtain ⟨rfl, -⟩ := List.cons.inj he
        exact absurd (hname '*' List.mem_cons_self) (by decide)
    · rw [htake, hdrop, hfrom]
      simp only [Option.bind_some, hafter]
      simp [hne, hblank]
  · have hstar (t : Text) : afterBlank? (' ' :: ("* as ".toList ++ t)) = some ('*' :: " as ".toList ++ t) :=
      rfl
    have has (t : Text) : afterBlank? (" as ".toList ++ t) = some ("as".toList ++ ' ' :: t) := rfl
    simp only [hafter, Option.bind_eq_bind, Option.bind_some, hstar, List.cons_append, has,
      afterBlank?_name hne hname, Option.getD_some, htake, hdrop, hfrom]
    simp [hne, hblank]

/-- The keywords of declarations. -/
def keywords : List Text := ["const", "let", "var"].map String.toList

theorem boundName?_require {keyword : Text} (hkeyword : keyword ∈ keywords) (hne : name ≠ [])
    (hname : ∀ c ∈ name, isNameChar c = true) (s : Text) :
    boundName? (keyword ++ ' ' :: name ++ " = require(".toList ++ s) = some name := by
  have htext : keyword ++ ' ' :: name ++ " = require(".toList ++ s
      = keyword ++ ' ' :: (name ++ ' ' :: ("= require(".toList ++ s)) := by
    simp
  have himport : imported? (keyword ++ ' ' :: (name ++ ' ' :: ("= require(".toList ++ s))) = none := by
    simp only [keywords, List.map_cons, List.map_nil, List.mem_cons, List.not_mem_nil, or_false]
      at hkeyword
    rcases hkeyword with rfl | rfl | rfl <;> rfl
  have hfind : (["const", "let", "var"].findSome? fun word =>
      after? word.toList (keyword ++ ' ' :: (name ++ ' ' :: ("= require(".toList ++ s))))
        = some (' ' :: (name ++ ' ' :: ("= require(".toList ++ s))) := by
    simp only [keywords, List.map_cons, List.map_nil, List.mem_cons, List.not_mem_nil, or_false]
      at hkeyword
    rcases hkeyword with rfl | rfl | rfl <;> rfl
  obtain ⟨htake, hdrop⟩ := takeWhile_append_cons hname
    (by decide : isNameChar ' ' = false) ("= require(".toList ++ s)
  have hdeclared : declared? none (keyword ++ ' ' :: (name ++ ' ' :: ("= require(".toList ++ s)))
      = some name := by
    rw [declared?]
    simp only [hfind, Option.bind_eq_bind, Option.bind_some, afterBlank?_name hne hname, htake, hdrop]
    simp [hne, stripStart, isBlank, after?]
  rw [htext, boundName?, himport]
  exact first?_of_found hdeclared

/-! ### The path and the variable of a mount -/

/-- Only a quote starts a path or a literal. -/
theorem recognised_of_not_quote (hc : isQuote c = false) (s : Text) :
    pathArgument? (c :: s) = none ∧ emptiedLiteral? (c :: s) = none := by
  refine ⟨?_, by simp [emptiedLiteral?, hc]⟩
  unfold pathArgument?
  split
  · next he =>
      obtain ⟨rfl, -⟩ := List.cons.inj he
      simp [hc]
  · rfl

/-- The path of a mount is its first literal. -/
theorem mountPath_literal {quote : Char} (huse : useCall <:+: s) (hs : ∀ c ∈ s, isQuote c = false)
    (hquote : isQuote quote = true) (hslash : path.head? = some '/')
    (hpath : ∀ c ∈ path, isQuote c = false) (rest : Text) :
    MountPath (s ++ quote :: (path ++ quote :: ',' :: rest)) path := by
  have huse' : useCall <:+: s ++ quote :: (path ++ quote :: ',' :: rest) :=
    huse.trans (List.prefix_append s _).isInfix
  have hstart : pathArgument? (quote :: (path ++ quote :: ',' :: rest)) = some path :=
    pathArgument?_eq_some_iff.2 ⟨quote, [], rest, hquote, hslash, hpath,
      fun c hc => absurd hc List.not_mem_nil, by simp⟩
  rw [← find?_pathArgument?_eq_some_iff huse',
    find?_append_of_forall fun c hc s => (recognised_of_not_quote (hs c hc) s).1]
  exact first?_of_found hstart

theorem emptiedLiteral?_consumes : Consumes emptiedLiteral? := by
  intro s new rest h
  unfold emptiedLiteral? at h
  split at h
  · next quote tail =>
      split at h
      · split at h
        · next close more hdrop =>
            split at h
            · obtain ⟨-, rfl⟩ := Prod.mk.inj (Option.some.inj h)
              have hlength := (List.dropWhile_suffix (fun c => decide (c ≠ quote) && decide (c ≠ '\n'))
                (l := tail)).length_le
              rw [hdrop] at hlength
              simp only [List.length_cons] at hlength ⊢
              omega
            · exact nomatch h
        · exact nomatch h
      · exact nomatch h
  · exact nomatch h

theorem emptiedLiteral?_literal {quote : Char} (hquote : isQuote quote = true)
    (hs : ∀ c ∈ s, c ≠ quote ∧ c ≠ '\n') (rest : Text) :
    emptiedLiteral? (quote :: (s ++ quote :: rest)) = some ([], rest) := by
  have hbody : ∀ c ∈ s, (decide (c ≠ quote) && decide (c ≠ '\n')) = true := by
    intro c hc
    simp [hs c hc]
  rw [emptiedLiteral?, if_pos hquote, (takeWhile_append_cons hbody (by simp) _).2]
  exact if_pos rfl

theorem withoutLiterals_of_forall (hs : ∀ c ∈ s, isQuote c = false) : withoutLiterals s = s := by
  have hall := replaceAll_append_of_forall (fun c hc s => (recognised_of_not_quote (hs c hc) s).2) []
  rwa [List.append_nil, replaceAll_nil, List.append_nil] at hall

/-- The code of a statement is its text without the literals. -/
theorem withoutLiterals_literal {quote : Char} {code : Text} (hcode : ∀ c ∈ code, isQuote c = false)
    (hquote : isQuote quote = true) (hs : ∀ c ∈ s, c ≠ quote ∧ c ≠ '\n') (rest : Text) :
    withoutLiterals (code ++ quote :: (s ++ quote :: rest)) = code ++ withoutLiterals rest := by
  have hliteral := emptiedLiteral?_literal hquote hs rest
  rw [withoutLiterals, replaceAll_append_of_forall fun c hc s => (recognised_of_not_quote (hcode c hc) s).2,
    replaceAll_of_found emptiedLiteral?_consumes hliteral]
  rfl

namespace MountPoint

variable (point : MountPoint folder)

theorem mountPath (s : Text) : MountPath ("app.use(".toList ++ (point.literal ++ ',' :: s)) point.path := by
  have huse : useCall <:+: "app.use(".toList := by decide
  have hpath := mountPath_literal huse (by decide) isQuote_single rfl
    (fun c hc => (point.char_of_mem_path hc).1) s
  simpa [literal] using hpath

/-- The code of a mount is its text without the path. -/
theorem withoutLiterals_mount (hs : ∀ c ∈ s, isQuote c = false) :
    withoutLiterals ("app.use(".toList ++ (point.literal ++ s)) = "app.use(".toList ++ s := by
  have hpath : ∀ c ∈ point.path, c ≠ '\'' ∧ c ≠ '\n' := by
    intro c hc
    obtain ⟨hquote, -, hend⟩ := point.char_of_mem_path hc
    constructor <;> rintro rfl
    · exact absurd hquote (by decide)
    · exact absurd hend (by decide)
  have hcode := withoutLiterals_literal (by decide : ∀ c ∈ "app.use(".toList, isQuote c = false)
    isQuote_single hpath s
  rw [withoutLiterals_of_forall hs] at hcode
  simpa [literal] using hcode

end MountPoint

/-- What occurs in a text occurs on one side of a character that is in no identifier. -/
theorem occurs_append_cons_iff (hname : ∀ c ∈ name, isNameChar c = true)
    (hs : ∀ c ∈ s, isNameChar c = true) (hc : isNameChar c = false) :
    Occurs name (s ++ c :: rest) ↔ name = s ∨ Occurs name rest := by
  have hlast (front : Text) : (s ++ c :: front).getLast?.any isNameChar = front.getLast?.any isNameChar := by
    cases front <;> simp [hc, List.getLast?_cons]
  constructor
  · rintro ⟨front, back, he, hfront, hback⟩
    rcases split_of_not_mem (not_mem_name hname hc) he with ⟨tail, hs', rfl⟩ | ⟨more, rfl, hrest⟩
    · -- the identifier is all of it: no identifier goes on at its ends
      have hfront' : front = [] := by
        rw [← List.getLast?_eq_none_iff, Option.eq_none_iff_forall_ne_some]
        intro d hd
        have hmem : d ∈ front := List.mem_of_getLast? hd
        rw [hd, Option.any_some, hs d (by simp [hs', hmem])] at hfront
        exact nomatch hfront
      have htail : tail = [] := by
        cases tail with
        | nil => rfl
        | cons d tail => exact nomatch (hs d (by simp [hs'])).symm.trans hback
      exact Or.inl (by rw [hs', hfront', htail, List.nil_append, List.append_nil])
    · exact Or.inr ⟨more, back, hrest, by rwa [hlast] at hfront, hback⟩
  · rintro (rfl | ⟨front, back, rfl, hfront, hback⟩)
    · exact ⟨[], c :: rest, rfl, rfl, by simpa using hc⟩
    · exact ⟨s ++ c :: front, back, by simp, by rwa [hlast], hback⟩

/-- The code of a mount has no identifier but the two of the call and the variable. -/
theorem occurs_mount_iff (hname : IsVariable name) (other : Variable) :
    Occurs name ("app.use(".toList ++ (", ".toList ++ other.text ++ [')'])) ↔ name = other.text := by
  obtain ⟨hne, hchars, happ, huse⟩ := hname
  have htext : "app.use(".toList ++ (", ".toList ++ other.text ++ [')'])
      = "app".toList ++ '.' :: ("use".toList ++ '(' :: ([] ++ ',' :: ([] ++ ' ' ::
          (other.text ++ ')' :: [])))) := by
    simp
  have hnil : ¬ Occurs name [] := by
    rintro ⟨front, back, he, -⟩
    simp [hne] at he
  rw [htext, occurs_append_cons_iff hchars (by decide) (by decide),
    occurs_append_cons_iff hchars (by decide) (by decide),
    occurs_append_cons_iff hchars (by decide) (by decide),
    occurs_append_cons_iff hchars (by decide) (by decide),
    occurs_append_cons_iff hchars other.isVariable.2.1 (by decide)]
  simp only [happ, huse, hne, hnil, false_or, or_false]

/-! ## Commands and statements -/

/-- Only variables are bound, and each of them once. -/
def Legal (mounts : Mounts) : Prop :=
  (Assoc.keys mounts.bindings).Nodup ∧ ∀ name ∈ Assoc.keys mounts.bindings, IsVariable name

theorem legal_start : Legal {} := ⟨List.nodup_nil, fun _ h => absurd h List.not_mem_nil⟩

theorem Legal.bind (h : Legal mounts) (name : Variable) (module : Text) :
    Legal { mounts with bindings := Assoc.put name.text module mounts.bindings } := by
  refine ⟨Assoc.nodup_keys_alter h.1, fun other hother => ?_⟩
  rcases Assoc.mem_keys_alter.1 hother with rfl | hold
  · exact name.isVariable
  · exact h.2 other hold

/-- A command binds variables only. -/
theorem Legal.act (h : Legal mounts) (command : Command folder) : Legal (command.act mounts) := by
  cases command with
  | require name file => exact h.bind name file.module
  | importFrom name file => exact h.bind name file.module
  | mount point name =>
      rw [Command.act]
      split <;> exact h
  | mountInPlace point file => exact h

theorem binds_require (name : Variable) (file : RouterFile) :
    Binds folder.text name.text (Command.require name file : Command folder).text file.module := by
  have hchars := name.isVariable.2.1
  have huse : ¬ useCall <:+: (Command.require name file : Command folder).text := by
    have htext : (Command.require name file : Command folder).text = "const".toList ++ ' ' ::
        (name.text ++ ' ' :: ("=".toList ++ ' ' :: ("require(".toList ++ '\'' ::
          (file.path folder ++ '\'' :: [')'])))) := by
      rw [Command.text_require]
      simp [RouterFile.literal]
    have hname : ¬ useCall <:+: name.text := fun h =>
      not_mem_name hchars (c := '.') (by decide) (h.subset (by decide))
    have hpath : ¬ useCall <:+: file.path folder := fun h =>
      file.not_mem_path (c := '(') (by decide) (by decide) (h.subset (by decide))
    rw [htext, infix_append_cons_iff (by decide), infix_append_cons_iff (by decide),
      infix_append_cons_iff (by decide), infix_append_cons_iff (by decide),
      infix_append_cons_iff (by decide)]
    simp only [hname, hpath, false_or]
    decide
  have hslash : '/' ∉ "const ".toList ++ name.text ++ " = require(".toList := by
    simp [not_mem_name hchars (c := '/') (by decide)]
  have hbound : boundName? (Command.require name file : Command folder).text = some name.text :=
    boundName?_require (by decide : "const".toList ∈ keywords) name.isVariable.1 hchars _
  exact ⟨huse, hbound,
    namesModule_literal file (not_infix_of_not_mem_slash hslash) [')']⟩

theorem binds_importFrom (name : Variable) (file : RouterFile) :
    Binds folder.text name.text (Command.importFrom name file : Command folder).text file.module := by
  have hchars := name.isVariable.2.1
  have hparen : '(' ∉ (Command.importFrom name file : Command folder).text := by
    have hliteral : '(' ∉ file.literal folder := file.not_mem_literal (by decide) (by decide)
    rw [Command.text_importFrom]
    simp [not_mem_name hchars (c := '(') (by decide), hliteral]
  have hbound : boundName? (Command.importFrom name file : Command folder).text = some name.text := by
    have himport := imported?_import (Or.inl rfl) name.isVariable.1 hchars (file.literal folder)
    rw [List.append_nil] at himport
    rw [boundName?, Command.text_importFrom, himport]
  have hslash : '/' ∉ "import ".toList ++ name.text ++ " from ".toList := by
    simp [not_mem_name hchars (c := '/') (by decide)]
  have hoccurs : ¬ folder.text ++ ['/'] <:+: "import ".toList ++ name.text ++ " from ".toList :=
    not_infix_of_not_mem_slash hslash
  have hmodule := namesModule_literal file hoccurs []
  rw [List.append_nil] at hmodule
  exact ⟨fun h => hparen (h.subset (by decide)), hbound, hmodule⟩

theorem step_variables (code path : Text) : mounts.step (.mountVariables code path)
    = { mounts with
        paths := (mounts.bindings.filter fun entry => references entry.1 code).foldl
          (fun paths entry => Assoc.put entry.2 path paths) mounts.paths } := rfl

/-- A mount of a variable mounts what the variable is bound to. -/
theorem step_mountVariables (h : Legal mounts) (point : MountPoint folder) (name : Variable) :
    mounts.step (.mountVariables (withoutLiterals (Command.mount point name).text) point.path)
      = (Command.mount point name).act mounts := by
  have hcode : withoutLiterals (Command.mount point name).text
      = "app.use(".toList ++ (", ".toList ++ name.text ++ [')']) := by
    have hmark : NoMark (", ".toList ++ name.text ++ [')']) :=
      noMark_append (noMark_append (by decide) (noMark_name name.isVariable.2.1)) (by decide)
    exact point.withoutLiterals_mount fun c hc => (hmark c hc).2
  have hfilter : mounts.bindings.filter (fun entry =>
      references entry.1 ("app.use(".toList ++ (", ".toList ++ name.text ++ [')'])))
        = ((Assoc.get? name.text mounts.bindings).map fun module => (name.text, module)).toList := by
    rw [← Assoc.filter_key_eq_get? h.1]
    refine List.filter_congr fun entry hentry => ?_
    have hvariable := h.2 entry.1 (List.mem_map_of_mem hentry)
    rw [Bool.eq_iff_iff, references_iff, occurs_mount_iff hvariable, beq_iff_eq]
  rw [hcode, step_variables, hfilter, Command.act]
  cases Assoc.get? name.text mounts.bindings <;> rfl

/-- **One command is read as what it means.** -/
theorem step_read_text (h : Legal mounts) (command : Command folder) :
    mounts.step (Statement.read folder.text command.text) = command.act mounts := by
  cases command with
  | require name file => rw [read_of_binds (binds_require name file)]; rfl
  | importFrom name file => rw [read_of_binds (binds_importFrom name file)]; rfl
  | mount point name =>
      have hslash : '/' ∉ ", ".toList ++ name.text ++ [')'] := by
        simp [not_mem_name name.isVariable.2.1 (c := '/') (by decide)]
      have hloads : ¬ LoadsInPlace folder.text (Command.mount point name).text := by
        rintro ⟨⟨token, htoken⟩, -⟩
        exact not_infix_mount point hslash (folderToken_word.1 htoken).2
      have hpath : MountPath (Command.mount point name).text point.path := point.mountPath _
      rw [read_of_mountPath hpath hloads, step_mountVariables h]
  | mountInPlace point file =>
      have hmodule : NamesModule folder.text (Command.mountInPlace point file).text file.module := by
        have hfound := namesModule_literal file
          (not_infix_mount point (s := ", require(".toList) (by decide)) "))".toList
        rw [Command.text_mountInPlace]
        simpa using hfound
      obtain ⟨token, htoken, -⟩ := hmodule.2
      have htext : (Command.mountInPlace point file).text = ("app.use(".toList ++ (point.literal
          ++ ", ".toList)) ++ requireCall ++ (file.literal folder ++ "))".toList) := by
        have hmark : ", require(".toList = ", ".toList ++ requireCall := rfl
        rw [Command.text_mountInPlace, hmark]
        simp only [List.append_assoc]
      have hrequire : requireCall <:+: (Command.mountInPlace point file).text := ⟨_, _, htext.symm⟩
      have hpath : MountPath (Command.mountInPlace point file).text point.path := point.mountPath _
      rw [read_of_loadsInPlace hpath ⟨⟨token, htoken⟩, hrequire⟩ hmodule]
      rfl

end ApiScan.Mount

/-! ## Main files that mount routers

A main file is a list of commands that semicolons and line breaks separate. Scanning its text gives the
mounts that its commands make one after another: reading one of them keeps that only variables are
bound, and does what it means. -/

namespace ApiScan.Mount

open Text Source DocumentSchema

variable {folder : Word} {rest s : Text} {c : Char} {mounts : Mounts}

/-- A main file: commands with semicolons and line breaks between them, in front and behind. -/
structure MainSource (folder : Word) where
  lead : Text
  commands : List (Command folder × Text)
  lead_ends : ∀ c ∈ lead, isEnd c = true
  ends : ∀ command ∈ commands, ∀ c ∈ command.2, isEnd c = true
  parted : ∀ command ∈ commands.dropLast, command.2 ≠ []

/-- The text of commands with what stands behind them. -/
def commandsText (commands : List (Command folder × Text)) : Text :=
  commands.flatMap fun command => command.1.text ++ command.2

/-- The text of a file. -/
def MainSource.text (source : MainSource folder) : Text := source.lead ++ commandsText source.commands

/-! ## Texts without comments -/

theorem kept_ends (hs : ∀ c ∈ s, isEnd c = true) : Kept s := by
  refine NoMark.kept fun c hc => ?_
  rcases isEnd_iff.1 (hs c hc) with rfl | rfl
  all_goals decide

theorem stripComments_mainSource (source : MainSource folder) :
    stripComments source.text = source.text := by
  have hcommands (commands : List (Command folder × Text))
      (hends : ∀ command ∈ commands, ∀ c ∈ command.2, isEnd c = true) : Kept (commandsText commands) := by
    induction commands with
    | nil => exact kept_nil
    | cons command more ih =>
        obtain ⟨hgap, hmore⟩ := List.forall_mem_cons.1 hends
        exact ((kept_text command.1).append (kept_ends hgap)).append (ih hmore)
  exact ((kept_ends source.lead_ends).append (hcommands _ source.ends)).stripComments_eq

/-! ## The run -/

/-- What reading a text without comments makes of the variables bound and the mounts made before. -/
def readFrom (folder : Word) (mounts : Mounts) (s : Text) : Mounts :=
  ((pieces isEnd s).map (Statement.read folder.text)).foldl Mounts.step mounts

theorem readFrom_append_end (hc : isEnd c = true) (s rest : Text) :
    readFrom folder mounts (s ++ c :: rest) = readFrom folder (readFrom folder mounts s) rest := by
  rw [readFrom, pieces_append_of_pos hc, List.map_append, List.foldl_append]
  rfl

theorem readFrom_of_forall (hs : ∀ c ∈ s, isEnd c = false) :
    readFrom folder mounts s = mounts.step (Statement.read folder.text s) := by
  rw [readFrom, pieces_of_forall hs]
  rfl

theorem readFrom_nil : readFrom folder mounts [] = mounts := by
  rw [readFrom_of_forall (by simp), read_nil]
  rfl

theorem readFrom_ends (hs : ∀ c ∈ s, isEnd c = true) (rest : Text) :
    readFrom folder mounts (s ++ rest) = readFrom folder mounts rest := by
  induction s with
  | nil => rfl
  | cons c s ih =>
      obtain ⟨hc, hs⟩ := List.forall_mem_cons.1 hs
      have hempty : readFrom folder mounts (c :: (s ++ rest))
          = readFrom folder (readFrom folder mounts []) (s ++ rest) :=
        readFrom_append_end hc [] (s ++ rest)
      rw [readFrom_nil] at hempty
      exact hempty.trans (ih hs)

/-- A command in front is done first, if something separates it from what follows. -/
theorem readFrom_command (h : Legal mounts) (command : Command folder) (hs : ∀ c ∈ s, isEnd c = true)
    (hparted : s ≠ [] ∨ rest = []) :
    readFrom folder mounts (command.text ++ (s ++ rest)) = readFrom folder (command.act mounts) rest := by
  have hcommand : readFrom folder mounts command.text = command.act mounts := by
    rw [readFrom_of_forall (isEnd_of_mem_text command), step_read_text h]
  cases s with
  | nil =>
      obtain rfl : rest = [] := hparted.resolve_left fun hne => hne rfl
      rw [List.append_nil, List.append_nil, hcommand, readFrom_nil]
  | cons c s =>
      obtain ⟨hc, hs⟩ := List.forall_mem_cons.1 hs
      rw [List.cons_append, readFrom_append_end hc, hcommand, readFrom_ends hs]

theorem readFrom_commandsText {commands : List (Command folder × Text)} (h : Legal mounts)
    (hends : ∀ command ∈ commands, ∀ c ∈ command.2, isEnd c = true)
    (hparted : ∀ command ∈ commands.dropLast, command.2 ≠ []) :
    readFrom folder mounts (commandsText commands)
      = (commands.map Prod.fst).foldl Command.act mounts := by
  induction commands generalizing mounts with
  | nil => exact readFrom_nil
  | cons command more ih =>
      obtain ⟨hgap, hmore⟩ := List.forall_mem_cons.1 hends
      have hlast : (command.2 ≠ [] ∨ commandsText more = [])
          ∧ ∀ command ∈ more.dropLast, command.2 ≠ [] := by
        cases more with
        | nil => exact ⟨Or.inr rfl, fun _ hmem => absurd hmem List.not_mem_nil⟩
        | cons next more =>
            rw [List.dropLast_cons_cons] at hparted
            obtain ⟨hfirst, hrest⟩ := List.forall_mem_cons.1 hparted
            exact ⟨Or.inl hfirst, hrest⟩
      rw [commandsText, List.flatMap_cons, ← commandsText, List.append_assoc,
        readFrom_command h command.1 hgap hlast.1, ih (h.act command.1) hmore hlast.2]
      rfl

/-- **A main file means what its commands do, one after another.** -/
theorem resolve_mainSource (source : MainSource folder) :
    resolve source.text folder.text = ((source.commands.map Prod.fst).foldl Command.act {}).paths := by
  have hread : readFrom folder {} source.text = (source.commands.map Prod.fst).foldl Command.act {} := by
    rw [MainSource.text, readFrom_ends source.lead_ends,
      readFrom_commandsText legal_start source.ends source.parted]
  rw [← hread, resolve, normalizeFolder_word]
  simp only [List.isEmpty_iff, folder.ne_nil, if_false, statements, stripComments_mainSource]
  rfl

/-- The last mount of a module counts, and a variable is not mistaken for one that its name starts with. -/
example : resolve ("const user = require('./routes/user');const users = require('./routes/users.js')\n"
    ++ "app.use('/people', users);app.use('/me', user)\napp.use('//a', require('./routes/users'))").toList
    "routes".toList = [("users".toList, "//a".toList), ("user".toList, "/me".toList)] := by
  decide +kernel

end ApiScan.Mount
