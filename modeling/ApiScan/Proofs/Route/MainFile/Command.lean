import ApiScan.Proofs.Model.Declaration
import ApiScan.Proofs.Source.Comment
import ApiScan.Proofs.Source.Extension
import ApiScan.Proofs.Text.Lines
import ApiScan.Route.Mount

set_option autoImplicit false

/-! # Commands of a main file

A main file binds variables to router modules and mounts modules at paths. What its commands mean is
said on the variables bound so far and the mounts made so far: a binding replaces an earlier one, a
mount of a variable mounts what the variable is bound to, and the last mount of a module counts. The
text of a command is one statement and holds no comment. -/

namespace ApiScan.Mount

open Text Source DocumentSchema

/-! ## Commands as they are written -/

/-- The characters that end a statement. -/
def isEnd (c : Char) : Bool := c = '\n' || c = ';'

/-- An identifier that no word of a mounting call is mistaken for. -/
def IsVariable (name : Text) : Prop :=
  name ≠ [] ∧ (∀ c ∈ name, isNameChar c = true) ∧ name ≠ "app".toList ∧ name ≠ "use".toList

/-- A variable of a main file. -/
structure Variable where
  text : Text
  isVariable : IsVariable text

/-- The file of a router module. -/
structure RouterFile where
  /-- The file name without its extension. -/
  module : Text
  module_ne_nil : module ≠ []
  plain : ∀ c ∈ module, isWord c = true ∨ c = '-'
  extension : Text
  known : extension = [] ∨ extension ∈ extensions

/-- An absolute path that routers are mounted at. -/
structure MountPoint (folder : Word) where
  /-- The path without its first slash. -/
  rest : Text
  plain : ∀ c ∈ rest, isQuote c = false ∧ c ≠ '\\' ∧ isEnd c = false
  outside : ¬ folder.text ++ ['/'] <:+: '/' :: rest

variable {folder : Word}

/-- The name of a router file. -/
def RouterFile.name (file : RouterFile) : Text := file.module ++ file.extension

/-- The path of a router file in its folder. -/
def RouterFile.path (folder : Word) (file : RouterFile) : Text :=
  '.' :: '/' :: (folder.text ++ '/' :: file.name)

/-- The literal that names a router file. -/
def RouterFile.literal (folder : Word) (file : RouterFile) : Text :=
  '\'' :: (file.path folder ++ ['\''])

/-- A path with its slash. -/
def MountPoint.path (point : MountPoint folder) : Text := '/' :: point.rest

/-- The literal that names a path. -/
def MountPoint.literal (point : MountPoint folder) : Text := '\'' :: (point.path ++ ['\''])

/-- A command of a main file. -/
inductive Command (folder : Word) where
  /-- Such as `const users = require('./routes/user')`. -/
  | require (name : Variable) (file : RouterFile)
  /-- Such as `import users from './routes/user'`. -/
  | importFrom (name : Variable) (file : RouterFile)
  /-- Such as `app.use('/users', users)`. -/
  | mount (point : MountPoint folder) (name : Variable)
  /-- Such as `app.use('/users', require('./routes/user'))`. -/
  | mountInPlace (point : MountPoint folder) (file : RouterFile)

namespace Command

/-- The text of a command. -/
def text : Command folder → Text
  | require name file =>
    "const ".toList ++ name.text ++ " = require(".toList ++ (file.literal folder ++ [')'])
  | importFrom name file => "import ".toList ++ name.text ++ " from ".toList ++ file.literal folder
  | mount point name => "app.use(".toList ++ (point.literal ++ (", ".toList ++ name.text ++ [')']))
  | mountInPlace point file =>
    "app.use(".toList ++ (point.literal ++ (", require(".toList ++ (file.literal folder ++ "))".toList)))

theorem text_require (name : Variable) (file : RouterFile) :
    (require name file : Command folder).text
      = "const ".toList ++ name.text ++ " = require(".toList ++ (file.literal folder ++ [')']) := rfl

theorem text_importFrom (name : Variable) (file : RouterFile) :
    (importFrom name file : Command folder).text
      = "import ".toList ++ name.text ++ " from ".toList ++ file.literal folder := rfl

theorem text_mount (point : MountPoint folder) (name : Variable) : (mount point name).text
    = "app.use(".toList ++ (point.literal ++ (", ".toList ++ name.text ++ [')'])) := rfl

theorem text_mountInPlace (point : MountPoint folder) (file : RouterFile) :
    (mountInPlace point file).text = "app.use(".toList
      ++ (point.literal ++ (", require(".toList ++ (file.literal folder ++ "))".toList))) := rfl

/-- What a command makes of the variables bound so far and the mounts made so far. -/
def act (mounts : Mounts) : Command folder → Mounts
  | require name file =>
    { mounts with bindings := Assoc.put name.text file.module mounts.bindings }
  | importFrom name file =>
    { mounts with bindings := Assoc.put name.text file.module mounts.bindings }
  | mount point name =>
    match Assoc.get? name.text mounts.bindings with
    | some module => { mounts with paths := Assoc.put module point.path mounts.paths }
    | none => mounts
  | mountInPlace point file =>
    { mounts with paths := Assoc.put file.module point.path mounts.paths }

end Command

variable {name : Text} {c : Char}

/-! ## Characters of commands -/

theorem isEnd_iff : isEnd c = true ↔ c = '\n' ∨ c = ';' := by
  simp [isEnd]

theorem isEnd_eq_false (hc : isWord c = true ∨ isQuote c = true) : isEnd c = false := by
  rw [Bool.eq_false_iff]
  intro hend
  rcases isEnd_iff.1 hend with rfl | rfl
  all_goals exact absurd hc (by decide)

/-! ## Router files -/

namespace RouterFile

theorem not_mem_module (file : RouterFile) (hc : isWord c = false) (hdash : c ≠ '-') :
    c ∉ file.module := by
  intro hm
  rcases file.plain c hm with hword | he
  · exact nomatch hword.symm.trans hc
  · exact hdash he

/-- An extension is a dot and a word. -/
theorem exists_extension_eq {extension : Text} (h : extension ∈ extensions) :
    ∃ w, extension = '.' :: w ∧ AllWord w := by
  simp only [extensions, List.mem_map, List.mem_cons, List.not_mem_nil, or_false] at h
  obtain ⟨ext, rfl | rfl | rfl | rfl | rfl | rfl | rfl | rfl | rfl, rfl⟩ := h
  all_goals exact ⟨_, rfl, by decide⟩

/-- The module of a file is its name without the extension. -/
theorem stripExtension_name (file : RouterFile) :
    stripExtension file.name = file.module := by
  have hdot : '.' ∉ file.module := file.not_mem_module (by decide) (by decide)
  rw [stripExtension_eq_iff, name]
  rcases file.known with hnone | hsome
  · rw [hnone, List.append_nil]
    refine .bare fun ext hext hend => ?_
    obtain ⟨w, rfl, -⟩ := exists_extension_eq hext
    exact absurd (hend.subset List.mem_cons_self) hdot
  · exact .extended hsome file.module_ne_nil

theorem char_of_mem_name (file : RouterFile) (hc : c ∈ file.name) :
    isWord c = true ∨ c ∈ ['.', '-'] := by
  rcases List.mem_append.1 hc with hmodule | hextension
  · rcases file.plain c hmodule with hword | rfl
    · exact Or.inl hword
    · exact Or.inr (by simp)
  · rcases file.known with hnone | hsome
    · rw [hnone] at hextension
      exact absurd hextension List.not_mem_nil
    · obtain ⟨w, he, hw⟩ := exists_extension_eq hsome
      rw [he] at hextension
      rcases List.mem_cons.1 hextension with rfl | hword
      · exact Or.inr (by simp)
      · exact Or.inl (hw c hword)

theorem char_of_mem_path (file : RouterFile) (hc : c ∈ file.path folder) :
    isWord c = true ∨ c ∈ ['.', '-', '/'] := by
  simp only [path, List.mem_cons, List.mem_append] at hc
  rcases hc with rfl | rfl | hfolder | rfl | hname
  · exact Or.inr (by simp)
  · exact Or.inr (by simp)
  · exact Or.inl (folder.allWord c hfolder)
  · exact Or.inr (by simp)
  · refine (file.char_of_mem_name hname).imp_right fun h => ?_
    exact List.mem_append_left ['/'] h

theorem not_mem_path (file : RouterFile) (hword : isWord c = false) (hmark : c ∉ ['.', '-', '/']) :
    c ∉ file.path folder :=
  fun hc => (file.char_of_mem_path hc).elim (fun h => nomatch h.symm.trans hword) hmark

theorem not_mem_literal (file : RouterFile) (hword : isWord c = false)
    (hmark : c ∉ ['\'', '.', '-', '/']) : c ∉ file.literal folder := by
  rw [List.mem_cons, not_or] at hmark
  simp [literal, hmark.1, file.not_mem_path hword hmark.2]

theorem kept_literal (file : RouterFile) : Kept (file.literal folder) := by
  refine Source.kept_literal rfl (literalBody_of_plain fun c hc => ?_)
  have hne {d : Char} (hd : d ∉ file.path folder) : c ≠ d := fun he => hd (he ▸ hc)
  exact ⟨hne (file.not_mem_path (by decide) (by decide)),
    hne (file.not_mem_path (by decide) (by decide)), hne (file.not_mem_path (by decide) (by decide))⟩

end RouterFile

/-! ## Commands are statements -/

theorem MountPoint.char_of_mem_path (point : MountPoint folder) (hc : c ∈ point.path) :
    isQuote c = false ∧ c ≠ '\\' ∧ isEnd c = false := by
  rcases List.mem_cons.1 hc with rfl | hc
  · decide
  · exact point.plain c hc

/-- Nothing in a command ends a statement. -/
theorem isEnd_of_mem_text (command : Command folder) : ∀ c ∈ command.text, isEnd c = false := by
  have hname (name : Variable) : ∀ c ∈ name.text, isEnd c = false := by
    intro c hc
    rcases isWord_or_eq_dollar (name.isVariable.2.1 c hc) with hword | rfl
    · exact isEnd_eq_false (Or.inl hword)
    · rfl
  have hfile (file : RouterFile) : ∀ c ∈ file.literal folder, isEnd c = false := by
    intro c hc
    rw [Bool.eq_false_iff]
    intro hend
    rcases isEnd_iff.1 hend with rfl | rfl
    all_goals exact file.not_mem_literal (by decide) (by decide) hc
  have hpoint (point : MountPoint folder) : ∀ c ∈ point.literal, isEnd c = false := by
    refine List.forall_mem_cons.2 ⟨rfl, List.forall_mem_append.2 ⟨fun c hc => ?_, by decide⟩⟩
    exact (point.char_of_mem_path hc).2.2
  cases command with
  | require name file =>
      rw [Command.text_require]
      simp only [List.forall_mem_append]
      exact ⟨⟨⟨by decide, hname name⟩, by decide⟩, hfile file, by decide⟩
  | importFrom name file =>
      rw [Command.text_importFrom]
      simp only [List.forall_mem_append]
      exact ⟨⟨⟨by decide, hname name⟩, by decide⟩, hfile file⟩
  | mount point name =>
      rw [Command.text_mount]
      simp only [List.forall_mem_append]
      exact ⟨by decide, hpoint point, ⟨by decide, hname name⟩, by decide⟩
  | mountInPlace point file =>
      rw [Command.text_mountInPlace]
      simp only [List.forall_mem_append]
      exact ⟨by decide, hpoint point, by decide, hfile file, by decide⟩

/-- A command holds no comment: its paths are literals, whatever marks of comments they hold. -/
theorem kept_text (command : Command folder) : Kept command.text := by
  have hname (name : Variable) : Kept name.text := (noMark_name name.isVariable.2.1).kept
  have hpoint (point : MountPoint folder) : Kept point.literal := by
    refine Source.kept_literal rfl (literalBody_of_plain fun c hc => ?_)
    obtain ⟨hquote, hslash, hend⟩ := point.char_of_mem_path hc
    refine ⟨?_, hslash, ?_⟩ <;> rintro rfl
    · exact absurd hquote (by decide)
    · exact absurd hend (by decide)
  have hplain {s : Text} (hs : NoMark s) : Kept s := hs.kept
  cases command with
  | require name file =>
      exact (((hplain (by decide)).append (hname name)).append (hplain (by decide))).append
        (file.kept_literal.append (hplain (by decide)))
  | importFrom name file =>
      exact (((hplain (by decide)).append (hname name)).append (hplain (by decide))).append
        file.kept_literal
  | mount point name =>
      exact (hplain (by decide)).append ((hpoint point).append
        (((hplain (by decide)).append (hname name)).append (hplain (by decide))))
  | mountInPlace point file =>
      exact (hplain (by decide)).append ((hpoint point).append
        ((hplain (by decide)).append (file.kept_literal.append (hplain (by decide)))))

end ApiScan.Mount
