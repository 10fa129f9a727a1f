import ApiScan.Proofs.Route.MainFile.Loading

set_option autoImplicit false

/-! # What one statement adds to a main file

A statement stands between two other parts of a main file: the statements in front of it have been done,
and those behind it go on from what it leaves. A statement may be left out exactly if it neither mounts
a module nor binds a variable to one. For one that loads a module this depends on what stands behind
the first token of the routes folder in its paths, and not on the folder that it loads the module from;
a mount of a file of the folder mounts another module if the folder stands in the mount path. -/

namespace ApiScan.Mount

open Text Source DocumentSchema

variable {folder : RoutesFolder} {mounts : Mounts}

/-! ## Around a statement -/

/-- What stands in front of a statement: nothing, or a closed text and the end of its last statement. -/
inductive Lead where
  | nothing
  | closed (source : ClosedSource) (last : Char) (ends : isEnd last = true)

/-- What stands behind a statement: nothing, or the end of the statement and any text. -/
inductive Trail where
  | nothing
  | more (first : Char) (ends : isEnd first = true) (rest : Text)

namespace Lead

/-- The text in front of a statement. -/
def text : Lead → Text
  | nothing => []
  | closed source last _ => source.text ++ [last]

/-- The statements in front of a statement. -/
def statements : Lead → List Text
  | nothing => []
  | closed source _ _ => Mount.statements source.text

end Lead

namespace Trail

/-- The text behind a statement. -/
def text : Trail → Text
  | nothing => []
  | more first _ rest => first :: rest

/-- The statements behind a statement. -/
def statements : Trail → List Text
  | nothing => []
  | more _ _ rest => Mount.statements rest

end Trail

/-- A statement as it stands between two ends: it holds no comment, and no end. -/
structure Line where
  text : Text
  kept : Kept text
  plain : ∀ c ∈ text, isEnd c = false

def PathLine.toLine (line : PathLine) : Line := ⟨line.text, line.kept_text, line.isEnd_of_mem_text⟩

/-- A statement is read as one, between those in front of it and those behind it. -/
theorem statements_around (lead : Lead) (trail : Trail) (line : Line) :
    statements (lead.text ++ (line.text ++ trail.text))
      = lead.statements ++ line.text :: trail.statements := by
  have htrail : statements (line.text ++ trail.text) = line.text :: trail.statements := by
    cases trail with
    | nothing =>
        rw [Trail.text, List.append_nil, statements_eq, line.kept.stripComments_eq,
          pieces_of_forall line.plain]
        rfl
    | more first ends rest =>
        rw [Trail.text, statements_eq, line.kept, stripComments_end ends,
          pieces_append_cons line.plain ends]
        rfl
  cases lead with
  | nothing => exact htrail
  | closed source last ends =>
      rw [Lead.text, List.append_assoc, List.singleton_append, statements_append source ends, htrail]
      rfl

/-- What reading some more statements makes of the variables bound and the mounts made before. -/
def Mounts.readOn (folder : RoutesFolder) (mounts : Mounts) (lines : List Text) : Mounts :=
  (lines.map (Statement.read folder.name)).foldl Mounts.step mounts

/-- **What follows a statement goes on from what the statement leaves.** -/
theorem resolve_around (folder : RoutesFolder) (lead : Lead) (trail : Trail) (line : Line) :
    resolve (lead.text ++ (line.text ++ trail.text)) folder.value
      = (((after folder.name lead.statements).step (Statement.read folder.name line.text)).readOn folder
          trail.statements).paths := by
  have hne : (normalizeFolder folder.value).isEmpty = false := by simpa using folder.ne_nil
  rw [resolve]
  simp only [hne, statements_around lead trail line, List.map_append, List.map_cons, Mounts.run,
    List.foldl_append, List.foldl_cons]
  rfl

/-- Without the statement, what follows goes on from what stands in front. -/
theorem resolve_without (folder : RoutesFolder) (lead : Lead) (trail : Trail) :
    resolve (lead.text ++ trail.text) folder.value
      = ((after folder.name lead.statements).readOn folder trail.statements).paths := by
  have hnone := resolve_around folder lead trail ⟨[], kept_nil, by simp⟩
  rwa [read_nil] at hnone

/-! ## Statements that may be left out -/

/-- A statement mounts a module that it loads, or binds a variable to one. -/
def Contributes (folder line : Text) : Prop :=
  (∃ path module, MountPath line path ∧ LoadsInPlace folder line ∧ NamesModule folder line module)
    ∨ ∃ name module, Binds folder name line module

/-- No variable that is bound by some statements occurs in the code of a mount. -/
def IsApart (folder : Text) (lines : List Text) (line : Text) : Prop :=
  useCall <:+: line → ∀ name module, BoundTo folder lines name module → ¬ Occurs name (withoutLiterals line)

/-- Whether a statement may be left out of every main file in which no variable is bound that the code of
    the statement mounts: neither the statement nor what follows it mounts anything else then. -/
def Line.IsSilent (folder : RoutesFolder) (line : Line) : Prop :=
  ∀ (lead : Lead) (trail : Trail), IsApart folder.name lead.statements line.text →
    resolve (lead.text ++ (line.text ++ trail.text)) folder.value
      = resolve (lead.text ++ trail.text) folder.value

/-- A mount of variables mounts none if none occurs in its code. -/
theorem step_variables_apart {lines : List Text} {line path : Text} (huse : useCall <:+: line)
    (hapart : IsApart folder.name lines line) :
    (after folder.name lines).step (.mountVariables (withoutLiterals line) path)
      = after folder.name lines := by
  have hnone : (after folder.name lines).bindings.filter
      (fun entry => references entry.1 (withoutLiterals line)) = [] := by
    rw [List.filter_eq_nil_iff]
    rintro ⟨name, module⟩ hmem
    rw [references_iff]
    exact hapart huse name module (get?_bindings_after.1
      ((Assoc.get?_eq_some_iff_mem nodup_keys_bindings_after).2 hmem))
  rw [step_variables, hnone]
  rfl

/-- A statement that contributes nothing leaves everything as it is. -/
theorem step_read_of_not_contributes {lines : List Text} {line : Text}
    (h : ¬ Contributes folder.name line) (hapart : IsApart folder.name lines line) :
    (after folder.name lines).step (Statement.read folder.name line) = after folder.name lines := by
  by_cases huse : useCall <:+: line
  · rcases read_of_useCall folder.name huse with
      ⟨path, module, hpath, hloads, hmodule, -⟩ | ⟨path, -, -, hread⟩ | ⟨-, hread⟩
    · exact absurd (Or.inl ⟨path, module, hpath, hloads, hmodule⟩) h
    · rw [hread, step_variables_apart huse hapart]
    · rw [hread]
      rfl
  · rcases read_of_not_useCall huse with ⟨name, module, hbinds, -⟩ | ⟨-, hread⟩
    · exact absurd (Or.inr ⟨name, module, hbinds⟩) h
    · rw [hread]
      rfl

/-- A mount of a variable. -/
def mountOf (name : Identifier) : PathLine :=
  ⟨[("app.use(".toList, ⟨'\'', "/x".toList, isQuote_single, by decide⟩)], ", ".toList ++ (name.text ++ [')']),
    List.forall_mem_singleton.2 (show IsCode "app.use(".toList by decide),
    isCode_append (by decide) (isCode_append (isCode_name name.chars) (by decide))⟩

theorem text_mountOf (name : Identifier) : (mountOf name).text
    = "app.use(".toList ++ '\'' :: ("/x".toList ++ '\'' :: (", ".toList ++ (name.text ++ [')']))) := by
  simp [mountOf, PathLine.text, QuotedPath.text]

/-- A mount of a variable is read as one. -/
theorem read_mountOf (folder : Text) (name : Identifier) : ∃ code, Occurs name.text code
    ∧ Statement.read folder (mountOf name).text = .mountVariables code "/x".toList := by
  have hlast : IsCode (", ".toList ++ (name.text ++ [')'])) := (mountOf name).isCode.2
  have hpath : MountPath (mountOf name).text "/x".toList := by
    rw [text_mountOf]
    exact mountPath_literal (by decide) (by decide) isQuote_single rfl (by decide) _
  have hloads : ¬ LoadsInPlace folder (mountOf name).text := by
    rintro ⟨-, hrequire⟩
    have hparen : '(' ∉ ", ".toList ++ (name.text ++ [')']) := by
      simp [not_mem_name name.chars (by decide : isNameChar '(' = false)]
    rw [text_mountOf, infix_append_cons_iff (by decide), infix_append_cons_iff (by decide)] at hrequire
    rcases hrequire with h | h | h
    · exact absurd h (by decide)
    · exact absurd h (by decide)
    · exact hparen (h.subset (by decide))
  refine ⟨_, ?_, read_of_mountPath hpath hloads⟩
  rw [text_mountOf, withoutLiterals_literal (by decide) isQuote_single (by decide),
    withoutLiterals_of_forall fun c hc => (hlast c hc).1]
  exact ⟨"app.use(, ".toList, [')'], by simp, by decide, by decide⟩

/-- A statement that binds a variable may not be left out, since the variable may be mounted next. -/
theorem not_isSilent_of_binds {line : Line} {name module : Text}
    (hbinds : Binds folder.name name line.text module) : ¬ line.IsSilent folder := by
  intro hsilent
  obtain ⟨identifier, rfl⟩ := exists_identifier_of_boundName? hbinds.2.1
  obtain ⟨code, hoccurs, hread⟩ := read_mountOf folder.name identifier
  have hmount : (Trail.more '\n' rfl (mountOf identifier).text).statements
      = [(mountOf identifier).text] := by
    show Mount.statements (mountOf identifier).text = _
    rw [statements_eq, (mountOf identifier).kept_text.stripComments_eq,
      pieces_of_forall (mountOf identifier).isEnd_of_mem_text]
  have hafter (mounts : Mounts) : mounts.readOn folder [(mountOf identifier).text]
      = mounts.step (.mountVariables code "/x".toList) := by
    rw [← hread]
    rfl
  have hsame := hsilent .nothing (.more '\n' rfl (mountOf identifier).text)
    fun huse => absurd huse hbinds.1
  rw [resolve_around, read_of_binds hbinds, resolve_without, hmount, hafter, hafter, step_variables,
    step_variables] at hsame
  have hbindings : ((after folder.name Lead.nothing.statements).step
      (.bind identifier.text module)).bindings = [(identifier.text, module)] := rfl
  have hmounted : [(identifier.text, module)].filter (fun entry => references entry.1 code)
      = [(identifier.text, module)] := List.filter_cons_of_pos (references_iff.2 hoccurs)
  rw [hbindings, hmounted] at hsame
  exact List.cons_ne_nil _ _ hsame

/-- **A statement may be left out** exactly if it neither mounts a module nor binds a variable to one. -/
theorem isSilent_iff_not_contributes {line : Line} :
    line.IsSilent folder ↔ ¬ Contributes folder.name line.text := by
  constructor
  · rintro hsilent (⟨path, module, hpath, hloads, hmodule⟩ | ⟨name, module, hbinds⟩)
    · -- the module is mounted in a main file of this one statement
      have hsame := hsilent .nothing .nothing fun _ name module hbound => absurd hbound not_toldLast_nil
      rw [resolve_around, read_of_loadsInPlace hpath hloads hmodule, resolve_without] at hsame
      exact List.cons_ne_nil _ _ hsame
    · exact not_isSilent_of_binds hbinds hsilent
  · intro h lead trail hapart
    rw [resolve_around, step_read_of_not_contributes h hapart, resolve_without]

namespace Loading

/-- Whether a binding is taken for a mount, because its path holds the call. -/
def TakenForMount : Loading → Prop
  | bind _ path => useCall <:+: path.path
  | mount _ _ _ => False

/-- **A statement that loads a module contributes** if a name stands behind the token of the folder in its
    paths. -/
theorem contributes_iff (folder : RoutesFolder) (loading : Loading) :
    Contributes folder.name loading.text ↔ ¬ loading.TakenForMount
      ∧ ∃ rest, behindToken? folder.name loading.paths = some rest ∧ ¬ AllBlank rest := by
  cases loading with
  | bind binder quoted =>
      have hmount : ¬ ∃ path module, MountPath (bind binder quoted).text path
          ∧ LoadsInPlace folder.name (bind binder quoted).text
          ∧ NamesModule folder.name (bind binder quoted).text module := by
        rintro ⟨path, -, hpath, -⟩
        exact not_mountPath_bind path hpath
      rw [Contributes, or_iff_right hmount, exists_binds_bind]
      rfl
  | mount receiver point quoted =>
      have hpath := mountPath_mount receiver point quoted
      have hbind : ¬ ∃ name module, Binds folder.name name (mount receiver point quoted).text module := by
        rintro ⟨-, -, huse, -⟩
        exact huse hpath.1
      rw [Contributes, or_iff_left hbind, TakenForMount, not_false_eq_true, true_and]
      constructor
      · rintro ⟨-, module, -, -, hmodule⟩
        obtain ⟨rest, hrest, hblank, -⟩ := (PathLine.namesModule_text folder _).1 hmodule
        exact ⟨rest, hrest, hblank⟩
      · rintro ⟨rest, hrest, hblank⟩
        exact ⟨point.path, _, hpath, loadsInPlace_mount.2 (Option.isSome_iff_exists.2 ⟨rest, hrest⟩),
          (PathLine.namesModule_text folder _).2 ⟨rest, hrest, hblank, rfl⟩⟩

end Loading

/-- **Which statements may be left out of a main file**: all that neither mount a module nor bind a variable
    to one. A statement that loads a module is one of them exactly if no name stands behind the token of
    the folder in its paths, and no token stands there exactly if no segment but the last of its paths
    ends with the last segment of the folder. So a segment that is longer than the folder counts, and so
    does one of the mount path. -/
theorem isSilent_iff (folder : RoutesFolder) :
    (∀ line : Line, line.IsSilent folder ↔ ¬ Contributes folder.name line.text)
    ∧ (∀ loading : Loading, loading.line.toLine.IsSilent folder ↔ loading.TakenForMount
        ∨ ∀ rest, behindToken? folder.name loading.paths = some rest → AllBlank rest)
    ∧ ∀ paths : List Text, behindToken? folder.name paths = none
        ↔ ∀ path ∈ paths, ∀ segment ∈ (pieces (· = '/') path).dropLast,
          ¬ lastSegment folder.name <:+ segment := by
  refine ⟨fun line => isSilent_iff_not_contributes, fun loading => ?_,
    behindToken?_eq_none_iff folder.name⟩
  rw [isSilent_iff_not_contributes]
  refine (not_congr (loading.contributes_iff folder)).trans ?_
  push Not
  exact or_iff_not_imp_left.symm

/-- The folder `old-routes` passes for the folder `routes`. -/
example : resolve "app.use('/x', require('./old-routes/user'));".toList "/routes".toList
    = [("user".toList, "/x".toList)] := by decide +kernel

/-! ## Mounts of files of the folder -/

/-- The path of a file of the folder, as a main file next to the folder writes it. -/
def RoutesFolder.path (folder : RoutesFolder) (module : Text) : Text :=
  '.' :: '/' :: (folder.name ++ '/' :: module)

/-- A file of the folder. -/
def RoutesFolder.file (folder : RoutesFolder) (module : QuotedPath) : QuotedPath where
  quote := module.quote
  path := folder.path module.path
  isQuote := module.isQuote
  plain := by
    have hname : ∀ c ∈ folder.name, Source.isQuote c = false ∧ c ≠ '\\' ∧ isEnd c = false := fun c hc =>
      ⟨(folder.plain c hc).1, ne_of_mem_normalizeFolder hc, (folder.plain c hc).2⟩
    have hslash : Source.isQuote '/' = false ∧ '/' ≠ '\\' ∧ isEnd '/' = false := by decide
    exact List.forall_mem_cons.2 ⟨by decide, List.forall_mem_cons.2 ⟨hslash,
      List.forall_mem_append.2 ⟨hname, List.forall_mem_cons.2 ⟨hslash, module.plain⟩⟩⟩⟩

/-- What a mount of a file of the folder takes for a file: what stands behind the folder in the mount path if
    the folder stands there, and otherwise the file, with a dot in front if the folder is made of dots. -/
def RoutesFolder.taken (folder : RoutesFolder) (point module : Text) : Text :=
  match cut? (folder.name ++ ['/']) point with
  | some (_, rest) => rest
  | none =>
    if folder.name ++ ['/'] <+: '.' :: '/' :: (folder.name ++ ['/']) then '.' :: '/' :: module else module

/-- The module that a mount of a file of the folder names. -/
def RoutesFolder.mounted (folder : RoutesFolder) (point module : Text) : Text :=
  stripExtension (strip (folder.taken point module))

/-- A text of segments that repeats itself two characters on is made of dots. -/
theorem dots_append : (s : Text) → s = [] ∨ s.getLast? = some '/' → s <+: '.' :: '/' :: s →
    '.' :: '/' :: s = s ++ ['.', '/']
  | [], _, _ => rfl
  | [c], hlast, hprefix => by
      obtain ⟨rfl, -⟩ := List.cons_prefix_cons.1 hprefix
      exact absurd hlast (by decide)
  | c :: d :: s, hlast, hprefix => by
      obtain ⟨rfl, hprefix⟩ := List.cons_prefix_cons.1 hprefix
      obtain ⟨rfl, hprefix⟩ := List.cons_prefix_cons.1 hprefix
      have hrest : s = [] ∨ s.getLast? = some '/' := by
        cases s with
        | nil => exact Or.inl rfl
        | cons e s => simpa using hlast
      exact congrArg (fun rest => '.' :: '/' :: rest) (dots_append s hrest hprefix)

/-- What stands behind the folder in the path of one of its files. -/
theorem cut?_path (folder : RoutesFolder) (module : Text) :
    (cut? (folder.name ++ ['/']) (folder.path module)).map Prod.snd
      = some (if folder.name ++ ['/'] <+: '.' :: '/' :: (folder.name ++ ['/'])
          then '.' :: '/' :: module else module) := by
  have hne : folder.name ++ ['/'] ≠ [] := by simp
  have hpath : folder.path module = '.' :: '/' :: (folder.name ++ ['/'] ++ module) := by
    simp [RoutesFolder.path]
  rw [hpath]
  split
  · next hdots =>
      have hturn : '.' :: '/' :: (folder.name ++ ['/']) = folder.name ++ ['/'] ++ ['.', '/'] :=
        dots_append _ (Or.inr (by simp)) hdots
      have hshift : '.' :: '/' :: (folder.name ++ ['/'] ++ module)
          = folder.name ++ ['/'] ++ '.' :: '/' :: module := by
        rw [← List.cons_append, ← List.cons_append, hturn, List.append_assoc]
        rfl
      rw [hshift, cut?_append hne]
      rfl
  · next hdots =>
      -- the token ends in front of the module, and so it is not the module that completes it
      have hfirst : ¬ folder.name ++ ['/'] <+: '.' :: '/' :: (folder.name ++ ['/'] ++ module) := by
        intro hprefix
        refine hdots (List.prefix_of_prefix_length_le hprefix ?_ (by simp))
        exact List.prefix_append ('.' :: '/' :: (folder.name ++ ['/'])) module
      have hsecond : ¬ folder.name ++ ['/'] <+: '/' :: (folder.name ++ ['/'] ++ module) := by
        intro hprefix
        have hhead := head?_normalizeFolder folder.value
        rw [← RoutesFolder.name] at hhead
        cases hname : folder.name with
        | nil => exact folder.ne_nil hname
        | cons c name =>
            rw [hname] at hprefix hhead
            obtain ⟨rfl, -⟩ := List.cons_prefix_cons.1 hprefix
            exact hhead rfl
      rw [cut?_cons_of_not_isPrefix hfirst, cut?_cons_of_not_isPrefix hsecond, cut?_append hne]
      rfl

/-- What stands behind the first token of a mount of a file of the folder. -/
theorem behindToken?_file (folder : RoutesFolder) (point module : Text) :
    behindToken? folder.name [point, folder.path module] = some (folder.taken point module) := by
  have hfile : folder.name ++ ['/'] <:+: folder.path module := by
    rw [← cut?_isSome_iff, ← Option.isSome_map (f := Prod.snd), cut?_path]
    rfl
  have htoken : tokenOf folder.name [point, folder.path module] = folder.name ++ ['/'] :=
    if_pos ⟨folder.path module, by simp, hfile⟩
  rw [behindToken?, htoken, List.findSome?_cons, RoutesFolder.taken]
  cases cut? (folder.name ++ ['/']) point with
  | none =>
      rw [Option.map_none, List.findSome?_cons, cut?_path]
  | some found => rfl

/-- What a mount of a module makes of the mounts made before: nothing if the module has no name. -/
def Mounts.mount (mounts : Mounts) (module path : Text) : Mounts :=
  if module = [] then mounts else mounts.step (.mountModule module path)

theorem step_read_mount_file (folder : RoutesFolder) (receiver : Identifier) (point : AbsolutePath)
    (module : QuotedPath) : mounts.step
      (Statement.read folder.name (Loading.mount receiver point (folder.file module)).text)
        = mounts.mount (folder.mounted point.path module.path) point.path := by
  have hrest : behindToken? folder.name [point.path, (folder.file module).path]
      = some (folder.taken point.path module.path) := behindToken?_file folder point.path module.path
  have hname : folder.mounted point.path module.path = [] ↔ AllBlank (folder.taken point.path module.path) :=
    stripExtension_strip_eq_nil_iff _
  by_cases hblank : AllBlank (folder.taken point.path module.path)
  · rw [Loading.read_mount_blank hrest hblank, hname.2 hblank]
    rfl
  · rw [Loading.read_mount hrest hblank, Mounts.mount, if_neg (mt hname.1 hblank)]
    rfl

/-- **A mount of a file of the folder** mounts what stands behind the folder in the mount path, if the
    folder stands there, and only otherwise the file. -/
theorem resolve_mount_file (folder : RoutesFolder) (receiver : Identifier) (point : AbsolutePath)
    (module : QuotedPath) :
    (∀ (lead : Lead) (trail : Trail),
      resolve (lead.text ++ ((Loading.mount receiver point (folder.file module)).text ++ trail.text))
        folder.value
          = (((after folder.name lead.statements).mount (folder.mounted point.path module.path)
              point.path).readOn folder trail.statements).paths)
    ∧ (resolve (Loading.mount receiver point (folder.file module)).text folder.value
        = [(stripExtension module.path, point.path)]
      ↔ module.path ≠ [] ∧ folder.mounted point.path module.path = stripExtension module.path) := by
  have haround (lead : Lead) (trail : Trail) :
      resolve (lead.text ++ ((Loading.mount receiver point (folder.file module)).text ++ trail.text))
        folder.value
          = (((after folder.name lead.statements).mount (folder.mounted point.path module.path)
              point.path).readOn folder trail.statements).paths := by
    rw [← step_read_mount_file]
    exact resolve_around folder lead trail (Loading.mount receiver point (folder.file module)).line.toLine
  refine ⟨haround, ?_⟩
  have halone : resolve (Loading.mount receiver point (folder.file module)).text folder.value
      = (({} : Mounts).mount (folder.mounted point.path module.path) point.path).paths := by
    have hnone := haround .nothing .nothing
    rw [Trail.text, List.append_nil] at hnone
    exact hnone
  rw [halone, Mounts.mount]
  split
  · next hempty =>
      -- a statement that names nothing mounts nothing, and no module that is there has an empty name
      rw [hempty]
      refine iff_of_false (List.cons_ne_nil _ _).symm ?_
      rintro ⟨hmodule, hname⟩
      exact stripExtension_ne_nil hmodule hname.symm
  · next hname =>
      have hput : (({} : Mounts).step (.mountModule (folder.mounted point.path module.path) point.path)).paths
            = [(folder.mounted point.path module.path, point.path)] := rfl
      rw [hput]
      simp only [List.cons.injEq, Prod.mk.injEq, and_true]
      refine (and_iff_right_of_imp fun hsame hmodule => hname ?_).symm
      rw [hsame, hmodule]
      rfl

/-- The folder stands in the mount path, and so the file is not what is mounted. -/
example : resolve "app.use('/api/v1/people', require('./api/people'));".toList "api".toList
    = [("v1/people".toList, "/api/v1/people".toList)] := by decide +kernel

end ApiScan.Mount
