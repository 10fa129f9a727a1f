import ApiScan.OpenApi.Document
import ApiScan.Proofs.Route.Mounted
import ApiScan.Proofs.Text.Words
import Mathlib.Data.List.Forall2

set_option autoImplicit false

/-! # Parameters of served paths

In a router a parameter is a colon right before a name character; in a document it stands in braces.
Router files are rewritten entry by entry, so no entry of a group names a parameter in the form of a
router. A mount path is taken over as it is written: the path of a document is the mount path joined
with that of an entry, and it names a parameter in the form of a router exactly when the mount path
does. -/

/-! ## Which router files give groups

A router file gives a group exactly if its module is mounted and its text is supplied. The groups
stand in the order of the files, one for each. -/

namespace ApiScan.Router

/-- The group that a router file gives under a mount path. -/
def Gives (mainText routesFolder : Text) (lookup : Text → Option Text) (file : Text)
    (group : RouteGroup) : Prop :=
  ∃ path text,
    Mount.MountedAt (Mount.normalizeFolder routesFolder) (Mount.statements mainText)
      (Source.stripExtension file) path ∧
    lookup file = some text ∧
    group = ⟨Text.upper (Source.stripExtension file), Source.stripExtension file, path,
      entries text⟩

/-! ## Groups of mounted modules -/

theorem resolve_eq_after {mainText routesFolder : Text}
    (h : Mount.normalizeFolder routesFolder ≠ []) :
    Mount.resolve mainText routesFolder
      = (Mount.after (Mount.normalizeFolder routesFolder) (Mount.statements mainText)).paths := by
  unfold Mount.resolve
  simp only [List.isEmpty_iff]
  rw [if_neg h]
  rfl

/-- A folder value that means nothing mounts nothing. -/
theorem resolve_eq_nil {mainText routesFolder : Text}
    (h : Mount.normalizeFolder routesFolder = []) : Mount.resolve mainText routesFolder = [] := by
  unfold Mount.resolve
  simp only [h, List.isEmpty_nil, if_true]

theorem get?_resolve {mainText routesFolder module path : Text}
    (h : Mount.normalizeFolder routesFolder ≠ []) :
    Assoc.get? module (Mount.resolve mainText routesFolder) = some path ↔
      Mount.MountedAt (Mount.normalizeFolder routesFolder) (Mount.statements mainText) module
        path := by
  rw [resolve_eq_after h, Mount.get?_paths_after]

/-- A file gives one group or none. -/
theorem found_groupOf {routesFolder : Text} (mainText : Text) (lookup : Text → Option Text)
    (h : Mount.normalizeFolder routesFolder ≠ []) (file : Text) :
    (∃ group, Gives mainText routesFolder lookup file group ∧
        (groupOf (Mount.resolve mainText routesFolder) lookup file).found = [group]) ∨
      (∀ group, ¬ Gives mainText routesFolder lookup file group) ∧
        (groupOf (Mount.resolve mainText routesFolder) lookup file).found = [] := by
  cases hpath : Assoc.get? (Source.stripExtension file)
      (Mount.resolve mainText routesFolder) with
  | none =>
      refine Or.inr ⟨?_, by simp only [groupOf, hpath, Findings.skipped]⟩
      rintro group ⟨path, text, hmounted, -, -⟩
      rw [(get?_resolve h).2 hmounted] at hpath
      exact Option.some_ne_none path hpath
  | some path =>
      cases htext : lookup file with
      | none =>
          refine Or.inr ⟨?_, by simp only [groupOf, hpath, htext, Findings.skipped]⟩
          rintro group ⟨-, text, -, hlookup, -⟩
          rw [htext] at hlookup
          exact Option.some_ne_none text hlookup.symm
      | some text =>
          refine Or.inl ⟨_, ⟨path, text, (get?_resolve h).1 hpath, htext, rfl⟩, ?_⟩
          simp only [groupOf, hpath, htext]

open Classical in
/-- The files that give a group, paired with the groups, in order. -/
theorem forall₂_groups {mainText routesFolder : Text} {lookup : Text → Option Text}
    (h : Mount.normalizeFolder routesFolder ≠ []) (files : List Text) :
    List.Forall₂ (Gives mainText routesFolder lookup)
      (files.filter fun file => ∃ group, Gives mainText routesFolder lookup file group)
      (extract mainText routesFolder files lookup).found := by
  show List.Forall₂ _ _ (List.flatMap Findings.found (List.map _ files))
  induction files with
  | nil => exact List.Forall₂.nil
  | cons file files ih =>
      rw [List.map_cons, List.flatMap_cons]
      rcases found_groupOf mainText lookup h file with
        ⟨group, hgives, hfound⟩ | ⟨hnone, hfound⟩
      · have hkeep : ∃ group, Gives mainText routesFolder lookup file group := ⟨group, hgives⟩
        rw [hfound, List.filter_cons_of_pos (by simpa using hkeep)]
        exact List.Forall₂.cons hgives ih
      · rw [hfound, List.filter_cons_of_neg (by simpa using hnone)]
        exact ih

open Classical in
/-- **Mounts and groups.** The path of a module is that of the last statement that mounts it, and
    the groups are those of the listed files that are mounted and supplied, one for each and in
    their order. -/
theorem mounted_last_and_one_group_each (mainText routesFolder : Text) (files : List Text)
    (lookup : Text → Option Text) (h : Mount.normalizeFolder routesFolder ≠ []) :
    (∀ module path,
      Assoc.get? module (Mount.resolve mainText routesFolder) = some path ↔
        Mount.MountedAt (Mount.normalizeFolder routesFolder) (Mount.statements mainText) module
          path) ∧
    List.Forall₂ (Gives mainText routesFolder lookup)
      (files.filter fun file => ∃ group, Gives mainText routesFolder lookup file group)
      (extract mainText routesFolder files lookup).found :=
  ⟨fun _ _ => get?_resolve h, forall₂_groups h files⟩

/-- A variable that is bound and mounted leads the file of its module to the mount path. -/
theorem mounted_user_at_users :
    Mount.normalizeFolder "routes".toList ≠ [] ∧
    Mount.MountedAt (Mount.normalizeFolder "routes".toList)
      (Mount.statements "const u = require('./routes/user');\napp.use('/users', u)".toList)
      "user".toList "/users".toList := by
  have hfolder : Mount.normalizeFolder "routes".toList ≠ [] := by decide
  refine ⟨hfolder, ?_⟩
  have hresolve := (mounted_last_and_one_group_each
    "const u = require('./routes/user');\napp.use('/users', u)".toList "routes".toList []
    (fun _ => none) hfolder).1 "user".toList "/users".toList
  exact hresolve.1 (by decide +kernel)

end ApiScan.Router

namespace ApiScan.Router

/-! ## Naming a parameter -/

/-- Whether a path names a parameter in the form of a router. -/
def NamesParameter (path : Text) : Prop := ∃ c, Text.isNameChar c = true ∧ [':', c] <:+: path

theorem not_namesParameter_nil : ¬ NamesParameter [] := by
  rintro ⟨c, -, h⟩
  exact absurd (List.infix_nil.1 h) (by simp)

theorem namesParameter_cons {c : Char} {s : Text} :
    NamesParameter (c :: s) ↔
      (c = ':' ∧ ∃ d, Text.isNameChar d = true ∧ s.head? = some d) ∨ NamesParameter s := by
  constructor
  · rintro ⟨d, hd, h⟩
    rcases List.infix_cons_iff.1 h with h | h
    · obtain ⟨rest, he⟩ := h
      obtain ⟨rfl, rfl⟩ := List.cons.inj he
      exact Or.inl ⟨rfl, d, hd, rfl⟩
    · exact Or.inr ⟨d, hd, h⟩
  · rintro (⟨rfl, d, hd, h⟩ | ⟨d, hd, h⟩)
    · obtain ⟨rest, rfl⟩ := List.head?_eq_some_iff.1 h
      exact ⟨d, hd, ⟨[], rest, rfl⟩⟩
    · exact ⟨d, hd, h.trans (List.infix_cons (List.infix_refl s))⟩

theorem NamesParameter.colon_mem {s : Text} (h : NamesParameter s) : ':' ∈ s := by
  obtain ⟨c, -, hs⟩ := h
  exact hs.subset List.mem_cons_self

theorem NamesParameter.of_infix {s t : Text} (h : NamesParameter s) (hst : s <:+: t) :
    NamesParameter t := by
  obtain ⟨c, hc, hs⟩ := h
  exact ⟨c, hc, hs.trans hst⟩

/-- No parameter reaches over a place that is not between a colon and a name character. -/
theorem namesParameter_append {front rest : Text}
    (h : front.getLast? = some ':' → ∀ c, rest.head? = some c → Text.isNameChar c = false) :
    NamesParameter (front ++ rest) ↔ NamesParameter front ∨ NamesParameter rest := by
  induction front with
  | nil => simp [not_namesParameter_nil]
  | cons c front ih =>
      rw [List.cons_append, namesParameter_cons, namesParameter_cons]
      cases front with
      | nil =>
          have hno : ¬ (c = ':' ∧ ∃ d, Text.isNameChar d = true ∧ rest.head? = some d) := by
            rintro ⟨rfl, d, hd, hr⟩
            rw [h rfl d hr] at hd
            exact Bool.noConfusion hd
          simp [hno, not_namesParameter_nil]
      | cons e front =>
          have hlast : (e :: front).getLast? = some ':' →
              ∀ c, rest.head? = some c → Text.isNameChar c = false := by
            intro hl
            exact h (by rw [List.getLast?_cons_cons]; exact hl)
          rw [ih hlast, or_assoc]
          rfl

/-! ## The form of a document -/

/-- What `parameter?` recognises: a colon and the longest run of name characters behind it, which is
    not empty. -/
theorem parameter?_eq_some_iff {c : Char} {cs new rest : Text} :
    parameter? (c :: cs) = some (new, rest) ↔
      c = ':' ∧ cs.takeWhile Text.isNameChar ≠ [] ∧
        new = '{' :: cs.takeWhile Text.isNameChar ++ ['}'] ∧
        rest = cs.dropWhile Text.isNameChar := by
  by_cases hc : c = ':'
  · subst hc
    simp only [parameter?, List.isEmpty_iff, true_and]
    split
    · next h => simp [h]
    · next h =>
        rw [Option.some.injEq, Prod.mk.injEq]
        exact ⟨fun ⟨hn, hr⟩ => ⟨h, hn.symm, hr.symm⟩, fun ⟨_, hn, hr⟩ => ⟨hn.symm, hr.symm⟩⟩
  · have hnone : parameter? (c :: cs) = none := by
      unfold parameter?
      split
      · next he => exact absurd (List.cons.inj he).1 hc
      · rfl
    simp [hnone, hc]

theorem parameter?_consumes : Text.Consumes parameter? := by
  intro s new rest h
  cases s with
  | nil => exact absurd h (by simp [parameter?])
  | cons c cs =>
      obtain ⟨-, -, -, rfl⟩ := parameter?_eq_some_iff.1 h
      exact Nat.lt_succ_of_le (List.dropWhile_suffix _).length_le

theorem parameter?_colon_eq_none {cs : Text} (h : parameter? (':' :: cs) = none) (d : Char)
    (hd : cs.head? = some d) : Text.isNameChar d = false := by
  obtain ⟨rest, rfl⟩ := List.head?_eq_some_iff.1 hd
  by_contra hname
  rw [Bool.not_eq_false] at hname
  have hne : (d :: rest).takeWhile Text.isNameChar ≠ [] := by
    simp [List.takeWhile_cons_of_pos hname]
  exact Option.some_ne_none _ ((parameter?_eq_some_iff.2 ⟨rfl, hne, rfl, rfl⟩).symm.trans h)

/-- A rewritten path starts with a name character only if the path does. -/
theorem head?_templateParams {path : Text} {c : Char} (hc : Text.isNameChar c = true)
    (h : (templateParams path).head? = some c) : path.head? = some c := by
  unfold templateParams at h
  cases path with
  | nil => simp [Text.replaceAll_nil] at h
  | cons d more =>
      cases hd : parameter? (d :: more) with
      | none =>
          rw [Text.replaceAll_of_not_found hd] at h
          exact h
      | some found =>
          obtain ⟨new, rest⟩ := found
          obtain ⟨-, -, rfl, -⟩ := parameter?_eq_some_iff.1 hd
          rw [Text.replaceAll_of_found parameter?_consumes hd] at h
          obtain rfl : '{' = c := by simpa using h
          exact absurd hc (by decide)

/-- A parameter in the form of a document holds no colon. -/
theorem not_namesParameter_braces {name : Text} (h : ∀ c ∈ name, Text.isNameChar c = true) :
    ¬ NamesParameter ('{' :: name ++ ['}']) := by
  intro hp
  have hcolon : ':' ∈ name := by simpa using hp.colon_mem
  exact absurd (h ':' hcolon) (by decide)

/-- **A rewritten path names no parameter in the form of a router.** -/
theorem not_namesParameter_templateParams (path : Text) :
    ¬ NamesParameter (templateParams path) := by
  induction hn : path.length using Nat.strong_induction_on generalizing path with
  | _ n ih =>
      cases path with
      | nil => exact not_namesParameter_nil
      | cons c cs =>
          cases hc : parameter? (c :: cs) with
          | none =>
              rw [templateParams, Text.replaceAll_of_not_found hc, ← templateParams,
                namesParameter_cons]
              rintro (⟨rfl, d, hd, hhead⟩ | hrest)
              · rw [parameter?_colon_eq_none hc d (head?_templateParams hd hhead)] at hd
                exact Bool.noConfusion hd
              · exact ih cs.length (by simp [← hn]) cs rfl hrest
          | some found =>
              obtain ⟨new, rest⟩ := found
              have hlt : rest.length < n := hn ▸ parameter?_consumes _ _ _ hc
              rw [templateParams, Text.replaceAll_of_found parameter?_consumes hc,
                ← templateParams]
              obtain ⟨-, -, rfl, -⟩ := parameter?_eq_some_iff.1 hc
              rw [namesParameter_append (by rw [List.getLast?_concat]; simp)]
              rintro (hnew | hrest)
              · exact not_namesParameter_braces (fun d hd => List.mem_takeWhile_imp hd) hnew
              · exact ih rest.length hlt rest rfl hrest

/-! ## Joined paths -/

theorem namesParameter_dropEndWhile_slash (path : Text) :
    NamesParameter (Text.dropEndWhile (· = '/') path) ↔ NamesParameter path := by
  obtain ⟨slashes, hpath, hslashes⟩ := Text.exists_dropEndWhile_append (· = '/') path
  refine ⟨fun h => h.of_infix (Text.dropEndWhile_isPrefix _ _).isInfix, fun h => ?_⟩
  rw [hpath, namesParameter_append] at h
  · rcases h with h | h
    · exact h
    · exact absurd (hslashes ':' h.colon_mem) (by decide)
  · intro _ c hc
    have hc' := hslashes c (List.mem_of_mem_head? hc)
    obtain rfl : c = '/' := by simpa using hc'
    decide

/-- A joined path starts with a slash if the mount path does, and only the mount path can bring a
    parameter in the form of a router into it. -/
theorem joinRoute_spec {base path : Text} (hbase : base.head? = some '/')
    (hpath : ¬ NamesParameter path) :
    (OpenApi.joinRoute base path).head? = some '/' ∧
      (NamesParameter (OpenApi.joinRoute base path) ↔ NamesParameter base) := by
  have hslash (s : Text) : NamesParameter ('/' :: s) ↔ NamesParameter s := by
    simp [namesParameter_cons]
  have htail : ¬ NamesParameter ((Text.strip path).dropWhile (· = '/')) := fun h =>
    hpath (h.of_infix ((List.dropWhile_suffix _).isInfix.trans Text.strip_isInfix))
  have hfront : ∀ c, (Text.dropEndWhile (· = '/') base).head? = some c → c = '/' := by
    intro c hc
    obtain ⟨slashes, he, -⟩ := Text.exists_dropEndWhile_append (· = '/') base
    rw [he, List.head?_append, hc] at hbase
    exact Option.some.inj hbase
  unfold OpenApi.joinRoute
  simp only [List.isEmpty_iff]
  rw [← namesParameter_dropEndWhile_slash base]
  cases hb : Text.dropEndWhile (· = '/') base with
  | nil =>
      split
      · simp [hslash]
      · simpa [not_namesParameter_nil, hslash] using htail
  | cons c front =>
      obtain rfl := hfront c (by rw [hb]; rfl)
      split
      · simp
      · refine ⟨rfl, ?_⟩
        have hboundary : ∀ d, ('/' :: (Text.strip path).dropWhile (· = '/')).head? = some d →
            Text.isNameChar d = false := by
          intro d hd
          obtain rfl : '/' = d := Option.some.inj hd
          decide
        rw [List.append_assoc, List.singleton_append,
          namesParameter_append fun _ => hboundary, hslash]
        exact or_iff_left (mt (hslash _).1 htail)

/-! ## Groups and their documents -/

theorem mem_keys_pathsDocument {group : RouteGroup} {authorization : Authorization}
    {key : Points} :
    key ∈ Assoc.keys (OpenApi.pathsDocument group authorization) ↔
      ∃ entry ∈ group.entries, key = Points.ofText (OpenApi.joinRoute group.base entry.path) := by
  unfold OpenApi.pathsDocument OpenApi.putOperation
  rw [Assoc.mem_keys_foldl_alter]
  simp [Assoc.keys]

/-- The path of an entry is a rewritten path. -/
theorem exists_templateParams_of_mem_entries {text : Text} {entry : RouteEntry}
    (h : entry ∈ entries text) : ∃ path, entry.path = templateParams path := by
  obtain ⟨line, -, hline⟩ := List.mem_filterMap.1 h
  obtain ⟨method, -, hmethod⟩ := List.exists_of_findSome?_eq_some hline
  obtain ⟨path, -, rfl⟩ := Option.map_eq_some_iff.1 hmethod
  exact ⟨path, rfl⟩

/-- A group stands for some file, and some statement mounts that file at its base. -/
theorem gives_of_mem_extract {mainText routesFolder : Text} {files : List Text}
    {lookup : Text → Option Text} {group : RouteGroup}
    (h : group ∈ (extract mainText routesFolder files lookup).found) :
    ∃ file, Gives mainText routesFolder lookup file group := by
  obtain ⟨part, hpart, hgroup⟩ := List.mem_flatMap.1 h
  obtain ⟨file, -, rfl⟩ := List.mem_map.1 hpart
  by_cases hfolder : Mount.normalizeFolder routesFolder = []
  · simp [resolve_eq_nil hfolder, groupOf, Assoc.get?, Findings.skipped] at hgroup
  · rcases found_groupOf mainText lookup hfolder file with ⟨given, hgives, hfound⟩ | ⟨-, hfound⟩
    · rw [hfound, List.mem_singleton] at hgroup
      exact ⟨file, hgroup ▸ hgives⟩
    · rw [hfound] at hgroup
      exact absurd hgroup List.not_mem_nil

theorem Gives.head?_base {mainText routesFolder file : Text} {lookup : Text → Option Text}
    {group : RouteGroup} (h : Gives mainText routesFolder lookup file group) :
    group.base.head? = some '/' := by
  obtain ⟨path, text, ⟨before, line, after, -, ⟨hpath, -⟩, -⟩, -, rfl⟩ := h
  obtain ⟨-, front, rest, -, ⟨quote, blanks, tail, -, hhead, -⟩, -⟩ := hpath
  exact hhead

/-- **Parameters of served paths.** No entry of a group names a parameter in the form of a router.
    The paths of its document start with a slash, and they name such a parameter exactly if the
    mount path does, which is taken over as it is written. -/
theorem document_parameters_iff_mount_path (mainText routesFolder : Text) (files : List Text)
    (lookup : Text → Option Text) (authorization : Authorization) (group : RouteGroup)
    (h : group ∈ (extract mainText routesFolder files lookup).found) :
    (∀ entry ∈ group.entries, ¬ NamesParameter entry.path) ∧
    ∀ key ∈ Assoc.keys (OpenApi.pathsDocument group authorization),
      ∃ path, key = Points.ofText path ∧ path.head? = some '/' ∧
        (NamesParameter path ↔ NamesParameter group.base) := by
  obtain ⟨file, hgives⟩ := gives_of_mem_extract h
  have hbase := hgives.head?_base
  have hentries : ∀ entry ∈ group.entries, ¬ NamesParameter entry.path := by
    obtain ⟨base, text, -, -, rfl⟩ := hgives
    intro entry hentry
    obtain ⟨path, hpath⟩ := exists_templateParams_of_mem_entries hentry
    rw [hpath]
    exact not_namesParameter_templateParams path
  refine ⟨hentries, fun key hkey => ?_⟩
  obtain ⟨entry, hentry, rfl⟩ := mem_keys_pathsDocument.1 hkey
  exact ⟨_, rfl, joinRoute_spec hbase (hentries entry hentry)⟩

/-- The parameter of a mount path stays in the form of a router. -/
theorem user_parameter_of_mount_path :
    ∃ group ∈ (extract "app.use('/users/:userId/posts', require('./routes/post'));".toList
        "/routes".toList ["post.js".toList]
        (fun _ => some "router.get('/list/:id', h);".toList)).found,
      ∃ path, Points.ofText path ∈ Assoc.keys (OpenApi.pathsDocument group .none) ∧
        path.head? = some '/' ∧ NamesParameter path := by
  let group : RouteGroup := ⟨"POST".toList, "post".toList, "/users/:userId/posts".toList,
    [⟨.get, "/list/{id}".toList⟩]⟩
  have hgroup : group ∈ (extract "app.use('/users/:userId/posts', require('./routes/post'));".toList
      "/routes".toList ["post.js".toList]
      (fun _ => some "router.get('/list/:id', h);".toList)).found := by
    decide +kernel
  have hkey : Points.ofText "/users/:userId/posts/list/{id}".toList ∈
      Assoc.keys (OpenApi.pathsDocument group .none) :=
    mem_keys_pathsDocument.2 ⟨⟨.get, "/list/{id}".toList⟩, List.mem_singleton_self _, by decide⟩
  obtain ⟨path, he, hhead, hiff⟩ :=
    (document_parameters_iff_mount_path _ _ _ _ .none group hgroup).2 _ hkey
  refine ⟨group, hgroup, path, he ▸ hkey, hhead, hiff.2 ?_⟩
  exact ⟨'u', by decide, "/users/".toList, "serId/posts".toList, by decide⟩

end ApiScan.Router
