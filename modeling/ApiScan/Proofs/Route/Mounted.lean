import ApiScan.Proofs.Assoc
import ApiScan.Proofs.Text.Search
import ApiScan.Route.Router
import Mathlib.Data.List.Induction
import Mathlib.Data.List.TakeWhile

set_option autoImplicit false

/-! # Which module is mounted where

What the statements of a main file mean, said on the statements themselves: a statement may name a
mount path, load a module in place, mention variables, or bind a variable to a module. A variable is
bound to what the last binding before a place says, and a module is mounted at the path of the last
statement that mounts it. `Mounts.run` keeps the bindings and the mounts made so far; the invariant
is that after any statements both maps say exactly this of the statements so far. -/

namespace ApiScan.Mount

/-! ## What is told last -/

/-- `value` is what the last item that tells anything tells. What an item tells may depend on the
    items before it. -/
def ToldLast {α β : Type} (tells : List α → α → β → Prop) (items : List α) (value : β) : Prop :=
  ∃ before item after, items = before ++ item :: after ∧ tells before item value ∧
    ∀ pre next post, after = pre ++ next :: post →
      ∀ other, ¬ tells (before ++ item :: pre) next other

/-- The ways to cut a list at an item, with one item more at the end. -/
theorem append_singleton_eq_append_cons_iff {α : Type} {items before after : List α} {item a : α} :
    items ++ [item] = before ++ a :: after ↔
      (before = items ∧ a = item ∧ after = []) ∨
        ∃ post, after = post ++ [item] ∧ items = before ++ a :: post := by
  constructor
  · intro h
    rcases List.eq_nil_or_concat' after with rfl | ⟨post, b, rfl⟩
    · obtain ⟨rfl, hb⟩ := List.append_inj' h rfl
      exact Or.inl ⟨rfl, (List.singleton_inj.1 hb).symm, rfl⟩
    · have h' : items ++ [item] = (before ++ a :: post) ++ [b] := by simpa using h
      obtain ⟨rfl, hb⟩ := List.append_inj' h' rfl
      obtain rfl := List.singleton_inj.1 hb
      exact Or.inr ⟨post, rfl, rfl⟩
  · rintro (⟨rfl, rfl, rfl⟩ | ⟨post, rfl, rfl⟩)
    · rfl
    · simp

section
variable {α β : Type} {tells : List α → α → β → Prop}

theorem not_toldLast_nil {value : β} : ¬ ToldLast tells [] value := by
  rintro ⟨before, item, after, he, -⟩
  simp at he

/-- One item more: it tells something itself, or what was told last stays. -/
theorem toldLast_append_singleton {items : List α} {item : α} {value : β} :
    ToldLast tells (items ++ [item]) value ↔
      tells items item value ∨ (∀ other, ¬ tells items item other) ∧ ToldLast tells items value := by
  constructor
  · rintro ⟨before, a, after, he, ha, hlast⟩
    rcases append_singleton_eq_append_cons_iff.1 he with ⟨rfl, rfl, rfl⟩ | ⟨post, rfl, rfl⟩
    · exact Or.inl ha
    · refine Or.inr ⟨hlast post item [] (by simp), before, a, post, rfl, ha, ?_⟩
      intro pre next tail ht
      exact hlast pre next (tail ++ [item]) (by simp [ht])
  · rintro (h | ⟨hnone, before, a, post, rfl, ha, hlast⟩)
    · exact ⟨items, item, [], rfl, h, fun pre next tail ht => by simp at ht⟩
    · refine ⟨before, a, post ++ [item], by simp, ha, ?_⟩
      intro pre next tail ht
      rcases append_singleton_eq_append_cons_iff.1 ht with ⟨rfl, rfl, rfl⟩ | ⟨tail', rfl, rfl⟩
      · exact hnone
      · exact hlast pre next tail' rfl

end

/-! ## What a statement says -/

/-- A quoted absolute path stands at the start of a text, and a comma follows it. -/
def StartsWithPath (path s : Text) : Prop :=
  ∃ quote blanks rest, Source.isQuote quote = true ∧ path.head? = some '/' ∧
    (∀ c ∈ path, Source.isQuote c = false) ∧ (∀ c ∈ blanks, Text.isBlank c = true) ∧
    s = quote :: path ++ quote :: blanks ++ ',' :: rest

/-- The mount path of a statement: the statement holds the call that mounts, and its first quoted
    absolute path with a comma behind it is `path`. -/
def MountPath (line path : Text) : Prop :=
  useCall <:+: line ∧ ∃ front rest, line = front ++ rest ∧ StartsWithPath path rest ∧
    ∀ front' rest', line = front' ++ rest' → front'.length < front.length →
      ∀ other, ¬ StartsWithPath other rest'

/-- The folder token of a statement: the folder and a slash if the statement holds that, and
    otherwise the last segment of the folder and a slash. -/
def FolderToken (folder line token : Text) : Prop :=
  token <:+: line ∧ (token = folder ++ ['/'] ∨
    token = lastSegment folder ++ ['/'] ∧ ¬ folder ++ ['/'] <:+: line)

/-- A statement names a module behind its folder token. -/
def NamesModule (folder line module : Text) : Prop :=
  module ≠ [] ∧ ∃ token, FolderToken folder line token ∧ moduleName token line = module

/-- A statement mentions the folder and loads a module in place. -/
def LoadsInPlace (folder line : Text) : Prop :=
  (∃ token, FolderToken folder line token) ∧ requireCall <:+: line

/-- A statement that mounts nothing binds a variable to the module that it names. -/
def Binds (folder name line module : Text) : Prop :=
  ¬ useCall <:+: line ∧ boundName? line = some name ∧ NamesModule folder line module

/-- A name stands in a text as a whole identifier. -/
def Occurs (name code : Text) : Prop :=
  ∃ front rest, code = front ++ name ++ rest ∧
    front.getLast?.any Text.isNameChar = false ∧ rest.head?.any Text.isNameChar = false

/-- The module that a variable is bound to by the last of some statements that binds it. -/
def BoundTo (folder : Text) (lines : List Text) (name module : Text) : Prop :=
  ToldLast (fun _ line => Binds folder name line) lines module

/-- A statement, behind those in `before`, mounts a module at a path: the module that it loads in
    place, or one that a variable in its code is bound to. -/
def MountsAt (folder module : Text) (before : List Text) (line path : Text) : Prop :=
  MountPath line path ∧
    (LoadsInPlace folder line ∧ NamesModule folder line module ∨
      ¬ LoadsInPlace folder line ∧
        ∃ name, Occurs name (withoutLiterals line) ∧ BoundTo folder before name module)

/-- The mount path of a module: that of the last statement that mounts it. -/
def MountedAt (folder : Text) (lines : List Text) (module path : Text) : Prop :=
  ToldLast (MountsAt folder module) lines path

/-! ## Reading what a statement says -/

theorem pathArgument?_eq_some_iff {s path : Text} :
    pathArgument? s = some path ↔ StartsWithPath path s := by
  constructor
  · intro h
    unfold pathArgument? at h
    split at h
    · next quote rest =>
        split at h
        · next hq =>
            split at h
            · next close more hd =>
                split at h
                · next hc =>
                    obtain ⟨rfl, hcomma⟩ := hc
                    obtain rfl := Option.some.inj h
                    obtain ⟨tail, htail⟩ := List.head?_eq_some_iff.1 hcomma
                    refine ⟨close, more.takeWhile Text.isBlank, tail, hq, rfl, ?_,
                      fun c hc => List.mem_takeWhile_imp hc, ?_⟩
                    · intro c hc
                      rcases List.mem_cons.1 hc with rfl | hc
                      · rfl
                      · simpa using List.mem_takeWhile_imp hc
                    · calc close :: '/' :: rest
                          = close :: '/' :: (rest.takeWhile (fun c => !Source.isQuote c)
                              ++ close :: more) := by
                            rw [← hd, List.takeWhile_append_dropWhile]
                        _ = close :: '/' :: (rest.takeWhile (fun c => !Source.isQuote c)
                              ++ close :: (more.takeWhile Text.isBlank ++ ',' :: tail)) := by
                            rw [← htail, Text.stripStart, List.takeWhile_append_dropWhile]
                        _ = _ := by simp
                · simp at h
            · simp at h
        · simp at h
    · simp at h
  · rintro ⟨quote, blanks, rest, hq, hhead, hpath, hblanks, rfl⟩
    obtain ⟨tail, rfl⟩ := List.head?_eq_some_iff.1 hhead
    have htail : ∀ c ∈ tail, (!Source.isQuote c) = true := fun c hc => by
      simp [hpath c (List.mem_cons_of_mem _ hc)]
    have hstop : (!Source.isQuote quote) = false := by simp [hq]
    have hcomma : Text.isBlank ',' = false := rfl
    simp only [pathArgument?, List.cons_append, List.append_assoc, hq, if_true]
    rw [List.dropWhile_append_of_pos htail, List.dropWhile_cons_of_neg (by simp [hq]),
      List.takeWhile_append_of_pos htail, List.takeWhile_cons_of_neg (by simp [hq])]
    simp only [List.append_nil]
    rw [if_pos]
    refine ⟨trivial, ?_⟩
    rw [Text.stripStart, List.dropWhile_append_of_pos hblanks,
      List.dropWhile_cons_of_neg (by simp [hcomma])]
    rfl

theorem find?_pathArgument?_eq_some_iff {line path : Text} (huse : useCall <:+: line) :
    Text.find? pathArgument? line = some path ↔ MountPath line path := by
  rw [Text.find?_eq_some_iff]
  simp only [MountPath, huse, true_and, pathArgument?_eq_some_iff, Option.eq_none_iff_forall_ne_some,
    ne_eq]

theorem folderToken?_eq_some_iff {folder line token : Text} :
    folderToken? folder line = some token ↔ FolderToken folder line token := by
  unfold folderToken? FolderToken
  simp only [Text.holds_iff]
  split
  · next h =>
      constructor
      · intro he
        obtain rfl := Option.some.inj he
        exact ⟨h, Or.inl rfl⟩
      · rintro ⟨-, rfl | ⟨-, hn⟩⟩
        · rfl
        · exact absurd h hn
  · next h =>
      split
      · next ht =>
          constructor
          · intro he
            obtain rfl := Option.some.inj he
            exact ⟨ht.2, Or.inr ⟨rfl, h⟩⟩
          · rintro ⟨hin, rfl | ⟨rfl, -⟩⟩
            · exact absurd hin h
            · rfl
      · next ht =>
          constructor
          · intro he
            exact absurd he (by simp)
          · rintro ⟨hin, rfl | ⟨rfl, -⟩⟩
            · exact absurd hin h
            · exact absurd ⟨fun he => h (he ▸ hin), hin⟩ ht

/-- A statement that names a folder token has no other. -/
theorem FolderToken.unique {folder line token token' : Text} (h : FolderToken folder line token)
    (h' : FolderToken folder line token') : token = token' :=
  Option.some.inj ((folderToken?_eq_some_iff.2 h).symm.trans (folderToken?_eq_some_iff.2 h'))

theorem namesModule_iff {folder line token module : Text} (h : FolderToken folder line token) :
    NamesModule folder line module ↔ module ≠ [] ∧ moduleName token line = module := by
  refine and_congr_right fun _ => ⟨?_, fun he => ⟨token, h, he⟩⟩
  rintro ⟨token', h', he⟩
  rwa [h.unique h']

theorem references_iff {name code : Text} : references name code = true ↔ Occurs name code := by
  unfold references Occurs
  rw [Text.first?_isSome_iff]
  constructor
  · rintro ⟨front, s, rfl, hs⟩
    obtain ⟨u, hu⟩ := Option.isSome_iff_exists.1 hs
    simp only [identifier?, Option.or_none, Option.bind_eq_bind, Option.bind_eq_some_iff,
      Text.after?_eq_some_iff] at hu
    obtain ⟨rest, rfl, hr⟩ := hu
    split at hr
    · simp at hr
    · next hn =>
        rw [Bool.not_eq_true, Bool.or_eq_false_iff] at hn
        exact ⟨front, rest, by simp, hn.1, hn.2⟩
  · rintro ⟨front, rest, rfl, hf, hr⟩
    refine ⟨front, name ++ rest, by simp, ?_⟩
    have hafter : Text.after? name (name ++ rest) = some rest := Text.after?_eq_some_iff.2 rfl
    simp [identifier?, hafter, hf, hr]

theorem NamesModule.unique {folder line module module' : Text} (h : NamesModule folder line module)
    (h' : NamesModule folder line module') : module = module' := by
  obtain ⟨-, token, ht, rfl⟩ := h
  exact ((namesModule_iff ht).1 h').2

theorem MountPath.unique {line path path' : Text} (h : MountPath line path)
    (h' : MountPath line path') : path = path' :=
  Option.some.inj (((find?_pathArgument?_eq_some_iff h.1).2 h).symm.trans
    ((find?_pathArgument?_eq_some_iff h.1).2 h'))

/-! ## Reading statements -/

/-- A statement that holds the call that mounts mounts a module or variables, or says nothing. -/
theorem read_of_useCall {line : Text} (folder : Text) (huse : useCall <:+: line) :
    (∃ path module, MountPath line path ∧ LoadsInPlace folder line ∧
        NamesModule folder line module ∧ Statement.read folder line = .mountModule module path) ∨
      (∃ path, MountPath line path ∧ ¬ LoadsInPlace folder line ∧
        Statement.read folder line = .mountVariables (withoutLiterals line) path) ∨
      (∀ module before path, ¬ MountsAt folder module before line path) ∧
        Statement.read folder line = .other := by
  simp only [Statement.read, Text.holds_iff, huse, if_true]
  cases hp : Text.find? pathArgument? line with
  | none =>
      refine Or.inr (Or.inr ⟨fun module before path h => ?_, rfl⟩)
      rw [(find?_pathArgument?_eq_some_iff huse).2 h.1] at hp
      exact Option.some_ne_none path hp
  | some path =>
      have hpath := (find?_pathArgument?_eq_some_iff huse).1 hp
      cases ht : folderToken? folder line with
      | none =>
          refine Or.inr (Or.inl ⟨path, hpath, ?_, rfl⟩)
          rintro ⟨⟨token, htoken⟩, -⟩
          rw [folderToken?_eq_some_iff.2 htoken] at ht
          exact Option.some_ne_none token ht
      | some token =>
          have htoken := folderToken?_eq_some_iff.1 ht
          by_cases hrequire : requireCall <:+: line
          · have hloads : LoadsInPlace folder line := ⟨⟨token, htoken⟩, hrequire⟩
            simp only [hrequire, if_true, List.isEmpty_iff]
            by_cases he : moduleName token line = []
            · refine Or.inr (Or.inr ⟨?_, if_pos he⟩)
              rintro module before path' ⟨-, ⟨-, hm⟩ | ⟨hnot, -⟩⟩
              · obtain ⟨hne, hm⟩ := (namesModule_iff htoken).1 hm
                exact hne (hm ▸ he)
              · exact hnot hloads
            · exact Or.inl ⟨path, _, hpath, hloads, ⟨he, token, htoken, rfl⟩, if_neg he⟩
          · refine Or.inr (Or.inl ⟨path, hpath, fun h => hrequire h.2, ?_⟩)
            simp only [hrequire, if_false]

/-- Any other statement binds a variable or says nothing. -/
theorem read_of_not_useCall {folder line : Text} (huse : ¬ useCall <:+: line) :
    (∃ name module, Binds folder name line module ∧
        Statement.read folder line = .bind name module) ∨
      (∀ name module, ¬ Binds folder name line module) ∧
        Statement.read folder line = .other := by
  simp only [Statement.read, Text.holds_iff, huse, if_false]
  cases ht : folderToken? folder line with
  | none =>
      refine Or.inr ⟨?_, rfl⟩
      rintro name module ⟨-, -, -, token, htoken, -⟩
      rw [folderToken?_eq_some_iff.2 htoken] at ht
      exact Option.some_ne_none token ht
  | some token =>
      have htoken := folderToken?_eq_some_iff.1 ht
      cases hn : boundName? line with
      | none =>
          refine Or.inr ⟨fun name module h => ?_, rfl⟩
          rw [h.2.1] at hn
          exact Option.some_ne_none name hn
      | some name =>
          simp only [List.isEmpty_iff]
          by_cases he : moduleName token line = []
          · refine Or.inr ⟨fun name' module h => ?_, if_pos he⟩
            obtain ⟨hne, hm⟩ := (namesModule_iff htoken).1 h.2.2
            exact hne (hm ▸ he)
          · exact Or.inl ⟨name, _, ⟨huse, hn, he, token, htoken, rfl⟩, if_neg he⟩

/-! ## Running statements -/

/-- What the first statements of a main file leave. -/
def after (folder : Text) (lines : List Text) : Mounts :=
  Mounts.run (lines.map (Statement.read folder))

theorem after_append_singleton {folder line : Text} {lines : List Text} :
    after folder (lines ++ [line]) = (after folder lines).step (Statement.read folder line) := by
  simp [after, Mounts.run]

/-- **The bindings say what each variable was bound to last.** -/
theorem get?_bindings_after {folder name module : Text} {lines : List Text} :
    Assoc.get? name (after folder lines).bindings = some module ↔
      BoundTo folder lines name module := by
  induction lines using List.reverseRecOn generalizing module with
  | nil => exact iff_of_false (Option.some_ne_none module).symm not_toldLast_nil
  | append_singleton lines line ih =>
      rw [after_append_singleton, BoundTo, toldLast_append_singleton, ← BoundTo, ← ih]
      by_cases huse : useCall <:+: line
      · have hno (m : Text) : ¬ Binds folder name line m := fun h => h.1 huse
        have hkeep : ((after folder lines).step (Statement.read folder line)).bindings
            = (after folder lines).bindings := by
          rcases read_of_useCall _ huse with ⟨_, _, -, -, -, h⟩ | ⟨_, -, -, h⟩ | ⟨-, h⟩ <;> rw [h] <;> rfl
        simp [hno, hkeep]
      · rcases read_of_not_useCall huse with ⟨bound, m, hb, h⟩ | ⟨hno, h⟩
        · rw [h]
          show Assoc.get? name (Assoc.put bound m (after folder lines).bindings) = _ ↔ _
          rw [Assoc.get?_put]
          by_cases hname : bound = name
          · subst hname
            have hb' (m' : Text) : Binds folder bound line m' ↔ m = m' :=
              ⟨fun h' => hb.2.2.unique h'.2.2, fun he => he ▸ hb⟩
            simp [hb']
          · have hno (m' : Text) : ¬ Binds folder name line m' := fun h' =>
              hname (Option.some.inj (hb.2.1.symm.trans h'.2.1))
            simp [hname, hno]
        · rw [h]
          simp [hno, Mounts.step]

theorem nodup_keys_bindings_after {folder : Text} {lines : List Text} :
    (Assoc.keys (after folder lines).bindings).Nodup := by
  induction lines using List.reverseRecOn with
  | nil => exact List.nodup_nil
  | append_singleton lines line ih =>
      rw [after_append_singleton]
      cases Statement.read folder line with
      | bind name module => exact Assoc.nodup_keys_alter ih
      | mountModule module path => exact ih
      | mountVariables code path => exact ih
      | other => exact ih

/-- The variables that a statement mounts: those in its code that are bound to the module. -/
theorem exists_mounted_iff {folder code module : Text} {lines : List Text} :
    (∃ entry ∈ (after folder lines).bindings.filter (fun (name, _) => references name code),
        entry.2 = module) ↔
      ∃ name, Occurs name code ∧ BoundTo folder lines name module := by
  simp only [List.mem_filter, references_iff]
  constructor
  · rintro ⟨⟨name, m⟩, ⟨hmem, hcode⟩, rfl⟩
    exact ⟨name, hcode,
      get?_bindings_after.1 ((Assoc.get?_eq_some_iff_mem nodup_keys_bindings_after).2 hmem)⟩
  · rintro ⟨name, hcode, hbound⟩
    exact ⟨(name, module), ⟨Assoc.mem_of_get?_eq_some (get?_bindings_after.2 hbound), hcode⟩, rfl⟩

/-- **The paths say where each module was mounted last.** -/
theorem get?_paths_after {folder module path : Text} {lines : List Text} :
    Assoc.get? module (after folder lines).paths = some path ↔
      MountedAt folder lines module path := by
  induction lines using List.reverseRecOn generalizing path with
  | nil => exact iff_of_false (Option.some_ne_none path).symm not_toldLast_nil
  | append_singleton lines line ih =>
      rw [after_append_singleton, MountedAt, toldLast_append_singleton, ← MountedAt, ← ih]
      by_cases huse : useCall <:+: line
      · rcases read_of_useCall _ huse with ⟨p, m, hp, hl, hm, h⟩ | ⟨p, hp, hl, h⟩ | ⟨hno, h⟩
        · have hmounts (q : Text) : MountsAt folder module lines line q ↔ m = module ∧ p = q := by
            constructor
            · rintro ⟨hq, ⟨-, hm'⟩ | ⟨hl', -⟩⟩
              · exact ⟨hm.unique hm', hp.unique hq⟩
              · exact absurd hl hl'
            · rintro ⟨rfl, rfl⟩
              exact ⟨hp, Or.inl ⟨hl, hm⟩⟩
          rw [h]
          show Assoc.get? module (Assoc.put m p (after folder lines).paths) = _ ↔ _
          rw [Assoc.get?_put]
          by_cases hmodule : m = module <;> simp [hmounts, hmodule]
        · have hmounts (q : Text) : MountsAt folder module lines line q ↔
              (∃ name, Occurs name (withoutLiterals line) ∧ BoundTo folder lines name module) ∧
                p = q := by
            constructor
            · rintro ⟨hq, ⟨hl', -⟩ | ⟨-, hname⟩⟩
              · exact absurd hl' hl
              · exact ⟨hname, hp.unique hq⟩
            · rintro ⟨hname, rfl⟩
              exact ⟨hp, Or.inr ⟨hl, hname⟩⟩
          rw [h]
          show Assoc.get? module (List.foldl (fun paths entry => Assoc.put entry.2 p paths)
            (after folder lines).paths ((after folder lines).bindings.filter _)) = _ ↔ _
          by_cases hname : ∃ name, Occurs name (withoutLiterals line) ∧ BoundTo folder lines name module
          · rw [Assoc.get?_foldl_put_of_exists (exists_mounted_iff.2 hname)]
            simp [hmounts, hname]
          · rw [Assoc.get?_foldl_put_of_forall_ne fun entry hentry he =>
              hname (exists_mounted_iff.1 ⟨entry, hentry, he⟩)]
            simp [hmounts, hname]
        · simp [h, hno, Mounts.step]
      · have hno (before : List Text) (q : Text) : ¬ MountsAt folder module before line q :=
          fun h => huse h.1.1
        have hkeep : ((after folder lines).step (Statement.read folder line)).paths
            = (after folder lines).paths := by
          rcases read_of_not_useCall huse with ⟨_, _, -, h⟩ | ⟨-, h⟩ <;> rw [h] <;> rfl
        simp [hno, hkeep]

end ApiScan.Mount
