import ApiScan.Proofs.Path
import ApiScan.Proofs.Tree.Access
import ApiScan.Proofs.Tree.MakeFolders
import ApiScan.Proofs.Tree.Removed
import ApiScan.Proofs.Work

set_option autoImplicit false

/-! # Where work changes a tree

Work that makes folders, writes files and appends to files changes a tree at some places only, and
takes nothing away. Where a single operation changes the tree is known from its path, whatever the
tree holds and whether or not the operation is refused in the end. -/

namespace ApiScan

namespace Tree

variable {tree tree' tree'' : Tree} {path : Path} {place : Place}

/-! ## Scopes -/

/-- The places at which a tree may be changed, by what may be done there. -/
structure Scope where
  /-- A folder may be made. -/
  folders : Place → Prop
  /-- A file may be written, over one that is there or anew. -/
  written : Place → Prop
  /-- Something may be appended to the file that is there. -/
  appended : Place → Prop

/-- What may become of what stands at a place. -/
inductive Change (scope : Scope) (place : Place) : Option Entry → Option Entry → Prop
  | same {old? : Option Entry} : Change scope place old? old?
  | folder (h : scope.folders place) : Change scope place none (some .folder)
  | file {old? : Option Entry} {content : Bytes} (hold : old? ≠ some .folder)
      (h : scope.written place) : Change scope place old? (some (.file content))
  | appended {old more : Bytes} (h : scope.appended place) :
      Change scope place (some (.file old)) (some (.file (old ++ more)))

/-- One tree becomes another by changes within a scope. -/
def Changes (scope : Scope) (tree tree' : Tree) : Prop :=
  ∀ place, Change scope place (tree.entry? place) (tree'.entry? place)

variable {scope scope' : Scope}

theorem Change.trans {first second third : Option Entry} (h : Change scope place first second)
    (h' : Change scope place second third) : Change scope place first third := by
  cases h' with
  | same => exact h
  | folder hfolders =>
      cases h with
      | same => exact .folder hfolders
  | file hold hwritten =>
      cases h with
      | same => exact .file hold hwritten
      | folder => exact absurd rfl hold
      | file hfirst _ => exact .file hfirst hwritten
      | appended => exact .file nofun hwritten
  | appended happended =>
      cases h with
      | same => exact .appended happended
      | file hold hwritten => exact .file hold hwritten
      | appended => exact List.append_assoc _ _ _ ▸ .appended happended

theorem Changes.refl (scope : Scope) (tree : Tree) : Changes scope tree tree := fun _ => .same

theorem Changes.trans (h : Changes scope tree tree') (h' : Changes scope tree' tree'') :
    Changes scope tree tree'' := fun place => (h place).trans (h' place)

/-- Nothing is taken away: where a folder stood there is one, and where a file stood there is a
    file. -/
theorem Changes.keepsFolders (h : Changes scope tree tree') : KeepsFolders tree tree' := by
  intro place he
  have hchange := h place
  rw [he] at hchange
  generalize hafter : tree'.entry? place = after at hchange
  cases hchange with
  | same => rfl
  | file hold => exact absurd rfl hold

theorem Changes.keepsFiles (h : Changes scope tree tree') {content : Bytes}
    (he : tree.entry? place = some (.file content)) :
    ∃ content', tree'.entry? place = some (.file content') := by
  have hchange := h place
  rw [he] at hchange
  generalize hafter : tree'.entry? place = after at hchange
  cases hchange with
  | same => exact ⟨content, rfl⟩
  | file => exact ⟨_, rfl⟩
  | appended => exact ⟨_, rfl⟩

/-- A file changes only where files may be written or appended to. -/
theorem Changes.file_iff (h : Changes scope tree tree') (hwritten : ¬ scope.written place)
    (happended : ¬ scope.appended place) (content : Bytes) :
    tree'.entry? place = some (.file content) ↔ tree.entry? place = some (.file content) := by
  have hchange := h place
  generalize hbefore : tree.entry? place = before at hchange
  generalize hafter : tree'.entry? place = after at hchange
  cases hchange with
  | same => exact Iff.rfl
  | folder => exact ⟨nofun, nofun⟩
  | file _ h => exact absurd h hwritten
  | appended h => exact absurd h happended

/-! ## Operations -/

theorem changes_put {entry : Entry} (hne : place ≠ [])
    (h : Change scope place (tree.entry? place) (some entry)) :
    Changes scope tree (tree.put place entry) := by
  intro other
  rw [entry?_put hne]
  split
  · next he => exact he ▸ h
  · exact .same

theorem changes_write {content : Bytes → Bytes} (hscope : scope.written path.normalize.steps)
    (h : tree.write path content = .ok tree') : Changes scope tree tree' := by
  obtain ⟨old?, hold, hne, rfl⟩ := write_eq_ok h
  refine changes_put hne (.file ?_ hscope)
  cases old? <;> simp [hold]

/-- Appending to a file that can be read keeps what it holds in front. -/
theorem changes_append {old more : Bytes} (hscope : scope.appended path.normalize.steps)
    (hread : tree.read path = .ok old) (h : tree.write path (· ++ more) = .ok tree') :
    Changes scope tree tree' := by
  obtain ⟨old?, hold, hne, rfl⟩ := write_eq_ok h
  obtain ⟨place, hlocate⟩ := read_eq_ok_iff.1 hread
  have hfollow := (locate_eq_ok.1 hlocate).2
  obtain rfl : place = path.normalize.steps := place_of_follow hfollow
  have he := hold.symm.trans (entry?_of_follow hfollow)
  cases old? with
  | none => exact nomatch he
  | some content =>
      obtain rfl : content = old := Entry.file.inj (Option.some.inj he)
      exact changes_put hne (by rw [hold]; exact .appended hscope)

/-- The folders that are made along a path stand on the way that it is written, even where making
    them is refused in the end. -/
theorem changes_makeFoldersBack {anchor : Text} {back : List Text}
    (hscope : ∀ front, front <+: back.reverse → scope.folders (front.foldl Path.takeStep [])) :
    Changes scope tree (makeFoldersBack anchor tree back).1 := by
  induction back generalizing tree with
  | nil => exact .refl scope tree
  | cons name back ih =>
      have hbefore (tree : Tree) : Changes scope tree (makeFoldersBack anchor tree back).1 := by
        refine ih fun front hfront => hscope front (hfront.trans ?_)
        rw [List.reverse_cons]
        exact List.prefix_append _ _
      have hmade {tree tree' : Tree}
          (hmake : tree.makeFolder ⟨anchor, (name :: back).reverse⟩ = .ok tree') :
          Changes scope tree tree' := by
        obtain ⟨-, place, hfollow, rfl⟩ := makeFolder_eq_ok hmake
        obtain ⟨rfl, hne, hnone⟩ := vacant_eq hfollow
        refine changes_put hne ?_
        rw [hnone]
        exact .folder (hscope _ List.prefix_rfl)
      simp only [makeFoldersBack]
      split
      · next made hmake => exact hmade hmake
      · -- the folders on the way are made first
        have hway := hbefore tree
        split
        · next made _ hback => exact (hback ▸ hway : Changes scope tree (made, _).1)
        · next made hback =>
            rw [hback] at hway
            split
            · next last hmake => exact hway.trans (hmade hmake)
            · exact hway
            · exact hway
      · exact .refl scope tree

theorem changes_makeFolders
    (hscope : ∀ front, front <+: path.steps → scope.folders (front.foldl Path.takeStep [])) :
    Changes scope tree (tree.makeFolders path).1 :=
  changes_makeFoldersBack (by simpa using hscope)

end Tree

/-! ## Work -/

open ApiScan.Tree

namespace Work

variable {α β : Type} {scope : Scope} {tree : Tree} {path : Path}

/-- The work changes a tree only within a scope, whether it ends or fails. -/
def Within (scope : Scope) (work : Work α) : Prop := ∀ tree, Changes scope tree (work tree).1

/-- The first part of work changes the tree, and so does what is left to do if that part ends. -/
theorem changes_bind {work : Work α} {next : α → Work β} (h : Changes scope tree (work tree).1)
    (hnext : ∀ between a, work.Ends tree between a →
      Changes scope between (next a between).1) : Changes scope tree ((work >>= next) tree).1 := by
  rcases hwork : work tree with ⟨between, log, failure | a⟩
  · rw [bind_of_error hwork]
    exact (hwork ▸ h : Changes scope tree (between, _).1)
  · rw [bind_of_ok hwork]
    have hends : work.Ends tree between a := ⟨by rw [hwork], by rw [hwork]⟩
    exact (hwork ▸ h : Changes scope tree (between, _).1).trans (hnext between a hends)

theorem within_pure (a : α) : (pure a : Work α).Within scope := fun tree => .refl scope tree

theorem within_survey (survey : Survey α) : (liftM survey : Work α).Within scope :=
  fun tree => .refl scope tree

theorem within_bind {work : Work α} {next : α → Work β} (h : work.Within scope)
    (hnext : ∀ a, (next a).Within scope) : (work >>= next).Within scope :=
  fun tree => changes_bind (h tree) fun between a _ => hnext a between

theorem within_ite {condition : Prop} [Decidable condition] {first second : Work α}
    (hfirst : condition → first.Within scope) (hsecond : ¬ condition → second.Within scope) :
    (if condition then first else second).Within scope := by
  split
  · next h => exact hfirst h
  · next h => exact hsecond h

theorem within_mapM {f : α → Work β} {items : List α} (h : ∀ a ∈ items, (f a).Within scope) :
    (items.mapM f).Within scope := by
  induction items with
  | nil => exact within_pure _
  | cons a more ih =>
      obtain ⟨hfirst, hmore⟩ := List.forall_mem_cons.1 h
      rw [List.mapM_cons]
      exact within_bind hfirst fun _ => within_bind (ih hmore) fun _ => within_pure _

theorem within_write (text : Text) (hscope : scope.written path.normalize.steps) :
    (write path text).Within scope := by
  intro tree
  unfold write change
  split
  · next tree' h => exact changes_write hscope h
  · exact .refl scope tree

theorem within_makeFolders (told : FileFault → Failure)
    (hscope : ∀ front, front <+: path.steps → scope.folders (front.foldl Path.takeStep [])) :
    (makeFolders path told).Within scope := fun _ => changes_makeFolders hscope

end Work

end ApiScan
