import ApiScan.Proofs.Path
import ApiScan.Proofs.Tree.Follow

set_option autoImplicit false

/-! # Files in folders

What the operations on a tree do with the paths of a folder and of the names right inside it, once
it is known where the path of the folder leads. -/

namespace ApiScan.Tree

variable {tree tree' : Tree} {path : Path} {place folder : Place} {name : Text} {target : Target}

/-! ## Locating -/

/-- A path that the tree looks at: it holds no NUL and is not too long. -/
def Fits (path : Path) : Prop :=
  (path.steps.any fun step => step.contains '\x00') = false
    ∧ (Text.toBytes path.text).length ≤ maxPathLength

instance (path : Path) : Decidable (Fits path) := inferInstanceAs (Decidable (_ ∧ _))

/-- The start of a path fits if the path does. -/
theorem fits_of_append {steps : List Text}
    (h : Fits { path with steps := path.steps ++ steps }) : Fits path := by
  obtain ⟨hnul, hlength⟩ := h
  simp only [List.any_append, Bool.or_eq_false_iff] at hnul
  refine ⟨hnul.1, ?_⟩
  unfold Path.text at hlength ⊢
  split
  · decide
  · next hdot =>
      rw [if_neg] at hlength
      · refine Nat.le_trans ?_ hlength
        obtain ⟨rest, hrest⟩ := Text.joinWith_prefix ['/'] path.steps steps
        simp only [← hrest, Text.toBytes, List.flatMap_append, List.length_append]
        omega
      · intro hempty
        simp only [Bool.and_eq_true, List.isEmpty_iff, List.append_eq_nil_iff] at hempty hdot
        exact hdot ⟨hempty.1, hempty.2.1⟩

/-- The path leads through folders to a folder. -/
def LeadsTo (tree : Tree) (path : Path) (folder : Place) : Prop :=
  follow tree [] path.steps = .ok (.present folder .folder)

theorem locate_eq_ok :
    tree.locate path = .ok target ↔ Fits path ∧ follow tree [] path.steps = .ok target := by
  unfold locate Fits
  split
  · next h =>
      rw [h]
      exact ⟨fun h => (nomatch h), fun h => absurd h.1.1 (by simp)⟩
  · next h =>
      rw [Bool.not_eq_true] at h
      split
      · next hlength =>
          exact ⟨fun h => (nomatch h), fun h => absurd h.1.2 (Nat.not_le.2 hlength)⟩
      · next hlength =>
          rw [h]
          exact ⟨fun hf => ⟨⟨rfl, Nat.not_lt.1 hlength⟩, hf⟩, fun hf => hf.2⟩

theorem LeadsTo.entry? (h : LeadsTo tree path folder) : tree.entry? folder = some .folder :=
  entry?_of_follow h

theorem LeadsTo.unique {other : Place} (h : LeadsTo tree path folder)
    (h' : LeadsTo tree path other) : folder = other :=
  (Target.present.inj (Except.ok.inj (h.symm.trans h'))).1

theorem LeadsTo.of_keepsFolders (hkeeps : KeepsFolders tree tree')
    (h : LeadsTo tree path folder) : LeadsTo tree' path folder :=
  follow_of_keepsFolders hkeeps h

theorem follow_pathStep (h : LeadsTo tree path folder) (name : Text) :
    follow tree [] (path.step name).steps = follow tree folder [name] := follow_append h

theorem LeadsTo.eq_step (h : LeadsTo tree path folder) (hup : name ≠ Path.up)
    (hstep : LeadsTo tree (path.step name) place) : place = folder ++ [name] :=
  place_eq_of_follow (by simpa using Ne.symm hup) ((follow_pathStep h name).symm.trans hstep)

/-- The name can stand in the folder that the path leads to. -/
def FitsIn (path : Path) (name : Text) : Prop := Fits (path.step name) ∧ IsStep name

instance (path : Path) (name : Text) : Decidable (FitsIn path name) :=
  inferInstanceAs (Decidable (_ ∧ _))

theorem locate_step (h : LeadsTo tree path folder) (hname : FitsIn path name) :
    tree.locate (path.step name) = .ok (tree.targetAt (folder ++ [name])) :=
  locate_eq_ok.2 ⟨hname.1, (follow_pathStep h name).trans (follow_last h.entry? hname.2)⟩

theorem fitsIn_of_locate (h : LeadsTo tree path folder) (hup : name ≠ Path.up)
    (hlocate : tree.locate (path.step name) = .ok target) : FitsIn path name := by
  obtain ⟨hfits, hfollow⟩ := locate_eq_ok.1 hlocate
  rw [follow_pathStep h] at hfollow
  obtain ⟨-, ⟨he, -⟩ | ⟨hname, -⟩ | ⟨hname, -⟩⟩ := follow_cons_eq_ok hfollow
  · exact absurd he hup
  · exact ⟨hfits, hname⟩
  · exact ⟨hfits, hname⟩

/-- Two trees that hold the same at the places of some steps from a folder hold the same where a
    path to the folder and the steps lead. -/
theorem locate_congr (h : LeadsTo tree path folder) (h' : LeadsTo tree' path folder)
    {steps : List Text} (hup : Path.up ∉ steps)
    (hsame : ∀ front, front <+: steps →
      tree'.entry? (folder ++ front) = tree.entry? (folder ++ front)) :
    tree'.locate { path with steps := path.steps ++ steps }
      = tree.locate { path with steps := path.steps ++ steps } := by
  unfold locate
  simp only [follow_append h, follow_append h', follow_congr hup hsame]

/-! ## Folders -/

theorem folder?_eq_some :
    tree.folder? path = .ok (some folder) ↔ Fits path ∧ LeadsTo tree path folder := by
  rw [LeadsTo, ← locate_eq_ok]
  unfold folder? status
  constructor
  · intro h
    split at h
    · next entry hlocate =>
        cases entry with
        | folder =>
            rw [hlocate, Option.some.inj (Except.ok.inj h)]
        | file content => exact nomatch (show Except.ok none = Except.ok (some folder) from h)
    · exact nomatch (show Except.ok none = Except.ok (some folder) from h)
    · exact nomatch h
    · exact nomatch (show Except.ok none = Except.ok (some folder) from h)
  · intro h
    rw [h]
    rfl

theorem namesAt_of_leadsTo (hfits : Fits path) (h : LeadsTo tree path folder) :
    tree.namesAt path = .ok (Text.sort (tree.children folder)) := by
  rw [namesAt, locate_eq_ok.2 ⟨hfits, h⟩, ← names_eq]
  rfl

/-- A folder that is there is not made again. -/
theorem makeFolders_of_leadsTo (h : LeadsTo tree path folder) {made : Except FileFault Unit}
    (hmade : tree.makeFolders path = (tree', made)) : tree' = tree := by
  unfold makeFolders at hmade
  cases hback : path.steps.reverse with
  | nil =>
      rw [hback] at hmade
      exact (Prod.mk.inj hmade).1.symm
  | cons name back =>
      have hpath : (⟨path.anchor, (name :: back).reverse⟩ : Path) = path := by
        rw [← hback, List.reverse_reverse]
      have hmake : ∃ fault, tree.makeFolder path = .error fault ∧ fault ≠ .notFound := by
        unfold makeFolder
        cases hlocate : tree.locate path with
        | ok target =>
            obtain ⟨-, hfollow⟩ := locate_eq_ok.1 hlocate
            rw [Except.ok.inj (hfollow.symm.trans h)]
            exact ⟨.alreadyThere, rfl, by decide⟩
        | error fault =>
            refine ⟨fault, rfl, ?_⟩
            rintro rfl
            unfold locate at hlocate
            split at hlocate
            · exact nomatch hlocate
            · split at hlocate
              · exact nomatch hlocate
              · exact nomatch hlocate.symm.trans h
      obtain ⟨fault, hmake, hfault⟩ := hmake
      rw [hback, makeFoldersBack] at hmade
      simp only [hpath, hmake] at hmade
      exact (Prod.mk.inj hmade).1.symm

/-! ## Files -/

/-- The content of the file at a place; where there is no file, nothing. -/
def contentAt (tree : Tree) (place : Place) : Bytes :=
  match tree.entry? place with
  | some (.file content) => content
  | _ => []

theorem write_step_eq_ok {content : Bytes → Bytes} (h : LeadsTo tree path folder)
    (hup : name ≠ Path.up) (hwrite : tree.write (path.step name) content = .ok tree') :
    FitsIn path name ∧ tree.entry? (folder ++ [name]) ≠ some .folder
      ∧ tree' = tree.put (folder ++ [name]) (.file (content (tree.contentAt (folder ++ [name])))) := by
  unfold write at hwrite
  cases hlocate : tree.locate (path.step name) with
  | error fault =>
      rw [hlocate] at hwrite
      exact nomatch hwrite
  | ok target =>
      have hname := fitsIn_of_locate h hup hlocate
      obtain rfl := Except.ok.inj (hlocate.symm.trans (locate_step h hname))
      rw [hlocate] at hwrite
      refine ⟨hname, ?_⟩
      unfold contentAt
      cases he : tree.entry? (folder ++ [name]) with
      | none =>
          rw [targetAt_of_none he] at hwrite
          exact ⟨nofun, (Except.ok.inj hwrite).symm⟩
      | some entry =>
          rw [targetAt_of_some he] at hwrite
          cases entry with
          | folder => exact nomatch hwrite
          | file old => exact ⟨nofun, (Except.ok.inj hwrite).symm⟩

theorem read_step {content : Bytes} (h : LeadsTo tree path folder) (hname : FitsIn path name)
    (he : tree.entry? (folder ++ [name]) = some (.file content)) :
    tree.read (path.step name) = .ok content := by
  unfold read
  rw [locate_step h hname, targetAt_of_some he]
  rfl

end ApiScan.Tree

/-! ## Files that are read

A path gives a content exactly if it leads to the file with the content, and a file in a folder is
read through the path of the folder. -/

namespace ApiScan.Tree

variable {tree : Tree} {path : Path} {folder place : Place} {name : Text} {content : Bytes}

theorem read_eq_ok_iff :
    tree.read path = .ok content ↔ ∃ place, tree.locate path = .ok (.present place (.file content)) := by
  unfold read
  cases tree.locate path with
  | error fault => exact ⟨fun h => (nomatch h), fun ⟨_, h⟩ => (nomatch h)⟩
  | ok target =>
      rcases target with ⟨place, folder | found⟩ | place
      · exact ⟨fun h => (nomatch h), fun ⟨_, h⟩ => (nomatch h)⟩
      · constructor
        · intro h
          rw [Except.ok.inj h]
          exact ⟨place, rfl⟩
        · rintro ⟨_, h⟩
          obtain ⟨-, hfile⟩ := Target.present.inj (Except.ok.inj h)
          exact congrArg Except.ok (Entry.file.inj hfile)
      · exact ⟨fun h => (nomatch h), fun ⟨_, h⟩ => (nomatch h)⟩

/-- A file right inside a folder is read through the path of the folder. -/
theorem read_step_eq_ok_iff (h : LeadsTo tree path folder) (hup : name ≠ Path.up) :
    tree.read (path.step name) = .ok content ↔
      FitsIn path name ∧ tree.entry? (folder ++ [name]) = some (.file content) := by
  constructor
  · intro hread
    obtain ⟨place, hlocate⟩ := read_eq_ok_iff.1 hread
    have hname := fitsIn_of_locate h hup hlocate
    have htarget := Except.ok.inj (hlocate.symm.trans (locate_step h hname))
    refine ⟨hname, ?_⟩
    unfold targetAt at htarget
    split at htarget
    · next entry he => rw [he, (Target.present.inj htarget).2]
    · exact nomatch htarget
  · rintro ⟨hname, he⟩
    exact read_step h hname he

/-- A name in a folder reads the same in two trees that hold the same there. -/
theorem read_step_congr {tree' : Tree} (h : LeadsTo tree path folder)
    (h' : LeadsTo tree' path folder) (hup : name ≠ Path.up)
    (hsame : tree'.entry? (folder ++ [name]) = tree.entry? (folder ++ [name])) :
    tree'.read (path.step name) = tree.read (path.step name) := by
  have hlocate : tree'.locate (path.step name) = tree.locate (path.step name) := by
    refine locate_congr h h' (by simpa using Ne.symm hup) fun front hfront => ?_
    rcases List.prefix_cons_iff.1 hfront with rfl | ⟨rest, rfl, hrest⟩
    · rw [List.append_nil, h.entry?, h'.entry?]
    · rw [List.prefix_nil.1 hrest]
      exact hsame
  unfold read
  rw [hlocate]

theorem follow_ne_nulInPath {here : Place} {steps : List Text} :
    follow tree here steps ≠ .error .nulInPath := by
  induction steps generalizing here with
  | nil =>
      rw [follow]
      split <;> simp
  | cons name more ih =>
      rw [follow]
      split
      · simp
      · simp
      · split
        · exact ih
        · split
          · simp
          · split
            · simp
            · exact ih

/-- A path is refused for a NUL exactly if one stands in it. -/
theorem read_eq_nulInPath_iff :
    tree.read path = .error .nulInPath ↔
      (path.steps.any fun step => step.contains '\x00') = true := by
  have hlocate : tree.locate path = .error .nulInPath ↔
      (path.steps.any fun step => step.contains '\x00') = true := by
    unfold locate
    split
    · next h => exact iff_of_true rfl h
    · next h =>
        refine iff_of_false ?_ h
        split
        · nofun
        · exact follow_ne_nulInPath
  rw [← hlocate]
  unfold read
  cases tree.locate path with
  | error fault => exact ⟨fun h => congrArg Except.error (Except.error.inj h),
      fun h => congrArg Except.error (Except.error.inj h)⟩
  | ok target =>
      rcases target with ⟨place, folder | found⟩ | place <;>
        exact ⟨fun h => (nomatch h), fun h => (nomatch h)⟩

end ApiScan.Tree
