import ApiScan.Proofs.Tree.Growth
import Mathlib.Data.List.Induction

set_option autoImplicit false

/-! # Making folders

Folders that are made along a path without steps up are the missing ones on the way to its place.
The tree grows by them and by nothing else, and afterwards the path leads to its place.

Writing files and making folders takes no folder away, along whatever steps, up or down. A folder
that was made is there afterwards, and making it once more is not refused. -/

namespace ApiScan.Tree

variable {tree tree' : Tree} {path : Path} {place here folder : Place} {steps : List Text}

/-! ## Single folders -/

theorem makeFolder_eq_ok (h : tree.makeFolder path = .ok tree') :
    Fits path ∧ ∃ place, follow tree [] path.steps = .ok (.vacant place)
      ∧ tree' = tree.put place .folder := by
  unfold makeFolder at h
  cases hlocate : tree.locate path with
  | error fault =>
      rw [hlocate] at h
      exact nomatch h
  | ok target =>
      rw [hlocate] at h
      obtain ⟨hfits, hfollow⟩ := locate_eq_ok.1 hlocate
      cases target with
      | present place entry => exact nomatch h
      | vacant place => exact ⟨hfits, place, hfollow, (Except.ok.inj h).symm⟩

theorem acceptFolder_eq_ok {fault : FileFault} (h : tree.acceptFolder path fault = .ok ()) :
    Fits path ∧ ∃ place, LeadsTo tree path place := by
  unfold acceptFolder at h
  cases hfolder : tree.folder? path with
  | error fault =>
      rw [hfolder] at h
      exact nomatch h
  | ok place? =>
      rw [hfolder] at h
      cases place? with
      | none => exact nomatch h
      | some place =>
          obtain ⟨hfits, hleads⟩ := folder?_eq_some.1 hfolder
          exact ⟨hfits, place, hleads⟩

/-! ## Folders on the way -/

/-- A folder on the way from one place to another. -/
def OnTheWay (folder place : Place) (between : Place) (entry : Entry) : Prop :=
  folder <+: between ∧ between <+: place ∧ entry = .folder

/-- A single folder that is made along a path stands at its place. -/
theorem makeFolder_step {name : Text} (h : LeadsTo tree path folder) (hup : Path.up ∉ steps ++ [name])
    (hmake : tree.makeFolder { path with steps := path.steps ++ (steps ++ [name]) } = .ok tree') :
    LeadsTo tree' { path with steps := path.steps ++ (steps ++ [name]) } (folder ++ (steps ++ [name]))
      ∧ Fits { path with steps := path.steps ++ (steps ++ [name]) }
      ∧ Grows (OnTheWay folder (folder ++ (steps ++ [name]))) tree tree' := by
  obtain ⟨hfits, place, hfollow, rfl⟩ := makeFolder_eq_ok hmake
  simp only [follow_append h] at hfollow
  obtain ⟨parent, hparent⟩ := exists_folder_of_follow_append hfollow (List.cons_ne_nil name [])
  have hplace := follow_of_not_up hup hfollow
  unfold targetAt at hplace
  split at hplace
  · exact nomatch hplace
  · next hnone =>
      obtain rfl := Target.vacant.inj hplace
      have hne : folder ++ (steps ++ [name]) ≠ [] := by simp
      have hgrows : Grows (OnTheWay folder (folder ++ (steps ++ [name]))) tree
          (tree.put (folder ++ (steps ++ [name])) .folder) :=
        grows_put hne ⟨List.prefix_append _ _, List.prefix_rfl, rfl⟩ (Or.inl hnone)
      refine ⟨?_, hfits, hgrows⟩
      have hparent' := follow_of_keepsFolders hgrows.keepsFolders hparent
      have hstep : IsStep name := isStep_of_follow hup hfollow name (by simp)
      have hsteps : Path.up ∉ steps := fun hm => hup (List.mem_append_left _ hm)
      obtain rfl := place_eq_of_follow hsteps hparent
      unfold LeadsTo
      rw [follow_append (h.of_keepsFolders hgrows.keepsFolders), follow_append hparent',
        follow_last (entry?_of_follow hparent') hstep, List.append_assoc, targetAt_of_some]
      rw [entry?_put hne, if_pos rfl]

/-- **Folders that are made along steps are the missing ones on the way to the place of the path.** -/
theorem grows_of_makeFolders (h : LeadsTo tree path folder) (hfits : Fits path)
    (hup : Path.up ∉ steps)
    (hmake : tree.makeFolders { path with steps := path.steps ++ steps } = (tree', .ok ())) :
    LeadsTo tree' { path with steps := path.steps ++ steps } (folder ++ steps)
      ∧ Fits { path with steps := path.steps ++ steps }
      ∧ Grows (OnTheWay folder (folder ++ steps)) tree tree' := by
  induction steps using List.reverseRecOn generalizing tree' with
  | nil =>
      simp only [List.append_nil] at hmake ⊢
      obtain rfl := makeFolders_of_leadsTo h hmake
      exact ⟨h, hfits, Grows.refl⟩
  | append_singleton steps name ih =>
      have hsteps : Path.up ∉ steps := fun hm => hup (List.mem_append_left _ hm)
      have haccepted {made : Tree} {fault : FileFault} (hmade : LeadsTo made path folder)
          (haccept : made.acceptFolder { path with steps := path.steps ++ (steps ++ [name]) } fault
            = .ok ()) :
          LeadsTo made { path with steps := path.steps ++ (steps ++ [name]) }
              (folder ++ (steps ++ [name]))
            ∧ Fits { path with steps := path.steps ++ (steps ++ [name]) } := by
        obtain ⟨hfits, place, hplace⟩ := acceptFolder_eq_ok haccept
        obtain rfl := place_eq_of_follow hup ((follow_append hmade).symm.trans hplace)
        exact ⟨hplace, hfits⟩
      have hback : (path.steps ++ (steps ++ [name])).reverse = name :: (path.steps ++ steps).reverse := by
        simp
      have hpath : (⟨path.anchor, (name :: (path.steps ++ steps).reverse).reverse⟩ : Path)
          = { path with steps := path.steps ++ (steps ++ [name]) } := by
        simp
      unfold makeFolders at hmake
      simp only [hback, makeFoldersBack, hpath] at hmake
      split at hmake
      · next made hmade =>
          obtain ⟨rfl, -⟩ := Prod.mk.inj hmake
          exact makeFolder_step h hup hmade
      · split at hmake
        · cases (Prod.mk.inj hmake).2
        · next made hmade =>
            have hbefore := ih hsteps hmade
            obtain ⟨-, -, hgrows⟩ := hbefore
            have hgrows' : Grows (OnTheWay folder (folder ++ (steps ++ [name]))) tree made :=
              hgrows.mono fun _ _ h =>
                ⟨h.1, h.2.1.trans ⟨[name], List.append_assoc _ _ _⟩, h.2.2⟩
            have hroot := h.of_keepsFolders hgrows.keepsFolders
            split at hmake
            · next last hlast =>
                obtain ⟨rfl, -⟩ := Prod.mk.inj hmake
                obtain ⟨hleads, hfits, hlastgrows⟩ := makeFolder_step hroot hup hlast
                exact ⟨hleads, hfits, hgrows'.trans hlastgrows⟩
            · cases (Prod.mk.inj hmake).2
            · next fault _ _ =>
                obtain ⟨rfl, haccept⟩ := Prod.mk.inj hmake
                obtain ⟨hleads, hfits⟩ := haccepted hroot haccept
                exact ⟨hleads, hfits, hgrows'⟩
      · obtain ⟨rfl, haccept⟩ := Prod.mk.inj hmake
        obtain ⟨hleads, hfits⟩ := haccepted h haccept
        exact ⟨hleads, hfits, Grows.refl⟩

/-! ## Vacant places -/

/-- A vacant place is one step inside a folder on the way. -/
theorem follow_eq_vacant (h : follow tree here steps = .ok (.vacant place)) :
    ∃ front name parent, steps = front ++ [name]
      ∧ follow tree here front = .ok (.present parent .folder)
      ∧ IsStep name ∧ place = parent ++ [name] ∧ tree.entry? place = none := by
  induction steps generalizing here with
  | nil =>
      obtain ⟨hsome, ht⟩ := follow_nil_eq_ok h
      obtain ⟨entry, he⟩ := Option.isSome_iff_exists.1 hsome
      rw [targetAt_of_some he] at ht
      exact nomatch ht
  | cons name more ih =>
      obtain ⟨hfolder, ⟨rfl, hup⟩ | ⟨hname, rfl, hnone, ht⟩ | ⟨hname, hsome, hmore⟩⟩ :=
        follow_cons_eq_ok h
      · obtain ⟨front, last, parent, rfl, hfront, hrest⟩ := ih hup
        exact ⟨_ :: front, last, parent, rfl, (follow_up hfolder).trans hfront, hrest⟩
      · obtain rfl := Target.vacant.inj ht
        exact ⟨[], name, here, rfl, follow_nil hfolder, hname, rfl, hnone⟩
      · obtain ⟨front, last, parent, rfl, hfront, hrest⟩ := ih hmore
        exact ⟨name :: front, last, parent, rfl, (follow_step hfolder hname hsome).trans hfront,
          hrest⟩

theorem keepsFolders_put_vacant (h : follow tree here steps = .ok (.vacant place)) (entry : Entry) :
    KeepsFolders tree (tree.put place entry) := by
  obtain ⟨_, name, parent, -, -, -, rfl, hnone⟩ := follow_eq_vacant h
  exact keepsFolders_put (append_singleton_ne_nil parent name) (by simp [hnone]) entry

/-- A path to a vacant place leads there once a folder is put at the place. -/
theorem leadsTo_put_vacant (h : follow tree [] path.steps = .ok (.vacant place)) :
    LeadsTo (tree.put place .folder) path place := by
  have hkeeps := keepsFolders_put_vacant h .folder
  obtain ⟨front, name, parent, hsteps, hfront, hname, rfl, -⟩ := follow_eq_vacant h
  have hfront' := follow_of_keepsFolders hkeeps hfront
  unfold LeadsTo
  rw [hsteps, follow_append hfront', follow_last (entry?_of_follow hfront') hname,
    targetAt_of_some]
  rw [entry?_put (append_singleton_ne_nil parent name), if_pos rfl]

/-! ## Operations -/

/-- A vacant place is where its path leads as it is written. -/
theorem vacant_eq (h : follow tree [] path.steps = .ok (.vacant place)) :
    place = path.normalize.steps ∧ place ≠ [] ∧ tree.entry? place = none := by
  obtain ⟨front, name, parent, hsteps, hfront, hname, rfl, hnone⟩ := follow_eq_vacant h
  refine ⟨?_, append_singleton_ne_nil parent name, hnone⟩
  rw [Path.normalize, hsteps, List.foldl_append, ← place_of_follow hfront, List.foldl_cons,
    List.foldl_nil, Path.takeStep, if_neg hname.1]

/-- What is written stands where its path leads as it is written, and is made of what the file held
    before. -/
theorem write_eq_ok {content : Bytes → Bytes} (h : tree.write path content = .ok tree') :
    ∃ old? : Option Bytes, tree.entry? path.normalize.steps = old?.map .file
      ∧ path.normalize.steps ≠ []
      ∧ tree' = tree.put path.normalize.steps (.file (content (old?.getD []))) := by
  unfold write at h
  cases hlocate : tree.locate path with
  | error fault =>
      rw [hlocate] at h
      exact nomatch h
  | ok target =>
      rw [hlocate] at h
      obtain ⟨-, hfollow⟩ := locate_eq_ok.1 hlocate
      match target with
      | .vacant place =>
          obtain ⟨rfl, hne, hnone⟩ := vacant_eq hfollow
          exact ⟨none, hnone, hne, (Except.ok.inj h).symm⟩
      | .present place .folder => exact nomatch h
      | .present place (.file old) =>
          have he := entry?_of_follow hfollow
          obtain rfl : place = path.normalize.steps := place_of_follow hfollow
          refine ⟨some old, he, fun hnil => ?_, (Except.ok.inj h).symm⟩
          exact nomatch (hnil ▸ he : tree.entry? [] = some (.file old))

theorem keepsFolders_write {content : Bytes → Bytes} (h : tree.write path content = .ok tree') :
    KeepsFolders tree tree' := by
  obtain ⟨old?, hold, hne, rfl⟩ := write_eq_ok h
  refine keepsFolders_put hne (fun hfolder => ?_) _
  rw [hold] at hfolder
  cases old? with
  | none => exact nomatch hfolder
  | some old => exact nomatch hfolder

/-- **Folders that were made are there**, and no other folder is gone. -/
theorem leadsTo_of_makeFoldersBack {anchor : Text} {back : List Text}
    (h : makeFoldersBack anchor tree back = (tree', .ok ())) :
    KeepsFolders tree tree' ∧ ∃ place, LeadsTo tree' ⟨anchor, back.reverse⟩ place
      ∧ (back ≠ [] → Fits ⟨anchor, back.reverse⟩) := by
  have hmade {made made' : Tree} {path : Path} (hmake : made.makeFolder path = .ok made') :
      KeepsFolders made made' ∧ ∃ place, LeadsTo made' path place ∧ Fits path := by
    obtain ⟨hfits, place, hfollow, rfl⟩ := makeFolder_eq_ok hmake
    exact ⟨keepsFolders_put_vacant hfollow _, place, leadsTo_put_vacant hfollow, hfits⟩
  have haccepted {made : Tree} {path : Path} {fault : FileFault}
      (haccept : made.acceptFolder path fault = .ok ()) :
      ∃ place, LeadsTo made path place ∧ Fits path := by
    obtain ⟨hfits, place, hleads⟩ := acceptFolder_eq_ok haccept
    exact ⟨place, hleads, hfits⟩
  induction back generalizing tree' with
  | nil =>
      obtain ⟨rfl, -⟩ := Prod.mk.inj h
      exact ⟨fun _ hp => hp, [], rfl, fun hne => absurd rfl hne⟩
  | cons name back ih =>
      simp only [makeFoldersBack] at h
      split at h
      · next made hmake =>
          obtain ⟨rfl, -⟩ := Prod.mk.inj h
          obtain ⟨hkeeps, place, hleads, hfits⟩ := hmade hmake
          exact ⟨hkeeps, place, hleads, fun _ => hfits⟩
      · -- the folders on the way are made first
        split at h
        · cases (Prod.mk.inj h).2
        · next made hback =>
            obtain ⟨hkeeps, -⟩ := ih hback
            split at h
            · next hmake =>
                obtain ⟨rfl, -⟩ := Prod.mk.inj h
                obtain ⟨hlast, place, hleads, hfits⟩ := hmade hmake
                exact ⟨hkeeps.trans hlast, place, hleads, fun _ => hfits⟩
            · cases (Prod.mk.inj h).2
            · obtain ⟨rfl, haccept⟩ := Prod.mk.inj h
              obtain ⟨place, hleads, hfits⟩ := haccepted haccept
              exact ⟨hkeeps, place, hleads, fun _ => hfits⟩
      · obtain ⟨rfl, haccept⟩ := Prod.mk.inj h
        obtain ⟨place, hleads, hfits⟩ := haccepted haccept
        exact ⟨fun _ hp => hp, place, hleads, fun _ => hfits⟩

theorem leadsTo_of_makeFolders (h : tree.makeFolders path = (tree', .ok ())) :
    KeepsFolders tree tree' ∧ ∃ place, LeadsTo tree' path place ∧ (path.steps ≠ [] → Fits path) := by
  obtain ⟨hkeeps, place, hleads, hfits⟩ := leadsTo_of_makeFoldersBack h
  simp only [List.reverse_reverse, ne_eq, List.reverse_eq_nil_iff] at hleads hfits
  exact ⟨hkeeps, place, hleads, hfits⟩

/-- A folder that is there is made once more without a refusal. -/
theorem makeFolders_eq_ok (hfits : Fits path) (h : LeadsTo tree path place) :
    tree.makeFolders path = (tree, .ok ()) := by
  have hmake : tree.makeFolder path = .error .alreadyThere := by
    rw [makeFolder, locate_eq_ok.2 ⟨hfits, h⟩]
    rfl
  have haccept : tree.acceptFolder path .alreadyThere = .ok () := by
    rw [acceptFolder, folder?_eq_some.2 ⟨hfits, h⟩]
    rfl
  unfold makeFolders
  cases hback : path.steps.reverse with
  | nil => rfl
  | cons name back =>
      have hpath : (⟨path.anchor, (name :: back).reverse⟩ : Path) = path := by
        rw [← hback, List.reverse_reverse]
      simp only [makeFoldersBack, hpath, hmake, haccept]

end ApiScan.Tree
