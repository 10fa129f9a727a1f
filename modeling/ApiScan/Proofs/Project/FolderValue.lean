import ApiScan.Project.Sources
import ApiScan.Proofs.Route.MainFile.Loading
import ApiScan.Proofs.Tree.WellFormed

set_option autoImplicit false

/-! # Folder values of the configuration

A folder of the configuration is used in two ways: its files are listed, and its name is looked for in
the main file. Both forms of the value lead to the same folder, because they spell the same steps:
those of the value with forward slashes and without white space around it. What the value leads to is
below the root exactly if none of these is a step up. -/

namespace ApiScan

namespace Path

variable {root : Path} {value : Text}

/-- A path goes on from the root, by names only. -/
def Below (root path : Path) : Prop :=
  ∃ steps, path = { root with steps := root.steps ++ steps } ∧ ∀ step ∈ steps, Tree.IsName step

theorem below_under_iff :
    Below root (root.under value) ↔ up ∉ segments (Text.strip (slashed value)) := by
  rw [under_eq, stepsUnder_eq]
  constructor
  · rintro ⟨steps, hsteps, hnames⟩ hup
    obtain rfl := List.append_cancel_left (congrArg Path.steps hsteps)
    exact (hnames up (mem_stepsOf.2 ⟨hup, by decide, by decide⟩)).2.2.2 rfl
  · intro hup
    refine ⟨_, rfl, fun step hstep => ?_⟩
    obtain ⟨hsegment, hne, hdot⟩ := mem_stepsOf.1 hstep
    refine ⟨not_mem_slash_of_mem_stepsOf hstep, hne, hdot, ?_⟩
    rintro rfl
    exact hup hsegment

end Path

namespace Project

open ApiScan.Path

/-- **The two forms of a folder value lead to the same folder**: the value under the root, and the root
    followed by the value as it is looked for in the main file. So the router files are listed in the
    folder that is looked for. It is the root itself exactly if no segment means anything. Whatever
    stands in front, the path starts with the root, and it goes on by names only exactly if the trimmed
    value has no step up. -/
theorem under_eq_join_normalizeFolder (root : Path) (value : Text) :
    root.under value = root.join (Mount.normalizeFolder value)
      ∧ routerFiles root value = (do
          let files ← filesOf "routes" (root.join (Mount.normalizeFolder value)) fun _ => true
          return files.map Path.name)
      ∧ (root.under value = root ↔
          ∀ segment ∈ segments (Mount.normalizeFolder value), segment = [] ∨ segment = ['.'])
      ∧ (∃ steps, root.under value = { root with steps := root.steps ++ steps })
      ∧ (Below root (root.under value) ↔ up ∉ segments (Text.strip (slashed value))) := by
  have hjoin : root.join (Mount.normalizeFolder value)
      = { root with steps := root.steps ++ stepsOf (Mount.normalizeFolder value) } :=
    join_eq root (Mount.head?_normalizeFolder value)
  have hsteps : stepsOf (Mount.normalizeFolder value) = stepsOf (Text.strip (slashed value)) := by
    rw [Mount.normalizeFolder, stepsOf_dropEndWhile_slash, stepsOf_dropWhile_slash,
      stepsOf_dropDotSlash]
    rfl
  have hunder : root.under value = root.join (Mount.normalizeFolder value) := by
    rw [hjoin, hsteps, under_eq, stepsUnder_eq]
  refine ⟨hunder, by rw [← hunder]; rfl, ?_, ⟨_, under_eq root value⟩, below_under_iff⟩
  rw [hunder, hjoin, ← stepsOf_eq_nil_iff]
  constructor
  · exact fun h => List.append_right_eq_self.1 (congrArg Path.steps h)
  · intro h
    rw [h, List.append_nil]

/-- White space around a step up hides it from the segments of the value, and is trimmed. -/
theorem not_below_of_blank_in_front :
    ¬ ∀ root value, up ∉ segments (slashed value) → Below root (root.under value) := by
  intro h
  have hbelow := h (Path.ofText "/shop/api".toList) " ..".toList (by decide)
  exact below_under_iff.1 hbelow (by decide)

end Project

end ApiScan
