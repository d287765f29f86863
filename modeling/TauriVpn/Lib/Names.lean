import Mathlib.Tactic

/-! Names in a list: an element is found by the name it carries. Where the names are
pairwise distinct a name is carried by one element at most. -/

namespace Names

variable {α ν : Type*} [DecidableEq ν] (nameOf : α → Option ν)

/-- The elements that carry a name. -/
def named (xs : List α) (name : ν) : List α := xs.filter fun x => nameOf x = some name

variable {nameOf} {xs : List α} {x : α} {name : ν}

theorem mem_named : x ∈ named nameOf xs name ↔ x ∈ xs ∧ nameOf x = some name := by
  simp [named]

/-- With pairwise distinct names an element is the only one of its name. -/
theorem named_eq_singleton (hnodup : (xs.map nameOf).Nodup) (hx : x ∈ xs) (hname : nameOf x = some name) :
    named nameOf xs name = [x] := by
  unfold named
  induction xs with
  | nil => cases hx
  | cons y ys ih =>
    obtain ⟨hy, hys⟩ := List.nodup_cons.mp hnodup
    rcases List.mem_cons.mp hx with rfl | hmem
    · have hrest : ys.filter (fun z => nameOf z = some name) = [] := by
        rw [List.filter_eq_nil_iff]
        intro z hz hzname
        refine hy (List.mem_map.mpr ⟨z, hz, ?_⟩)
        rw [of_decide_eq_true hzname, hname]
      rw [List.filter_cons_of_pos (by simpa using hname), hrest]
    · have hyname : nameOf y ≠ some name := by
        intro heq
        exact hy (List.mem_map.mpr ⟨x, hmem, hname.trans heq.symm⟩)
      rw [List.filter_cons_of_neg (by simpa using hyname), ih hys hmem]

end Names
