import Mathlib.Data.List.Induction
import WheelInstaller.Ordered

/-! Putting a list in order keeps what it holds: nothing is added, and of elements that compare equal
one stays. What a list in order holds is all there is to it. -/

namespace WheelInstaller.Ordered

variable {α : Type} {order : α → α → Ordering}

theorem mem_of_mem_insert {element other : α} {elements : List α} (member : other ∈ insert order element elements) :
    other = element ∨ other ∈ elements := by
  induction elements with
  | nil => simpa [insert] using member
  | cons first rest ih =>
    unfold insert at member
    split at member
    next => simpa using member
    next => exact .inr member
    next =>
      rcases List.mem_cons.mp member with rfl | member
      · exact .inr List.mem_cons_self
      · exact (ih member).imp_right (List.mem_cons_of_mem _)

theorem mem_insert_of_mem {element other : α} {elements : List α} (member : other ∈ elements) :
    other ∈ insert order element elements := by
  induction elements with
  | nil => simp at member
  | cons first rest ih =>
    unfold insert
    split
    next => exact List.mem_cons_of_mem _ member
    next => exact member
    next =>
      rcases List.mem_cons.mp member with rfl | member
      · exact List.mem_cons_self
      · exact List.mem_cons_of_mem _ (ih member)

/-- What is added is there afterwards, or something that compares equal to it was there already. -/
theorem exists_mem_insert [Std.OrientedCmp order] (element : α) (elements : List α) :
    ∃ kept ∈ insert order element elements, order kept element = .eq := by
  induction elements with
  | nil => exact ⟨element, List.mem_singleton_self _, Std.ReflCmp.compare_self⟩
  | cons first rest ih =>
    unfold insert
    split
    next => exact ⟨element, List.mem_cons_self, Std.ReflCmp.compare_self⟩
    next equal => exact ⟨first, List.mem_cons_self, Std.OrientedCmp.eq_symm equal⟩
    next =>
      obtain ⟨kept, inside, same⟩ := ih
      exact ⟨kept, List.mem_cons_of_mem _ inside, same⟩

theorem mem_insert [Std.LawfulEqCmp order] {element other : α} {elements : List α} :
    other ∈ insert order element elements ↔ other = element ∨ other ∈ elements := by
  induction elements with
  | nil => simp [insert]
  | cons first rest ih =>
    unfold insert
    split
    next => simp
    next equal =>
      cases Std.LawfulEqCmp.eq_of_compare equal
      simp
    next =>
      rw [List.mem_cons, ih, List.mem_cons]
      tauto

theorem ofList_append_singleton (elements : List α) (element : α) :
    ofList order (elements ++ [element]) = insert order element (ofList order elements) := by
  simp [ofList]

theorem mem_of_mem_ofList {element : α} {elements : List α} (member : element ∈ ofList order elements) :
    element ∈ elements := by
  induction elements using List.reverseRecOn with
  | nil => exact member
  | append_singleton elements last ih =>
    rw [ofList_append_singleton] at member
    rcases mem_of_mem_insert member with rfl | member
    · simp
    · exact List.mem_append_left _ (ih member)

theorem exists_of_mem_ofList (order : α → α → Ordering) [Std.OrientedCmp order] {element : α} {elements : List α}
    (member : element ∈ elements) : ∃ kept ∈ ofList order elements, order kept element = .eq := by
  induction elements using List.reverseRecOn with
  | nil => simp at member
  | append_singleton elements last ih =>
    rw [ofList_append_singleton]
    rcases List.mem_append.mp member with member | member
    · obtain ⟨kept, inside, same⟩ := ih member
      exact ⟨kept, mem_insert_of_mem inside, same⟩
    · rw [List.mem_singleton.mp member]
      exact exists_mem_insert last _

@[simp] theorem mem_ofList [Std.LawfulEqCmp order] {element : α} {elements : List α} :
    element ∈ ofList order elements ↔ element ∈ elements := by
  induction elements using List.reverseRecOn with
  | nil => simp [ofList]
  | append_singleton elements last ih => simp [ofList_append_singleton, mem_insert, ih, or_comm]

section Ascending

variable [Std.TransCmp order]

theorem ascending_insert {element : α} {elements : List α}
    (ascending : elements.Pairwise fun first second => order first second = .lt) :
    (insert order element elements).Pairwise fun first second => order first second = .lt := by
  induction elements with
  | nil => simp [insert]
  | cons first rest ih =>
    obtain ⟨least, others⟩ := List.pairwise_cons.mp ascending
    unfold insert
    split
    next smaller =>
      refine List.pairwise_cons.mpr ⟨List.forall_mem_cons.mpr ⟨smaller, fun other member => ?_⟩, ascending⟩
      exact Std.TransCmp.lt_trans smaller (least other member)
    next => exact ascending
    next greater =>
      refine List.pairwise_cons.mpr ⟨fun other member => ?_, ih others⟩
      rcases mem_of_mem_insert member with rfl | member
      · exact Std.OrientedCmp.lt_of_gt greater
      · exact least other member

theorem eq_of_ascending {first second : List α}
    (ascending : first.Pairwise fun first second => order first second = .lt)
    (also : second.Pairwise fun first second => order first second = .lt)
    (same : ∀ element, element ∈ first ↔ element ∈ second) :
    first = second := by
  have distinct {elements : List α} (ascending : elements.Pairwise fun first second => order first second = .lt) :
    elements.Nodup :=
    ascending.imp fun {one other} less equal => by
      subst equal
      exact absurd less (by simp [Std.ReflCmp.compare_self])
  refine ((List.perm_ext_iff_of_nodup (distinct ascending) (distinct also)).mpr same).eq_of_pairwise ?_ ascending also
  intro one other _ _ less greater
  rw [Std.OrientedCmp.gt_of_lt greater] at less
  cases less

/-- Each element is less than all that follow it, so none is there twice. -/
theorem ascending_ofList (elements : List α) :
    (ofList order elements).Pairwise fun first second => order first second = .lt := by
  induction elements using List.reverseRecOn with
  | nil => exact .nil
  | append_singleton elements last ih =>
    rw [ofList_append_singleton]
    exact ascending_insert ih

end Ascending

end WheelInstaller.Ordered
