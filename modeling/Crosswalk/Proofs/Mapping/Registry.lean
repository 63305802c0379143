import Crosswalk.Mapping.Registry
import Crosswalk.Proofs.Ordered
import Mathlib.Data.List.Nodup

/-!
# Finding a specification in the registry

A registry is asked for the specification of a function, and answers the one at the position
that its map knows for the function. The map is made of the specifications as they stand after
they were sorted, so every position it knows is one of them, of a specification of just that
function (`Registry.exists_at_position`), and a function that has a specification has a position.
Of several specifications of one function the map knows the last, as an insertion replaces what
was there (`Registry.get?_eq`).

The order that the specifications stand in is one of names. Specifications with different names
are in that order wherever they were declared.
-/

namespace Crosswalk

namespace MappingSpec

variable {a b c : MappingSpec}

theorem comesBefore_iff : a.comesBefore b = true ↔
    if a.name = b.name then a.qualifiedName ≤ b.qualifiedName else a.name ≤ b.name := by
  unfold comesBefore Text.precedes
  split <;> exact decide_eq_true_iff

theorem comesBefore_total (a b : MappingSpec) : (a.comesBefore b || b.comesBefore a) = true := by
  rw [Bool.or_eq_true, comesBefore_iff, comesBefore_iff]
  by_cases h : a.name = b.name
  · rw [if_pos h, if_pos h.symm]
    exact String.le_total _ _
  · rw [if_neg h, if_neg (Ne.symm h)]
    exact String.le_total _ _

theorem comesBefore_trans (h : a.comesBefore b = true) (h' : b.comesBefore c = true) :
    a.comesBefore c = true := by
  rw [comesBefore_iff] at *
  by_cases hab : a.name = b.name
  · by_cases hbc : b.name = c.name
    · rw [if_pos hab] at h
      rw [if_pos hbc] at h'
      rw [if_pos (hab.trans hbc)]
      exact String.le_trans h h'
    · rwa [hab, if_neg hbc] at *
  · by_cases hbc : b.name = c.name
    · rwa [← hbc, if_neg hab] at *
    · rw [if_neg hab] at h
      rw [if_neg hbc] at h'
      have hac : a.name ≠ c.name := fun hac => hab (String.le_antisymm h (hac ▸ h'))
      rw [if_neg hac]
      exact String.le_trans h h'

/-- Only specifications with the same names may stand in either order. -/
theorem names_eq_of_comesBefore (h : a.comesBefore b = true) (h' : b.comesBefore a = true) :
    (a.name, a.qualifiedName) = (b.name, b.qualifiedName) := by
  rw [comesBefore_iff] at *
  by_cases hab : a.name = b.name
  · rw [if_pos hab] at h
    rw [if_pos hab.symm] at h'
    rw [hab, String.le_antisymm h h']
  · rw [if_neg hab] at h
    rw [if_neg (Ne.symm hab)] at h'
    exact absurd (String.le_antisymm h h') hab

end MappingSpec

namespace Registry

variable {registry : Registry} {id : FunctionId} {spec : MappingSpec} {i : Nat}

/-! ## Order -/

/-- **A registry keeps its specifications in the order of their names.** -/
theorem pairwise_ofList (specs : List MappingSpec) :
    (ofList specs).specs.Pairwise (fun a b => a.comesBefore b = true) := by
  refine List.pairwise_mergeSort (fun a b c => ?_) MappingSpec.comesBefore_total specs
  exact MappingSpec.comesBefore_trans

theorem perm_ofList (specs : List MappingSpec) : (ofList specs).specs.Perm specs :=
  List.mergeSort_perm specs _

/-- Specifications that stand in their order are kept as they stand. -/
theorem ofList_eq_ofSorted {specs : List MappingSpec}
    (h : specs.Pairwise (fun a b => a.comesBefore b = true)) : ofList specs = ofSorted specs :=
  congrArg ofSorted (List.mergeSort_of_pairwise h)

/-! ## Positions -/

/-- What the map knows of a function: the last position with a specification of it. -/
theorem get?_positions (registry : Registry) (id : FunctionId) :
    registry.positions.get? id
      = (registry.specs.zipIdx.reverse.find? (fun e => e.1.function = id)).map Prod.snd := by
  rw [registry.positions_eq, positionsOf, OrderedMap.get?_ofList, ← List.map_reverse,
    List.find?_map, Option.map_map]
  rfl

/-- **Every position that the map knows is one of the sorted specifications**, and there stands a
specification of the function that was asked for. -/
theorem exists_at_position (h : registry.positions.get? id = some i) :
    ∃ spec, registry.specs[i]? = some spec ∧ spec.function = id := by
  rw [get?_positions, Option.map_eq_some_iff] at h
  obtain ⟨⟨spec, j⟩, hfound, rfl⟩ := h
  have hmem := List.mem_reverse.mp (List.mem_of_find?_eq_some hfound)
  have hasked := List.find?_some hfound
  exact ⟨spec, List.mk_mem_zipIdx_iff_getElem?.mp hmem, of_decide_eq_true hasked⟩

/-- **The registry answers the last specification of a function** among the sorted ones. -/
theorem get?_eq (registry : Registry) (id : FunctionId) :
    registry.get? id = registry.specs.reverse.find? (fun s => s.function = id) := by
  have hspecs : registry.specs.reverse = registry.specs.zipIdx.reverse.map Prod.fst := by
    rw [List.map_reverse, List.zipIdx_map_fst]
  rw [hspecs, List.find?_map, get?, get?_positions]
  cases hfound : registry.specs.zipIdx.reverse.find? (fun e => e.1.function = id) with
  | none => exact (congrArg (Option.map Prod.fst) hfound).symm
  | some e =>
    have hmem := List.mem_reverse.mp (List.mem_of_find?_eq_some hfound)
    exact (List.mk_mem_zipIdx_iff_getElem?.mp hmem).trans
      (congrArg (Option.map Prod.fst) hfound).symm

theorem mem_of_get? (h : registry.get? id = some spec) : spec ∈ registry.specs := by
  rw [get?_eq] at h
  exact List.mem_reverse.mp (List.mem_of_find?_eq_some h)

theorem function_of_get? (h : registry.get? id = some spec) : spec.function = id := by
  rw [get?_eq] at h
  have hasked := List.find?_some h
  exact of_decide_eq_true hasked

/-! ## Without rivals -/

/-- **A registry without rivals** finds a specification exactly if it has it. -/
theorem get?_eq_some_iff (h : (registry.specs.map MappingSpec.function).Nodup) :
    registry.get? id = some spec ↔ spec ∈ registry.specs ∧ spec.function = id := by
  constructor
  · exact fun hfound => ⟨mem_of_get? hfound, function_of_get? hfound⟩
  · rintro ⟨hspec, rfl⟩
    have hsome : (registry.get? spec.function).isSome := by
      rw [get?_eq]
      exact List.find?_isSome.mpr ⟨spec, List.mem_reverse.mpr hspec, decide_eq_true rfl⟩
    obtain ⟨other, hother⟩ := Option.isSome_iff_exists.mp hsome
    rw [hother, List.inj_on_of_nodup_map h (mem_of_get? hother) hspec (function_of_get? hother)]

/-- Then its map knows where each specification stands. -/
theorem get?_positions_eq_some_iff (h : (registry.specs.map MappingSpec.function).Nodup) :
    registry.positions.get? id = some i ↔
      ∃ spec, registry.specs[i]? = some spec ∧ spec.function = id := by
  constructor
  · exact exists_at_position
  · rintro ⟨spec, hspec, rfl⟩
    have hmem := List.mem_of_getElem? hspec
    have hfound := (get?_eq_some_iff h).mpr ⟨hmem, rfl⟩
    obtain ⟨j, hj, hstands⟩ := Option.bind_eq_some_iff.mp hfound
    have hij : i = j := by
      refine (List.getElem?_inj ?_ (h.of_map _)).mp (hspec.trans hstands.symm)
      exact (List.getElem?_eq_some_iff.mp hspec).1
    exact hij ▸ hj

end Registry

end Crosswalk
