import Crosswalk.Proofs.Mapping.Protocol
import Crosswalk.Proofs.Mapping.Registry

/-!
# What is registered, and for which function

A function is read for one specification at most, and the specification says which function
that was. Functions differ in the positions they claim, because a valid program has each at
the position it claims. So the registry has at most one specification of a function, and
finds it, in whatever order it keeps them.
-/

namespace Crosswalk

namespace Program

variable {p : Program} {settings : Settings} {registry : Registry} {id : FunctionId}
  {spec : MappingSpec} {fs : List Func} {specs : List MappingSpec}

/-- A specification says which function it was read of. -/
theorem function_of_interpret (h : p.validate = .ok ())
    (hspec : p.interpret settings id = .ok (some spec)) : spec.function = id := by
  obtain ⟨f, r, hf, -, -, hfunction, haccepts⟩ := exists_accepts_of_interpret h hspec
  cases haccepts with
  | mk hopens hfirst hrest hshown =>
    cases hfirst with
    | mk hs hd hgives =>
      rw [Reading.foldl_apply_eq]
      exact (congrArg Func.id hfunction).trans ((validate_eq_ok_iff.mp h).functionIds id f hf)

/-- **The functions that specifications were read of** are listed in the order in which they
were read. -/
theorem sublist_of_specsOf (h : p.validate = .ok ()) (hspecs : p.specsOf settings fs = .ok specs) :
    (specs.map MappingSpec.function).Sublist (fs.map Func.id) := by
  induction fs generalizing specs with
  | nil =>
    obtain rfl := Except.ok.inj hspecs
    exact .slnil
  | cons f fs ih =>
    rw [specsOf] at hspecs
    split at hspecs
    · obtain ⟨found, hfound, hspecs⟩ := bind_eq_ok_iff.mp hspecs
      obtain ⟨others, hothers, hspecs⟩ := bind_eq_ok_iff.mp hspecs
      obtain rfl := Except.ok.inj hspecs
      cases found with
      | none => exact .cons _ (ih hothers)
      | some spec =>
        show (spec.function :: others.map MappingSpec.function).Sublist _
        rw [function_of_interpret h hfound]
        exact .cons_cons _ (ih hothers)
    · exact .cons _ (ih hspecs)

/-- No two functions of a valid program claim one position. -/
theorem nodup_functionIds (hp : p.Sound) : (p.functions.toList.map Func.id).Nodup := by
  have hids : p.functions.toList.map Func.id
      = (List.range p.functions.size).map FunctionId.mk := by
    refine List.ext_getElem (by simp) (fun i hi hi' => ?_)
    rw [List.getElem_map, List.getElem_map, List.getElem_range, Array.getElem_toList]
    exact hp.functionIds ⟨i⟩ _ (Array.getElem?_eq_getElem (by simpa using hi))
  rw [hids]
  exact List.nodup_range.map (fun _ _ h => congrArg FunctionId.index h)

/-- A registry has what was read, in the order of the names. -/
theorem exists_specsOf_of_collect (hcollect : p.collect settings = .ok registry) :
    ∃ specs, p.specsOf settings p.functions.toList = .ok specs ∧ registry.specs.Perm specs ∧
      registry.specs.Pairwise (fun s s' => s.comesBefore s' = true) := by
  obtain ⟨specs, hspecs, hcollect⟩ := bind_eq_ok_iff.mp hcollect
  obtain rfl := Except.ok.inj hcollect
  exact ⟨specs, hspecs, Registry.perm_ofList specs, Registry.pairwise_ofList specs⟩

/-- **No function is registered twice.** -/
theorem nodup_registry (h : p.validate = .ok ()) (hcollect : p.collect settings = .ok registry) :
    (registry.specs.map MappingSpec.function).Nodup := by
  obtain ⟨specs, hspecs, hperm, -⟩ := exists_specsOf_of_collect hcollect
  refine (hperm.map MappingSpec.function).nodup_iff.mpr ?_
  exact (nodup_functionIds (validate_eq_ok_iff.mp h)).sublist (sublist_of_specsOf h hspecs)

/-- **The registry has the specification of a function exactly if one was read of it**, and it
is that one. -/
theorem get?_registry_iff (h : p.validate = .ok ()) (hcollect : p.collect settings = .ok registry) :
    registry.get? id = some spec ↔ ∃ f, p.function? id = some f ∧ p.isCandidate f = true ∧
      p.interpret settings id = .ok (some spec) := by
  have hp := validate_eq_ok_iff.mp h
  rw [Registry.get?_eq_some_iff (nodup_registry h hcollect)]
  constructor
  · rintro ⟨hmem, rfl⟩
    obtain ⟨f, hf, hcandidate, hspec⟩ := exists_of_mem_registry hcollect hmem
    rw [function_of_interpret h hspec]
    exact ⟨f, function?_of_mem hp hf, hcandidate, hspec⟩
  · rintro ⟨f, hf, hcandidate, hspec⟩
    obtain rfl := hp.functionIds id f hf
    have hmem := mem_registry_of_interpret hcollect (Array.mem_of_getElem? hf) hcandidate hspec
    exact ⟨hmem, function_of_interpret h hspec⟩

end Program

end Crosswalk
