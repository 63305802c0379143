import Crosswalk.Proofs.Mapping.Alike
import Crosswalk.Proofs.Program.Bystander

/-!
# Reading past a call that nothing reads

A function *hosts* a call if it is what it would be without the call, except that the call
is listed somewhere in it and nothing reads what it gives. To read an argument is then to
follow the same chain, to find the same store and to make the same walk, whether the call is
there or not.

What a closure stands for is read off another function. The host must therefore not be
wrapped in a closure of its own: that one would be found to make one more call.
-/

namespace Crosswalk

/-- **The scope `s'` hosts a call**: without it, it would be `s`. -/
structure Scope.Hosts (call : ValueId) (s s' : Scope) : Prop where
  /-- The types are the same. -/
  types : s'.program.types = s.program.types
  /-- The function is one of its program. -/
  own : s.program.function? s.function.id = some s.function
  /-- So is the host, in the same place. -/
  host : s'.program.function? s.function.id = some s'.function
  /-- The other functions are the same. -/
  others : ∀ id, id ≠ s.function.id → s'.program.function? id = s.program.function? id
  /-- The host is declared like the function. -/
  header : s'.function
    = { s.function with blocks := s'.function.blocks, values := s'.function.values }
  /-- It has the values of the function. -/
  values : ∀ v w, s.function.value? v = some w → s'.function.value? v = some w
  /-- The call joins the instructions, and nothing reads it. -/
  joins : UseIndex.Joins call s.index s'.index
  /-- It is a call. -/
  called : ∀ u ∈ s'.index.uses, u.user = call → ∃ callee args, u.value.kind = .call callee args
  /-- The function mentions only what exists. -/
  sound : s.function.Sound s.program
  /-- The instructions are those of the function. -/
  lists : s.index.Lists s.function
  /-- None of its closures is over itself. -/
  apart : ∀ v bindings, s.function.kind? v ≠ some (.makeClosure s.function.id bindings)

namespace Scope

variable {call v base callee : ValueId} {s s' : Scope}

namespace Hosts

variable (h : s.Hosts call s')
include h

/-- The instructions of the host are those of the function, the call apart. -/
theorem filter_instructions (hlists : s'.index.Lists s'.function) :
    s'.function.instructions.filter (fun id => decide (id ≠ call)) = s.function.instructions := by
  rw [← hlists.users, ← h.lists.users, ← h.joins.uses, List.filter_map]
  rfl

/-! ## One argument -/

theorem value?_eq (hv : s.function.Has v) : s'.function.value? v = s.function.value? v := by
  obtain ⟨w, hw⟩ := hv
  rw [hw, h.values v w hw]

theorem value_eq (hv : s.function.Has v) : s'.value v = s.value v := by
  unfold Scope.value
  rw [h.value?_eq hv]

theorem isSome_function? (id : FunctionId) :
    (s'.program.function? id).isSome = (s.program.function? id).isSome := by
  by_cases hid : id = s.function.id
  · rw [hid, h.host, h.own]
    rfl
  · rw [h.others id hid]

/-- A function is declared alike in both programs. -/
theorem exists_alike {id : FunctionId} {f : Func} (hf : s.program.function? id = some f) :
    ∃ f', s'.program.function? id = some f' ∧ f'.package = f.package ∧ f'.name = f.name := by
  by_cases hid : id = s.function.id
  · obtain rfl := Option.some.inj (h.own.symm.trans (hid ▸ hf))
    refine ⟨s'.function, hid ▸ h.host, ?_, ?_⟩ <;> rw [h.header]
  · exact ⟨f, (h.others id hid).trans hf, rfl, rfl⟩

/-- What a call of another function names does not change. -/
theorem staticCallee_eq (f : Func) :
    s'.program.staticCallee f callee = s.program.staticCallee f callee := by
  unfold Program.staticCallee
  simp only [h.isSome_function?]

theorem staticCallee_host_eq (hv : s.function.Has callee) :
    s'.program.staticCallee s'.function callee = s.program.staticCallee s.function callee := by
  rw [h.staticCallee_eq]
  unfold Program.staticCallee
  rw [h.value?_eq hv]

theorem closureTarget_eq {closure : FunctionId} (hne : closure ≠ s.function.id) :
    s'.closureTarget closure = s.closureTarget closure := by
  unfold closureTarget
  simp only [h.others closure hne, h.staticCallee_eq]

theorem selectorAt_eq (hbase : s.function.Has base) (field : Nat) :
    s'.selectorAt v base field = s.selectorAt v base field := by
  unfold selectorAt
  rw [h.value_eq hbase, h.types]

/-- The first store into a place is the same. -/
theorem storedInto_eq (v : ValueId) : s'.storedInto v = s.storedInto v := by
  refine h.joins.findSome?_readers (fun u hu hcall => ?_) v
  obtain ⟨callee, args, hkind⟩ := h.called u hu hcall
  rw [hkind]

/-- A walk collects the same, whether it comes by the call or not. -/
theorem storedElements_eq (hbase : s.function.Has base) :
    s'.storedElements base = s.storedElements base := by
  have hvisits : ∀ u ∈ s'.index.visits base, u ∈ s'.index.uses :=
    fun u hu => (UseIndex.reached_of_mem_visits hu).mem_uses
  have hfold := SameSoFar.foldl_filter_calls (· = call)
    (fun u hu => h.called u (hvisits u hu))
    (fun u hu _ hv => hv ▸ h.joins.unread u (hvisits u hu)) ([base], [])
  have hothers : (s'.index.visits base).filter (fun u => decide (¬ u.user = call))
      = s.index.visits base := h.joins.filter_visits base
  unfold storedElements
  rw [h.value_eq hbase, hfold.stored, hothers]

theorem literalString_eq (hv : s.function.Has v) : s'.literalString v = s.literalString v := by
  unfold literalString
  rw [literalStringTo_eq_follow, literalStringTo_eq_follow]
  exact (Chain.AgreesOn.refl _ _).follow_chainBound_eq (stringChain_within h.sound) h.values hv

theorem selector_eq (hv : s.function.Has v) : s'.selector v = s.selector v := by
  unfold selector
  rw [selectorTo_eq_follow, selectorTo_eq_follow]
  refine Chain.AgreesOn.follow_chainBound_eq ⟨fun _ _ _ => rfl, fun _ _ _ => rfl, ?_⟩
    (selectorChain_within h.sound) h.values hv
  intro v value hvalue
  unfold selectorChain
  dsimp only
  split
  · rename_i base field hkind
    refine h.selectorAt_eq (h.sound.has_of_operand hvalue ?_) field
    rw [hkind]
    exact List.mem_cons_self
  · rfl

theorem callable_eq (hv : s.function.Has v) : s'.callable v = s.callable v := by
  unfold callable
  rw [callableTo_eq_follow, callableTo_eq_follow]
  refine Chain.AgreesOn.follow_chainBound_eq ⟨fun _ _ _ => rfl, fun _ _ _ => rfl, ?_⟩
    (callableChain_within h.sound) h.values hv
  intro v value hvalue
  unfold callableChain
  dsimp only
  split
  · rfl
  · rename_i closure bindings hkind
    refine h.closureTarget_eq ?_
    rintro rfl
    exact h.apart v bindings (Func.kind?_eq_some_iff.mpr ⟨value, hvalue, hkind⟩)
  · rfl

theorem binding_eq (hv : s.function.Has v) : s'.binding v = s.binding v := by
  unfold binding
  rw [bindingTo_eq_follow, bindingTo_eq_follow]
  have hmethod : s'.function.isMethod = s.function.isMethod := by
    rw [h.header]
    rfl
  have hchain : s'.bindingChain = s.bindingChain := by
    unfold bindingChain
    simp only [h.storedInto_eq, h.types, hmethod]
  rw [hchain]
  exact (Chain.AgreesOn.refl _ _).follow_chainBound_eq (bindingChain_within h.sound h.lists)
    h.values hv

theorem packed_eq (hv : s.function.Has v) : s'.packed v = s.packed v := by
  unfold packed
  rw [packedTo_eq_follow, packedTo_eq_follow]
  refine Chain.AgreesOn.follow_chainBound_eq ⟨fun _ _ _ => rfl, fun _ _ _ => rfl, ?_⟩
    (packedChain_within h.sound) h.values hv
  intro v value hvalue
  unfold packedChain
  dsimp only
  split
  · rfl
  · rename_i base hkind
    refine h.storedElements_eq (h.sound.has_of_operand hvalue ?_)
    rw [hkind]
    exact List.mem_cons_self
  · rfl

/-- **Arguments are read alike**, whether the call is there or not. -/
theorem readsAlike : s.ReadsAlike s' where
  types := h.types
  functions id := by
    refine optionRel_of_exists (fun f hf => h.exists_alike hf) (fun f' hf' => ?_)
    refine Option.isSome_iff_exists.mp ?_
    rw [← h.isSome_function?, hf']
    rfl
  header := h.header
  sound := h.sound
  lists := h.lists
  staticCallee _ := h.staticCallee_host_eq
  literalString _ := h.literalString_eq
  selector _ := h.selector_eq
  callable _ := h.callable_eq
  binding _ := h.binding_eq
  packed _ := h.packed_eq

end Hosts

end Scope

end Crosswalk
