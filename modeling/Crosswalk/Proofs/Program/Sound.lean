import Crosswalk.Proofs.Types.Closed
import Mathlib.Data.List.Basic

/-!
# What validation asks for

Validation looks for the first offence. A program that passes has none, and what that
means can be said without saying where one looks first: every position that the program
mentions exists, what it mentions is of the right kind, and every function and every
block is at the position it claims.
-/

namespace Crosswalk

variable {p : Program} {f : Func} {v : Value} {id : ValueId}

/-- **A value of a function that mentions only what exists.** -/
structure Value.Sound (p : Program) (f : Func) (v : Value) : Prop where
  /-- Its type, if it has one. -/
  type : ∀ id ∈ v.type, p.types.Has id
  /-- The values it reads, which are there to be read. -/
  operands : ∀ o ∈ v.kind.operands, ∃ w, f.value? o = some w ∧ w.kind.producesValue = true
  /-- The function it refers to. -/
  target : ∀ g ∈ v.kind.target, (p.function? g).isSome
  /-- The blocks it may go on in. -/
  branches : ∀ b ∈ v.kind.branches, (f.blocks[b.index]?).isSome

/-- **A function that mentions only what exists.** -/
structure Func.Sound (p : Program) (f : Func) : Prop where
  /-- The types of the receiver and of the parameters. -/
  paramTypes : ∀ param ∈ f.signature.allParams, p.types.Has param.type
  /-- The types of the results. -/
  resultTypes : ∀ id ∈ f.signature.results, p.types.Has id
  /-- A body binds what is declared. -/
  arity : f.hasBody = true → f.params.length = f.signature.allParams.length
  /-- What the parameters are bound to. -/
  params : ∀ id ∈ f.params, ∃ w, f.value? id = some w ∧ w.kind.isParameter = true
  /-- Its values, listed or not. -/
  values : ∀ id v, f.value? id = some v → v.Sound p f
  /-- Every block is at the position it claims. -/
  blockIds : ∀ (i : Nat) (b : Block), f.blocks[i]? = some b → b.id.index = i
  /-- What is listed belongs in a block. -/
  listed : ∀ id ∈ f.instructions, ∃ w, f.value? id = some w ∧ w.kind.isInstruction = true

/-- **A program that mentions only what exists.** -/
structure Program.Sound (p : Program) : Prop where
  /-- The types that types mention. -/
  types : p.types.Closed
  /-- Every function is at the position it claims. -/
  functionIds : ∀ id f, p.function? id = some f → f.id = id
  /-- What functions mention. -/
  functions : ∀ id f, p.function? id = some f → f.Sound p

/-! ## The single checks -/

namespace Func

theorem checkValue_eq_ok_iff {fits : ValueKind → Bool} :
    f.checkValue fits id = .ok () ↔ ∃ w, f.value? id = some w ∧ fits w.kind = true := by
  unfold checkValue
  cases f.value? id with
  | none => simp
  | some w => by_cases h : fits w.kind = true <;> simp [h]

theorem checkBlock_eq_ok_iff {b : BlockId} :
    f.checkBlock b = .ok () ↔ (f.blocks[b.index]?).isSome := by
  unfold checkBlock
  split <;> simp [*]

theorem checkArity_eq_ok_iff :
    f.checkArity = .ok () ↔
      (f.hasBody = true → f.params.length = f.signature.allParams.length) := by
  unfold checkArity
  dsimp only
  split <;> rename_i h
  · simp [h.1, h.2]
  · exact iff_of_true rfl (by simpa using h)

end Func

/-- A check made of every entry at its place is made of whatever stands at a place. -/
theorem checkEach_zipIdx_eq_ok_iff {α ε : Type} {check : α × Nat → Except ε Unit} {xs : Array α} :
    checkEach check xs.toList.zipIdx = .ok () ↔ ∀ i x, xs[i]? = some x → check (x, i) = .ok () := by
  rw [checkEach_eq_ok_iff]
  constructor
  · intro h i x hx
    refine h (x, i) (List.mem_zipIdx_iff_getElem?.mpr ?_)
    rw [Array.getElem?_toList, hx]
  · rintro h ⟨x, i⟩ hx
    have hx := List.mem_zipIdx_iff_getElem?.mp hx
    rw [Array.getElem?_toList] at hx
    exact h i x hx

/-- Two checks in a row pass when both do. -/
theorem check_bind_eq_ok_iff {ε : Type} {x y : Except ε Unit} :
    (x >>= fun _ => y) = .ok () ↔ x = .ok () ∧ y = .ok () := by
  cases x with
  | ok u => simp
  | error e => simp

namespace Program

theorem checkFunction_eq_ok_iff {g : FunctionId} :
    p.checkFunction g = .ok () ↔ (p.function? g).isSome := by
  unfold checkFunction
  split <;> simp [*]

theorem validateValue_eq_ok_iff : p.validateValue f v = .ok () ↔ v.Sound p f := by
  unfold validateValue
  simp only [check_bind_eq_ok_iff, checkEach_eq_ok_iff, TypeTable.check_eq_ok_iff,
    Func.checkValue_eq_ok_iff, checkFunction_eq_ok_iff, Func.checkBlock_eq_ok_iff,
    Option.mem_toList]
  exact ⟨fun ⟨h₁, h₂, h₃, h₄⟩ => ⟨h₁, h₂, h₃, h₄⟩, fun ⟨h₁, h₂, h₃, h₄⟩ => ⟨h₁, h₂, h₃, h₄⟩⟩

theorem validateBlock_eq_ok_iff {b : Block} {i : Nat} :
    validateBlock f (b, i) = .ok () ↔ b.id.index = i ∧
      ∀ id ∈ b.instructions, ∃ w, f.value? id = some w ∧ w.kind.isInstruction = true := by
  unfold validateBlock
  by_cases hi : b.id.index = i
  · simp [hi, checkEach_eq_ok_iff, Func.checkValue_eq_ok_iff]
  · simp [hi]

theorem validateFunction_eq_ok_iff : p.validateFunction f = .ok () ↔ f.Sound p := by
  unfold validateFunction
  simp only [check_bind_eq_ok_iff, checkEach_zipIdx_eq_ok_iff, validateBlock_eq_ok_iff]
  simp only [checkEach_eq_ok_iff, TypeTable.check_eq_ok_iff, Func.checkArity_eq_ok_iff,
    Func.checkValue_eq_ok_iff, validateValue_eq_ok_iff, List.forall_mem_map]
  constructor
  · rintro ⟨hparamTypes, hresults, harity, hparams, hvalues, hblocks⟩
    refine ⟨hparamTypes, hresults, harity, hparams, fun id v hv => ?_,
      fun i b hb => (hblocks i b hb).1, fun id hid => ?_⟩
    · exact hvalues v (Array.mem_toList_iff.mpr (Array.mem_of_getElem? hv))
    · obtain ⟨b, hb, hid⟩ := List.mem_flatMap.mp hid
      obtain ⟨i, hi⟩ := Array.mem_iff_getElem?.mp (Array.mem_toList_iff.mp hb)
      exact (hblocks i b hi).2 id hid
  · intro h
    refine ⟨h.paramTypes, h.resultTypes, h.arity, h.params, fun v hv => ?_, fun i b hb => ?_⟩
    · obtain ⟨i, hi⟩ := Array.mem_iff_getElem?.mp (Array.mem_toList_iff.mp hv)
      exact h.values ⟨i⟩ v hi
    · refine ⟨h.blockIds i b hb, fun id hid => h.listed id (List.mem_flatMap.mpr ⟨b, ?_, hid⟩)⟩
      exact Array.mem_toList_iff.mpr (Array.mem_of_getElem? hb)

theorem validateEntry_eq_ok_iff {i : Nat} :
    p.validateEntry (f, i) = .ok () ↔ f.id.index = i ∧ f.Sound p := by
  unfold validateEntry
  by_cases hi : f.id.index = i
  · simp [hi, validateFunction_eq_ok_iff]
  · simp [hi]

/-- **A program passes validation exactly when it is sound.** -/
theorem validate_eq_ok_iff : p.validate = .ok () ↔ p.Sound := by
  unfold validate
  simp only [check_bind_eq_ok_iff, TypeTable.validate_eq_ok_iff, checkEach_zipIdx_eq_ok_iff,
    validateEntry_eq_ok_iff]
  constructor
  · rintro ⟨htypes, hfunctions⟩
    refine ⟨htypes, fun id f hf => ?_, fun id f hf => (hfunctions id.index f hf).2⟩
    have hindex := (hfunctions id.index f hf).1
    exact congrArg FunctionId.mk hindex
  · intro h
    exact ⟨h.types, fun i f hf => ⟨congrArg FunctionId.index (h.functionIds ⟨i⟩ f hf),
      h.functions ⟨i⟩ f hf⟩⟩

end Program

end Crosswalk
