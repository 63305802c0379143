import Crosswalk.Mapping.Interpretation
import Crosswalk.Proofs.Coercion.Safe
import Crosswalk.Proofs.Program.Sound
import Crosswalk.Proofs.Program.Unpacking

/-!
# Safe reading of mapping functions

A reading of an argument follows a chain of values, and each value of a sound function
leads to one that exists. What it answers has types that exist, so that more may be asked
about them. The one thing that validation does not see to is that the chain ends.

All readings go along the same links (`Scope.Link`): out of an interface, back over a
load, and from a local to what is first stored into it. The chains of strings, functions
and packs take the first of these only, those of selectors the first two.
-/

namespace Crosswalk

/-- **A chain of values goes on from `v`**: from the value to what it was made from. -/
inductive Scope.Link (s : Scope) (v : ValueId) : ValueId → Prop
  /-- Out of an interface. -/
  | boxed {inner : ValueId} (hk : s.function.kind? v = some (.makeInterface inner)) :
      Link s v inner
  /-- Back over a load. -/
  | loaded {inner : ValueId} (hk : s.function.kind? v = some (.unOp .deref inner)) :
      Link s v inner
  /-- From a local to what is first stored into it. -/
  | stored {heap : Bool} {value : ValueId} (hk : s.function.kind? v = some (.alloc heap))
      (hstored : s.storedInto v = some value) : Link s v value

/-- **A program without circles**: no type is met again inside itself, and no chain of
values leads back to where it has been. -/
structure Program.Acyclic (p : Program) : Prop where
  /-- The types. -/
  types : p.types.Acyclic
  /-- The values of every function. -/
  values : ∀ id f s, p.function? id = some f → Scope.ofFunction p f = .ok s →
    ∀ v, ¬ Relation.TransGen s.Link v v

/-- **A program that walks can be trusted to.** -/
structure Program.Tame (loops : Prop) (p : Program) : Prop where
  /-- It mentions only what exists. -/
  sound : p.Sound
  /-- It has no circles. -/
  acyclic : loops ∨ p.Acyclic

/-- **A valid program is tame**, if its circles are excused. -/
theorem Program.tame_of_validate {p : Program} (h : p.validate = .ok ()) : p.Tame (¬ p.Acyclic) :=
  ⟨validate_eq_ok_iff.mp h, (Classical.em p.Acyclic).symm⟩

theorem Program.Tame.types {loops : Prop} {p : Program} (hp : p.Tame loops) :
    p.types.Tame loops :=
  ⟨hp.sound.types, hp.acyclic.imp_right Program.Acyclic.types⟩

/-- **A scope whose chains can be followed.** -/
structure Scope.Tame (loops : Prop) (s : Scope) : Prop where
  /-- The program is tame. -/
  program : s.program.Tame loops
  /-- The function is sound. -/
  function : s.function.Sound s.program
  /-- No chain is longer than there are values. -/
  within : ∀ v, loops ∨ Within s.Link s.chainBound v

namespace Scope

variable {loops : Prop} {p : Program} {f : Func} {s : Scope} {v base : ValueId} {n : Nat}
  {id : FunctionId}

/-- What is stored into a place is stored by a listed instruction. -/
theorem exists_store_of_storedInto {w : ValueId} (h : s.storedInto v = some w) :
    ∃ u ∈ s.index.uses, u.value.kind = .store v w := by
  obtain ⟨u, hu, hfound⟩ := List.exists_of_findSome?_eq_some h
  refine ⟨u, (UseIndex.mem_readers.mp hu).1, ?_⟩
  split at hfound
  · rename_i address stored hkind
    split at hfound
    · rename_i heq
      obtain rfl := Option.some.inj hfound
      rw [hkind, heq]
    · cases hfound
  · cases hfound

/-- A chain leads to values that exist. -/
theorem Link.index_lt {w : ValueId} (hs : s.function.Sound s.program)
    (hl : s.index.Lists s.function) (h : s.Link v w) : w.index < s.function.values.size := by
  suffices ∃ u kind, s.function.kind? u = some kind ∧ w ∈ kind.operands by
    obtain ⟨u, kind, hk, hw⟩ := this
    obtain ⟨value, hvalue, rfl⟩ := Func.kind?_eq_some_iff.mp hk
    obtain ⟨operand, hoperand, -⟩ := (hs.values u value hvalue).operands w hw
    exact Func.index_lt_of_value? hoperand
  cases h with
  | boxed hk => exact ⟨v, _, hk, List.mem_cons_self⟩
  | loaded hk => exact ⟨v, _, hk, List.mem_cons_self⟩
  | stored hk hstored =>
    -- what is stored is read by the instruction that stores it
    obtain ⟨u, hu, hkind⟩ := exists_store_of_storedInto hstored
    refine ⟨u.user, _, hl.values hu, ?_⟩
    rw [hkind]
    exact List.mem_cons_of_mem _ List.mem_cons_self

/-- **A function of a tame program has a tame scope.** -/
theorem exists_ofFunction (hp : p.Tame loops) (hf : p.function? id = some f) :
    ∃ s, ofFunction p f = .ok s ∧ s.program = p ∧ s.function = f ∧ s.index.Lists f ∧
      s.Tame loops := by
  have hsound := hp.sound.functions id f hf
  obtain ⟨index, hindex, hlists⟩ := Func.exists_index (f := f) (fun id hid => by
    obtain ⟨w, hw, -⟩ := hsound.listed id hid
    exact ⟨w, hw⟩)
  have hscope : ofFunction p f = .ok ⟨p, f, index⟩ := by
    unfold ofFunction
    rw [hindex]
    rfl
  refine ⟨⟨p, f, index⟩, hscope, rfl, rfl, hlists, hp, hsound, fun v => ?_⟩
  refine hp.acyclic.imp_right (fun h => ?_)
  exact within_of_acyclic ValueId.index_injective
    (fun _ _ hlink => hlink.index_lt hsound hlists) (h.values id f _ hf hscope) v

/-! ## One value -/

theorem value_safe (s : Scope) (v : ValueId) :
    (s.value v).Safe loops (fun value => s.function.value? v = some value) := by
  unfold value
  split
  · rename_i value hvalue
    exact hvalue
  · exact trivial

theorem Tame.typed_safe {value : Value} (hs : s.Tame loops)
    (hvalue : s.function.value? v = some value) :
    (typed base value).Safe loops s.program.types.Has := by
  unfold typed
  split
  · rename_i type htype
    exact (hs.function.values v value hvalue).type type htype
  · exact trivial

namespace Tame

/-! ## Readings -/

theorem literalStringTo_safe (h : loops ∨ Within s.Link n v) :
    (s.literalStringTo n v).Safe loops (fun _ => True) := by
  induction n generalizing v with
  | zero => exact h.resolve_right not_false
  | succ n ih =>
    refine (s.value_safe v).bind (fun value hvalue => ?_)
    have hk := Func.kind?_of_value? hvalue
    split
    · exact trivial
    · rename_i inner hkind
      exact ih (h.imp_right (fun h => h inner (.boxed (hkind ▸ hk))))
    · exact trivial

theorem literalString_safe (hs : s.Tame loops) (v : ValueId) :
    (s.literalString v).Safe loops (fun _ => True) :=
  literalStringTo_safe (hs.within v)

theorem selectorAt_safe (hs : s.Tame loops) {field : Nat} :
    (s.selectorAt v base field).Safe loops (fun _ => True) := by
  refine (s.value_safe base).bind (fun value hvalue => ?_)
  refine (hs.typed_safe hvalue).bind (fun type htype => ?_)
  refine (hs.program.types.closed.resolve_safe htype).lift.bind (fun found _ => ?_)
  split
  · split <;> exact trivial
  · exact trivial

theorem selectorTo_safe (hs : s.Tame loops) (h : loops ∨ Within s.Link n v) :
    (s.selectorTo n v).Safe loops (fun _ => True) := by
  induction n generalizing v with
  | zero => exact h.resolve_right not_false
  | succ n ih =>
    refine (s.value_safe v).bind (fun value hvalue => ?_)
    have hk := Func.kind?_of_value? hvalue
    split
    · rename_i inner hkind
      exact ih (h.imp_right (fun h => h inner (.boxed (hkind ▸ hk))))
    · rename_i inner hkind
      exact ih (h.imp_right (fun h => h inner (.loaded (hkind ▸ hk))))
    · exact hs.selectorAt_safe
    · exact trivial

theorem selector_safe (hs : s.Tame loops) (v : ValueId) :
    (s.selector v).Safe loops (fun _ => True) :=
  hs.selectorTo_safe (hs.within v)

/-- The one call of a closure is looked for in a body that may be that of another
function. -/
theorem closureTarget_safe (hs : s.Tame loops) (closure : FunctionId) :
    (s.closureTarget closure).Safe loops (fun _ => True) := by
  unfold closureTarget
  split
  · exact trivial
  · rename_i body hbody
    have hsound := hs.program.sound.functions closure body hbody
    have hcalls : body.calls.Safe loops (fun _ => True) := by
      refine Ends.bind (.mapM (P := fun _ => True) (fun id hid => ?_)) (fun _ _ => trivial)
      obtain ⟨w, hw, -⟩ := hsound.listed id hid
      exact .of_eq_ok (Func.value_eq_ok_iff.mpr hw) trivial
    refine hcalls.lift.bind (fun calls _ => ?_)
    split
    · split <;> exact trivial
    · exact trivial

theorem callableTo_safe (hs : s.Tame loops) (h : loops ∨ Within s.Link n v) :
    (s.callableTo n v).Safe loops (fun _ => True) := by
  induction n generalizing v with
  | zero => exact h.resolve_right not_false
  | succ n ih =>
    refine (s.value_safe v).bind (fun value hvalue => ?_)
    have hk := Func.kind?_of_value? hvalue
    split
    · rename_i inner hkind
      exact ih (h.imp_right (fun h => h inner (.boxed (hkind ▸ hk))))
    · exact trivial
    · exact hs.closureTarget_safe _
    · exact trivial

theorem callable_safe (hs : s.Tame loops) (v : ValueId) :
    (s.callable v).Safe loops (fun _ => True) :=
  hs.callableTo_safe (hs.within v)

theorem bindingTo_safe (hs : s.Tame loops) (h : loops ∨ Within s.Link n v) :
    (s.bindingTo n v).Safe loops (fun b => s.program.types.Has b.type) := by
  induction n generalizing v with
  | zero => exact h.resolve_right not_false
  | succ n ih =>
    refine (s.value_safe v).bind (fun value hvalue => ?_)
    have hk := Func.kind?_of_value? hvalue
    split
    · exact (hs.typed_safe hvalue).bind (fun _ htype => htype)
    · rename_i inner hkind
      refine (ih (h.imp_right (fun h => h inner (.loaded (hkind ▸ hk))))).bind (fun b hb => ?_)
      exact (hs.program.types.closed.deref_safe hb).lift.bind (fun _ htype => htype)
    · exact (hs.typed_safe hvalue).bind (fun _ htype => htype)
    · rename_i inner hkind
      exact ih (h.imp_right (fun h => h inner (.boxed (hkind ▸ hk))))
    · rename_i heap hkind
      refine (hs.typed_safe hvalue).bind (fun type htype => ?_)
      split
      · rename_i stored hstored
        refine (ih (h.imp_right (fun h => h stored (.stored (hkind ▸ hk) hstored)))).bind
          (fun _ _ => htype)
      · exact htype
    · exact trivial

/-- **The type of a binding exists.** -/
theorem binding_safe (hs : s.Tame loops) (v : ValueId) :
    (s.binding v).Safe loops (fun b => s.program.types.Has b.type) :=
  hs.bindingTo_safe (hs.within v)

theorem packedTo_safe (h : loops ∨ Within s.Link n v) :
    (s.packedTo n v).Safe loops (fun _ => True) := by
  induction n generalizing v with
  | zero => exact h.resolve_right not_false
  | succ n ih =>
    refine (s.value_safe v).bind (fun value hvalue => ?_)
    have hk := Func.kind?_of_value? hvalue
    split
    · exact trivial
    · rename_i inner hkind
      exact ih (h.imp_right (fun h => h inner (.boxed (hkind ▸ hk))))
    · -- the walk through the readers of the array ends by itself
      refine (s.value_safe _).bind (fun base _ => ?_)
      split <;> exact trivial
    · exact trivial

/-- **A list is read safely** if its elements are. -/
theorem list_safe {α : Type} {element : ValueId → Checked ShapeError α} (hs : s.Tame loops)
    (helement : ∀ v, (element v).Safe loops (fun _ => True)) (v : ValueId) :
    (s.list element v).Safe loops (fun _ => True) := by
  refine (packedTo_safe (hs.within v)).bind (fun vs _ => ?_)
  exact (Ends.mapM (fun v _ => helement v)).mono (fun _ _ => trivial)

end Tame

end Scope

/-- Naming a function is safe. -/
theorem Func.qualifiedName_safe {loops : Prop} {t : TypeTable} (ht : t.Tame loops) (f : Func) :
    (f.qualifiedName t).Safe loops (fun _ => True) := by
  unfold qualifiedName
  split
  · exact (ht.display_safe _).bind (fun _ _ => trivial)
  · exact trivial

namespace Reading

variable {loops : Prop} {r : Reading} {spec : MappingSpec} {progress : Progress}
  {callee : ValueId} {args : List ValueId} {call : MarkerCall} {m : Marker}

/-- **The specification so far**, whose types exist. -/
def Progress.Typed (t : TypeTable) : Progress → Prop
  | .accumulating spec => spec.Typed t
  | _ => True

theorem classify_safe (hs : r.scope.Tame loops) (callee : ValueId) :
    (r.classify callee).Safe loops (fun _ => True) := by
  unfold classify
  split
  · rename_i id hid
    -- a callee that is named has been looked up
    obtain ⟨target, htarget⟩ := Program.exists_of_staticCallee hid
    rw [Program.function_eq_ok_iff.mpr htarget, ok_bind]
    split
    · exact trivial
    · split <;> exact trivial
  · refine (hs.callable_safe callee).attempt.bind (fun found _ => ?_)
    split
    · exact trivial
    · split <;> exact trivial

theorem resultShape_safe (hs : r.scope.Tame loops) :
    r.resultShape.Safe loops (fun _ => True) := by
  have hsplit : (splitError r.types r.scope.function.signature.results).Safe loops
      (fun _ => True) := by
    unfold splitError
    split
    · exact trivial
    · rename_i last hlast
      have hhas := hs.function.resultTypes last (List.mem_of_getLast? hlast)
      refine hhas.isError_safe.bind (fun isError _ => ?_)
      split <;> exact trivial
  refine hsplit.lift.bind (fun ⟨rest, hasError⟩ _ => ?_)
  match rest with
  | [] => exact trivial
  | [_] => exact trivial
  | _ :: _ :: _ => exact trivial

/-- **A mapping begins with types that exist.** -/
theorem start_safe (hs : r.scope.Tame loops) :
    (r.start args).Safe loops (MappingSpec.Typed r.types) := by
  unfold start
  split
  · refine ((hs.binding_safe _).mapCause _).bind (fun source hsource => ?_)
    refine ((hs.binding_safe _).mapCause _).bind (fun dest hdest => ?_)
    exact (resultShape_safe hs).bind (fun shape _ => ⟨hsource, hdest⟩)
  · exact trivial

theorem destField_safe (hs : r.scope.Tame loops) (hspec : spec.Typed r.types) (v : ValueId) :
    (r.destField spec v).Safe loops (fun _ => True) := by
  refine ((hs.selector_safe v).mapCause _).bind (fun selector _ => ?_)
  refine (hs.program.types.closed.peel_safe hspec.dest).lift.bind (fun peeled _ => ?_)
  split <;> exact trivial

/-- **A marker keeps the types.** -/
theorem configure_safe (hs : r.scope.Tame loops) (hspec : spec.Typed r.types) :
    (r.configure spec m args).Safe loops (MappingSpec.Typed r.types) := by
  unfold configure
  split
  · exact trivial
  · exact ((hs.list_safe hs.literalString_safe _).mapCause _).bind (fun _ _ => ⟨hspec.1, hspec.2⟩)
  · refine ((hs.selector_safe _).mapCause _).bind (fun source _ => ?_)
    exact (destField_safe hs hspec _).bind (fun _ _ => ⟨hspec.1, hspec.2⟩)
  · exact ((hs.list_safe hs.selector_safe _).mapCause _).bind (fun _ _ => ⟨hspec.1, hspec.2⟩)
  · exact ((hs.list_safe hs.callable_safe _).mapCause _).bind (fun _ _ => ⟨hspec.1, hspec.2⟩)
  · exact trivial

theorem advance_safe (hs : r.scope.Tame loops) (hprogress : progress.Typed r.types) :
    (r.advance progress call args).Safe loops (Progress.Typed r.types) := by
  unfold advance
  split
  · exact trivial
  · exact (start_safe hs).bind (fun _ hspec => hspec)
  · exact trivial
  · exact (configure_safe hs hprogress).bind (fun _ hspec => hspec)
  · exact trivial
  · exact trivial

/-- **The run through listed instructions is safe**, and leaves types that exist. -/
theorem run_safe (hs : r.scope.Tame loops) {ids : List ValueId}
    (hids : ∀ id ∈ ids, id ∈ r.scope.function.instructions) (hprogress : progress.Typed r.types) :
    (r.run progress ids).Safe loops (Progress.Typed r.types) := by
  induction ids generalizing progress with
  | nil => cases progress <;> exact hprogress
  | cons id ids ih =>
    have hrest : ∀ {progress : Progress}, progress.Typed r.types →
        (r.run progress ids).Safe loops (Progress.Typed r.types) :=
      ih (fun i hi => hids i (List.mem_cons_of_mem id hi))
    by_cases hdeclined : progress = .declined
    · rw [hdeclined]
      exact trivial
    · obtain ⟨value, hvalue, -⟩ := hs.function.listed id (hids id List.mem_cons_self)
      rw [run]
      · rw [Func.value_eq_ok_iff.mpr hvalue, liftM_ok, ok_bind]
        split
        · exact hrest hprogress
        · refine (classify_safe hs _).lift.bind (fun found _ => ?_)
          split
          · exact hrest hprogress
          · exact (advance_safe hs hprogress).bind (fun progress hprogress => hrest hprogress)
      · exact hdeclined

theorem finish_safe (hs : r.scope.Tame loops) (hspec : spec.Typed r.types) :
    (r.finish spec).Safe loops (MappingSpec.Typed r.types) := by
  unfold finish
  split
  · exact hspec
  refine (hs.program.types.closed.isReferenceShaped_safe hspec.dest).lift.bind (fun shaped _ => ?_)
  split
  · exact hspec
  · exact (hs.program.types.display_safe _).lift.bind (fun _ _ => trivial)

theorem spec?_safe (hs : r.scope.Tame loops) :
    r.spec?.Safe loops (fun found => ∀ spec ∈ found, spec.Typed r.types) := by
  have hrun : (r.run .seeking r.scope.function.instructions).Safe loops
      (Progress.Typed r.types) := run_safe hs (fun _ hid => hid) trivial
  refine hrun.bind (fun progress hprogress => ?_)
  unfold conclude
  split
  · refine (finish_safe hs hprogress).bind (fun spec hspec => ?_)
    exact fun _ h => Option.some.inj h ▸ hspec
  · exact nofun

end Reading

namespace Program

variable {loops : Prop} {p : Program} {f : Func} {id : FunctionId}

/-- **A function of a tame program can be read.** -/
theorem Tame.ofFunction_safe (hp : p.Tame loops) (hf : p.function? id = some f)
    (settings : Settings) :
    (Reading.ofFunction p settings f).Safe loops (fun r => r.settings = settings ∧
      r.scope.program = p ∧ r.scope.function = f ∧ r.scope.index.Lists f ∧ r.scope.Tame loops) := by
  obtain ⟨s, hs, hprogram, hfunction, hlists, htame⟩ := Scope.exists_ofFunction hp hf
  unfold Reading.ofFunction
  rw [hs, ok_bind]
  exact (f.qualifiedName_safe hp.types).bind
    (fun _ _ => ⟨rfl, hprogram, hfunction, hlists, htame⟩)

/-- **Reading any function of a tame program is safe**, and so is asking for one that does
not exist. -/
theorem Tame.interpret_safe (hp : p.Tame loops) (settings : Settings) (id : FunctionId) :
    (p.interpret settings id).Safe loops (fun found => ∀ spec ∈ found, spec.Typed p.types) := by
  unfold interpret
  split
  · exact trivial
  · rename_i f hf
    refine (hp.ofFunction_safe hf settings).lift.bind ?_
    rintro r ⟨-, hprogram, -, -, hs⟩
    rw [← hprogram]
    exact Reading.spec?_safe hs

end Program

end Crosswalk
