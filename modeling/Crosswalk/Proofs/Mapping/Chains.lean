import Crosswalk.Proofs.Mapping.Safe

/-!
# Readings as chains

Each reading of an argument follows a chain of values. At each value it either goes on to
another one, and does something to what is read there, or comes to an answer by itself. What
it does so is a `Scope.Chain`, and `Scope.follow` is what all readings have in common.

Along a chain within a sound function, how many links are allowed does not matter as long
as there are as many as values (`Scope.follow_eq_of_lt`).
-/

namespace Crosswalk

/-- There is a value at this position. -/
def Func.Has (f : Func) (v : ValueId) : Prop := ∃ w, f.value? v = some w

/-- The values that a value of a sound function reads are there. -/
theorem Func.Sound.has_of_operand {p : Program} {f : Func} {v o : ValueId} {w : Value}
    (hf : f.Sound p) (hw : f.value? v = some w) (ho : o ∈ w.kind.operands) : f.Has o := by
  obtain ⟨x, hx, -⟩ := (hf.values v w hw).operands o ho
  exact ⟨x, hx⟩

/-- What a sound function lists is there. -/
theorem Func.Sound.has_of_listed {p : Program} {f : Func} {v : ValueId} (hf : f.Sound p)
    (hv : v ∈ f.instructions) : f.Has v := by
  obtain ⟨w, hw, -⟩ := hf.listed v hv
  exact ⟨w, hw⟩

namespace ValueKind

/-- What was put into an interface. -/
def boxed? : ValueKind → Option ValueId
  | .makeInterface inner => some inner
  | _ => none

/-- What was put into an interface or loaded. -/
def behind? : ValueKind → Option ValueId
  | .makeInterface inner | .unOp .deref inner => some inner
  | _ => none

theorem mem_operands_of_boxed? {kind : ValueKind} {v : ValueId} (h : kind.boxed? = some v) :
    v ∈ kind.operands := by
  cases kind with
  | makeInterface inner => exact Option.some.inj h ▸ List.mem_cons_self
  | _ => cases h

theorem mem_operands_of_behind? {kind : ValueKind} {v : ValueId} (h : kind.behind? = some v) :
    v ∈ kind.operands := by
  cases kind with
  | makeInterface inner => exact Option.some.inj h ▸ List.mem_cons_self
  | unOp op inner =>
    cases op with
    | deref => exact Option.some.inj h ▸ List.mem_cons_self
    | _ => cases h
  | _ => cases h

end ValueKind

namespace Scope

/-- **How a reading goes along a chain of values.** -/
structure Chain (α : Type) where
  /-- Where it goes on from a value, if it does. -/
  link : ValueId → Value → Option ValueId
  /-- What it does to what is read further on. -/
  wrap : ValueId → Value → α → Checked ShapeError α
  /-- What it comes to where it does not go on. -/
  finish : ValueId → Value → Checked ShapeError α

/-- **Following a chain** over fewer links than `n`. -/
def follow {α : Type} (s : Scope) (c : Chain α) : Nat → ValueId → Checked ShapeError α
  | 0, _ => .error (.fault .endless)
  | n + 1, v => do
    let value ← s.value v
    match c.link v value with
    | some inner => c.wrap v value (← s.follow c n inner)
    | none => c.finish v value

variable {α : Type} {s s' : Scope} {c c' : Chain α} {v w base : ValueId} {value : Value} {n m : Nat}

/-- Where the chain goes on from a value. -/
def nextOn (s : Scope) (c : Chain α) (v : ValueId) : Option ValueId :=
  (s.function.value? v).bind (c.link v)

theorem follow_succ_of_link (hv : s.function.value? v = some value)
    (hlink : c.link v value = some w) :
    s.follow c (n + 1) v = s.follow c n w >>= c.wrap v value := by
  rw [follow, value_eq_ok_iff.mpr hv, ok_bind, hlink]

theorem follow_succ_of_finish (hv : s.function.value? v = some value)
    (hlink : c.link v value = none) : s.follow c (n + 1) v = c.finish v value := by
  rw [follow, value_eq_ok_iff.mpr hv, ok_bind, hlink]

theorem follow_succ_of_not_has (hv : s.function.value? v = none) :
    s.follow c (n + 1) v = .fail (.unknownValue v) := by
  rw [follow, Scope.value, hv]
  rfl

/-- What is read where nothing is done along the chain is what the end of the chain comes to. -/
theorem exists_finish_of_follow {a : α} (hwrap : ∀ v value b, c.wrap v value b = .ok b)
    (h : s.follow c n v = .ok a) :
    ∃ w value, s.function.value? w = some value ∧ c.finish w value = .ok a := by
  induction n generalizing v with
  | zero => cases h
  | succ n ih =>
    cases hv : s.function.value? v with
    | none =>
      rw [follow_succ_of_not_has hv] at h
      cases h
    | some value =>
      cases hlink : c.link v value with
      | some w =>
        rw [follow_succ_of_link hv hlink] at h
        obtain ⟨b, hb, h⟩ := bind_eq_ok_iff.mp h
        obtain rfl := Except.ok.inj ((hwrap v value b).symm.trans h)
        exact ih hb
      | none =>
        rw [follow_succ_of_finish hv hlink] at h
        exact ⟨v, value, hv, h⟩

/-- A reading is a computation along its chain. -/
theorem follows (s : Scope) (c : Chain α) :
    Follows (s.nextOn c) (.fault .endless) (s.follow c) where
  cut _ := rfl
  last v hv n m := by
    cases hvalue : s.function.value? v with
    | none => rw [follow_succ_of_not_has hvalue, follow_succ_of_not_has hvalue]
    | some value =>
      have hlink : c.link v value = none := by
        unfold nextOn at hv
        rwa [hvalue] at hv
      rw [follow_succ_of_finish hvalue hlink, follow_succ_of_finish hvalue hlink]
  link v w hvw := by
    obtain ⟨value, hvalue, hlink⟩ := Option.bind_eq_some_iff.mp hvw
    exact ⟨c.wrap v value, fun n => follow_succ_of_link hvalue hlink⟩

/-- **A chain that stays within a scope.** -/
def Chain.Within (c : Chain α) (s : Scope) : Prop :=
  ∀ v value w, s.function.value? v = some value → c.link v value = some w → s.function.Has w

/-- **How many links are allowed does not matter**, if there are as many as values. -/
theorem follow_eq_of_lt (hc : c.Within s) (hn : s.function.values.size < n)
    (hm : s.function.values.size < m) (v : ValueId) : s.follow c n v = s.follow c m v := by
  refine (s.follows c).eq_of_lt ValueId.index_injective (fun v w hvw => ?_) hn hm v
  obtain ⟨value, hvalue, hlink⟩ := Option.bind_eq_some_iff.mp hvw
  obtain ⟨x, hx⟩ := hc v value w hvalue hlink
  exact Func.index_lt_of_value? hx

/-- **Two chains do the same** at the values of a function. -/
structure Chain.AgreesOn (f : Func) (c c' : Chain α) : Prop where
  /-- They go on to the same value. -/
  link : ∀ v value, f.value? v = some value → c'.link v value = c.link v value
  /-- They do the same to what is read there. -/
  wrap : ∀ v value, f.value? v = some value → c'.wrap v value = c.wrap v value
  /-- They come to the same answer. -/
  finish : ∀ v value, f.value? v = some value → c'.finish v value = c.finish v value

theorem Chain.AgreesOn.refl (f : Func) (c : Chain α) : c.AgreesOn f c :=
  ⟨fun _ _ _ => rfl, fun _ _ _ => rfl, fun _ _ _ => rfl⟩

/-- Chains that do the same are followed alike, from one scope or from one that says the
same of its values. -/
theorem Chain.AgreesOn.follow_eq (h : c.AgreesOn s.function c') (hc : c.Within s)
    (hvalues : ∀ v w, s.function.value? v = some w → s'.function.value? v = some w)
    (hv : s.function.Has v) : s'.follow c' n v = s.follow c n v := by
  induction n generalizing v with
  | zero => rfl
  | succ n ih =>
    obtain ⟨value, hvalue⟩ := hv
    have hvalue' := hvalues v value hvalue
    have hlink := h.link v value hvalue
    cases hnext : c.link v value with
    | none =>
      rw [follow_succ_of_finish hvalue hnext, follow_succ_of_finish hvalue' (hlink.trans hnext),
        h.finish v value hvalue]
    | some w =>
      rw [follow_succ_of_link hvalue hnext, follow_succ_of_link hvalue' (hlink.trans hnext),
        h.wrap v value hvalue, ih (hc v value w hvalue hnext)]

/-- **A reading does not depend on how many other values there are.** -/
theorem Chain.AgreesOn.follow_chainBound_eq (h : c.AgreesOn s.function c') (hc : c.Within s)
    (hvalues : ∀ v w, s.function.value? v = some w → s'.function.value? v = some w)
    (hv : s.function.Has v) :
    s'.follow c' s'.chainBound v = s.follow c s.chainBound v := by
  have hsize : s.function.values.size ≤ s'.function.values.size := by
    by_contra hlt
    have hlast := hvalues ⟨s'.function.values.size⟩ _
      (Array.getElem?_eq_getElem (Nat.lt_of_not_le hlt))
    exact absurd (Func.index_lt_of_value? hlast) (Nat.lt_irrefl _)
  rw [h.follow_eq hc hvalues hv]
  exact follow_eq_of_lt hc (Nat.lt_succ_of_le hsize) (Nat.lt_succ_self _) v

/-! ## The readings -/

/-- The chain behind a string. -/
def stringChain : Chain String where
  link _ value := value.kind.boxed?
  wrap _ _ := .ok
  finish _ value :=
    match value.kind with
    | .const (.string text) => .ok text
    | _ => unexpected .literalString value

/-- The chain behind a field selector. -/
def selectorChain (s : Scope) : Chain Selector where
  link _ value := value.kind.behind?
  wrap _ _ := .ok
  finish v value :=
    match value.kind with
    | .fieldAddr base field => s.selectorAt v base field
    | _ => unexpected .fieldSelector value

/-- The chain behind a function. -/
def callableChain (s : Scope) : Chain FunctionId where
  link _ value := value.kind.boxed?
  wrap _ _ := .ok
  finish _ value :=
    match value.kind with
    | .functionRef id => .ok id
    | .makeClosure closure _ => s.closureTarget closure
    | _ => unexpected .functionReference value

/-- The chain behind a variable. A local without a type is not followed. -/
def bindingChain (s : Scope) : Chain Binding where
  link v value :=
    match value.kind with
    | .alloc _ => if value.type.isSome then s.storedInto v else none
    | kind => kind.behind?
  wrap v value binding :=
    match value.kind with
    | .unOp .deref _ => do return { binding with type := ← s.program.types.deref binding.type }
    | .alloc _ => do
      return { binding with type := ← typed v value, name := binding.name <|> value.name }
    | _ => .ok binding
  finish v value :=
    match value.kind with
    | .const _ => do return ⟨none, ← typed v value, true, .constant⟩
    | .parameter index => do
      let origin : BindingOrigin :=
        if index = 0 ∧ s.function.isMethod then .receiver else .parameter index
      return ⟨value.name, ← typed v value, false, origin⟩
    | .alloc _ => do return ⟨value.name, ← typed v value, true, .localVariable⟩
    | _ => unexpected .variable value

/-- The chain behind a packed list. -/
def packedChain (s : Scope) : Chain (List ValueId) where
  link _ value := value.kind.boxed?
  wrap _ _ := .ok
  finish _ value :=
    match value.kind with
    | .const .nil => .ok []
    | .slice base => s.storedElements base
    | _ => unexpected .argumentList value

theorem bind_ok_right {ε : Type} (x : Except ε α) : x >>= Except.ok = x := by
  cases x <;> rfl

theorem literalStringTo_eq_follow : s.literalStringTo n v = s.follow stringChain n v := by
  induction n generalizing v with
  | zero => rfl
  | succ n ih =>
    rw [literalStringTo, follow]
    refine congrArg (s.value v >>= ·) (funext (fun value => ?_))
    cases hk : value.kind with
    | makeInterface inner =>
      simp only [stringChain, ValueKind.boxed?, hk, ih]
      exact (bind_ok_right _).symm
    | const literal => cases literal <;> simp [stringChain, ValueKind.boxed?, hk]
    | _ => simp [stringChain, ValueKind.boxed?, hk]

theorem selectorTo_eq_follow : s.selectorTo n v = s.follow s.selectorChain n v := by
  induction n generalizing v with
  | zero => rfl
  | succ n ih =>
    rw [selectorTo, follow]
    refine congrArg (s.value v >>= ·) (funext (fun value => ?_))
    cases hk : value.kind with
    | makeInterface inner =>
      simp only [selectorChain, ValueKind.behind?, hk, ih]
      exact (bind_ok_right _).symm
    | unOp op inner =>
      cases op with
      | deref =>
        simp only [selectorChain, ValueKind.behind?, hk, ih]
        exact (bind_ok_right _).symm
      | _ => simp [selectorChain, ValueKind.behind?, hk]
    | _ => simp [selectorChain, ValueKind.behind?, hk]

theorem callableTo_eq_follow : s.callableTo n v = s.follow s.callableChain n v := by
  induction n generalizing v with
  | zero => rfl
  | succ n ih =>
    rw [callableTo, follow]
    refine congrArg (s.value v >>= ·) (funext (fun value => ?_))
    cases hk : value.kind with
    | makeInterface inner =>
      simp only [callableChain, ValueKind.boxed?, hk, ih]
      exact (bind_ok_right _).symm
    | _ => simp [callableChain, ValueKind.boxed?, hk]

theorem bindingTo_eq_follow : s.bindingTo n v = s.follow s.bindingChain n v := by
  induction n generalizing v with
  | zero => rfl
  | succ n ih =>
    rw [bindingTo, follow]
    refine congrArg (s.value v >>= ·) (funext (fun value => ?_))
    cases hk : value.kind with
    | makeInterface inner =>
      simp only [bindingChain, ValueKind.behind?, hk, ih]
      exact (bind_ok_right _).symm
    | unOp op inner =>
      cases op with
      | deref => simp [bindingChain, ValueKind.behind?, hk, ih]
      | _ => simp [bindingChain, ValueKind.behind?, hk]
    | alloc heap =>
      cases htype : value.type with
      | none => simp [bindingChain, ValueKind.behind?, hk, typed, htype]; rfl
      | some type =>
        cases hstored : s.storedInto v with
        | none => simp [bindingChain, ValueKind.behind?, hk, typed, htype, hstored]
        | some stored => simp [bindingChain, ValueKind.behind?, hk, typed, htype, hstored, ih]
    | _ => simp [bindingChain, ValueKind.behind?, hk]

theorem packedTo_eq_follow : s.packedTo n v = s.follow s.packedChain n v := by
  induction n generalizing v with
  | zero => rfl
  | succ n ih =>
    rw [packedTo, follow]
    refine congrArg (s.value v >>= ·) (funext (fun value => ?_))
    cases hk : value.kind with
    | makeInterface inner =>
      simp only [packedChain, ValueKind.boxed?, hk, ih]
      exact (bind_ok_right _).symm
    | const literal => cases literal <;> simp [packedChain, ValueKind.boxed?, hk]
    | _ => simp [packedChain, ValueKind.boxed?, hk]

/-! ## Readings stay within a sound function -/

section

variable (hs : s.function.Sound s.program)
include hs

/-- A chain that goes on to what a value reads stays within the function. -/
theorem Chain.within_of_operands
    (h : ∀ v value w, c.link v value = some w → w ∈ value.kind.operands) : c.Within s :=
  fun v value w hvalue hlink => hs.has_of_operand hvalue (h v value w hlink)

theorem stringChain_within : stringChain.Within s :=
  Chain.within_of_operands hs (fun _ _ _ => ValueKind.mem_operands_of_boxed?)

theorem selectorChain_within : s.selectorChain.Within s :=
  Chain.within_of_operands hs (fun _ _ _ => ValueKind.mem_operands_of_behind?)

theorem callableChain_within : s.callableChain.Within s :=
  Chain.within_of_operands hs (fun _ _ _ => ValueKind.mem_operands_of_boxed?)

theorem packedChain_within : s.packedChain.Within s :=
  Chain.within_of_operands hs (fun _ _ _ => ValueKind.mem_operands_of_boxed?)

theorem bindingChain_within (hl : s.index.Lists s.function) : s.bindingChain.Within s := by
  intro v value w hvalue hlink
  unfold bindingChain at hlink
  dsimp only at hlink
  split at hlink
  · -- what is stored is read by the instruction that stores it
    split at hlink
    · obtain ⟨u, hu, hkind⟩ := exists_store_of_storedInto hlink
      refine hs.has_of_operand (hl.entries u hu) ?_
      rw [hkind]
      exact List.mem_cons_of_mem _ List.mem_cons_self
    · cases hlink
  · exact hs.has_of_operand hvalue (ValueKind.mem_operands_of_behind? hlink)

end

end Scope

end Crosswalk
