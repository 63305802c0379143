import Crosswalk.Proofs.Program.Narrow

/-!
# Whatever is built is sound

A front end drives the builder by one call after another: it adds types, declares functions,
opens bodies, closed ones and open ones alike, and writes into the one it opened last. What it
may pass along is what it was given before: the position of a type, a declared function, a
value handed out for the same function, a block of the same body.

A *session* is what such a front end has in hand: the program so far, the cursor, and the
values handed out. What a call may be in a session is said without a word on what the builder
does with it (`BuildSession.Allowed`). An allowed call neither faults nor leaves a program behind
that would not pass validation (`BuildSession.Sound.step`), and so it goes for all of them
(`BuildSession.validate_of_allows`). It takes nothing back either, so what is in hand is at
positions of 32 bits as long as the last program is narrow (`BuildSession.Sound.narrow`).

## Types that may be missing

The type of an instruction is worked out from the types of what it reads, and comes out as
missing where those do not have the shape it takes. That is no fault: an instruction may do
without a type. What matters is that a type that is not missing exists (`Build.Typed`).
-/

namespace Crosswalk

namespace Build

/-- **Working out a type** keeps up the program, and what comes of it exists. -/
abbrev Typed (x : Build (Option TypeId)) (p : Program) : Prop :=
  Upkeep x p (fun type p' => ∀ t ∈ type, p'.types.Has t)

section

variable {c : Cursor} {p : Program} {kind : ValueKind} {tk : TypeKind} {type : Option TypeId}
  {name : Option String} {elem id : TypeId} {v : ValueId} {target : FunctionId}

/-! ## The types of instructions -/

theorem upkeep_typeOf (hp : p.Built) (hv : p.Gives c.function v) :
    Upkeep (typeOf c v) p (fun type p' => p' = p ∧ ∀ t ∈ type, p.types.Has t) := by
  obtain ⟨kind, hk, -⟩ := hv
  obtain ⟨f, w, hf, hw, -⟩ := Program.kind?_eq_some_iff.mp hk
  have hsound := (hp.sound.functions _ f hf).values v w hw
  exact .of_eq hp (typeOf_eq hf hw) ⟨rfl, hsound.type⟩

theorem typed_withType {question : TypeId → Build (Option TypeId)} (hp : p.Built)
    (h : ∀ t ∈ type, Typed (question t) p) : Typed (withType type question) p := by
  cases type with
  | none => exact .pure hp nofun
  | some t => exact h t rfl

theorem typed_internFrom {made : TypeId → TypeKind} (hp : p.Built)
    (hmade : ∀ t, (made t).parts = [t]) (htype : ∀ t ∈ type, p.types.Has t) :
    Typed (internFrom made type) p := by
  refine typed_withType hp (fun t ht => (upkeep_intern hp ?_).bind ?_)
  · simpa [hmade] using htype t ht
  · exact fun id p' hp' _ hid => .pure hp' (by simpa using hid)

/-- What is asked about a table may be answered by a type of it. -/
theorem typed_ask {question : TypeTable → Lookup (Option TypeId)} (hp : p.Built)
    (h : (question p.types).Safe False (fun type => ∀ t ∈ type, p.types.Has t)) :
    Typed (ask question) p := by
  refine (Upkeep.ask hp h).mono ?_
  rintro type p' ⟨rfl, htype⟩
  exact htype

theorem typed_fieldType (field : Nat) (hp : p.Built) (hid : p.types.Has id) :
    Typed (fieldType id field) p := by
  refine (Upkeep.ask hp (hp.sound.types.structFields_safe hid)).bind ?_
  rintro found p' hp' - ⟨rfl, hfound⟩
  refine .pure hp' (fun t ht => ?_)
  obtain ⟨m, hm, rfl⟩ := Option.map_eq_some_iff.mp ht
  obtain ⟨members, hmembers, hm⟩ := Option.bind_eq_some_iff.mp hm
  exact hfound members hmembers m (List.mem_of_getElem? hm)

theorem typed_elemType (hp : p.Built) (hid : p.types.Has id) : Typed (elemType id) p :=
  typed_ask hp ((hp.sound.types.deref_safe hid).bind (fun _ h => hp.sound.types.elem_safe h))

theorem typed_resultType {results : List TypeId} (hp : p.Built)
    (h : ∀ r ∈ results, p.types.Has r) : Typed (resultType results) p := by
  rcases results with _ | ⟨first, _ | ⟨second, rest⟩⟩
  · exact .pure hp nofun
  · exact .pure hp (by simpa using h)
  · refine Upkeep.bind (x := intern (.tuple (first :: second :: rest))) (upkeep_intern hp h) ?_
    exact fun id p' hp' _ hid => .pure hp' (by simpa using hid)

/-! ## Instructions -/

/-- **An instruction of a type that is worked out** from the type of one of its operands. -/
theorem upkeep_emit_typed {question : TypeId → Build (Option TypeId)} (hp : p.Built)
    (hc : Open c p) (hkind : kind.isInstruction = true) (h : p.Provides c.function kind)
    (hv : v ∈ kind.operands) (hquestion : ∀ t, p.types.Has t → Typed (question t) p) :
    Upkeep (do emit c kind (← withType (← typeOf c v) question)) p
      (fun id p' => p'.kind? c.function id = some kind) := by
  refine (upkeep_typeOf hp (h.operands v hv)).bind ?_
  rintro type _ - - ⟨rfl, htype⟩
  refine (typed_withType hp (fun t ht => hquestion t (htype t ht))).bind ?_
  intro type p' hp' hext htype
  exact upkeep_emit hp' (hext.isSome_block? hc) hkind (hext.provides h) htype

/-- The same of a type made of the one that is worked out. -/
theorem upkeep_emit_from {question : TypeId → Build (Option TypeId)} {made : TypeId → TypeKind}
    (hp : p.Built) (hc : Open c p) (hkind : kind.isInstruction = true)
    (h : p.Provides c.function kind) (hv : v ∈ kind.operands)
    (hquestion : ∀ t, p.types.Has t → Typed (question t) p) (hmade : ∀ t, (made t).parts = [t]) :
    Upkeep (do
        let type ← withType (← typeOf c v) question
        emit c kind (← internFrom made type)) p
      (fun id p' => p'.kind? c.function id = some kind) := by
  refine (upkeep_typeOf hp (h.operands v hv)).bind ?_
  rintro type _ - - ⟨rfl, htype⟩
  refine (typed_withType hp (fun t ht => hquestion t (htype t ht))).bind ?_
  intro type p₁ hp₁ hext₁ htype
  refine (typed_internFrom hp₁ hmade htype).bind (fun type p₂ hp₂ hext₂ htype => ?_)
  have hext := hext₁.trans hext₂
  exact upkeep_emit hp₂ (hext.isSome_block? hc) hkind (hext.provides h) htype

/-- The same of a type that is known beforehand. -/
theorem upkeep_emit_intern (hp : p.Built) (hc : Open c p) (hkind : kind.isInstruction = true)
    (h : p.Provides c.function kind) (hparts : ∀ part ∈ tk.parts, p.types.Has part) :
    Upkeep (do emit c kind (some (← intern tk)) name) p
      (fun id p' => p'.kind? c.function id = some kind) := by
  refine (upkeep_intern hp hparts).bind (fun id p' hp' hext hid => ?_)
  exact upkeep_emit hp' (hext.isSome_block? hc) hkind (hext.provides h) (by simpa using hid)

/-- **A constant** of a basic type. -/
theorem upkeep_const {literal : Literal} {basic : BasicType} (hp : p.Built) (hc : Open c p) :
    Upkeep (do push c ⟨.const literal, some (← intern (.basic basic)), none⟩) p
      (fun id p' => p'.kind? c.function id = some (.const literal)) := by
  refine (upkeep_intern hp (fun _ h => absurd h List.not_mem_nil)).bind ?_
  intro id p' hp' hext hid
  exact upkeep_push hp' (hext.isSome_block? hc) ⟨nofun, nofun, nofun⟩ (by simpa using hid)

theorem upkeep_functionRef (hp : p.Built) (hc : Open c p) (htarget : (p.function? target).isSome) :
    Upkeep (functionRef c target) p
      (fun id p' => p'.kind? c.function id = some (.functionRef target)) := by
  refine (upkeep_functionType hp htarget).bind (fun id p' hp' hext hid => ?_)
  have h : p'.Provides c.function (.functionRef target) :=
    ⟨nofun, fun g hg => Option.some.inj hg ▸ hext.isSome_function? htarget, nofun⟩
  exact upkeep_push hp' (hext.isSome_block? hc) h (by simpa using hid)

theorem upkeep_indexAddr {base index : ValueId} (hp : p.Built) (hc : Open c p)
    (h : p.Provides c.function (.indexAddr base index)) :
    Upkeep (indexAddr c base index) p
      (fun id p' => p'.kind? c.function id = some (.indexAddr base index)) :=
  upkeep_emit_from hp hc rfl h List.mem_cons_self (fun _ => typed_elemType hp) (fun _ => rfl)

theorem upkeep_slice {base : ValueId} (hp : p.Built) (hc : Open c p)
    (h : p.Provides c.function (.slice base)) :
    Upkeep (slice c base) p (fun id p' => p'.kind? c.function id = some (.slice base)) :=
  upkeep_emit_from hp hc rfl h List.mem_cons_self (fun _ => typed_elemType hp) (fun _ => rfl)

/-- **A call through a value** may have the type of its results, or none. -/
theorem upkeep_callValue {callee : ValueId} {args : List ValueId} (hp : p.Built) (hc : Open c p)
    (h : p.Provides c.function (.call callee args)) :
    Upkeep (callValue c callee args) p
      (fun id p' => p'.kind? c.function id = some (.call callee args)) := by
  refine upkeep_emit_typed hp hc rfl h List.mem_cons_self (fun t ht => ?_)
  refine (Upkeep.ask hp ht.kind_safe).bind ?_
  rintro k p' hp' - ⟨rfl, hk⟩
  cases k with
  | signature params results variadic =>
    exact typed_resultType hp' (fun r hr => hp'.sound.types t _ hk r (List.mem_append_right _ hr))
  | _ => exact .pure hp' nofun

/-- **A direct call** of a declared function. -/
theorem upkeep_call {args : List ValueId} (hp : p.Built) (hc : Open c p)
    (htarget : (p.function? target).isSome) (hargs : ∀ v ∈ args, p.Gives c.function v) :
    Upkeep (call c target args) p (fun id p' => (p'.kind? c.function id).isSome) := by
  refine (upkeep_functionRef hp hc htarget).bind (fun callee p' hp' hext hcallee => ?_)
  have h : p'.Provides c.function (.call callee args) := by
    refine ⟨List.forall_mem_cons.mpr ⟨⟨_, hcallee, rfl⟩, ?_⟩, nofun, nofun⟩
    exact fun v hv => hext.gives (hargs v hv)
  exact (upkeep_callValue hp' (hext.isSome_block? hc) h).mono (fun id p' hid => by simp [hid])

theorem upkeep_makeClosure {bindings : List ValueId} (hp : p.Built) (hc : Open c p)
    (h : p.Provides c.function (.makeClosure target bindings)) :
    Upkeep (makeClosure c target bindings) p
      (fun id p' => p'.kind? c.function id = some (.makeClosure target bindings)) := by
  refine (upkeep_functionType hp (h.target target rfl)).bind (fun id p' hp' hext hid => ?_)
  exact upkeep_emit hp' (hext.isSome_block? hc) rfl (hext.provides h) (by simpa using hid)

/-- **One store after another** into an array. -/
theorem upkeep_storeEach {backing : ValueId} {values : List (ValueId × Nat)} (hp : p.Built)
    (hc : Open c p) (hbacking : p.Gives c.function backing)
    (hvalues : ∀ v ∈ values, p.Gives c.function v.1) :
    Upkeep (storeEach c backing values) p (fun _ _ => True) := by
  induction values generalizing p with
  | nil => exact .pure hp trivial
  | cons entry rest ih =>
    obtain ⟨value, i⟩ := entry
    refine (upkeep_const hp hc).bind (fun index p₁ hp₁ hext₁ hindex => ?_)
    have hslot : p₁.Provides c.function (.indexAddr backing index) := by
      refine ⟨List.forall_mem_cons.mpr ⟨hext₁.gives hbacking, ?_⟩, nofun, nofun⟩
      exact List.forall_mem_singleton.mpr ⟨_, hindex, rfl⟩
    have hc₁ := hext₁.isSome_block? hc
    refine (upkeep_indexAddr hp₁ hc₁ hslot).bind (fun slot p₂ hp₂ hext₂ hslot => ?_)
    have hvalue := hext₂.gives (hext₁.gives (hvalues _ List.mem_cons_self))
    have hstore : p₂.Provides c.function (.store slot value) := by
      refine ⟨List.forall_mem_cons.mpr ⟨⟨_, hslot, rfl⟩, ?_⟩, nofun, nofun⟩
      exact List.forall_mem_singleton.mpr hvalue
    have hc₂ := hext₂.isSome_block? hc₁
    have hnone : ∀ t ∈ (none : Option TypeId), p₂.types.Has t := nofun
    refine (upkeep_emit hp₂ hc₂ rfl hstore hnone).bind (fun _ p₃ hp₃ hext₃ _ => ?_)
    have hext := (hext₁.trans hext₂).trans hext₃
    exact ih hp₃ (hext.isSome_block? hc) (hext.gives hbacking)
      (fun v hv => hext.gives (hvalues v (List.mem_cons_of_mem _ hv)))

/-- **Packing values** for a variadic call. -/
theorem upkeep_variadic {values : List ValueId} (hp : p.Built) (hc : Open c p)
    (helem : p.types.Has elem) (hvalues : ∀ v ∈ values, p.Gives c.function v) :
    Upkeep (variadic c elem values) p (fun id p' => (p'.kind? c.function id).isSome) := by
  have helems : ∀ part ∈ (TypeKind.array elem values.length).parts, p.types.Has part :=
    List.forall_mem_singleton.mpr helem
  refine (upkeep_intern hp helems).bind (fun array p₁ hp₁ hext₁ harray => ?_)
  have hc₁ := hext₁.isSome_block? hc
  have halloc : p₁.Provides c.function (.alloc true) := ⟨nofun, nofun, nofun⟩
  have hpointee : ∀ part ∈ (TypeKind.pointer array).parts, p₁.types.Has part :=
    List.forall_mem_singleton.mpr harray
  refine (upkeep_emit_intern hp₁ hc₁ rfl halloc hpointee).bind
    (fun backing p₂ hp₂ hext₂ hbacking => ?_)
  have hbacking : p₂.Gives c.function backing := ⟨_, hbacking, rfl⟩
  have hc₂ := hext₂.isSome_block? hc₁
  refine (upkeep_storeEach hp₂ hc₂ hbacking (fun v hv => ?_)).bind (fun _ p₃ hp₃ hext₃ _ => ?_)
  · exact hext₂.gives (hext₁.gives (hvalues v.1 (List.fst_mem_of_mem_zipIdx hv)))
  · have hslice : p₃.Provides c.function (.slice backing) :=
      ⟨List.forall_mem_singleton.mpr (hext₃.gives hbacking), nofun, nofun⟩
    refine (upkeep_slice hp₃ (hext₃.isSome_block? hc₂) hslice).mono (fun id p' hid => ?_)
    simp [hid]

end

end Build

/-! ## What a front end may ask for -/

instance (t : TypeTable) (id : TypeId) : Decidable (t.Has id) :=
  inferInstanceAs (Decidable ((t.kind? id).isSome = true))

/-- **What is written into an open body**: an operand or an instruction. -/
inductive Edit where
  | param (index : Nat)
  | constString (s : String)
  | constInt (i : Int)
  | constNil (type : TypeId)
  | functionRef (target : FunctionId)
  | freeVar (index : Nat) (type : TypeId) (name : String)
  | alloc (elem : TypeId) (name : Option String)
  | newObject (elem : TypeId)
  | fieldAddr (base : ValueId) (field : Nat)
  | indexAddr (base index : ValueId)
  | load (address : ValueId)
  | makeInterface (value : ValueId)
  | slice (base : ValueId)
  | store (address value : ValueId)
  | makeClosure (target : FunctionId) (bindings : List ValueId)
  | call (target : FunctionId) (args : List ValueId)
  | callValue (callee : ValueId) (args : List ValueId)
  | ret (results : List ValueId)
  | variadic (elem : TypeId) (values : List ValueId)
  | jump (target : BlockId)
deriving DecidableEq, Repr

namespace Edit

/-- The operation of the builder. -/
def run (c : Cursor) : Edit → Build ValueId
  | .param index => Build.param c index
  | .constString s => Build.constString c s
  | .constInt i => Build.constInt c i
  | .constNil type => Build.constNil c type
  | .functionRef target => Build.functionRef c target
  | .freeVar index type name => Build.freeVar c index type name
  | .alloc elem name => Build.alloc c elem name
  | .newObject elem => Build.newObject c elem
  | .fieldAddr base field => Build.fieldAddr c base field
  | .indexAddr base index => Build.indexAddr c base index
  | .load address => Build.load c address
  | .makeInterface value => Build.makeInterface c value
  | .slice base => Build.slice c base
  | .store address value => Build.store c address value
  | .makeClosure target bindings => Build.makeClosure c target bindings
  | .call target args => Build.call c target args
  | .callValue callee args => Build.callValue c callee args
  | .ret results => Build.ret c results
  | .variadic elem values => Build.variadic c elem values
  | .jump target => Build.jump c target

/-- The types that are passed along. -/
def types : Edit → List TypeId
  | .constNil type | .freeVar _ type _ | .alloc type _ | .newObject type | .variadic type _ =>
    [type]
  | _ => []

/-- The functions that are passed along. -/
def functions : Edit → List FunctionId
  | .functionRef target | .makeClosure target _ | .call target _ => [target]
  | _ => []

/-- The values that are passed along. -/
def operands : Edit → List ValueId
  | .fieldAddr value _ | .load value | .makeInterface value | .slice value => [value]
  | .indexAddr base index => [base, index]
  | .store address value => [address, value]
  | .callValue callee args => callee :: args
  | .makeClosure _ values | .call _ values | .ret values | .variadic _ values => values
  | _ => []

/-- The blocks that are passed along. -/
def blocks : Edit → List BlockId
  | .jump target => [target]
  | _ => []

/-- The places of parameters that are passed along. -/
def places : Edit → List Nat
  | .param index => [index]
  | _ => []

/-- **What is passed along is there**, in the function at `id`. What a value has to be in order
to be passed along is as in `P`. -/
structure Fits (p : Program) (id : FunctionId) (P : ValueId → Prop) (e : Edit) : Prop where
  /-- Types are in range. -/
  types : ∀ t ∈ e.types, p.types.Has t
  /-- Functions are declared. -/
  functions : ∀ g ∈ e.functions, (p.function? g).isSome
  /-- Values are what they have to be. -/
  operands : ∀ v ∈ e.operands, P v
  /-- Blocks are blocks of the function. -/
  blocks : ∀ b ∈ e.blocks, (p.block? id b).isSome
  /-- There is a parameter at the place. -/
  places : ∀ i ∈ e.places, ∃ f ∈ p.function? id, i < f.signature.allParams.length

instance {p : Program} {id : FunctionId} {P : ValueId → Prop} [DecidablePred P] {e : Edit} :
    Decidable (e.Fits p id P) :=
  decidable_of_iff ((∀ t ∈ e.types, p.types.Has t) ∧ (∀ g ∈ e.functions, (p.function? g).isSome) ∧
      (∀ v ∈ e.operands, P v) ∧ (∀ b ∈ e.blocks, (p.block? id b).isSome) ∧
      ∀ i ∈ e.places, ∃ f ∈ p.function? id, i < f.signature.allParams.length)
    ⟨fun ⟨h₁, h₂, h₃, h₄, h₅⟩ => ⟨h₁, h₂, h₃, h₄, h₅⟩,
      fun ⟨h₁, h₂, h₃, h₄, h₅⟩ => ⟨h₁, h₂, h₃, h₄, h₅⟩⟩

theorem Fits.mono {p : Program} {id : FunctionId} {P Q : ValueId → Prop} {e : Edit}
    (h : e.Fits p id P) (hPQ : ∀ v, P v → Q v) : e.Fits p id Q :=
  ⟨h.types, h.functions, fun v hv => hPQ v (h.operands v hv), h.blocks, h.places⟩

end Edit

/-- **Whatever is written keeps up the program**, as long as what it is written with is
there. -/
theorem Build.upkeep_edit {p : Program} {c : Cursor} {e : Edit} (hp : p.Built) (hc : Open c p)
    (h : e.Fits p c.function (p.Gives c.function)) :
    Upkeep (e.run c) p (fun v p' => (p'.kind? c.function v).isSome) := by
  have known : ∀ {x : Build ValueId} {kind : ValueKind},
      Upkeep x p (fun v p' => p'.kind? c.function v = some kind) →
        Upkeep x p (fun v p' => (p'.kind? c.function v).isSome) :=
    fun hx => hx.mono (fun v p' hv => by simp [hv])
  cases e with
  | param index =>
    obtain ⟨f, hf, hi⟩ := h.places index List.mem_cons_self
    exact upkeep_param hp hc hf hi
  | constString s => exact known (upkeep_const hp hc)
  | constInt i => exact known (upkeep_const hp hc)
  | constNil type =>
    have htype : ∀ t ∈ some type, p.types.Has t := by simpa [Edit.types] using h.types
    exact known (upkeep_push hp hc ⟨nofun, nofun, nofun⟩ htype)
  | functionRef target =>
    exact known (upkeep_functionRef hp hc (h.functions target List.mem_cons_self))
  | freeVar index type name =>
    have htype : ∀ t ∈ some type, p.types.Has t := by simpa [Edit.types] using h.types
    exact known (upkeep_push hp hc ⟨nofun, nofun, nofun⟩ htype)
  | alloc elem name =>
    exact known (upkeep_emit_intern hp hc rfl ⟨nofun, nofun, nofun⟩ h.types)
  | newObject elem => exact known (upkeep_emit_intern hp hc rfl ⟨nofun, nofun, nofun⟩ h.types)
  | fieldAddr base field =>
    exact known (upkeep_emit_from hp hc rfl ⟨h.operands, nofun, nofun⟩ List.mem_cons_self
      (fun _ => typed_fieldType field hp) (fun _ => rfl))
  | indexAddr base index => exact known (upkeep_indexAddr hp hc ⟨h.operands, nofun, nofun⟩)
  | load address =>
    exact known (upkeep_emit_typed hp hc rfl ⟨h.operands, nofun, nofun⟩ List.mem_cons_self
      (fun _ ht => typed_ask hp (hp.sound.types.pointee_safe ht)))
  | makeInterface value =>
    exact known (upkeep_emit_intern hp hc rfl ⟨h.operands, nofun, nofun⟩ nofun)
  | slice base => exact known (upkeep_slice hp hc ⟨h.operands, nofun, nofun⟩)
  | store address value => exact known (upkeep_emit hp hc rfl ⟨h.operands, nofun, nofun⟩ nofun)
  | makeClosure target bindings =>
    refine known (upkeep_makeClosure hp hc ⟨h.operands, fun g hg => ?_, nofun⟩)
    exact Option.some.inj hg ▸ h.functions target List.mem_cons_self
  | call target args => exact upkeep_call hp hc (h.functions target List.mem_cons_self) h.operands
  | callValue callee args => exact known (upkeep_callValue hp hc ⟨h.operands, nofun, nofun⟩)
  | ret results => exact known (upkeep_emit hp hc rfl ⟨h.operands, nofun, nofun⟩ nofun)
  | variadic elem values =>
    exact upkeep_variadic hp hc (h.types elem List.mem_cons_self) h.operands
  | jump target => exact known (upkeep_emit hp hc rfl ⟨nofun, nofun, h.blocks⟩ nofun)

/-! ## Sessions -/

/-- **A call of the builder.** -/
inductive Call where
  /-- A type is added, unless it is there. -/
  | intern (kind : TypeKind)
  /-- The predeclared type `error`. -/
  | internError
  | declare (name : String) (signature : Signature)
  | declareIn (package name : String) (signature : Signature)
  | setFile (id : FunctionId) (file : String)
  | setSynthetic (id : FunctionId) (description : String)
  | functionType (id : FunctionId)
  | body (id : FunctionId)
  | edit (e : Edit)
  | newBlock
  | switchTo (block : BlockId)
deriving DecidableEq, Repr

/-- **What a front end has in hand.** -/
structure BuildSession where
  /-- The program so far. -/
  program : Program
  /-- Where it writes, once it has opened a body. -/
  cursor : Option Cursor
  /-- The values it was given, each with the function it was given for. -/
  handed : List (FunctionId × ValueId)

namespace BuildSession

variable {s s' : BuildSession} {call : Call} {calls before rest : List Call} {id : FunctionId}
  {v : ValueId}

/-- Nothing is in hand yet. -/
def start (package : String) : BuildSession := ⟨.empty package, none, []⟩

/-- The session after an operation whose answer is not kept. -/
def after {α : Type} (s : BuildSession) (x : Build α) : Lookup BuildSession := do
  return { s with program := (← x s.program).2 }

/-- **The session after a call.** Nothing can be written where no body is open. -/
def step (s : BuildSession) : Call → Lookup BuildSession
  | .intern kind => s.after (Build.intern kind)
  | .internError =>
    return { s with program := { s.program with types := s.program.types.internError.2 } }
  | .declare name signature => s.after (Build.declare name signature)
  | .declareIn package name signature => s.after (Build.declareIn package name signature)
  | .setFile id file => s.after (Build.setFile id file)
  | .setSynthetic id description => s.after (Build.setSynthetic id description)
  | .functionType id => s.after (Build.functionType id)
  | .body id => do
    let (c, program) ← Build.body id s.program
    return { s with program, cursor := some c }
  | .edit e =>
    match s.cursor with
    | none => return s
    | some c => do
      let (v, program) ← e.run c s.program
      return { s with program, handed := (c.function, v) :: s.handed }
  | .newBlock =>
    match s.cursor with
    | none => return s
    | some c => s.after (Build.newBlock c)
  | .switchTo block => return { s with cursor := s.cursor.map (fun c => c.switchTo block) }

/-- **The session after one call after another.** -/
def run (s : BuildSession) (calls : List Call) : Lookup BuildSession := calls.foldlM step s

theorem run_cons : s.run (call :: calls) = s.step call >>= fun s' => s'.run calls :=
  List.foldlM_cons

theorem run_append : s.run (before ++ rest) = s.run before >>= fun s' => s'.run rest :=
  List.foldlM_append

theorem step_body {c : Cursor} {p : Program} (h : Build.body id s.program = .ok (c, p)) :
    s.step (.body id) = .ok { s with program := p, cursor := some c } := by
  simp [step, h, pure, Except.pure]

theorem step_edit {c : Cursor} {e : Edit} {p : Program} (hc : s.cursor = some c)
    (h : e.run c s.program = .ok (v, p)) :
    s.step (.edit e) = .ok { s with program := p, handed := (c.function, v) :: s.handed } := by
  simp [step, hc, h, pure, Except.pure]

theorem step_newBlock {c : Cursor} (hc : s.cursor = some c) :
    s.step .newBlock = s.after (Build.newBlock c) := by
  simp [step, hc]

/-- The value was given for the function, and produces something. -/
def Handed (s : BuildSession) (id : FunctionId) (v : ValueId) : Prop :=
  (id, v) ∈ s.handed ∧ ∀ kind ∈ s.program.kind? id v, kind.producesValue = true

instance : Decidable (s.Handed id v) := inferInstanceAs (Decidable (_ ∧ _))

/-- The types a signature mentions are in range. -/
def Takes (s : BuildSession) (signature : Signature) : Prop :=
  (∀ q ∈ signature.allParams, s.program.types.Has q.type) ∧
    ∀ r ∈ signature.results, s.program.types.Has r

instance {signature : Signature} : Decidable (s.Takes signature) :=
  inferInstanceAs (Decidable (_ ∧ _))

/-- **What may be called in a session**: types are in range, functions declared, values handed
out for the function that is written, blocks of its body, and its parameters exist. -/
def Allowed (s : BuildSession) : Call → Prop
  | .intern kind => ∀ part ∈ kind.parts, s.program.types.Has part
  | .internError => True
  | .declare _ signature => s.Takes signature
  | .declareIn _ _ signature => s.Takes signature
  | .setFile id _ | .setSynthetic id _ | .functionType id | .body id =>
    (s.program.function? id).isSome
  | .edit e => ∃ c ∈ s.cursor, e.Fits s.program c.function (s.Handed c.function)
  | .newBlock => s.cursor.isSome
  | .switchTo block => ∃ c ∈ s.cursor, (s.program.block? c.function block).isSome

instance : (call : Call) → Decidable (s.Allowed call)
  | .intern kind => inferInstanceAs (Decidable (∀ part ∈ kind.parts, s.program.types.Has part))
  | .internError => isTrue trivial
  | .declare _ signature | .declareIn _ _ signature =>
    inferInstanceAs (Decidable (s.Takes signature))
  | .setFile id _ | .setSynthetic id _ | .functionType id | .body id =>
    inferInstanceAs (Decidable ((s.program.function? id).isSome = true))
  | .edit e =>
    inferInstanceAs (Decidable (∃ c ∈ s.cursor, e.Fits s.program c.function (s.Handed c.function)))
  | .newBlock => inferInstanceAs (Decidable (s.cursor.isSome = true))
  | .switchTo block =>
    inferInstanceAs (Decidable (∃ c ∈ s.cursor, (s.program.block? c.function block).isSome = true))

/-- **A sequence of calls**, each of which is allowed where it stands. -/
def Allows : BuildSession → List Call → Prop
  | _, [] => True
  | s, call :: calls => s.Allowed call ∧ ∀ s', s.step call = .ok s' → s'.Allows calls

instance : (calls : List Call) → (s : BuildSession) → Decidable (s.Allows calls)
  | [], _ => isTrue trivial
  | call :: calls, s =>
    match h : s.step call with
    | .ok s' =>
      have := instDecidableAllows calls s'
      decidable_of_iff (s.Allowed call ∧ s'.Allows calls) (by simp [Allows, h])
    | .error _ => decidable_of_iff (s.Allowed call) (by simp [Allows, h])

/-- **What is kept up from call to call.** -/
structure Sound (s : BuildSession) : Prop where
  /-- The program is sound. -/
  program : s.program.Built
  /-- The cursor stands at a block. -/
  cursor : ∀ c ∈ s.cursor, Build.Open c s.program
  /-- What was handed out is there. -/
  handed : ∀ given ∈ s.handed, (s.program.kind? given.1 given.2).isSome

theorem sound_start (package : String) : (start package).Sound :=
  ⟨⟨⟨nofun, nofun, nofun⟩, nofun⟩, nofun, nofun⟩

namespace Sound

theorem gives (h : s.Sound) (hv : s.Handed id v) : s.program.Gives id v := by
  obtain ⟨kind, hk⟩ := Option.isSome_iff_exists.mp (h.handed _ hv.1)
  exact ⟨kind, hk, hv.2 kind hk⟩

/-- What is only added to leaves the session as it is. -/
theorem extend {program : Program} (h : s.Sound) (hp : program.Built)
    (hext : s.program.Extends program) : ({ s with program } : BuildSession).Sound := by
  refine ⟨hp, fun c hc => hext.isSome_block? (h.cursor c hc), fun given hgiven => ?_⟩
  obtain ⟨kind, hk⟩ := Option.isSome_iff_exists.mp (h.handed given hgiven)
  simp [hext.kind? hk]

theorem after {α : Type} {x : Build α} {Q : α → Program → Prop} (h : s.Sound)
    (hx : x.Upkeep s.program Q) :
    ∃ s', s.after x = .ok s' ∧ s'.Sound ∧ s.program.Extends s'.program := by
  obtain ⟨a, program, hx, hp, hext, -⟩ := hx
  refine ⟨_, ?_, h.extend hp hext, hext⟩
  unfold BuildSession.after
  rw [hx]
  rfl

/-- **An allowed call succeeds**, and what was kept up is kept up. -/
theorem step (h : s.Sound) (hcall : s.Allowed call) :
    ∃ s', s.step call = .ok s' ∧ s'.Sound ∧ s.program.Extends s'.program := by
  have hp := h.program
  cases call with
  | intern kind => exact h.after (Build.upkeep_intern hp hcall)
  | internError =>
    have hinner : Build.Upkeep (Build.intern (.interface ["Error"])) s.program
        (fun id p' => p'.types.Has id) := Build.upkeep_intern hp (by simp [TypeKind.parts])
    have hboth : Build.Upkeep (do Build.intern (.named "error" none
        (← Build.intern (.interface ["Error"])))) s.program (fun id p' => p'.types.Has id) :=
      hinner.bind (fun id p' hp' _ hid =>
        Build.upkeep_intern hp' (by simpa [TypeKind.parts] using hid))
    exact h.after hboth
  | declare name signature => exact h.after (Build.upkeep_declareIn hp hcall.1 hcall.2)
  | declareIn package name signature => exact h.after (Build.upkeep_declareIn hp hcall.1 hcall.2)
  | setFile id file =>
    obtain ⟨f, hf⟩ := Option.isSome_iff_exists.mp hcall
    have hnote := Build.upkeep_annotate hp hf (some file) f.synthetic
    exact h.after (hnote.next (Build.function_eq hf))
  | setSynthetic id description =>
    obtain ⟨f, hf⟩ := Option.isSome_iff_exists.mp hcall
    have hnote := Build.upkeep_annotate hp hf f.file (some description)
    exact h.after (hnote.next (Build.function_eq hf))
  | functionType id => exact h.after (Build.upkeep_functionType hp hcall)
  | body id =>
    obtain ⟨c, program, hbody, hp', hext, rfl, hopen⟩ := Build.upkeep_body hp hcall
    have hs := h.extend hp' hext
    exact ⟨_, step_body hbody, ⟨hs.program, by simpa using hopen, hs.handed⟩, hext⟩
  | edit e =>
    obtain ⟨c, hc, he⟩ := hcall
    obtain ⟨v, program, hrun, hp', hext, hv⟩ :=
      Build.upkeep_edit hp (h.cursor c hc) (he.mono (fun _ => h.gives))
    have hs := h.extend hp' hext
    exact ⟨_, step_edit hc hrun, ⟨hs.program, hs.cursor, List.forall_mem_cons.mpr ⟨hv, hs.handed⟩⟩,
      hext⟩
  | newBlock =>
    obtain ⟨c, hc⟩ := Option.isSome_iff_exists.mp hcall
    obtain ⟨s', hs', hkept⟩ := h.after (Build.upkeep_newBlock hp (h.cursor c hc))
    exact ⟨s', (step_newBlock hc).trans hs', hkept⟩
  | switchTo block =>
    obtain ⟨c, hc, hblock⟩ := hcall
    refine ⟨_, rfl, ⟨hp, fun c' hc' => ?_, h.handed⟩, .refl _⟩
    obtain ⟨c₀, hc₀, rfl⟩ := Option.map_eq_some_iff.mp hc'
    obtain rfl := Option.some.inj (hc.symm.trans hc₀)
    exact hblock

/-- **Allowed calls succeed one after another.** -/
theorem run (h : s.Sound) (hcalls : s.Allows calls) :
    ∃ s', s.run calls = .ok s' ∧ s'.Sound ∧ s.program.Extends s'.program := by
  induction calls generalizing s with
  | nil => exact ⟨s, rfl, h, .refl _⟩
  | cons call calls ih =>
    obtain ⟨s₁, hstep, hs₁, hext⟩ := h.step hcalls.1
    obtain ⟨s', hrun, hs', hext'⟩ := ih hs₁ (hcalls.2 s₁ hstep)
    refine ⟨s', ?_, hs', hext.trans hext'⟩
    rw [run_cons, hstep]
    exact hrun

end Sound

/-- What is allowed is allowed up to any point, and from there on. -/
theorem Allows.of_append (h : s.Allows (before ++ rest)) :
    s.Allows before ∧ ∀ s', s.run before = .ok s' → s'.Allows rest := by
  induction before generalizing s with
  | nil =>
    refine ⟨trivial, fun s' hrun => ?_⟩
    obtain rfl := Except.ok.inj hrun
    exact h
  | cons call before ih =>
    refine ⟨⟨h.1, fun s₁ hs₁ => (ih (h.2 s₁ hs₁)).1⟩, fun s' hrun => ?_⟩
    obtain ⟨s₁, hstep, hrun⟩ := bind_eq_ok_iff.mp (run_cons.symm.trans hrun)
    exact (ih (h.2 s₁ hstep)).2 s' hrun

/-- **What is in hand is at positions of 32 bits.** -/
structure Narrow (s : BuildSession) : Prop where
  /-- The program has no position that is not. -/
  program : s.program.Narrow
  /-- Nor is the cursor at one. -/
  cursor : ∀ c ∈ s.cursor, c.function.Fits ∧ c.block.Fits
  /-- Nor was one handed out. -/
  handed : ∀ given ∈ s.handed, given.1.Fits ∧ given.2.Fits

theorem Sound.narrow (h : s.Sound) (hp : s.program.Narrow) : s.Narrow := by
  refine ⟨hp, fun c hc => ?_, fun given hgiven => ?_⟩
  · have hblock := h.cursor c hc
    obtain ⟨f, hf, -⟩ := Program.isSome_block?_iff.mp hblock
    exact ⟨hp.fits_function (Option.isSome_of_mem hf), hp.fits_block hblock⟩
  · have hkind := h.handed given hgiven
    obtain ⟨kind, hk⟩ := Option.isSome_iff_exists.mp hkind
    obtain ⟨f, -, hf, -⟩ := Program.kind?_eq_some_iff.mp hk
    exact ⟨hp.fits_function (Option.isSome_of_mem hf), hp.fits_value hkind⟩

/-- **Builders only build valid programs**: along a sequence of allowed calls nothing faults,
and the program passes validation after every one of them. If 32 bits can count the tables of
the last program, then they could all along, and whatever was handed out is a position of that
width. -/
theorem validate_of_allows (package : String) (h : (start package).Allows calls)
    (hbefore : before <+: calls) :
    ∃ s, (start package).run before = .ok s ∧ s.program.validate = .ok () ∧
      ∀ last, (start package).run calls = .ok last → last.program.Narrow → s.Narrow := by
  obtain ⟨rest, rfl⟩ := hbefore
  obtain ⟨hallowed, hrest⟩ := h.of_append
  obtain ⟨s, hrun, hs, -⟩ := (sound_start package).run hallowed
  refine ⟨s, hrun, Program.validate_eq_ok_iff.mpr hs.program.sound, fun last hlast hnarrow => ?_⟩
  obtain ⟨s', hrun', -, hext⟩ := hs.run (hrest s hrun)
  rw [run_append, hrun] at hlast
  obtain rfl := Except.ok.inj (hrun'.symm.trans hlast)
  exact hs.narrow (hext.narrow hnarrow)

/-- A function that prints what it is given, written in two goes. -/
def greeting : List Call :=
  [.intern (.basic .string), .internError, .intern (.interface []), .intern (.slice ⟨3⟩),
    .declare "Greet" ⟨none, [⟨"name", ⟨0⟩⟩], [⟨0⟩], false⟩,
    .declareIn "fmt" "Sprint" ⟨none, [⟨"a", ⟨4⟩⟩], [⟨0⟩], true⟩,
    .setFile ⟨0⟩ "greet.go", .functionType ⟨1⟩,
    .body ⟨0⟩, .edit (.param 0), .edit (.makeInterface ⟨0⟩), .edit (.variadic ⟨3⟩ [⟨1⟩]),
    .edit (.call ⟨1⟩ [⟨6⟩]), .newBlock, .edit (.jump ⟨1⟩),
    .setSynthetic ⟨1⟩ "wrapper", .body ⟨0⟩, .switchTo ⟨1⟩, .edit (.ret [⟨8⟩])]

/-- A call reads the value of another one that was written before the body was left. -/
theorem validate_of_allows_greeting :
    ∃ s, (start "example.com/greet").run greeting = .ok s ∧ s.program.validate = .ok () ∧
      s.Narrow := by
  obtain ⟨s, hrun, hvalid, hnarrow⟩ :=
    validate_of_allows "example.com/greet" (by decide +kernel) (List.prefix_refl greeting)
  have hlast : ∀ last ∈ ((start "example.com/greet").run greeting).toOption, last.program.Narrow := by
    decide +kernel
  exact ⟨s, hrun, hvalid, hnarrow s hrun (hlast s (by rw [hrun]; rfl))⟩

end BuildSession

end Crosswalk
