import Crosswalk.Proofs.Program.Sound

/-!
# What validation complains of

Validation asks the same few questions of all the types, values and blocks of a program, and
takes what it asks them of from lists: the parts of a type, the values that a value reads, the
blocks it goes on in. A position that is missing from its list would be followed later on
without ever having been checked. So it is said here once more, place by place, what an entry
mentions, and the lists are shown to hold just that.

What a *well made* program is, and what an *offence* against it is, is then said of these
places alone. Validation passes the programs that are well made, and what it reports of any
other is one of its offences (`Program.validation_exact`).
-/

namespace Crosswalk

/-! ## What entries mention -/

/-- **The types that a type mentions**, by where they stand in it. -/
inductive TypeKind.Mentions : TypeKind → TypeId → Prop
  | declaredAs {name : String} {package : Option String} {id : TypeId} :
      Mentions (.named name package id) id
  | pointee {id : TypeId} : Mentions (.pointer id) id
  | sliceElem {id : TypeId} : Mentions (.slice id) id
  | arrayElem {id : TypeId} {length : Nat} : Mentions (.array id length) id
  | mapKey {id value : TypeId} : Mentions (.map id value) id
  | mapValue {key id : TypeId} : Mentions (.map key id) id
  | field {fields : List Member} {m : Member} (h : m ∈ fields) : Mentions (.struct fields) m.type
  | param {params results : List TypeId} {variadic : Bool} {id : TypeId} (h : id ∈ params) :
      Mentions (.signature params results variadic) id
  | result {params results : List TypeId} {variadic : Bool} {id : TypeId} (h : id ∈ results) :
      Mentions (.signature params results variadic) id
  | component {elems : List TypeId} {id : TypeId} (h : id ∈ elems) : Mentions (.tuple elems) id

/-- The parts of a type are what it mentions. -/
theorem TypeKind.mem_parts_iff {k : TypeKind} {id : TypeId} : id ∈ k.parts ↔ k.Mentions id := by
  constructor
  · intro h
    cases k with
    | basic b => cases h
    | named name package underlying => exact List.mem_singleton.mp h ▸ .declaredAs
    | pointer elem => exact List.mem_singleton.mp h ▸ .pointee
    | slice elem => exact List.mem_singleton.mp h ▸ .sliceElem
    | array elem length => exact List.mem_singleton.mp h ▸ .arrayElem
    | map key value =>
      rcases List.mem_cons.mp h with rfl | h
      · exact .mapKey
      · exact List.mem_singleton.mp h ▸ .mapValue
    | struct fields =>
      obtain ⟨m, hm, rfl⟩ := List.mem_map.mp h
      exact .field hm
    | interface methods => cases h
    | signature params results variadic => exact (List.mem_append.mp h).elim .param .result
    | tuple elems => exact .component h
  · intro h
    cases h with
    | field h => exact List.mem_map_of_mem h
    | param h => exact List.mem_append_left _ h
    | result h => exact List.mem_append_right _ h
    | component h => exact h
    | _ => simp [parts]

/-- **The types that a signature mentions.** -/
inductive Signature.Mentions (s : Signature) : TypeId → Prop
  | receiver {param : Param} (h : s.receiver = some param) : Mentions s param.type
  | param {param : Param} (h : param ∈ s.params) : Mentions s param.type
  | result {id : TypeId} (h : id ∈ s.results) : Mentions s id

theorem Signature.mentions_iff {s : Signature} {id : TypeId} :
    s.Mentions id ↔ (∃ param ∈ s.allParams, param.type = id) ∨ id ∈ s.results := by
  unfold allParams
  constructor
  · intro h
    cases h with
    | receiver h => exact .inl ⟨_, List.mem_append_left _ (Option.mem_toList.mpr h), rfl⟩
    | param h => exact .inl ⟨_, List.mem_append_right _ h, rfl⟩
    | result h => exact .inr h
  · rintro (⟨param, h, rfl⟩ | h)
    · rcases List.mem_append.mp h with h | h
      · exact .receiver (Option.mem_toList.mp h)
      · exact .param h
    · exact .result h

namespace ValueKind

/-- **The values that a value reads**, by what it reads them for. -/
inductive Reads : ValueKind → ValueId → Prop
  | fieldBase {v : ValueId} {field : Nat} : Reads (.fieldAddr v field) v
  | indexBase {v index : ValueId} : Reads (.indexAddr v index) v
  | index {base v : ValueId} : Reads (.indexAddr base v) v
  | boxed {v : ValueId} : Reads (.makeInterface v) v
  | operand {op : UnaryOp} {v : ValueId} : Reads (.unOp op v) v
  | sliced {v : ValueId} : Reads (.slice v) v
  | captured {function : FunctionId} {bindings : List ValueId} {v : ValueId} (h : v ∈ bindings) :
      Reads (.makeClosure function bindings) v
  | callee {v : ValueId} {args : List ValueId} : Reads (.call v args) v
  | argument {callee : ValueId} {args : List ValueId} {v : ValueId} (h : v ∈ args) :
      Reads (.call callee args) v
  | address {v value : ValueId} : Reads (.store v value) v
  | stored {address v : ValueId} : Reads (.store address v) v
  | result {results : List ValueId} {v : ValueId} (h : v ∈ results) : Reads (.ret results) v
  | condition {v : ValueId} {thenBlock elseBlock : BlockId} :
      Reads (.branch v thenBlock elseBlock) v

/-- **The function that a value refers to.** -/
inductive RefersTo : ValueKind → FunctionId → Prop
  | function {id : FunctionId} : RefersTo (.functionRef id) id
  | closure {id : FunctionId} {bindings : List ValueId} : RefersTo (.makeClosure id bindings) id

/-- **The blocks that a value may go on in.** -/
inductive GoesOnIn : ValueKind → BlockId → Prop
  | jump {id : BlockId} : GoesOnIn (.jump id) id
  | thenBlock {condition : ValueId} {id elseBlock : BlockId} :
      GoesOnIn (.branch condition id elseBlock) id
  | elseBlock {condition : ValueId} {thenBlock id : BlockId} :
      GoesOnIn (.branch condition thenBlock id) id

/-- **Plain operands**, which no block lists. -/
inductive IsPlain : ValueKind → Prop
  | const (literal : Literal) : IsPlain (.const literal)
  | parameter (index : Nat) : IsPlain (.parameter index)
  | freeVar (index : Nat) : IsPlain (.freeVar index)
  | functionRef (function : FunctionId) : IsPlain (.functionRef function)

/-- **Instructions that produce nothing**, which no value reads. -/
inductive IsSilent : ValueKind → Prop
  | store (address value : ValueId) : IsSilent (.store address value)
  | ret (results : List ValueId) : IsSilent (.ret results)
  | jump (target : BlockId) : IsSilent (.jump target)
  | branch (condition : ValueId) (thenBlock elseBlock : BlockId) :
      IsSilent (.branch condition thenBlock elseBlock)

variable {k : ValueKind} {v : ValueId} {g : FunctionId} {b : BlockId}

/-- The operands of a value are what it reads. -/
theorem mem_operands_iff : v ∈ k.operands ↔ k.Reads v := by
  constructor
  · intro h
    cases k with
    | fieldAddr base field => exact List.mem_singleton.mp h ▸ .fieldBase
    | indexAddr base index =>
      rcases List.mem_cons.mp h with rfl | h
      · exact .indexBase
      · exact List.mem_singleton.mp h ▸ .index
    | makeInterface value => exact List.mem_singleton.mp h ▸ .boxed
    | unOp op operand => exact List.mem_singleton.mp h ▸ .operand
    | slice base => exact List.mem_singleton.mp h ▸ .sliced
    | makeClosure function bindings => exact .captured h
    | call callee args =>
      rcases List.mem_cons.mp h with rfl | h
      · exact .callee
      · exact .argument h
    | store address value =>
      rcases List.mem_cons.mp h with rfl | h
      · exact .address
      · exact List.mem_singleton.mp h ▸ .stored
    | ret results => exact .result h
    | branch condition thenBlock elseBlock => exact List.mem_singleton.mp h ▸ .condition
    | _ => cases h
  · intro h
    cases h with
    | captured h => exact h
    | argument h => exact List.mem_cons_of_mem _ h
    | result h => exact h
    | _ => simp [operands]

theorem target_eq_some_iff : k.target = some g ↔ k.RefersTo g := by
  constructor
  · intro h
    cases k with
    | functionRef function => exact Option.some.inj h ▸ .function
    | makeClosure function bindings => exact Option.some.inj h ▸ .closure
    | _ => cases h
  · rintro (_ | _) <;> rfl

theorem mem_branches_iff : b ∈ k.branches ↔ k.GoesOnIn b := by
  constructor
  · intro h
    cases k with
    | jump target => exact List.mem_singleton.mp h ▸ .jump
    | branch condition thenBlock elseBlock =>
      rcases List.mem_cons.mp h with rfl | h
      · exact .thenBlock
      · exact List.mem_singleton.mp h ▸ .elseBlock
    | _ => cases h
  · intro h
    cases h <;> simp [branches]

theorem isInstruction_eq_true_iff : k.isInstruction = true ↔ ¬ k.IsPlain := by
  constructor
  · rintro h (_ | _ | _ | _) <;> cases h
  · intro h
    cases k with
    | const literal => exact absurd (.const literal) h
    | parameter index => exact absurd (.parameter index) h
    | freeVar index => exact absurd (.freeVar index) h
    | functionRef function => exact absurd (.functionRef function) h
    | _ => rfl

theorem producesValue_eq_true_iff : k.producesValue = true ↔ ¬ k.IsSilent := by
  constructor
  · rintro h (_ | _ | _ | _) <;> cases h
  · intro h
    cases k with
    | store address value => exact absurd (.store address value) h
    | ret results => exact absurd (.ret results) h
    | jump target => exact absurd (.jump target) h
    | branch condition thenBlock elseBlock =>
      exact absurd (.branch condition thenBlock elseBlock) h
    | _ => rfl

theorem isParameter_eq_true_iff : k.isParameter = true ↔ ∃ index, k = .parameter index := by
  constructor
  · intro h
    cases k with
    | parameter index => exact ⟨index, rfl⟩
    | _ => cases h
  · rintro ⟨index, rfl⟩
    rfl

end ValueKind

/-- **What a value is asked for as.** -/
inductive Role where
  /-- A parameter of the function is bound to it. -/
  | parameter
  /-- A value reads it. -/
  | operand
  /-- A block lists it. -/
  | instruction

namespace Role

/-- **Which values can take the role.** -/
def Admits : Role → ValueKind → Prop
  | .parameter, k => ∃ index, k = .parameter index
  | .operand, k => ¬ k.IsSilent
  | .instruction, k => ¬ k.IsPlain

/-- The test that validation makes. -/
def test : Role → ValueKind → Bool
  | .parameter => ValueKind.isParameter
  | .operand => ValueKind.producesValue
  | .instruction => ValueKind.isInstruction

theorem test_eq_true_iff {role : Role} {k : ValueKind} :
    role.test k = true ↔ role.Admits k := by
  cases role with
  | parameter => exact ValueKind.isParameter_eq_true_iff
  | operand => exact ValueKind.producesValue_eq_true_iff
  | instruction => exact ValueKind.isInstruction_eq_true_iff

end Role

/-! ## What programs mention -/

/-- **The function asks for a value**, in some role. -/
inductive Func.Expects (f : Func) : ValueId → Role → Prop
  | parameter {v : ValueId} (h : v ∈ f.params) : Expects f v .parameter
  | operand {u v : ValueId} {w : Value} (hw : f.value? u = some w) (h : w.kind.Reads v) :
      Expects f v .operand
  | instruction {i : Nat} {b : Block} {v : ValueId} (hb : f.blocks[i]? = some b)
      (h : v ∈ b.instructions) : Expects f v .instruction

/-- **The function may go on in a block.** -/
def Func.UsesBlock (f : Func) (b : BlockId) : Prop :=
  ∃ v w, f.value? v = some w ∧ w.kind.GoesOnIn b

namespace Program

variable {p : Program} {f : Func} {v : Value} {g : FunctionId}

/-- **The types that a program mentions**: in its table, in the signatures of its functions, and
for their values. -/
inductive UsesType (p : Program) : TypeId → Prop
  | entry {id type : TypeId} {k : TypeKind} (hk : p.types.kind? id = some k)
      (h : k.Mentions type) : UsesType p type
  | signature {id : FunctionId} {f : Func} {type : TypeId} (hf : p.function? id = some f)
      (h : f.signature.Mentions type) : UsesType p type
  | value {id : FunctionId} {f : Func} {v : ValueId} {w : Value} {type : TypeId}
      (hf : p.function? id = some f) (hw : f.value? v = some w) (h : w.type = some type) :
      UsesType p type

/-- **The functions that a program refers to.** -/
def UsesFunction (p : Program) (g : FunctionId) : Prop :=
  ∃ id f v w, p.function? id = some f ∧ f.value? v = some w ∧ w.kind.RefersTo g

/-- **A well made program.** -/
structure WellMade (p : Program) : Prop where
  /-- Every type that is mentioned is in the table. -/
  types : ∀ id, p.UsesType id → p.types.Has id
  /-- Every function carries its position. -/
  functionIds : ∀ id f, p.function? id = some f → f.id = id
  /-- So does every block. -/
  blockIds : ∀ id f, p.function? id = some f →
    ∀ (i : Nat) b, f.blocks[i]? = some b → b.id.index = i
  /-- A body binds as many parameters as are declared, the receiver included. -/
  arity : ∀ id f, p.function? id = some f → f.hasBody = true →
    f.params.length = f.signature.allParams.length
  /-- Every value that is asked for is there, and can take the role it is asked for in. -/
  values : ∀ id f, p.function? id = some f → ∀ v role, f.Expects v role →
    ∃ w, f.value? v = some w ∧ role.Admits w.kind
  /-- Every function that is referred to is there. -/
  functions : ∀ g, p.UsesFunction g → (p.function? g).isSome
  /-- Every block that is gone on in is there. -/
  blocks : ∀ id f, p.function? id = some f → ∀ b, f.UsesBlock b → (f.blocks[b.index]?).isSome

/-- **A program breaks a rule**, and the error says which one, and where. -/
inductive Offence (p : Program) : ProgramError → Prop
  | unknownType {id : TypeId} (h : p.UsesType id) (hid : ¬ p.types.Has id) :
      Offence p (.unknownType id)
  | unknownFunction {g : FunctionId} (h : p.UsesFunction g) (hg : p.function? g = none) :
      Offence p (.unknownFunction g)
  | unknownBlock {id : FunctionId} {f : Func} {b : BlockId} (hf : p.function? id = some f)
      (h : f.UsesBlock b) (hb : f.blocks[b.index]? = none) : Offence p (.unknownBlock f.name b)
  | unknownValue {id : FunctionId} {f : Func} {v : ValueId} {role : Role}
      (hf : p.function? id = some f) (h : f.Expects v role) (hv : f.value? v = none) :
      Offence p (.unknownValue f.name v)
  | misplacedValue {id : FunctionId} {f : Func} {v : ValueId} {role : Role} {w : Value}
      (hf : p.function? id = some f) (h : f.Expects v role) (hw : f.value? v = some w)
      (hrole : ¬ role.Admits w.kind) : Offence p (.misplacedValue f.name v w.kind.mnemonic)
  | functionId {id : FunctionId} {f : Func} (hf : p.function? id = some f) (h : f.id ≠ id) :
      Offence p (.idMismatch .function id.index f.id.index)
  | blockId {id : FunctionId} {f : Func} {i : Nat} {b : Block} (hf : p.function? id = some f)
      (hb : f.blocks[i]? = some b) (h : b.id.index ≠ i) :
      Offence p (.idMismatch .block i b.id.index)
  | arity {id : FunctionId} {f : Func} (hf : p.function? id = some f) (hbody : f.hasBody = true)
      (h : f.params.length ≠ f.signature.allParams.length) :
      Offence p (.parameterMismatch f.name f.signature.allParams.length f.params.length)

/-- No well made program has an offence. -/
theorem Offence.not_wellMade {e : ProgramError} (h : p.Offence e) : ¬ p.WellMade := by
  intro hp
  cases h with
  | unknownType h hid => exact hid (hp.types _ h)
  | unknownFunction h hg => exact absurd (hp.functions _ h) (by rw [hg]; exact Bool.false_ne_true)
  | unknownBlock hf h hb =>
    exact absurd (hp.blocks _ _ hf _ h) (by rw [hb]; exact Bool.false_ne_true)
  | unknownValue hf h hv =>
    obtain ⟨w, hw, -⟩ := hp.values _ _ hf _ _ h
    exact nomatch hv.symm.trans hw
  | misplacedValue hf h hw hrole =>
    obtain ⟨w', hw', hadmits⟩ := hp.values _ _ hf _ _ h
    obtain rfl := Option.some.inj (hw.symm.trans hw')
    exact hrole hadmits
  | functionId hf h => exact h (hp.functionIds _ _ hf)
  | blockId hf hb h => exact h (hp.blockIds _ _ hf _ _ hb)
  | arity hf hbody h => exact h (hp.arity _ _ hf hbody)

/-- What is listed is listed in a block. -/
theorem expects_instruction_iff {id : ValueId} :
    f.Expects id .instruction ↔ id ∈ f.instructions := by
  constructor
  · intro h
    cases h with
    | instruction hb h =>
      exact List.mem_flatMap.mpr ⟨_, Array.mem_toList_iff.mpr (Array.mem_of_getElem? hb), h⟩
  · intro h
    obtain ⟨b, hb, h⟩ := List.mem_flatMap.mp h
    obtain ⟨i, hi⟩ := Array.mem_iff_getElem?.mp (Array.mem_toList_iff.mp hb)
    exact .instruction hi h

namespace WellMade

variable {id : FunctionId} (hp : p.WellMade) (hf : p.function? id = some f)
include hp hf

/-- What is asked for passes the test that validation makes of it. -/
theorem exists_test {role : Role} {u : ValueId} (h : f.Expects u role) :
    ∃ w, f.value? u = some w ∧ role.test w.kind = true :=
  (hp.values id f hf u role h).imp (fun _ hw => ⟨hw.1, Role.test_eq_true_iff.mpr hw.2⟩)

theorem sound_value {u : ValueId} (hv : f.value? u = some v) : v.Sound p f := by
  refine ⟨fun type htype => ?_, fun o ho => ?_, fun g hg => ?_, fun b hb => ?_⟩
  · exact hp.types type (.value hf hv htype)
  · exact hp.exists_test hf (.operand hv (ValueKind.mem_operands_iff.mp ho))
  · exact hp.functions g ⟨id, f, u, v, hf, hv, ValueKind.target_eq_some_iff.mp hg⟩
  · exact hp.blocks id f hf b ⟨u, v, hv, ValueKind.mem_branches_iff.mp hb⟩

theorem sound_function : f.Sound p := by
  refine ⟨fun param hparam => ?_, fun type htype => ?_, hp.arity id f hf, fun v hv => ?_,
    fun v w hw => hp.sound_value hf hw, hp.blockIds id f hf, fun v hv => ?_⟩
  · exact hp.types _ (.signature hf (Signature.mentions_iff.mpr (.inl ⟨param, hparam, rfl⟩)))
  · exact hp.types _ (.signature hf (.result htype))
  · exact hp.exists_test hf (.parameter hv)
  · exact hp.exists_test hf (expects_instruction_iff.mpr hv)

end WellMade

namespace Sound

variable (hp : p.Sound)
include hp

theorem has_of_usesType {type : TypeId} (h : p.UsesType type) : p.types.Has type := by
  cases h with
  | entry hk h => exact hp.types _ _ hk type (TypeKind.mem_parts_iff.mpr h)
  | signature hf h =>
    rcases Signature.mentions_iff.mp h with ⟨param, hparam, rfl⟩ | h
    · exact (hp.functions _ _ hf).paramTypes param hparam
    · exact (hp.functions _ _ hf).resultTypes type h
  | value hf hw h => exact ((hp.functions _ _ hf).values _ _ hw).type type h

theorem exists_of_expects {id : FunctionId} {u : ValueId} {role : Role}
    (hf : p.function? id = some f) (h : f.Expects u role) :
    ∃ w, f.value? u = some w ∧ role.Admits w.kind := by
  have hsound := hp.functions id f hf
  suffices ∃ w, f.value? u = some w ∧ role.test w.kind = true from
    this.imp (fun _ hw => ⟨hw.1, Role.test_eq_true_iff.mp hw.2⟩)
  cases h with
  | parameter h => exact hsound.params u h
  | operand hw h => exact (hsound.values _ _ hw).operands u (ValueKind.mem_operands_iff.mpr h)
  | instruction hb h => exact hsound.listed u (expects_instruction_iff.mp (.instruction hb h))

theorem isSome_of_usesFunction (h : p.UsesFunction g) : (p.function? g).isSome := by
  obtain ⟨id, f, v, w, hf, hw, h⟩ := h
  exact ((hp.functions id f hf).values v w hw).target g (ValueKind.target_eq_some_iff.mpr h)

theorem isSome_of_usesBlock {id : FunctionId} {b : BlockId} (hf : p.function? id = some f)
    (h : f.UsesBlock b) : (f.blocks[b.index]?).isSome := by
  obtain ⟨v, w, hw, h⟩ := h
  exact ((hp.functions id f hf).values v w hw).branches b (ValueKind.mem_branches_iff.mpr h)

end Sound

/-- **Well made programs are the sound ones.** -/
theorem wellMade_iff_sound : p.WellMade ↔ p.Sound := by
  constructor
  · intro hp
    refine ⟨fun id k hk part hpart => ?_, hp.functionIds, fun id f hf => hp.sound_function hf⟩
    exact hp.types part (.entry hk (TypeKind.mem_parts_iff.mp hpart))
  · intro hp
    exact ⟨fun _ h => hp.has_of_usesType h, hp.functionIds,
      fun id f hf => (hp.functions id f hf).blockIds, fun id f hf => (hp.functions id f hf).arity,
      fun _ _ hf _ _ h => hp.exists_of_expects hf h, fun _ h => hp.isSome_of_usesFunction h,
      fun _ _ hf _ h => hp.isSome_of_usesBlock hf h⟩

/-! ## What the checks report -/

/-- **The check reports offences only.** -/
def Honest (p : Program) (check : Except ProgramError Unit) : Prop :=
  ∀ e, check = .error e → p.Offence e

namespace Honest

variable {α : Type} {x y : Except ProgramError Unit} {check : α → Except ProgramError Unit}

theorem ok : p.Honest (.ok ()) := nofun

/-- A check that can report one thing only. -/
theorem of_error {e : ProgramError} (h : p.Offence e) : p.Honest (.error e) := by
  intro e' he
  obtain rfl := Except.error.inj he
  exact h

/-- Two checks in a row. -/
theorem next (hx : p.Honest x) (hy : p.Honest y) : p.Honest (x >>= fun _ => y) := by
  intro e he
  rcases bind_eq_error_iff.mp he with he | ⟨u, -, he⟩
  · exact hx e he
  · exact hy e he

/-- A condition that must not hold, and then a check. -/
theorem barred {c : Prop} [Decidable c] {e : ProgramError} (he : c → p.Offence e)
    (hx : p.Honest x) : p.Honest (if c then .error e >>= fun _ : PUnit => x else x) := by
  split <;> rename_i hc
  · exact .of_error (he hc)
  · exact hx

/-- One check for each member of a list. -/
theorem each {as : List α} (h : ∀ a ∈ as, p.Honest (check a)) :
    p.Honest (checkEach check as) := by
  induction as with
  | nil => exact .ok
  | cons a as ih =>
    exact (h a List.mem_cons_self).next (ih (fun b hb => h b (List.mem_cons_of_mem a hb)))

/-- One check for each entry at its place. -/
theorem eachAt {xs : Array α} {check : α × Nat → Except ProgramError Unit}
    (h : ∀ i x, xs[i]? = some x → p.Honest (check (x, i))) :
    p.Honest (checkEach check xs.toList.zipIdx) := by
  refine each (fun ⟨x, i⟩ hx => h i x ?_)
  rw [← Array.getElem?_toList]
  exact List.mem_zipIdx_iff_getElem?.mp hx

end Honest

theorem honest_checkType {id : TypeId} (h : p.UsesType id) : p.Honest (p.types.check id) := by
  unfold TypeTable.check
  split <;> rename_i hid
  · exact .ok
  · exact .of_error (.unknownType h hid)

theorem honest_checkFunction (h : p.UsesFunction g) : p.Honest (p.checkFunction g) := by
  unfold checkFunction
  cases hg : p.function? g with
  | none => exact .of_error (.unknownFunction h hg)
  | some f => exact .ok

section

variable {id : FunctionId} (hf : p.function? id = some f)
include hf

theorem honest_checkBlock {b : BlockId} (h : f.UsesBlock b) : p.Honest (f.checkBlock b) := by
  unfold Func.checkBlock
  cases hb : f.blocks[b.index]? with
  | none => exact .of_error (.unknownBlock hf h hb)
  | some block => exact .ok

theorem honest_checkValue {v : ValueId} {role : Role} (h : f.Expects v role) :
    p.Honest (f.checkValue role.test v) := by
  unfold Func.checkValue
  cases hv : f.value? v with
  | none => exact .of_error (.unknownValue hf h hv)
  | some w =>
    show p.Honest (if role.test w.kind = true then _ else _)
    split <;> rename_i htest
    · exact .ok
    · have hrole := fun hrole => htest (Role.test_eq_true_iff.mpr hrole)
      exact .of_error (.misplacedValue hf h hv hrole)

theorem honest_checkArity : p.Honest f.checkArity := by
  unfold Func.checkArity
  dsimp only
  split <;> rename_i h
  · exact .of_error (.arity hf h.1 h.2)
  · exact .ok

theorem honest_validateValue {id : ValueId} (hv : f.value? id = some v) :
    p.Honest (p.validateValue f v) := by
  refine .next (.each fun type htype => ?_) (.next (.each fun o ho => ?_)
    (.next (.each fun g hg => ?_) (.each fun b hb => ?_)))
  · exact honest_checkType (.value hf hv (Option.mem_toList.mp htype))
  · exact honest_checkValue hf (.operand hv (ValueKind.mem_operands_iff.mp ho))
  · have hrefers := ValueKind.target_eq_some_iff.mp (Option.mem_toList.mp hg)
    exact honest_checkFunction ⟨_, f, id, v, hf, hv, hrefers⟩
  · exact honest_checkBlock hf ⟨id, v, hv, ValueKind.mem_branches_iff.mp hb⟩

theorem honest_validateBlock {i : Nat} {b : Block} (hb : f.blocks[i]? = some b) :
    p.Honest (validateBlock f (b, i)) :=
  .barred (fun h => .blockId hf hb h)
    (.each fun _ hv => honest_checkValue hf (.instruction hb hv))

theorem honest_validateFunction : p.Honest (p.validateFunction f) := by
  refine .next (.each fun type htype => ?_) (.next (.each fun type htype => ?_)
    (.next (honest_checkArity hf) (.next (.each fun v hv => ?_)
      (.next (.each fun v hv => ?_) (.eachAt fun i b hb => honest_validateBlock hf hb)))))
  · obtain ⟨param, hparam, rfl⟩ := List.mem_map.mp htype
    exact honest_checkType (.signature hf (Signature.mentions_iff.mpr (.inl ⟨param, hparam, rfl⟩)))
  · exact honest_checkType (.signature hf (.result htype))
  · exact honest_checkValue hf (.parameter hv)
  · obtain ⟨i, hi⟩ := Array.mem_iff_getElem?.mp (Array.mem_toList_iff.mp hv)
    exact honest_validateValue hf (show f.value? ⟨i⟩ = some v from hi)

end

theorem honest_validate (p : Program) : p.Honest p.validate := by
  refine .next (.each fun k hk => .each fun part hpart => ?_) (.eachAt fun i f hf => ?_)
  · obtain ⟨i, hi⟩ := Array.mem_iff_getElem?.mp (Array.mem_toList_iff.mp hk)
    have hi : p.types.kind? ⟨i⟩ = some k := hi
    exact honest_checkType (.entry hi (TypeKind.mem_parts_iff.mp hpart))
  · have hf : p.function? ⟨i⟩ = some f := hf
    refine .barred (fun h => ?_) (honest_validateFunction hf)
    exact .functionId hf (fun heq => h (congrArg FunctionId.index heq))

/-- **Validation is exact.** It passes the programs that are well made and no others, and what it
reports of one that is not is a rule that the program breaks where the error says that it does. -/
theorem validation_exact (p : Program) : (p.validate = .ok () ↔ p.WellMade) ∧
    (∀ e, p.validate = .error e → p.Offence e) ∧ ∀ e, p.Offence e → ¬ p.WellMade :=
  ⟨validate_eq_ok_iff.trans wellMade_iff_sound.symm, p.honest_validate,
    fun _ h => h.not_wellMade⟩

/-- A program with a function that returns, and with a value that no block lists and that reads
the return. -/
def unlistedProgram : Program where
  package := "example.com/cards"
  types := ⟨#[.interface []]⟩
  functions := #[
    { id := ⟨0⟩
      name := "ToCard"
      package := "example.com/cards"
      file := none
      signature := ⟨none, [], [], false⟩
      params := []
      blocks := #[⟨⟨0⟩, [⟨0⟩], none⟩]
      values := #[⟨.ret [], none, none⟩, ⟨.makeInterface ⟨0⟩, some ⟨0⟩, none⟩]
      synthetic := none }]

/-- A value is looked at even if no block lists it. -/
theorem unlistedProgram_offence :
    unlistedProgram.validate = .error (.misplacedValue "ToCard" ⟨0⟩ "return") ∧
      unlistedProgram.Offence (.misplacedValue "ToCard" ⟨0⟩ "return") ∧
      ¬ unlistedProgram.WellMade := by
  have hreport : unlistedProgram.validate = .error (.misplacedValue "ToCard" ⟨0⟩ "return") := by
    decide +kernel
  obtain ⟨-, hoffence, hbroken⟩ := validation_exact unlistedProgram
  have h := hoffence _ hreport
  exact ⟨hreport, h, hbroken _ h⟩

end Program

end Crosswalk
