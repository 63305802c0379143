import Crosswalk.Proofs.Coercion.Copies
import Crosswalk.Proofs.Mapping.Protocol
import Crosswalk.Proofs.Program.Mirror

/-!
# Reading programs that mirror one another

The argument of a marker call is read by following values to where they come from. In programs
that mirror one another this leads through the same values, so literals, selectors, variables,
functions and packed lists are read alike, and so are the marker calls themselves. A function
is then read for the same mapping, or refused for the same reason (`Program.Mirrors.interpret`).

## Fields of the destination

There is one question that the two readings may answer differently. An override must be for a
field of the destination, and a field counts as one if the struct that it is selected off is
*at the same position* as the struct behind the destination. Types that cannot be told apart in
any other way may differ in this. So it is assumed that the readings agree about it
(`Program.JudgesAlike`), which they do as long as types are left as they are
(`Program.Mirrors.judgesAlike`).
-/

namespace Crosswalk

variable {ρ : FunctionId → FunctionId} {R : TypeId → TypeId → Prop}
  {E : TypeId → TypeId → Conversion → Conversion → Prop}

/-- Selectors of fields that agree up to types. -/
structure Selector.Copied (R : TypeId → TypeId → Prop) (x y : Selector) : Prop where
  /-- The structs are related. -/
  record : R x.record y.record
  /-- The fields agree. -/
  field : x.field.Copied R y.field

/-- Variables that agree up to types. -/
structure Binding.Copied (R : TypeId → TypeId → Prop) (x y : Binding) : Prop where
  /-- They have one name. -/
  name : x.name = y.name
  /-- Their types are related. -/
  type : R x.type y.type
  /-- Both were made by the function, or neither was. -/
  constructed : x.constructed = y.constructed
  /-- They come from the same place. -/
  origin : x.origin = y.origin

/-- **A function and one that mirrors it**, with their programs and their indexes. -/
structure Scope.Mirrors (ρ : FunctionId → FunctionId) (R : TypeId → TypeId → Prop)
    (s s' : Scope) : Prop where
  /-- The programs. -/
  program : s.program.Mirrors ρ R s'.program
  /-- The functions. -/
  function : s.function.Mirrors ρ R s'.function
  /-- The indexes. -/
  index : UseIndex.Mirrors s.function s'.function s.index s'.index

namespace Scope.Mirrors

variable {s s' : Scope} {v base : ValueId} {n : Nat}

theorem chainBound (h : s.Mirrors ρ R s') : s'.chainBound = s.chainBound := by
  unfold Scope.chainBound
  rw [h.function.size_values]

theorem value (h : s.Mirrors ρ R s') (v : ValueId) :
    InStep (Value.Mirrors ρ R) (s.value v) (s'.value v) := by
  unfold Scope.value
  cases hv : s.function.value? v with
  | none =>
    rw [(eq_none_iff_of_optionRel (h.function.values v)).mp hv]
    exact .fail _
  | some value =>
    obtain ⟨value', hv', hmirrors⟩ := h.function.exists_value hv
    rw [hv']
    exact .ok hmirrors

theorem typed {value value' : Value} (h : value.Mirrors ρ R value') (v : ValueId) :
    InStep R (typed v value) (typed v value') := by
  unfold Scope.typed
  cases htype : value.type with
  | none =>
    rw [(eq_none_iff_of_optionRel h.type).mp htype]
    exact .fail _
  | some type =>
    obtain ⟨type', htype', hrelated⟩ := exists_right_of_optionRel h.type htype
    rw [htype']
    exact .ok hrelated

/-! ## Strings -/

theorem literalStringTo (h : s.Mirrors ρ R s') :
    InStep Eq (s.literalStringTo n v) (s'.literalStringTo n v) := by
  induction n generalizing v with
  | zero => exact .refl _
  | succ n ih =>
    refine (h.value v).bind (fun ⟨kind, type, name⟩ ⟨kind', type', name'⟩ hvalue => ?_)
    obtain rfl : kind' = kind.rename ρ := hvalue.kind
    cases kind with
    | const literal => cases literal <;> exact .refl _
    | makeInterface inner => exact ih
    | _ => exact .fail _

theorem literalString (h : s.Mirrors ρ R s') (v : ValueId) :
    InStep Eq (s.literalString v) (s'.literalString v) := by
  unfold Scope.literalString
  rw [h.chainBound]
  exact h.literalStringTo

/-! ## Fields -/

theorem selectorAt (h : s.Mirrors ρ R s') (ht : s.program.types.Indistinct R E) {field : Nat} :
    InStep (Selector.Copied R) (s.selectorAt v base field) (s'.selectorAt v base field) := by
  refine (h.value base).bind (fun value value' hvalue => ?_)
  refine (typed hvalue base).bind (fun type type' htype => ?_)
  rw [h.program.types]
  refine (ht.resolve htype).lift.bind (fun found found' hfound => ?_)
  cases hfound with
  | none => exact .fail _
  | @some record record' hrecord =>
    have hfield := optionRel_getElem? hrecord.fields field
    dsimp only
    cases hselected : record.fields[field]? with
    | none =>
      rw [(eq_none_iff_of_optionRel hfield).mp hselected]
      exact .fail _
    | some selected =>
      obtain ⟨selected', hselected', hcopied⟩ := exists_right_of_optionRel hfield hselected
      rw [hselected']
      exact .ok ⟨hrecord.shape, hcopied⟩

theorem selectorTo (h : s.Mirrors ρ R s') (ht : s.program.types.Indistinct R E) :
    InStep (Selector.Copied R) (s.selectorTo n v) (s'.selectorTo n v) := by
  induction n generalizing v with
  | zero => exact .error _
  | succ n ih =>
    refine (h.value v).bind (fun ⟨kind, type, name⟩ ⟨kind', type', name'⟩ hvalue => ?_)
    obtain rfl : kind' = kind.rename ρ := hvalue.kind
    cases kind with
    | makeInterface inner => exact ih
    | unOp op inner =>
      cases op with
      | deref => exact ih
      | _ => exact .fail _
    | fieldAddr base field => exact h.selectorAt ht
    | _ => exact .fail _

theorem selector (h : s.Mirrors ρ R s') (ht : s.program.types.Indistinct R E) (v : ValueId) :
    InStep (Selector.Copied R) (s.selector v) (s'.selector v) := by
  unfold Scope.selector
  rw [h.chainBound]
  exact h.selectorTo ht

/-! ## Functions -/

theorem closureTarget (h : s.Mirrors ρ R s') (closure : FunctionId) :
    InStep (fun a b => b = ρ a) (s.closureTarget closure) (s'.closureTarget (ρ closure)) := by
  unfold Scope.closureTarget
  cases hbody : s.program.function? closure with
  | none =>
    rw [(eq_none_iff_of_optionRel (h.program.functions closure)).mp hbody,
      h.program.fixed closure hbody]
    exact .fail _
  | some body =>
    obtain ⟨body', hbody', hmirrors⟩ := h.program.exists_function hbody
    rw [hbody']
    refine hmirrors.calls.lift.bind_eq (fun calls => ?_)
    rw [hmirrors.name]
    match calls with
    | [] => exact .fail _
    | [(callee, _)] =>
      dsimp only
      rw [h.program.staticCallee hmirrors callee]
      cases s.program.staticCallee body callee with
      | none => exact .fail _
      | some target => exact .ok rfl
    | _ :: _ :: _ => exact .fail _

theorem callableTo (h : s.Mirrors ρ R s') :
    InStep (fun a b => b = ρ a) (s.callableTo n v) (s'.callableTo n v) := by
  induction n generalizing v with
  | zero => exact .error _
  | succ n ih =>
    refine (h.value v).bind (fun ⟨kind, type, name⟩ ⟨kind', type', name'⟩ hvalue => ?_)
    obtain rfl : kind' = kind.rename ρ := hvalue.kind
    cases kind with
    | makeInterface inner => exact ih
    | functionRef id => exact .ok rfl
    | makeClosure closure bindings => exact h.closureTarget closure
    | _ => exact .fail _

theorem callable (h : s.Mirrors ρ R s') (v : ValueId) :
    InStep (fun a b => b = ρ a) (s.callable v) (s'.callable v) := by
  unfold Scope.callable
  rw [h.chainBound]
  exact h.callableTo

/-! ## Variables -/

theorem storedInto (h : s.Mirrors ρ R s') (v : ValueId) : s'.storedInto v = s.storedInto v := by
  unfold Scope.storedInto
  have hreaders := h.index.readers h.function v
  generalize s.index.readers v = us, s'.index.readers v = ws at hreaders
  induction hreaders with
  | nil => rfl
  | @cons u w us ws huw _ ih =>
    rw [List.findSome?_cons, List.findSome?_cons, ih, huw.kind h.function]
    cases u.value.kind <;> rfl

theorem bindingTo (h : s.Mirrors ρ R s') (ht : s.program.types.Indistinct R E) :
    InStep (Binding.Copied R) (s.bindingTo n v) (s'.bindingTo n v) := by
  induction n generalizing v with
  | zero => exact .error _
  | succ n ih =>
    refine (h.value v).bind (fun ⟨kind, type, name⟩ ⟨kind', type', name'⟩ hvalue => ?_)
    obtain rfl : kind' = kind.rename ρ := hvalue.kind
    obtain rfl : name' = name := hvalue.name
    cases kind with
    | const literal => exact (typed hvalue v).bind (fun _ _ htype => .ok ⟨rfl, htype, rfl, rfl⟩)
    | unOp op inner =>
      cases op with
      | deref =>
        refine ih.bind (fun binding binding' hbinding => ?_)
        rw [h.program.types]
        refine (ht.deref hbinding.type).lift.bind (fun _ _ htype => ?_)
        exact .ok ⟨hbinding.name, htype, hbinding.constructed, hbinding.origin⟩
      | _ => exact .fail _
    | parameter index =>
      refine (typed hvalue v).bind (fun _ _ htype => .ok ⟨rfl, htype, rfl, ?_⟩)
      rw [h.function.isMethod]
    | makeInterface inner => exact ih
    | alloc heap =>
      refine (typed hvalue v).bind (fun type type' htype => ?_)
      rw [h.storedInto v]
      cases s.storedInto v with
      | none => exact .ok ⟨rfl, htype, rfl, rfl⟩
      | some stored =>
        refine ih.bind (fun binding binding' hbinding => .ok ⟨?_, htype, ?_, hbinding.origin⟩)
        · exact congrArg (fun n : Option String => n <|> name') hbinding.name
        · exact hbinding.constructed
    | _ => exact .fail _

/-- **Variables that are read are the same**, up to the entries of their types. -/
theorem binding (h : s.Mirrors ρ R s') (ht : s.program.types.Indistinct R E) (v : ValueId) :
    InStep (Binding.Copied R) (s.binding v) (s'.binding v) := by
  unfold Scope.binding
  rw [h.chainBound]
  exact h.bindingTo ht

/-! ## Packed lists -/

theorem storedElements (h : s.Mirrors ρ R s') (base : ValueId) :
    InStep Eq (s.storedElements base) (s'.storedElements base) := by
  have hfold : ∀ {us ws : List Use} (state : List ValueId × List ValueId),
      List.Forall₂ (Use.Mirrors s.function s'.function) us ws →
        us.foldl packStep state = ws.foldl packStep state := by
    intro us ws state hus
    induction hus generalizing state with
    | nil => rfl
    | @cons u w us ws huw _ ih =>
      have hstep : packStep state u = packStep state w := by
        unfold packStep
        rw [huw.kind h.function, huw.user]
        cases u.value.kind <;> rfl
      rw [List.foldl_cons, List.foldl_cons, hstep]
      exact ih _
  refine (h.value base).bind (fun ⟨kind, type, name⟩ ⟨kind', type', name'⟩ hvalue => ?_)
  obtain rfl : kind' = kind.rename ρ := hvalue.kind
  cases kind with
  | alloc heap => exact .of_eq (congrArg (fun l => Except.ok (Prod.snd l))
      (hfold _ (h.index.visits h.function base)))
  | _ => exact .fail _

theorem packedTo (h : s.Mirrors ρ R s') :
    InStep Eq (s.packedTo n v) (s'.packedTo n v) := by
  induction n generalizing v with
  | zero => exact .refl _
  | succ n ih =>
    refine (h.value v).bind (fun ⟨kind, type, name⟩ ⟨kind', type', name'⟩ hvalue => ?_)
    obtain rfl : kind' = kind.rename ρ := hvalue.kind
    cases kind with
    | const literal => cases literal <;> exact .refl _
    | makeInterface inner => exact ih
    | slice base => exact h.storedElements base
    | _ => exact .fail _

/-- **Packed lists are the same**, up to what their elements are read as. -/
theorem list {α β : Type} {S : α → β → Prop} {element : ValueId → Checked ShapeError α}
    {element' : ValueId → Checked ShapeError β} (h : s.Mirrors ρ R s')
    (helement : ∀ v, InStep S (element v) (element' v)) (v : ValueId) :
    InStep (List.Forall₂ S) (s.list element v) (s'.list element' v) := by
  unfold Scope.list Scope.packed
  rw [h.chainBound]
  refine h.packedTo.bind_eq (fun vs => .mapM ?_)
  exact List.forall₂_same.mpr (fun v _ => helement v)

end Scope.Mirrors

/-- **The specification is the same**, but for the functions it names and the entries of its
types. -/
structure MappingSpec.Mirrors (ρ : FunctionId → FunctionId) (R : TypeId → TypeId → Prop)
    (s s' : MappingSpec) : Prop where
  /-- It was read of the renamed function. -/
  function : s'.function = ρ s.function
  name : s'.name = s.name
  qualifiedName : s'.qualifiedName = s.qualifiedName
  file : s'.file = s.file
  /-- Its source is of a related type, -/
  sourceType : R s.sourceType s'.sourceType
  /-- and so is its destination. -/
  destType : R s.destType s'.destType
  sourceBinding : s'.sourceBinding = s.sourceBinding
  destBinding : s'.destBinding = s.destBinding
  sourceIsReceiver : s'.sourceIsReceiver = s.sourceIsReceiver
  destIsPreconstructed : s'.destIsPreconstructed = s.destIsPreconstructed
  destIsReturned : s'.destIsReturned = s.destIsReturned
  errorIsReturned : s'.errorIsReturned = s.errorIsReturned
  recognizedPrefixes : s'.recognizedPrefixes = s.recognizedPrefixes
  ignoredDestFields : s'.ignoredDestFields = s.ignoredDestFields
  manualFieldOverrides : s'.manualFieldOverrides = s.manualFieldOverrides
  /-- Its delegates are renamed. -/
  delegateMappings : s'.delegateMappings.items = s.delegateMappings.items.map ρ

/-- **A function that is read and one that mirrors it**, with the same settings. -/
structure Reading.Mirrors (ρ : FunctionId → FunctionId) (R : TypeId → TypeId → Prop)
    (r r' : Reading) : Prop where
  /-- The settings. -/
  settings : r'.settings = r.settings
  /-- What is read. -/
  scope : r.scope.Mirrors ρ R r'.scope
  /-- The name in messages. -/
  qualifiedName : r'.qualifiedName = r.qualifiedName

namespace Reading

variable {r r' : Reading} {spec spec' : MappingSpec} {m : Marker} {args : List ValueId}
  {destType destType' : TypeId} {v : ValueId} {progress progress' : Progress}

/-- **The value selects a field of the record behind the type**, which is to say of that very
entry of the table. -/
def OnDest (r : Reading) (destType : TypeId) (v : ValueId) : Prop :=
  ∃ selector layers, r.scope.selector v = .ok selector ∧
    r.types.peel destType = .ok ⟨layers, selector.record⟩

theorem onDest_iff {selector : Selector} {peeled : Peeled}
    (hs : r.scope.selector v = .ok selector) (hp : r.types.peel destType = .ok peeled) :
    r.OnDest destType v ↔ selector.record = peeled.shape := by
  constructor
  · rintro ⟨selector', layers, hs', hp'⟩
    obtain rfl := Except.ok.inj (hs.symm.trans hs')
    obtain rfl := Except.ok.inj (hp.symm.trans hp')
    rfl
  · intro h
    exact ⟨selector, peeled.layers, hs, h ▸ hp⟩

/-- **The two readings take the same fields for fields of the destination**, among those that
are to be fed. -/
def Agree (r r' : Reading) (destType destType' : TypeId) : Prop :=
  ∀ x y, (MarkerCall.direct .mapField, [x, y]) ∈ r.marks →
    (r.OnDest destType y ↔ r'.OnDest destType' y)

/-- The two readings agree in this for whatever destination the function may begin a mapping
to. -/
def JudgesAlike (r r' : Reading) : Prop :=
  ∀ a b dest dest', (MarkerCall.direct .createMap, [a, b]) ∈ r.marks →
    r.scope.binding b = .ok dest → r'.scope.binding b = .ok dest' →
      r.Agree r' dest.type dest'.type

/-- A listed call of the marker package is one of the marker calls. -/
theorem mem_marks {id callee : ValueId} {value : Value} {call : MarkerCall}
    (hid : id ∈ r.scope.function.instructions) (hvalue : r.scope.function.value? id = some value)
    (hcall : value.kind.asCall = some (callee, args))
    (hclassify : r.classify callee = .ok (some call)) : (call, args) ∈ r.marks := by
  refine List.mem_filterMap.mpr ⟨(callee, args), List.mem_filterMap.mpr ⟨id, hid, ?_⟩, ?_⟩
  · unfold Func.call?
    rw [Func.kind?_of_value? hvalue]
    exact hcall
  · unfold mark?
    rw [hclassify]

/-- **Two specifications of mappings that have begun**, with the same said of both. -/
structure Begun (ρ : FunctionId → FunctionId) (R : TypeId → TypeId → Prop) (r r' : Reading)
    (spec spec' : MappingSpec) : Prop where
  /-- They are the same so far. -/
  mirrors : spec.Mirrors ρ R spec'
  /-- The same fields are fields of their destinations. -/
  agree : r.Agree r' spec.destType spec'.destType

/-- **Two runs that stand at the same point.** -/
inductive Alongside (ρ : FunctionId → FunctionId) (R : TypeId → TypeId → Prop) (r r' : Reading) :
    Progress → Progress → Prop
  | seeking : Alongside ρ R r r' .seeking .seeking
  | declined : Alongside ρ R r r' .declined .declined
  | accumulating {spec spec' : MappingSpec} (h : Begun ρ R r r' spec spec') :
      Alongside ρ R r r' (.accumulating spec) (.accumulating spec')

namespace Mirrors

theorem types (h : r.Mirrors ρ R r') : r'.types = r.types := h.scope.program.types

theorem classify (h : r.Mirrors ρ R r') (callee : ValueId) :
    InStep Eq (r.classify callee) (r'.classify callee) := by
  have hmarker : ∀ {f g : Func}, f.Mirrors ρ R g →
      r'.isMarkerFunction g = r.isMarkerFunction f := by
    intro f g hfg
    unfold isMarkerFunction
    rw [h.settings, hfg.package]
  unfold Reading.classify
  rw [h.scope.program.staticCallee h.scope.function callee]
  cases r.scope.program.staticCallee r.scope.function callee with
  | some id =>
    refine (h.scope.program.function id).bind (fun f g hfg => ?_)
    rw [hmarker hfg, hfg.name]
    exact .refl _
  | none =>
    refine (h.scope.callable callee).attempt.bind (fun found found' hfound => ?_)
    cases hfound with
    | error e => exact .refl _
    | @ok id id' hid =>
      subst hid
      dsimp only
      cases hf : r.scope.program.function? id with
      | none =>
        rw [(eq_none_iff_of_optionRel (h.scope.program.functions id)).mp hf]
        exact .refl _
      | some f =>
        obtain ⟨g, hg, hfg⟩ := h.scope.program.exists_function hf
        rw [hg]
        dsimp only
        rw [hmarker hfg]
        exact .refl _

theorem unexpected (h : r.Mirrors ρ R r') (marker reason : String) :
    r'.unexpected marker reason = r.unexpected marker reason := by
  unfold Reading.unexpected
  rw [h.qualifiedName]

theorem malformed (h : r.Mirrors ρ R r') (m : Marker) (place : Nat) :
    r'.malformed m place = r.malformed m place := by
  unfold Reading.malformed
  rw [h.qualifiedName]

theorem wrongArity (h : r.Mirrors ρ R r') (m : Marker) (found : Nat) :
    r'.wrongArity m found = r.wrongArity m found := by
  unfold Reading.wrongArity
  rw [h.unexpected]

theorem argument {α β : Type} {S : α → β → Prop} {x : Checked ShapeError α}
    {y : Checked ShapeError β} (h : r.Mirrors ρ R r') (m : Marker) (place : Nat)
    (hxy : InStep S x y) : InStep S (r.argument m place x) (r'.argument m place y) := by
  unfold Reading.argument
  rw [h.malformed]
  exact hxy.mapCause _

/-! ## Beginning -/

theorem splitError (h : r.Mirrors ρ R r') (ht : r.types.Indistinct R E) {ids ids' : List TypeId}
    (hids : List.Forall₂ R ids ids') :
    InStep (fun x y => List.Forall₂ R x.1 y.1 ∧ x.2 = y.2) (Reading.splitError r.types ids)
      (Reading.splitError r'.types ids') := by
  unfold Reading.splitError
  rw [h.types]
  have hlast := optionRel_getLast? hids
  cases hl : ids.getLast? with
  | none =>
    rw [(eq_none_iff_of_optionRel hlast).mp hl]
    exact .ok ⟨.nil, rfl⟩
  | some last =>
    obtain ⟨last', hl', hlast⟩ := exists_right_of_optionRel hlast hl
    rw [hl']
    refine (ht.isError hlast).bind_eq (fun fails => ?_)
    cases fails with
    | false => exact .ok ⟨hids, rfl⟩
    | true =>
      refine .ok ⟨?_, rfl⟩
      show List.Forall₂ R ids.dropLast ids'.dropLast
      rw [List.dropLast_eq_take, List.dropLast_eq_take, ← hids.length_eq]
      exact List.forall₂_take _ hids

theorem resultShape (h : r.Mirrors ρ R r') (ht : r.types.Indistinct R E) :
    InStep Eq r.resultShape r'.resultShape := by
  have hresults := h.scope.function.signature.results
  refine (h.splitError ht hresults).lift.bind ?_
  rintro ⟨rest, fails⟩ ⟨rest', _⟩ ⟨hrest, rfl⟩
  cases hrest with
  | nil => exact .refl _
  | cons _ hrest =>
    cases hrest with
    | nil => exact .refl _
    | cons _ _ =>
      show InStep Eq (Checked.fail _) (Checked.fail _)
      rw [h.qualifiedName, hresults.length_eq]
      exact .refl _

/-- **Mappings begin alike**, with the same variables. -/
theorem start (h : r.Mirrors ρ R r') (ht : r.types.Indistinct R E) (args : List ValueId) :
    InStep (fun spec spec' => spec.Mirrors ρ R spec' ∧ ∃ a b dest dest', args = [a, b] ∧
        r.scope.binding b = .ok dest ∧ r'.scope.binding b = .ok dest' ∧
        spec.destType = dest.type ∧ spec'.destType = dest'.type)
      (r.start args) (r'.start args) := by
  unfold Reading.start
  match args with
  | [a, b] =>
    refine (h.argument _ _ (h.scope.binding ht a)).bind (fun source source' hsource => ?_)
    refine (h.argument _ _ (h.scope.binding ht b)).known.bind ?_
    rintro dest dest' ⟨hdest, hb, hb'⟩
    refine (h.resultShape ht).bind_eq (fun ⟨returned, fails⟩ => .ok ⟨?_, a, b, dest, dest', rfl,
      mapCause_eq_ok_iff.mp hb, mapCause_eq_ok_iff.mp hb', rfl, rfl⟩)
    have hf := h.scope.function
    exact {
      function := hf.id
      name := hf.name
      qualifiedName := h.qualifiedName
      file := hf.file
      sourceType := hsource.type
      destType := hdest.type
      sourceBinding := by rw [h.settings, hsource.name]
      destBinding := by rw [h.settings, hdest.name]
      sourceIsReceiver := hf.isMethod
      destIsPreconstructed := hdest.constructed.symm
      destIsReturned := rfl
      errorIsReturned := rfl
      recognizedPrefixes := rfl
      ignoredDestFields := rfl
      manualFieldOverrides := rfl
      delegateMappings := rfl }
  | [] => exact h.wrongArity _ _ ▸ .fail _
  | [_] => exact h.wrongArity _ _ ▸ .fail _
  | _ :: _ :: _ :: _ => exact h.wrongArity _ _ ▸ .fail _

/-! ## Going on -/

theorem delegateError (h : r.Mirrors ρ R r') : r'.delegateError = r.delegateError := by
  funext e
  unfold Reading.delegateError
  rw [h.qualifiedName, h.malformed]

/-- The field that an override is for is taken or refused alike, where the readings agree. -/
theorem destField (h : r.Mirrors ρ R r') (ht : r.types.Indistinct R E)
    (hspec : spec.Mirrors ρ R spec')
    (hagree : r.OnDest spec.destType v ↔ r'.OnDest spec'.destType v) :
    InStep (Selector.Copied R) (r.destField spec v) (r'.destField spec' v) := by
  refine (h.argument _ _ (h.scope.selector ht v)).known.bind ?_
  rintro selector selector' ⟨hselector, hs, hs'⟩
  have hpeel : InStep (fun p q => R p.shape q.shape) (r.types.peel spec.destType)
      (r'.types.peel spec'.destType) := h.types ▸ ht.peel hspec.destType
  refine hpeel.known.lift.bind ?_
  rintro peeled peeled' ⟨-, hp, hp'⟩
  rw [onDest_iff (mapCause_eq_ok_iff.mp hs) hp, onDest_iff (mapCause_eq_ok_iff.mp hs') hp']
    at hagree
  by_cases hon : selector.record = peeled.shape
  · rw [if_neg (not_ne_iff.mpr hon), if_neg (not_ne_iff.mpr (hagree.mp hon))]
    exact .ok hselector
  · rw [if_pos hon, if_pos (fun hon' => hon (hagree.mpr hon')), h.malformed,
      hselector.field.name]
    exact .fail _

/-- **A marker adds the same.** -/
theorem configure (h : r.Mirrors ρ R r') (ht : r.types.Indistinct R E)
    (hspec : Begun ρ R r r' spec spec') (hmark : (MarkerCall.direct m, args) ∈ r.marks) :
    InStep (Begun ρ R r r') (r.configure spec m args) (r'.configure spec' m args) := by
  obtain ⟨hspec, hagree⟩ := hspec
  have harity : InStep (Begun ρ R r r') (Checked.fail (r.wrongArity m args.length))
      (Checked.fail (r'.wrongArity m args.length)) := h.wrongArity _ _ ▸ .fail _
  unfold Reading.configure
  cases m with
  | createMap => exact h.unexpected _ _ ▸ .fail _
  | recognizePrefixes =>
    match args with
    | [packed] =>
      refine (h.argument _ _ (h.scope.list h.scope.literalString packed)).bind ?_
      rintro prefixes prefixes' hprefixes
      obtain rfl := List.forall₂_eq_eq_eq ▸ hprefixes
      exact .ok ⟨{ hspec with
        recognizedPrefixes := by rw [hspec.recognizedPrefixes] }, hagree⟩
    | [] => exact harity
    | _ :: _ :: _ => exact harity
  | mapField =>
    match args with
    | [x, y] =>
      refine (h.argument _ _ (h.scope.selector ht x)).bind (fun source source' hsource => ?_)
      refine (h.destField ht hspec (hagree x y hmark)).bind (fun dest dest' hdest => ?_)
      exact .ok ⟨{ hspec with
        manualFieldOverrides := by
          rw [hspec.manualFieldOverrides, hsource.field.name, hdest.field.name] }, hagree⟩
    | [] => exact harity
    | [_] => exact harity
    | _ :: _ :: _ :: _ => exact harity
  | ignoreFields =>
    match args with
    | [packed] =>
      refine (h.argument _ _ (h.scope.list (h.scope.selector ht) packed)).bind ?_
      rintro selectors selectors' hselectors
      have hnames : selectors.map (fun s => s.field.name)
          = selectors'.map (fun s => s.field.name) :=
        map_eq_map_of_forall₂ (hselectors.imp (fun _ _ hselector => hselector.field.name))
      exact .ok ⟨{ hspec with
        ignoredDestFields := by rw [hspec.ignoredDestFields, hnames] }, hagree⟩
    | [] => exact harity
    | _ :: _ :: _ => exact harity
  | mapWith =>
    match args with
    | [packed] =>
      rw [h.delegateError]
      refine ((h.scope.list h.scope.callable packed).mapCause _).bind ?_
      rintro delegates delegates' hdelegates
      obtain rfl := eq_map_of_forall₂ hdelegates
      exact .ok ⟨{ hspec with
        delegateMappings := OrderedSet.items_insertAll_map h.scope.program.bijective.injective
          hspec.delegateMappings delegates }, hagree⟩
    | [] => exact harity
    | _ :: _ :: _ => exact harity

/-- **A marker call does the same to the run.** -/
theorem advance (h : r.Mirrors ρ R r') (ht : r.types.Indistinct R E) (hjudges : r.JudgesAlike r')
    (hprogress : Alongside ρ R r r' progress progress') {call : MarkerCall}
    (hmark : (call, args) ∈ r.marks) :
    InStep (Alongside ρ R r r') (r.advance progress call args)
      (r'.advance progress' call args) := by
  cases hprogress with
  | declined => exact .ok .declined
  | seeking =>
    cases call with
    | direct m =>
      cases m with
      | createMap =>
        refine (h.start ht args).map ?_
        rintro spec spec' ⟨hspec, a, b, dest, dest', rfl, hb, hb', hdest, hdest'⟩
        exact .accumulating ⟨hspec, hdest ▸ hdest' ▸ hjudges a b dest dest' hmark hb hb'⟩
      | _ => exact .ok .declined
    | _ => exact .ok .declined
  | accumulating hspec =>
    cases call with
    | direct m => exact (h.configure ht hspec hmark).map (fun _ _ => .accumulating)
    | unknown name =>
      show InStep _ (Checked.fail (r.unexpected _ _)) (Checked.fail (r'.unexpected _ _))
      exact h.unexpected _ _ ▸ .fail _
    | indirect =>
      show InStep _ (Checked.fail (r.unexpected _ _)) (Checked.fail (r'.unexpected _ _))
      exact h.unexpected _ _ ▸ .fail _

/-- **The run takes the same course**, from any of its instructions on. -/
theorem run (h : r.Mirrors ρ R r') (ht : r.types.Indistinct R E) (hjudges : r.JudgesAlike r')
    (hprogress : Alongside ρ R r r' progress progress') {ids : List ValueId}
    (hids : ∀ id ∈ ids, id ∈ r.scope.function.instructions) :
    InStep (Alongside ρ R r r') (r.run progress ids) (r'.run progress' ids) := by
  induction ids generalizing progress progress' with
  | nil =>
    cases hprogress with
    | seeking => exact .ok .seeking
    | declined => exact .ok .declined
    | accumulating hspec => exact .ok (.accumulating hspec)
  | cons id ids ih =>
    have hrest : ∀ {progress progress'}, Alongside ρ R r r' progress progress' →
        InStep (Alongside ρ R r r') (r.run progress ids) (r'.run progress' ids) :=
      fun hprogress => ih hprogress (fun i hi => hids i (List.mem_cons_of_mem id hi))
    by_cases hdeclined : progress = .declined
    · subst hdeclined
      cases hprogress
      exact .ok .declined
    have hdeclined' : progress' ≠ .declined := by
      rintro rfl
      cases hprogress
      exact hdeclined rfl
    rw [Reading.run, Reading.run]
    · refine (h.scope.function.value id).known.lift.bind ?_
      rintro value value' ⟨hvalue, hv, -⟩
      rw [hvalue.kind, ValueKind.asCall_rename]
      cases hcall : value.kind.asCall with
      | none => exact hrest hprogress
      | some call =>
        obtain ⟨callee, args⟩ := call
        refine (h.classify callee).known.lift.bind ?_
        rintro found _ ⟨rfl, hfound, -⟩
        cases found with
        | none => exact hrest hprogress
        | some call =>
          have hmark := mem_marks (hids id List.mem_cons_self) (Func.value_eq_ok_iff.mp hv) hcall
            hfound
          exact (h.advance ht hjudges hprogress hmark).bind (fun _ _ => hrest)
    · exact hdeclined'
    · exact hdeclined

theorem finish (h : r.Mirrors ρ R r') (ht : r.types.Indistinct R E)
    (hspec : spec.Mirrors ρ R spec') :
    InStep (MappingSpec.Mirrors ρ R) (r.finish spec) (r'.finish spec') := by
  unfold Reading.finish
  rw [hspec.destIsPreconstructed, h.types]
  split
  · exact .ok hspec
  refine (ht.isReferenceShaped hspec.destType).lift.bind_eq (fun shaped => ?_)
  split
  · exact .ok hspec
  refine (ht.display hspec.destType).lift.bind_eq (fun text => ?_)
  rw [hspec.qualifiedName, hspec.destBinding]
  exact .fail _

/-- **Readings come to the same.** -/
theorem spec? (h : r.Mirrors ρ R r') (ht : r.types.Indistinct R E) (hjudges : r.JudgesAlike r') :
    InStep (Option.Rel (MappingSpec.Mirrors ρ R)) r.spec? r'.spec? := by
  have hinstructions := h.scope.function.instructions
  unfold Reading.spec?
  rw [hinstructions]
  refine (h.run ht hjudges .seeking (fun _ hid => hid)).bind (fun _ _ hprogress => ?_)
  cases hprogress with
  | seeking => exact .ok .none
  | declined => exact .ok .none
  | accumulating hspec => exact (h.finish ht hspec.mirrors).map (fun _ _ => .some)

/-- Where only functions are renamed, readings agree about everything. -/
theorem judgesAlike (h : r.Mirrors ρ Eq r') : r.JudgesAlike r' := by
  intro a b dest dest' _ hb hb' x y _
  have ht := r.types.indistinct_eq
  have htype : dest.type = dest'.type := ((h.scope.binding ht b).answer hb hb').type
  unfold OnDest
  rw [h.types, ← htype]
  constructor
  · rintro ⟨selector, layers, hs, hp⟩
    obtain ⟨selector', hs', hcopied⟩ := (h.scope.selector ht y).exists_right hs
    exact ⟨selector', layers, hs', hcopied.record ▸ hp⟩
  · rintro ⟨selector', layers, hs', hp⟩
    obtain ⟨selector, hs, hcopied⟩ := (h.scope.selector ht y).exists_left hs'
    exact ⟨selector, layers, hs, hcopied.record ▸ hp⟩

end Mirrors

end Reading

/-! ## Whole functions -/

/-- A function is called the same. -/
theorem Func.Mirrors.qualifiedName {t : TypeTable} {f g : Func} (h : f.Mirrors ρ R g)
    (ht : t.Indistinct R E) : InStep Eq (f.qualifiedName t) (g.qualifiedName t) := by
  have hreceiver := h.signature.receiver
  unfold Func.qualifiedName
  rw [h.name, h.package]
  generalize f.signature.receiver = receiver, g.signature.receiver = receiver' at hreceiver
  cases hreceiver with
  | none => exact .refl _
  | some hparam => exact (ht.display hparam.type).bind_eq (fun _ => .refl _)

/-- **The readings of the programs' functions agree** about the fields of destinations. -/
def Program.JudgesAlike (settings : Settings) (ρ : FunctionId → FunctionId) (p p' : Program) :
    Prop :=
  ∀ id f g r r', p.function? id = some f → p'.function? (ρ id) = some g →
    Reading.ofFunction p settings f = .ok r → Reading.ofFunction p' settings g = .ok r' →
      r.JudgesAlike r'

namespace Program.Mirrors

variable {p p' : Program} {f g : Func} {id : FunctionId} {settings : Settings}

theorem ofFunction (h : p.Mirrors ρ R p') (ht : p.types.Indistinct R E) (hfg : f.Mirrors ρ R g)
    (settings : Settings) :
    InStep (fun r r' => r.Mirrors ρ R r' ∧ r.types = p.types)
      (Reading.ofFunction p settings f) (Reading.ofFunction p' settings g) := by
  have hscope : InStep (fun s s' => s.Mirrors ρ R s' ∧ s.program = p) (Scope.ofFunction p f)
      (Scope.ofFunction p' g) :=
    (UseIndex.mirrors_build hfg).map (fun index index' hindex => ⟨⟨h, hfg, hindex⟩, rfl⟩)
  have hname : InStep Eq (f.qualifiedName p.types) (g.qualifiedName p'.types) := by
    rw [h.types]
    exact hfg.qualifiedName ht
  refine hscope.bind (fun s s' ⟨hs, hprogram⟩ => hname.bind_eq (fun name => ?_))
  exact .ok ⟨⟨rfl, hs, rfl⟩, congrArg Program.types hprogram⟩

/-- **A function is read for the same mapping.** -/
theorem interpret (h : p.Mirrors ρ R p') (ht : p.types.Indistinct R E)
    (hjudges : p.JudgesAlike settings ρ p') (id : FunctionId) :
    InStep (Option.Rel (MappingSpec.Mirrors ρ R)) (p.interpret settings id)
      (p'.interpret settings (ρ id)) := by
  unfold Program.interpret
  cases hf : p.function? id with
  | none =>
    rw [(eq_none_iff_of_optionRel (h.functions id)).mp hf, h.fixed id hf]
    exact .fail _
  | some f =>
    obtain ⟨g, hg, hfg⟩ := h.exists_function hf
    rw [hg]
    refine (h.ofFunction ht hfg settings).known.lift.bind ?_
    rintro r r' ⟨⟨hr, htypes⟩, hr₁, hr₂⟩
    exact hr.spec? (htypes ▸ ht) (hjudges id f g r r' hf hg hr₁ hr₂)

/-- Where only functions are renamed, the readings agree. -/
theorem judgesAlike (h : p.Mirrors ρ Eq p') : p.JudgesAlike settings ρ p' := by
  intro id f g r r' hf hg hr hr'
  obtain ⟨g', hg', hfg⟩ := h.exists_function hf
  obtain rfl := Option.some.inj (hg.symm.trans hg')
  exact ((h.ofFunction p.types.indistinct_eq hfg settings).answer hr hr').1.judgesAlike

/-- The functions that may be mapping functions are the same. -/
theorem isCandidate (h : p.Mirrors ρ R p') (hfg : f.Mirrors ρ R g) :
    p'.isCandidate g = p.isCandidate f := by
  unfold Program.isCandidate
  rw [hfg.hasBody, hfg.synthetic, hfg.package, hfg.name, h.package]

end Program.Mirrors

end Crosswalk
