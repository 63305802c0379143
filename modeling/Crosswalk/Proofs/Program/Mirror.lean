import Crosswalk.Argument
import Crosswalk.Proofs.InStep
import Crosswalk.Proofs.Lists
import Crosswalk.Proofs.Program.Body
import Crosswalk.Proofs.Program.Sound

/-!
# Programs that mirror one another

Two programs may say the same and yet differ in two respects: the positions at which their
functions stand, and which of several entries for one type they refer to. The second then
*mirrors* the first, by a renaming of functions and a relation between types.

Within a function nothing moves. Values, blocks and instructions are at the same places in
both programs, and so is everything that is found by following them: the readers of a
value, and the order in which a walk visits them.
-/

namespace Crosswalk

variable {ρ : FunctionId → FunctionId} {R : TypeId → TypeId → Prop}

/-! ## Renaming functions -/

/-- The value with the function that it refers to renamed. -/
def ValueKind.rename (ρ : FunctionId → FunctionId) : ValueKind → ValueKind
  | .functionRef f => .functionRef (ρ f)
  | .makeClosure f bindings => .makeClosure (ρ f) bindings
  | kind => kind

namespace ValueKind

variable (ρ) (kind : ValueKind)

@[simp] theorem operands_rename : (kind.rename ρ).operands = kind.operands := by cases kind <;> rfl

@[simp] theorem isInstruction_rename : (kind.rename ρ).isInstruction = kind.isInstruction := by
  cases kind <;> rfl

@[simp] theorem producesValue_rename : (kind.rename ρ).producesValue = kind.producesValue := by
  cases kind <;> rfl

@[simp] theorem isParameter_rename : (kind.rename ρ).isParameter = kind.isParameter := by
  cases kind <;> rfl

@[simp] theorem asCall_rename : (kind.rename ρ).asCall = kind.asCall := by cases kind <;> rfl

@[simp] theorem branches_rename : (kind.rename ρ).branches = kind.branches := by cases kind <;> rfl

@[simp] theorem target_rename : (kind.rename ρ).target = kind.target.map ρ := by cases kind <;> rfl

end ValueKind

/-! ## Mirroring -/

/-- **The value is the same**, but for the function it refers to and the entry of its type. -/
structure Value.Mirrors (ρ : FunctionId → FunctionId) (R : TypeId → TypeId → Prop)
    (v w : Value) : Prop where
  /-- It is of the same kind. -/
  kind : w.kind = v.kind.rename ρ
  /-- It has a related type, or none. -/
  type : Option.Rel R v.type w.type
  /-- It has the same name, or none. -/
  name : w.name = v.name

/-- The parameter is the same, but for the entry of its type. -/
structure Param.Mirrors (R : TypeId → TypeId → Prop) (x y : Param) : Prop where
  /-- It has the same name. -/
  name : y.name = x.name
  /-- It has a related type. -/
  type : R x.type y.type

/-- The signature is the same, but for the entries of its types. -/
structure Signature.Mirrors (R : TypeId → TypeId → Prop) (s s' : Signature) : Prop where
  /-- The receivers. -/
  receiver : Option.Rel (Param.Mirrors R) s.receiver s'.receiver
  /-- The parameters. -/
  params : List.Forall₂ (Param.Mirrors R) s.params s'.params
  /-- The types of the results. -/
  results : List.Forall₂ R s.results s'.results
  /-- Both are variadic, or neither is. -/
  variadic : s'.variadic = s.variadic

/-- **The function is the same**, but for its position, the functions it refers to and the
entries of its types. -/
structure Func.Mirrors (ρ : FunctionId → FunctionId) (R : TypeId → TypeId → Prop)
    (f g : Func) : Prop where
  /-- It claims the renamed position. -/
  id : g.id = ρ f.id
  /-- It has the same name, -/
  name : g.name = f.name
  /-- the same package, -/
  package : g.package = f.package
  /-- the same file, -/
  file : g.file = f.file
  /-- and the same origin. -/
  synthetic : g.synthetic = f.synthetic
  /-- Its signature is the same. -/
  signature : f.signature.Mirrors R g.signature
  /-- Its parameters are bound to the same values. -/
  params : g.params = f.params
  /-- Its blocks are the same. -/
  blocks : g.blocks = f.blocks
  /-- Its values are the same. -/
  values : ∀ id, Option.Rel (Value.Mirrors ρ R) (f.value? id) (g.value? id)

/-- **The program is the same**, but for the positions of its functions and the entries of
types. -/
structure Program.Mirrors (ρ : FunctionId → FunctionId) (R : TypeId → TypeId → Prop)
    (p p' : Program) : Prop where
  /-- It is of the same package. -/
  package : p'.package = p.package
  /-- It has the same table of types. -/
  types : p'.types = p.types
  /-- Its functions are the same. -/
  functions : ∀ id, Option.Rel (Func.Mirrors ρ R) (p.function? id) (p'.function? (ρ id))
  /-- Functions change places. -/
  bijective : Function.Bijective ρ
  /-- Nothing else does. -/
  fixed : ∀ id, p.function? id = none → ρ id = id

/-- A signature mirrors itself if its types are related to themselves. -/
theorem Signature.mirrors_self {s : Signature} (hparams : ∀ x ∈ s.allParams, R x.type x.type)
    (hresults : ∀ a ∈ s.results, R a a) : s.Mirrors R s := by
  refine ⟨?_, List.forall₂_same.mpr (fun x hx => ⟨rfl, hparams x (List.mem_append_right _ hx)⟩),
    List.forall₂_same.mpr hresults, rfl⟩
  unfold Signature.allParams at hparams
  cases hreceiver : s.receiver with
  | none => exact .none
  | some x =>
    refine .some ⟨rfl, hparams x (List.mem_append_left _ ?_)⟩
    rw [hreceiver]
    exact List.mem_singleton_self x

/-- A method mirrors a method, with parameters that mirror its own. -/
theorem Signature.Mirrors.allParams {s s' : Signature} (h : s.Mirrors R s') :
    List.Forall₂ (Param.Mirrors R) s.allParams s'.allParams :=
  List.rel_append (forall₂_toList_of_optionRel h.receiver) h.params

/-! ## Functions side by side -/

namespace Func.Mirrors

variable {f g : Func} {id : ValueId} {v w : Value} {kind : ValueKind}

theorem exists_value (h : f.Mirrors ρ R g) (hv : f.value? id = some v) :
    ∃ w, g.value? id = some w ∧ v.Mirrors ρ R w :=
  exists_right_of_optionRel (h.values id) hv

theorem exists_original (h : f.Mirrors ρ R g) (hw : g.value? id = some w) :
    ∃ v, f.value? id = some v ∧ v.Mirrors ρ R w :=
  exists_left_of_optionRel (h.values id) hw

theorem kind? (h : f.Mirrors ρ R g) (id : ValueId) :
    g.kind? id = (f.kind? id).map (ValueKind.rename ρ) := by
  unfold Func.kind?
  cases hv : f.value? id with
  | none => rw [(eq_none_iff_of_optionRel (h.values id)).mp hv]; rfl
  | some v =>
    obtain ⟨w, hw, hvw⟩ := h.exists_value hv
    rw [hw]
    exact congrArg some hvw.kind

/-- The functions have equally many values. -/
theorem size_values (h : f.Mirrors ρ R g) : g.values.size = f.values.size := by
  have hend : ∀ i, f.values.size ≤ i ↔ g.values.size ≤ i := by
    intro i
    have hnone := eq_none_iff_of_optionRel (h.values ⟨i⟩)
    unfold Func.value? at hnone
    rwa [Array.getElem?_eq_none_iff, Array.getElem?_eq_none_iff] at hnone
  exact Nat.le_antisymm ((hend _).mp (Nat.le_refl _)) ((hend _).mpr (Nat.le_refl _))

theorem instructions (h : f.Mirrors ρ R g) : g.instructions = f.instructions := by
  unfold Func.instructions
  rw [h.blocks]

theorem hasBody (h : f.Mirrors ρ R g) : g.hasBody = f.hasBody := by
  unfold Func.hasBody
  rw [h.blocks]

theorem isMethod (h : f.Mirrors ρ R g) : g.isMethod = f.isMethod :=
  (isSome_eq_of_optionRel h.signature.receiver).symm

theorem value (h : f.Mirrors ρ R g) (id : ValueId) :
    InStep (Value.Mirrors ρ R) (f.value id) (g.value id) :=
  .entryAt (h.values id)

/-- The functions make the same calls. -/
theorem calls (h : f.Mirrors ρ R g) : InStep Eq f.calls g.calls := by
  unfold Func.calls
  rw [h.instructions]
  have hvalues : List.Forall₂ (fun i j => InStep (Value.Mirrors ρ R) (f.value i) (g.value j))
      f.instructions f.instructions := List.forall₂_same.mpr (fun id _ => h.value id)
  refine (InStep.mapM hvalues).map (fun vs ws hvs => ?_)
  induction hvs with
  | nil => rfl
  | cons hvw _ ih =>
    rw [List.filterMap_cons, List.filterMap_cons, ih, hvw.kind, ValueKind.asCall_rename]

end Func.Mirrors

namespace Program.Mirrors

variable {p p' : Program} {f g : Func} {id : FunctionId}

theorem exists_function (h : p.Mirrors ρ R p') (hf : p.function? id = some f) :
    ∃ g, p'.function? (ρ id) = some g ∧ f.Mirrors ρ R g :=
  exists_right_of_optionRel (h.functions id) hf

/-- Every function of the second program mirrors one of the first. -/
theorem exists_original (h : p.Mirrors ρ R p') (hg : p'.function? id = some g) :
    ∃ id' f, p.function? id' = some f ∧ ρ id' = id ∧ f.Mirrors ρ R g := by
  obtain ⟨id', rfl⟩ := h.bijective.surjective id
  obtain ⟨f, hf, hfg⟩ := exists_left_of_optionRel (h.functions id') hg
  exact ⟨id', f, hf, rfl, hfg⟩

theorem function (h : p.Mirrors ρ R p') (id : FunctionId) :
    InStep (Func.Mirrors ρ R) (p.function id) (p'.function (ρ id)) :=
  .entryAt (h.functions id)

/-- **Calls name the same functions.** -/
theorem staticCallee (h : p.Mirrors ρ R p') (hfg : f.Mirrors ρ R g) (callee : ValueId) :
    p'.staticCallee g callee = (p.staticCallee f callee).map ρ := by
  have hk := hfg.kind? callee
  unfold Func.kind? at hk
  unfold Program.staticCallee
  rw [hk]
  cases (f.value? callee).map Value.kind with
  | none => rfl
  | some kind =>
    cases kind with
    | functionRef id =>
      show (if (p'.function? (ρ id)).isSome then some (ρ id) else none)
        = (if (p.function? id).isSome then some id else none).map ρ
      rw [← isSome_eq_of_optionRel (h.functions id)]
      cases (p.function? id).isSome <;> rfl
    | _ => rfl

/-- **What mirrors a sound program is sound**, if types that exist are exchanged for types that
exist. -/
theorem sound (h : p.Mirrors ρ R p') (hR : ∀ a b, R a b → p.types.Has a → p.types.Has b)
    (hp : p.Sound) : p'.Sound := by
  refine ⟨h.types ▸ hp.types, fun id g hg => ?_, fun id g hg => ?_⟩
  · obtain ⟨id', f, hf, rfl, hfg⟩ := h.exists_original hg
    rw [hfg.id, hp.functionIds id' f hf]
  obtain ⟨id', f, hf, rfl, hfg⟩ := h.exists_original hg
  have hsound := hp.functions id' f hf
  have hasType : ∀ a b, R a b → p.types.Has a → p'.types.Has b := h.types ▸ hR
  have hplaced : ∀ {fits : ValueKind → Bool}, (∀ kind, fits (kind.rename ρ) = fits kind) →
      ∀ v, (∃ w, f.value? v = some w ∧ fits w.kind = true) →
        ∃ w, g.value? v = some w ∧ fits w.kind = true := by
    rintro fits hfits v ⟨w, hw, hkind⟩
    obtain ⟨w', hw', hmirrors⟩ := hfg.exists_value hw
    exact ⟨w', hw', by rw [hmirrors.kind, hfits, hkind]⟩
  refine ⟨fun y hy => ?_, fun b hb => ?_, fun hbody => ?_, fun v hv => ?_, fun v w hw => ?_,
    fun i b hb => ?_, fun v hv => ?_⟩
  · obtain ⟨x, hx, hxy⟩ := exists_beside hfg.signature.allParams hy
    exact hasType _ _ hxy.type (hsound.paramTypes x hx)
  · obtain ⟨a, ha, hab⟩ := exists_beside hfg.signature.results hb
    exact hasType _ _ hab (hsound.resultTypes a ha)
  · rw [hfg.params, hsound.arity (hfg.hasBody ▸ hbody), hfg.signature.allParams.length_eq]
  · exact hplaced (ValueKind.isParameter_rename ρ) v (hsound.params v (hfg.params ▸ hv))
  · obtain ⟨w', hw', hmirrors⟩ := hfg.exists_original hw
    have hvalue := hsound.values v w' hw'
    refine ⟨fun b hb => ?_, fun o ho => ?_, fun t ht => ?_, fun b hb => ?_⟩
    · obtain ⟨a, ha, hab⟩ := exists_left_of_optionRel hmirrors.type hb
      exact hasType _ _ hab (hvalue.type a ha)
    · rw [hmirrors.kind, ValueKind.operands_rename] at ho
      exact hplaced (ValueKind.producesValue_rename ρ) o (hvalue.operands o ho)
    · rw [hmirrors.kind, ValueKind.target_rename] at ht
      obtain ⟨t', ht', rfl⟩ := Option.map_eq_some_iff.mp ht
      exact isSome_eq_of_optionRel (h.functions t') ▸ hvalue.target t' ht'
    · rw [hmirrors.kind, ValueKind.branches_rename] at hb
      exact hfg.blocks ▸ hvalue.branches b hb
  · exact hsound.blockIds i b (hfg.blocks ▸ hb)
  · exact hplaced (ValueKind.isInstruction_rename ρ) v (hsound.listed v (hfg.instructions ▸ hv))

end Program.Mirrors

/-! ## Readers side by side -/

/-- Two listings of one instruction, in a function and in one that mirrors it. -/
structure Use.Mirrors (f g : Func) (u w : Use) : Prop where
  /-- The instruction is at the same place. -/
  user : w.user = u.user
  /-- The first listing has the value that is there in the first function, -/
  left : f.value? u.user = some u.value
  /-- the second that in the second. -/
  right : g.value? w.user = some w.value

/-- Two indexes that list the same instructions. -/
def UseIndex.Mirrors (f g : Func) (index index' : UseIndex) : Prop :=
  List.Forall₂ (Use.Mirrors f g) index.uses index'.uses

/-- Where equals stand beside equals, the same runs are cut down. -/
theorem forall₂_collapseRuns {α β : Type} [DecidableEq α] [DecidableEq β] {S : α → β → Prop}
    (hS : ∀ a b a' b', S a b → S a' b' → (a = a' ↔ b = b')) {as : List α} {bs : List β}
    (h : List.Forall₂ S as bs) : List.Forall₂ S (collapseRuns as) (collapseRuns bs) := by
  induction h with
  | nil => exact .nil
  | @cons a b as bs hab htail ih =>
    cases htail with
    | nil => exact .cons hab .nil
    | @cons a' b' as bs hab' htail =>
      rw [collapseRuns, collapseRuns]
      by_cases heq : a = a'
      · rw [if_pos heq, if_pos ((hS _ _ _ _ hab hab').mp heq)]
        exact ih
      · rw [if_neg heq, if_neg (fun heq' => heq ((hS _ _ _ _ hab hab').mpr heq'))]
        exact .cons hab ih

namespace Use.Mirrors

variable {f g : Func} {u u' w w' : Use}

theorem kind (hfg : f.Mirrors ρ R g) (h : Use.Mirrors f g u w) :
    w.value.kind = u.value.kind.rename ρ := by
  obtain ⟨v, hv, hmirrors⟩ := hfg.exists_value h.left
  obtain rfl := Option.some.inj (h.right.symm.trans (h.user ▸ hv))
  exact hmirrors.kind

theorem eq_iff (h : Use.Mirrors f g u w) (h' : Use.Mirrors f g u' w') : u = u' ↔ w = w' := by
  have hleft : u.user = u'.user → u = u' := by
    intro heq
    have hvalue := Option.some.inj (h.left.symm.trans (heq ▸ h'.left))
    cases u
    cases u'
    exact Use.mk.injEq .. ▸ ⟨heq, hvalue⟩
  have hright : w.user = w'.user → w = w' := by
    intro heq
    have hvalue := Option.some.inj (h.right.symm.trans (heq ▸ h'.right))
    cases w
    cases w'
    exact Use.mk.injEq .. ▸ ⟨heq, hvalue⟩
  constructor
  · rintro rfl
    exact hright (h.user.trans h'.user.symm)
  · rintro rfl
    exact hleft (h.user.symm.trans h'.user)

end Use.Mirrors

namespace UseIndex

variable {f g : Func} {index index' : UseIndex} {root v : ValueId} {pending pending' : List Use}
  {seen : List ValueId} {u w : Use}

/-- **The functions have indexes that list the same instructions.** -/
theorem mirrors_build (hfg : f.Mirrors ρ R g) :
    InStep (Mirrors f g) (build f) (build g) := by
  unfold build Func.listed
  rw [hfg.instructions]
  refine (InStep.mapM (T := Use.Mirrors f g) (List.forall₂_same.mpr (fun id _ => ?_))).map
    (fun _ _ huses => huses)
  refine (hfg.value id).known.bind (fun v w ⟨_, hv, hw⟩ => .ok ⟨rfl, ?_, ?_⟩)
  · exact Func.value_eq_ok_iff.mp hv
  · exact Func.value_eq_ok_iff.mp hw

namespace Mirrors

theorem readers (hfg : f.Mirrors ρ R g) (h : Mirrors f g index index') (v : ValueId) :
    List.Forall₂ (Use.Mirrors f g) (index.readers v) (index'.readers v) := by
  rw [readers_eq, readers_eq]
  refine forall₂_collapseRuns (fun _ _ _ _ hab hab' => hab.eq_iff hab') ?_
  refine List.rel_filter (fun u w huw => ?_) h
  show u.reads v = true ↔ w.reads v = true
  unfold Use.reads
  rw [huw.kind hfg, ValueKind.operands_rename]

theorem next (hfg : f.Mirrors ρ R g) (h : Mirrors f g index index') (huw : Use.Mirrors f g u w) :
    List.Forall₂ (Use.Mirrors f g) (index.next u) (index'.next w) := by
  unfold UseIndex.next
  rw [huw.kind hfg, ValueKind.producesValue_rename, huw.user]
  split
  · exact h.readers hfg u.user
  · exact .nil

theorem visitsFrom (hfg : f.Mirrors ρ R g) (h : Mirrors f g index index')
    (known : ∀ u ∈ pending, u ∈ index.uses) (known' : ∀ u ∈ pending', u ∈ index'.uses)
    (hpending : List.Forall₂ (Use.Mirrors f g) pending pending') :
    List.Forall₂ (Use.Mirrors f g) (index.visitsFrom pending known seen)
      (index'.visitsFrom pending' known' seen) := by
  fun_induction UseIndex.visitsFrom index pending known seen generalizing pending' with
  | case1 =>
    cases hpending
    rw [UseIndex.visitsFrom]
    exact .nil
  | case2 seen u rest known hmem _ ih =>
    cases hpending with
    | cons huw hrest =>
      rw [UseIndex.visitsFrom, dif_pos (huw.user ▸ hmem)]
      exact ih _ hrest
  | case3 seen u rest known hmem _ ih =>
    cases hpending with
    | cons huw hrest =>
      rw [UseIndex.visitsFrom, dif_neg (huw.user ▸ hmem), huw.user]
      exact .cons huw (ih _ (List.rel_append (h.next hfg huw) hrest))

/-- **Walks visit the same instructions in the same order.** -/
theorem visits (hfg : f.Mirrors ρ R g) (h : Mirrors f g index index') (root : ValueId) :
    List.Forall₂ (Use.Mirrors f g) (index.visits root) (index'.visits root) :=
  h.visitsFrom hfg _ _ (h.readers hfg root)

end Mirrors

end UseIndex

end Crosswalk
