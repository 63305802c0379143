import Crosswalk.Proofs.Coercion.Walk
import Crosswalk.Proofs.Source.Heads
import Crosswalk.Proofs.Source.Mentions

/-!
# The function of a plan, type by type

Writing a function uses up names, but the function does not depend on how many have been used
up before it: temporary variables are numbered from zero in each function, and a type has one
spelling in the files of a package. So the function is what one gets from its plan once it is
known how types are spelled (`Emitter.written`). All that writing it does to the file is that
the packages of the types that are spelled in it are imported (`Emitter.function_eq_written`).

Only some types are (`Emitter.spelledTypes`). The spellings of others do not matter
(`Emitter.written_congr`).
-/

namespace Crosswalk

/-- The type that a step converts to. -/
def CoercionStep.type? : CoercionStep → Option TypeId
  | .convert type => some type
  | _ => none

/-- The types that a conversion spells, in order. -/
def Conversion.types : Conversion → List TypeId
  | .coerce steps _ => steps.filterMap CoercionStep.type?
  | _ => []

namespace TypeTable

variable (t : TypeTable) (σ : TypeId → String)

/-- One step of a coercion around what is there, and the number of the next temporary
variable. -/
def wrapStep (l : Lowered × Nat) : CoercionStep → Lowered × Nat
  | .addressOf =>
    if l.1.expr.isAddressable then ({ l.1 with expr := .addressOf l.1.expr }, l.2)
    else (⟨l.1.temps ++ [⟨l.2, l.1.expr⟩], .addressOf (.temp l.2)⟩, l.2 + 1)
  | .deref => ({ l.1 with expr := .deref l.1.expr }, l.2)
  | .convert type =>
    ({ l.1 with expr := .convert (Expr.parenthesize (t.needsParens type) (σ type)) l.1.expr }, l.2)

/-- **A conversion around a source expression**, when temporary variables are numbered from
`n`. -/
def wrap (conversion : Conversion) (source : Expr) (n : Nat) : Lowered × Nat :=
  match conversion with
  | .assign => (⟨[], source⟩, n)
  | .coerce steps _ => steps.foldl (t.wrapStep σ) (⟨[], source⟩, n)
  | .delegate _ name .receiver => (⟨[], .method source name⟩, n)
  | .delegate _ name .call => (⟨[], .call name source⟩, n)

/-- Conversions one after another. -/
def wrapAll : List (Conversion × Expr) → Nat → List Lowered
  | [], _ => []
  | (conversion, source) :: rest, n =>
    (t.wrap σ conversion source n).1 :: wrapAll rest (t.wrap σ conversion source n).2

end TypeTable

/-- **The conversions of a plan**, each with what it is applied to. -/
def Plan.conversions (plan : Plan) : List (Conversion × Expr) :=
  match plan.body with
  | .record fields _ => fields.map (fun f =>
      (f.conversion, .place (plan.spec.sourceBinding ++ "." ++ f.pair.source.name)))
  | .elements _ _ conversion => [(conversion, .value (Emitter.itemName plan.spec))]

namespace Emitter

section

variable (e : Emitter) (σ : TypeId → String)

/-- What the destination points to, if it is a pointer. -/
def pointee? (spec : MappingSpec) : Option TypeId :=
  (e.types.kind? spec.destType).bind TypeKind.pointee?

/-- What makes the destination of a record fit to be written to. -/
def prepared (spec : MappingSpec) : List Statement :=
  match spec.destIsPreconstructed, e.pointee? spec with
  | true, some pointee => [.simple (.define spec.destBinding ("new(" ++ σ pointee ++ ")"))]
  | true, none => [.simple (.define spec.destBinding (σ spec.destType ++ "\x7b\x7d"))]
  | false, some _ => [.whenNil spec.destBinding [success spec]]
  | false, none => []

/-- The block of a field whose value is lowered. -/
def blockOf (spec : MappingSpec) (f : PlannedField) (l : Lowered) : List Statement :=
  (tempStatements l).map .simple ++ [.simple (.assign (placeOf spec f) l.expr.text)]

/-- What makes a destination slice fit to be appended to. -/
def started (spec : MappingSpec) : SimpleStatement :=
  if spec.destIsPreconstructed then .declare spec.destBinding (σ spec.destType)
  else .assign spec.destBinding (spec.destBinding ++ "[:0]")

/-- What appends a lowered element. -/
def appended (spec : MappingSpec) (l : Lowered) : List SimpleStatement :=
  tempStatements l ++ [.assign spec.destBinding
    ("append(" ++ spec.destBinding ++ ", " ++ l.expr.text ++ ")")]

/-- The lowered conversions of a plan. -/
def lowered (plan : Plan) : List Lowered := e.types.wrapAll σ plan.conversions 0

/-- The body of the function of a plan, but for the return at its end. -/
def writtenBody (plan : Plan) : List Statement :=
  match plan.body with
  | .record fields unmatched => e.prepared σ plan.spec
      ++ (List.zipWith (blockOf plan.spec) fields (e.lowered σ plan)).flatten
      ++ unmatched.map noMatch
  | .elements .. => [.simple (started σ plan.spec), .forEach (itemName plan.spec)
      plan.spec.sourceBinding ((e.lowered σ plan).flatMap (appended plan.spec))]

/-- **The function of a plan**, when types are spelled by `σ`. -/
def written (plan : Plan) : FunctionDecl :=
  { headOf plan.spec (σ plan.spec.sourceType) (σ plan.spec.destType) with
    body := e.writtenBody σ plan ++ lastReturn plan.spec }

/-- The types spelled in the head: that of the source, and that of the destination unless the
function makes it and keeps it. -/
def headTypes (spec : MappingSpec) : List TypeId :=
  spec.sourceType ::
    if spec.destIsPreconstructed && !spec.destIsReturned then [] else [spec.destType]

/-- What is spelled besides the destination in order to make it. -/
def madeTypes (spec : MappingSpec) : List TypeId :=
  if spec.destIsPreconstructed then (e.pointee? spec).toList else []

/-- The type spelled in order to make the destination. -/
def preparedTypes (plan : Plan) : List TypeId :=
  if plan.spec.destIsPreconstructed then
    match plan.body with
    | .record .. => [(e.pointee? plan.spec).getD plan.spec.destType]
    | .elements .. => [plan.spec.destType]
  else []

/-- **The types spelled in the body.** -/
def bodyTypes (plan : Plan) : List TypeId :=
  e.preparedTypes plan ++ plan.conversions.flatMap (fun c => c.1.types)

/-- **The types spelled in the function of a plan.** -/
def spelledTypes (plan : Plan) : List TypeId := headTypes plan.spec ++ e.bodyTypes plan

end

end Emitter

/-! ## What writing comes to -/

namespace TypeTable

variable {t : TypeTable} {home : String} {names names' : Names} {σ : TypeId → String}

theorem packagesOf_append (as bs : List TypeId) :
    t.packagesOf home {id | id ∈ as ++ bs}
      = t.packagesOf home {id | id ∈ as} ∪ t.packagesOf home {id | id ∈ bs} := by
  rw [← packagesOf_union]
  congr 1
  ext id
  simp

theorem packagesOf_nil : t.packagesOf home {id | id ∈ ([] : List TypeId)} = ∅ := by
  simp [packagesOf]

theorem packagesOf_singleton (id : TypeId) :
    t.packagesOf home {a | a ∈ [id]} = t.packagesOf home {id} := by
  simp [packagesOf]

end TypeTable

namespace Emitter

variable {e : Emitter} {σ : TypeId → String} {names names' : Names} {id : TypeId} {text : String}
  {l l' : Lowered} {steps : List CoercionStep} {conversion : Conversion} {source : Expr}
  {spec : MappingSpec} {plan : Plan} {decl : FunctionDecl}

theorem writtenBody_of_record {fields : List PlannedField} {unmatched : List RecordField}
    (h : plan.body = .record fields unmatched) :
    e.writtenBody σ plan = e.prepared σ plan.spec
      ++ (List.zipWith (blockOf plan.spec) fields (e.types.wrapAll σ (fields.map (fun f =>
        (f.conversion, .place (plan.spec.sourceBinding ++ "." ++ f.pair.source.name)))) 0)).flatten
      ++ unmatched.map noMatch := by
  rw [writtenBody, lowered, Plan.conversions, h]

theorem writtenBody_of_elements {sourceElem destElem : TypeId}
    (h : plan.body = .elements sourceElem destElem conversion) :
    e.writtenBody σ plan = [.simple (started σ plan.spec), .forEach (itemName plan.spec)
      plan.spec.sourceBinding
      (appended plan.spec (e.types.wrap σ conversion (.value (itemName plan.spec)) 0).1)] := by
  rw [writtenBody, lowered, Plan.conversions, h]
  dsimp only [TypeTable.wrapAll]
  rw [List.flatMap_singleton]

theorem simples_blockOf (f : PlannedField) : (blockOf spec f l).flatMap Statement.simples
    = tempStatements l ++ [.assign (placeOf spec f) l.expr.text] := by
  rw [blockOf, List.flatMap_append, Statement.flatMap_simples_map]
  rfl

/-- **`σ` spells types** the way files of the package do. -/
def SpelledBy (e : Emitter) (σ : TypeId → String) : Prop :=
  ∀ id text, e.Spelled id text → σ id = text

/-- There is a way to spell types. -/
theorem exists_spelledBy (e : Emitter) : ∃ σ, e.SpelledBy σ := by
  have h : ∀ id, ∃ text, ∀ text', e.Spelled id text' → text = text' := by
    intro id
    by_cases hid : ∃ text, e.Spelled id text
    · obtain ⟨text, htext⟩ := hid
      exact ⟨text, fun text' h => htext.unique h⟩
    · exact ⟨"", fun text' h => absurd ⟨text', h⟩ hid⟩
  choose σ hσ using h
  exact ⟨σ, hσ⟩

/-- The packages of listed types. -/
abbrev packages (e : Emitter) (ids : List TypeId) : Set String :=
  e.types.packagesOf e.home {id | id ∈ ids}

theorem packages_nil : e.packages [] = ∅ := TypeTable.packagesOf_nil

theorem packages_append (as bs : List TypeId) :
    e.packages (as ++ bs) = e.packages as ∪ e.packages bs := TypeTable.packagesOf_append as bs

/-- **Listed types are spelled by `σ`**, and their packages are imported. -/
structure Adds (e : Emitter) (σ : TypeId → String) (ids : List TypeId) (names names' : Names) :
    Prop where
  /-- The imports. -/
  imports : names.imports.Grows (e.packages ids) names'.imports
  /-- The spellings. -/
  spelled : ∀ id ∈ ids, e.Spelled id (σ id)

namespace Adds

variable {names₀ : Names} {ids more : List TypeId}

/-- No type is spelled, and nothing is imported. -/
theorem nothing (h : names'.imports = names.imports) : e.Adds σ [] names names' := by
  refine ⟨?_, nofun⟩
  rw [packages_nil, h]
  exact .refl _

theorem append (h : e.Adds σ ids names₀ names) (h' : e.Adds σ more names names') :
    e.Adds σ (ids ++ more) names₀ names' := by
  refine ⟨?_, List.forall_mem_append.mpr ⟨h.spelled, h'.spelled⟩⟩
  rw [packages_append]
  exact h.imports.trans h'.imports

/-- Types that are not listed are not missed if the others mention their packages. -/
theorem of_subset (h : e.Adds σ ids names names') (hsub : more ⊆ ids)
    (hsame : e.packages more = e.packages ids) : e.Adds σ more names names' :=
  ⟨hsame ▸ h.imports, fun id hid => h.spelled id (hsub hid)⟩

end Adds

theorem spell_eq_ok (hσ : e.SpelledBy σ) (h : e.spell id names = .ok text names') :
    text = σ id ∧ e.Adds σ [id] names names' ∧ names'.nextTemp = names.nextTemp := by
  have hspells := TypeTable.spellTo_eq_ok h
  have htext : σ id = text := hσ id text ⟨names, names', h⟩
  refine ⟨htext.symm, ⟨?_, ?_⟩, hspells.nextTemp⟩
  · rw [packages, TypeTable.packagesOf_singleton]
    exact hspells.imports
  · rw [List.forall_mem_singleton, htext]
    exact ⟨names, names', h⟩

theorem lowerStep_eq_ok {step : CoercionStep} (hσ : e.SpelledBy σ)
    (h : e.types.lowerStep e.home l step names = .ok l' names') :
    (l', names'.nextTemp) = e.types.wrapStep σ (l, names.nextTemp) step ∧
      e.Adds σ step.type?.toList names names' := by
  cases step with
  | addressOf =>
    unfold TypeTable.wrapStep
    unfold TypeTable.lowerStep at h
    by_cases haddressable : l.expr.isAddressable = true
    · rw [if_pos haddressable] at h
      obtain ⟨rfl, rfl⟩ := Writing.pure_eq_ok_iff.mp h
      exact ⟨(if_pos haddressable).symm, .nothing rfl⟩
    · rw [if_neg haddressable] at h
      obtain ⟨index, between, hfresh, h⟩ := Writing.bind_eq_ok_iff.mp h
      obtain ⟨rfl, rfl⟩ := Writing.pure_eq_ok_iff.mp h
      obtain ⟨rfl, rfl⟩ := EStateM.Result.ok.inj hfresh
      exact ⟨(if_neg haddressable).symm, .nothing rfl⟩
  | deref =>
    obtain ⟨rfl, rfl⟩ := Writing.pure_eq_ok_iff.mp h
    exact ⟨rfl, .nothing rfl⟩
  | convert type =>
    obtain ⟨text, between, htext, h⟩ := Writing.bind_eq_ok_iff.mp h
    obtain ⟨rfl, rfl⟩ := Writing.pure_eq_ok_iff.mp h
    obtain ⟨rfl, hadds, htemp⟩ := spell_eq_ok hσ htext
    refine ⟨?_, hadds⟩
    rw [htemp]
    rfl

theorem lowerSteps_eq_ok (hσ : e.SpelledBy σ)
    (h : e.types.lowerSteps e.home steps l names = .ok l' names') :
    (l', names'.nextTemp) = steps.foldl (e.types.wrapStep σ) (l, names.nextTemp) ∧
      e.Adds σ (steps.filterMap CoercionStep.type?) names names' := by
  induction steps generalizing l names with
  | nil =>
    obtain ⟨rfl, rfl⟩ := Writing.pure_eq_ok_iff.mp h
    exact ⟨rfl, .nothing rfl⟩
  | cons step steps ih =>
    obtain ⟨between, names₁, hstep, h⟩ := Writing.bind_eq_ok_iff.mp h
    obtain ⟨hbetween, hfirst⟩ := lowerStep_eq_ok hσ hstep
    obtain ⟨hl, hrest⟩ := ih h
    have htypes : (step :: steps).filterMap CoercionStep.type?
        = step.type?.toList ++ steps.filterMap CoercionStep.type? := by
      cases step <;> rfl
    rw [List.foldl_cons, ← hbetween, htypes]
    exact ⟨hl, hfirst.append hrest⟩

/-- **What lowering a conversion comes to.** -/
theorem lower_eq_ok (hσ : e.SpelledBy σ)
    (h : e.types.lower e.home conversion source names = .ok l names') :
    (l, names'.nextTemp) = e.types.wrap σ conversion source names.nextTemp ∧
      e.Adds σ conversion.types names names' := by
  cases conversion with
  | assign =>
    obtain ⟨rfl, rfl⟩ := Writing.pure_eq_ok_iff.mp h
    exact ⟨rfl, .nothing rfl⟩
  | coerce steps complete => exact lowerSteps_eq_ok hσ h
  | delegate function name style =>
    cases style <;>
    · obtain ⟨rfl, rfl⟩ := Writing.pure_eq_ok_iff.mp h
      exact ⟨rfl, .nothing rfl⟩

theorem prepareRecord_eq_ok {body : List Statement} (hσ : e.SpelledBy σ)
    (h : e.prepareRecord spec (σ spec.destType) names = .ok body names') :
    body = e.prepared σ spec ∧ names'.nextTemp = names.nextTemp ∧
      e.Adds σ (e.madeTypes spec) names names' := by
  obtain ⟨found, between, hlookup, h⟩ := Writing.bind_eq_ok_iff.mp h
  obtain ⟨hfound, rfl⟩ := Writing.liftM_eq_ok_iff.mp hlookup
  obtain ⟨k, hk, rfl⟩ := TypeTable.exists_kind_of_pointee hfound
  have hpointee : e.pointee? spec = k.pointee? := by simp [pointee?, hk]
  unfold prepared madeTypes
  rw [hpointee]
  cases hmade : spec.destIsPreconstructed with
  | true =>
    rw [hmade] at h
    cases hsome : k.pointee? with
    | some pointee =>
      rw [hsome] at h
      obtain ⟨text, between, htext, h⟩ := Writing.bind_eq_ok_iff.mp h
      obtain ⟨rfl, rfl⟩ := Writing.pure_eq_ok_iff.mp h
      obtain ⟨rfl, hadds, htemp⟩ := spell_eq_ok hσ htext
      exact ⟨rfl, htemp, hadds⟩
    | none =>
      rw [hsome] at h
      obtain ⟨rfl, rfl⟩ := Writing.pure_eq_ok_iff.mp h
      exact ⟨rfl, rfl, .nothing rfl⟩
  | false =>
    rw [hmade] at h
    cases hsome : k.pointee? with
    | some pointee =>
      rw [hsome] at h
      obtain ⟨rfl, rfl⟩ := Writing.pure_eq_ok_iff.mp h
      exact ⟨rfl, rfl, .nothing rfl⟩
    | none =>
      rw [hsome] at h
      obtain ⟨rfl, rfl⟩ := Writing.pure_eq_ok_iff.mp h
      exact ⟨rfl, rfl, .nothing rfl⟩

/-- **The blocks of fields**, one after another. -/
theorem feedFields_eq_ok {fields : List PlannedField} {blocks : List (List Statement)}
    (hσ : e.SpelledBy σ) (h : fields.mapM (e.feedField spec) names = .ok blocks names') :
    blocks = List.zipWith (blockOf spec) fields (e.types.wrapAll σ (fields.map (fun f =>
        (f.conversion, .place (spec.sourceBinding ++ "." ++ f.pair.source.name)))) names.nextTemp) ∧
      e.Adds σ (fields.flatMap (fun f => f.conversion.types)) names names' := by
  induction fields generalizing names blocks with
  | nil =>
    rw [List.mapM_nil] at h
    obtain ⟨rfl, rfl⟩ := Writing.pure_eq_ok_iff.mp h
    exact ⟨rfl, .nothing rfl⟩
  | cons f fields ih =>
    rw [List.mapM_cons] at h
    obtain ⟨block, between, hblock, h⟩ := Writing.bind_eq_ok_iff.mp h
    obtain ⟨blocks, between', hblocks, h⟩ := Writing.bind_eq_ok_iff.mp h
    obtain ⟨rfl, rfl⟩ := Writing.pure_eq_ok_iff.mp h
    obtain ⟨l, between₁, hl, hblock⟩ := Writing.bind_eq_ok_iff.mp hblock
    obtain ⟨rfl, rfl⟩ := Writing.pure_eq_ok_iff.mp hblock
    obtain ⟨hwrap, hfirst⟩ := lower_eq_ok hσ hl
    obtain ⟨rfl, hrest⟩ := ih hblocks
    refine ⟨?_, hfirst.append hrest⟩
    rw [List.map_cons, TypeTable.wrapAll, ← hwrap]
    rfl

theorem elementStatements_written {body : List Statement} (hσ : e.SpelledBy σ)
    (h : e.elementStatements spec (σ spec.destType) conversion names = .ok body names') :
    body = [.simple (started σ spec), .forEach (itemName spec) spec.sourceBinding
        (appended spec (e.types.wrap σ conversion (.value (itemName spec)) names.nextTemp).1)] ∧
      e.Adds σ conversion.types names names' := by
  obtain ⟨-, l, hl, rfl⟩ := elementStatements_eq_ok h
  obtain ⟨hwrap, hadds⟩ := lower_eq_ok hσ hl
  refine ⟨?_, hadds⟩
  rw [← hwrap]
  rfl

/-- A pointer mentions what is mentioned in what it points to. -/
theorem packages_pointee {pointee : TypeId} (h : e.pointee? spec = some pointee) :
    e.packages [pointee] = e.packages [spec.destType] := by
  obtain ⟨k, hk, hpointee⟩ := Option.bind_eq_some_iff.mp h
  obtain rfl := TypeKind.pointee?_eq_some hpointee
  rw [packages, packages, TypeTable.packagesOf_singleton, TypeTable.packagesOf_singleton]
  ext package
  simp [TypeTable.packagesOf, TypeTable.mentions_iff_of_isBare hk rfl, TypeTable.ShownIn,
    TypeKind.parts]

/-- Types by which a destination is made stand for it. -/
theorem packages_preparedTypes (hmade : plan.spec.destIsPreconstructed = true) :
    e.packages (e.preparedTypes plan) = e.packages [plan.spec.destType] := by
  unfold preparedTypes
  rw [if_pos hmade]
  cases plan.body with
  | elements => rfl
  | record =>
    cases hpointee : e.pointee? plan.spec with
    | none => rfl
    | some pointee => exact packages_pointee hpointee

/-- A destination that is not spelled in the head is spelled where it is made. -/
theorem packages_headTypes_append (e : Emitter) (plan : Plan) :
    e.packages (headTypes plan.spec ++ e.preparedTypes plan)
      = e.packages [plan.spec.sourceType, plan.spec.destType] := by
  unfold headTypes
  cases hmade : plan.spec.destIsPreconstructed with
  | false => simp [preparedTypes, hmade]
  | true =>
    have hboth : e.packages [plan.spec.sourceType, plan.spec.destType]
        = e.packages [plan.spec.sourceType] ∪ e.packages [plan.spec.destType] :=
      packages_append [_] [_]
    rw [packages_append, packages_preparedTypes hmade]
    cases plan.spec.destIsReturned with
    | false => exact hboth.symm
    | true =>
      show e.packages [plan.spec.sourceType, plan.spec.destType] ∪ _ = _
      rw [hboth, Set.union_assoc, Set.union_self]

theorem packages_madeTypes_subset (e : Emitter) (spec : MappingSpec) :
    e.packages (e.madeTypes spec) ⊆ e.packages [spec.sourceType, spec.destType] := by
  unfold madeTypes
  split
  · cases hpointee : e.pointee? spec with
    | none => exact packages_nil ▸ Set.empty_subset _
    | some pointee =>
      have hboth : e.packages [spec.sourceType, spec.destType]
          = e.packages [spec.sourceType] ∪ e.packages [spec.destType] := packages_append [_] [_]
      rw [Option.toList_some, packages_pointee hpointee, hboth]
      exact Set.subset_union_right
  · exact packages_nil ▸ Set.empty_subset _

/-- **Spelling the source, the destination and what the body needs** comes to spelling the types
that stand in the function. -/
theorem adds_spelledTypes {made : List TypeId}
    (h : e.Adds σ ([plan.spec.sourceType, plan.spec.destType] ++ made
      ++ plan.conversions.flatMap (fun c => c.1.types)) names names')
    (hmade : e.packages made ⊆ e.packages [plan.spec.sourceType, plan.spec.destType])
    (hprepared : e.preparedTypes plan ⊆ [plan.spec.sourceType, plan.spec.destType] ++ made) :
    e.Adds σ (e.spelledTypes plan) names names' := by
  refine h.of_subset ?_ ?_
  · have hhead : headTypes plan.spec ⊆ [plan.spec.sourceType, plan.spec.destType] := by
      unfold headTypes
      split <;> simp
    have hkept := List.append_subset.mpr ⟨List.subset_append_of_subset_left made hhead, hprepared⟩
    rw [spelledTypes, bodyTypes, ← List.append_assoc]
    exact List.append_subset.mpr ⟨List.subset_append_of_subset_left _ hkept,
      List.subset_append_right _ _⟩
  · rw [spelledTypes, bodyTypes, ← List.append_assoc, packages_append,
      packages_headTypes_append, packages_append, packages_append,
      Set.union_eq_self_of_subset_right hmade]

/-- **The function of a plan** is what its types make of it, and it imports the packages of
these. -/
theorem function_eq_written (hσ : e.SpelledBy σ) (h : e.function plan names = .ok decl names') :
    decl = e.written σ plan ∧ e.Adds σ (e.spelledTypes plan) names names' := by
  obtain ⟨_, names₀, hnew, h⟩ := Writing.bind_eq_ok_iff.mp h
  obtain ⟨-, rfl⟩ := EStateM.Result.ok.inj hnew
  obtain ⟨sourceType, names₁, hsource, h⟩ := Writing.bind_eq_ok_iff.mp h
  obtain ⟨destType, names₂, hdest, h⟩ := Writing.bind_eq_ok_iff.mp h
  obtain ⟨rfl, hsource, htemp⟩ := spell_eq_ok hσ hsource
  obtain ⟨rfl, hdest, htemp'⟩ := spell_eq_ok hσ hdest
  have hzero : names₂.nextTemp = 0 := htemp'.trans htemp
  have hhead : e.Adds σ [plan.spec.sourceType, plan.spec.destType] names names₂ := by
    have hboth := hsource.append hdest
    exact ⟨hboth.imports, hboth.spelled⟩
  cases hplan : plan.body with
  | record fields unmatched =>
    rw [hplan] at h
    obtain ⟨body, names₃, hbody, h⟩ := Writing.bind_eq_ok_iff.mp h
    obtain ⟨rfl, rfl⟩ := Writing.pure_eq_ok_iff.mp h
    obtain ⟨before, names₄, hbefore, hbody⟩ := Writing.bind_eq_ok_iff.mp hbody
    obtain ⟨blocks, names₅, hblocks, hbody⟩ := Writing.bind_eq_ok_iff.mp hbody
    obtain ⟨rfl, rfl⟩ := Writing.pure_eq_ok_iff.mp hbody
    obtain ⟨rfl, htemp'', hmade⟩ := prepareRecord_eq_ok hσ hbefore
    obtain ⟨rfl, hconversions⟩ := feedFields_eq_ok hσ hblocks
    refine ⟨?_, adds_spelledTypes ?_ (packages_madeTypes_subset e plan.spec) ?_⟩
    · rw [written, writtenBody_of_record hplan, htemp'', hzero]
    · rw [Plan.conversions, hplan, List.flatMap_map]
      exact (hhead.append hmade).append hconversions
    · unfold preparedTypes madeTypes
      rw [hplan]
      cases plan.spec.destIsPreconstructed with
      | false => exact List.nil_subset _
      | true => cases e.pointee? plan.spec <;> simp
  | elements sourceElem destElem conversion =>
    rw [hplan] at h
    obtain ⟨body, names₃, hbody, h⟩ := Writing.bind_eq_ok_iff.mp h
    obtain ⟨rfl, rfl⟩ := Writing.pure_eq_ok_iff.mp h
    obtain ⟨rfl, hconversion⟩ := elementStatements_written hσ hbody
    refine ⟨?_, adds_spelledTypes ?_ (packages_nil ▸ Set.empty_subset _) ?_⟩
    · rw [written, writtenBody_of_elements hplan, hzero]
    · rw [Plan.conversions, hplan, List.flatMap_singleton, List.append_nil]
      exact hhead.append hconversion
    · unfold preparedTypes
      rw [hplan]
      split <;> simp

end Emitter

/-! ## The spellings that matter -/

namespace TypeTable

variable {t : TypeTable} {σ τ : TypeId → String} {l : Lowered × Nat} {step : CoercionStep}
  {conversion : Conversion} {source : Expr} {conversions : List (Conversion × Expr)} {n : Nat}

theorem wrapStep_congr (h : ∀ id ∈ step.type?, σ id = τ id) :
    t.wrapStep σ l step = t.wrapStep τ l step := by
  cases step with
  | addressOf => rfl
  | deref => rfl
  | convert type => simp only [wrapStep, h type rfl]

theorem wrap_congr (h : ∀ id ∈ conversion.types, σ id = τ id) :
    t.wrap σ conversion source n = t.wrap τ conversion source n := by
  cases conversion with
  | assign => rfl
  | coerce steps complete =>
    refine List.foldl_ext _ _ _ (fun l step hstep => wrapStep_congr (fun id hid => ?_))
    exact h id (List.mem_filterMap.mpr ⟨step, hstep, hid⟩)
  | delegate function name style => cases style <;> rfl

theorem wrapAll_congr (h : ∀ id ∈ conversions.flatMap (fun c => c.1.types), σ id = τ id) :
    t.wrapAll σ conversions n = t.wrapAll τ conversions n := by
  induction conversions generalizing n with
  | nil => rfl
  | cons c conversions ih =>
    rw [List.flatMap_cons, List.forall_mem_append] at h
    rw [wrapAll, wrapAll, wrap_congr h.1, ih h.2]

end TypeTable

namespace Emitter

variable {e : Emitter} {σ τ : TypeId → String} {spec : MappingSpec} {plan : Plan}

theorem headOf_congr (h : ∀ id ∈ headTypes spec, σ id = τ id) :
    headOf spec (σ spec.sourceType) (σ spec.destType)
      = headOf spec (τ spec.sourceType) (τ spec.destType) := by
  obtain ⟨hsource, hdest⟩ := List.forall_mem_cons.mp h
  rw [hsource]
  cases hhead : spec.destIsPreconstructed && !spec.destIsReturned with
  | true =>
    -- neither parameter nor result
    rw [Bool.and_eq_true, Bool.not_eq_true'] at hhead
    simp [headOf, hhead]
  | false => rw [hdest spec.destType (by simp [hhead])]

theorem writtenBody_congr (h : ∀ id ∈ e.bodyTypes plan, σ id = τ id) :
    e.writtenBody σ plan = e.writtenBody τ plan := by
  obtain ⟨hmade, hconversions⟩ := List.forall_mem_append.mp h
  have hlowered : e.lowered σ plan = e.lowered τ plan := TypeTable.wrapAll_congr hconversions
  unfold writtenBody
  rw [hlowered]
  cases hplan : plan.body with
  | record fields unmatched =>
    have hprepared : e.prepared σ plan.spec = e.prepared τ plan.spec := by
      unfold prepared
      cases hpre : plan.spec.destIsPreconstructed with
      | false => cases e.pointee? plan.spec <;> rfl
      | true =>
        simp only [preparedTypes, hplan, hpre, if_true, List.forall_mem_singleton] at hmade
        cases hpointee : e.pointee? plan.spec <;> simpa [hpointee] using hmade
    rw [hprepared]
  | elements sourceElem destElem conversion =>
    have hstarted : started σ plan.spec = started τ plan.spec := by
      unfold started
      split
      · rename_i hpre
        rw [hmade plan.spec.destType (by simp [preparedTypes, hplan, hpre])]
      · rfl
    rw [hstarted]

/-- **The spellings of other types do not matter.** -/
theorem written_congr (h : ∀ id ∈ e.spelledTypes plan, σ id = τ id) :
    e.written σ plan = e.written τ plan := by
  obtain ⟨hhead, hbody⟩ := List.forall_mem_append.mp h
  unfold written
  rw [headOf_congr hhead, writtenBody_congr hbody]

end Emitter

end Crosswalk
