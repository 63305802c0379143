import Crosswalk.Proofs.Plan.Registry
import Crosswalk.Proofs.Source.Heads

/-!
# Delegates are there when they are called

Where a nested value is mapped by another mapping function, the plan says so by the function's
name, and a call is generated. Nothing that is compiled before the call is generated has seen
the function that it calls, for that is generated as well. What makes sure of it is a chain:
the function was listed with `MapWith`, its specification was found in the registry, a call of
it can stand for a value, and the function that is generated for it takes the source and gives
back the destination.
-/

namespace Crosswalk

variable {t : TypeTable} {spec d : MappingSpec} {delegates : List MappingSpec} {src dst : TypeId}
  {function : FunctionId} {name : String} {style : DelegateStyle} {conversion : Conversion}

/-- **What a body converts into what**, and how. -/
def PlanBody.conversions : PlanBody → List (TypeId × TypeId × Conversion)
  | .record fields _ =>
    fields.map (fun f => (f.pair.source.type, f.pair.dest.type, f.conversion))
  | .elements sourceElem destElem conversion => [(sourceElem, destElem, conversion)]

/-! ## Conversions by delegates -/

/-- **The conversion is a call of the delegate**, which gives what is asked for. -/
structure MappingSpec.Converts (d : MappingSpec) (t : TypeTable) (dst : TypeId)
    (function : FunctionId) (name : String) (style : DelegateStyle) : Prop where
  /-- It is the delegate that is called, -/
  function : d.function = function
  /-- by its name, -/
  name : d.name = name
  /-- and as what it is. -/
  style : d.style = style
  /-- What it gives may be put where it is needed. -/
  assignable : t.assignable d.destType dst = .ok true

namespace TypeTable

theorem exists_converts_of_findDelegate
    (hfound : t.findDelegate delegates src dst = .ok (some d))
    (h : d.toConversion = .delegate function name style) :
    d ∈ delegates ∧ d.Converts t dst function name style := by
  obtain ⟨hfunction, hname, hstyle⟩ := Conversion.delegate.inj h
  obtain ⟨hmem, hconverts⟩ := findM?_eq_ok_some hfound
  obtain ⟨gives, hgives, hconverts⟩ := bind_eq_ok_iff.mp hconverts
  cases gives with
  | true => exact ⟨hmem, hfunction, hname, hstyle, hgives⟩
  | false => cases hconverts

/-- A coercion is no call. -/
theorem coerce_ne_delegate : t.coerce src dst ≠ .ok (.delegate function name style) := by
  intro h
  obtain ⟨c, -, h⟩ := bind_eq_ok_iff.mp h
  have h := Except.ok.inj h
  unfold Coercion.toConversion at h
  split at h <;> cases h

/-- A field is converted by the delegate that is found for it. -/
theorem exists_findDelegate_of_fieldConversion
    (h : t.fieldConversion delegates src dst = .ok (.delegate function name style)) :
    ∃ d, t.findDelegate delegates src dst = .ok (some d) ∧
      d.toConversion = .delegate function name style := by
  obtain ⟨same, -, h⟩ := bind_eq_ok_iff.mp h
  cases same with
  | true => cases h
  | false =>
    obtain ⟨found, hfound, h⟩ := bind_eq_ok_iff.mp h
    cases found with
    | some d => exact ⟨d, hfound, Except.ok.inj h⟩
    | none => exact absurd h coerce_ne_delegate

/-- An element is converted by the delegate that is found for it. -/
theorem exists_findDelegate_of_elementConversion
    (h : t.elementConversion delegates src dst = .ok (.delegate function name style)) :
    ∃ d, t.findDelegate delegates src dst = .ok (some d) ∧
      d.toConversion = .delegate function name style := by
  obtain ⟨found, hfound, h⟩ := bind_eq_ok_iff.mp h
  cases found with
  | some d => exact ⟨d, hfound, Except.ok.inj h⟩
  | none =>
    obtain ⟨same, -, h⟩ := bind_eq_ok_iff.mp h
    cases same with
    | true => cases h
    | false => exact absurd h coerce_ne_delegate

/-- **A field is converted by a delegate that gives the field's type.** -/
theorem exists_converts_of_fieldConversion
    (h : t.fieldConversion delegates src dst = .ok (.delegate function name style)) :
    ∃ d ∈ delegates, d.Converts t dst function name style := by
  obtain ⟨d, hfound, hd⟩ := exists_findDelegate_of_fieldConversion h
  exact ⟨d, exists_converts_of_findDelegate hfound hd⟩

/-- **An element is converted by a delegate that gives the element type.** -/
theorem exists_converts_of_elementConversion
    (h : t.elementConversion delegates src dst = .ok (.delegate function name style)) :
    ∃ d ∈ delegates, d.Converts t dst function name style := by
  obtain ⟨d, hfound, hd⟩ := exists_findDelegate_of_elementConversion h
  exact ⟨d, exists_converts_of_findDelegate hfound hd⟩

end TypeTable

theorem MappingSpec.style_eq_receiver_iff : d.style = .receiver ↔ d.sourceIsReceiver = true := by
  unfold style
  cases d.sourceIsReceiver <;> simp

namespace Program

variable {p : Program} {settings : Settings} {registry : Registry} {id : FunctionId} {a : Analysis}
  {plan : Plan} {body : PlanBody}

/-! ## Delegates in plans -/

/-- No way of refusing a delegate answers with one. -/
theorem unusable_ne_ok {α : Type} {reason : String} {x : α} :
    (p.unusable spec id reason : Checked MappingError α) ≠ .ok x := by
  intro h
  obtain ⟨shown, -, h⟩ := bind_eq_ok_iff.mp h
  cases h

/-- **A function can be relied on** if the registry has it, and if a call of it can stand for a
value. -/
theorem delegate_eq_ok (h : p.delegate registry spec id = .ok d) :
    registry.get? id = some d ∧ d.isExpressionLike = true := by
  unfold delegate at h
  split at h
  · exact absurd h unusable_ne_ok
  · rename_i found hfound
    split at h
    · rename_i hlike
      obtain rfl := Except.ok.inj h
      exact ⟨hfound, hlike⟩
    · exact absurd h unusable_ne_ok

/-- **Every conversion in a body by a function** is one by a delegate. -/
theorem exists_converts_of_planBody (h : p.planBody spec delegates = .ok body)
    (hmem : (src, dst, .delegate function name style) ∈ body.conversions) :
    ∃ d ∈ delegates, d.Converts p.types dst function name style := by
  cases body with
  | record fields unmatched =>
    obtain ⟨s, t, -, -, hrecord⟩ := exists_records_of_planBody h
    obtain ⟨field, hfield, heq⟩ := List.mem_map.mp hmem
    obtain ⟨-, heq⟩ := Prod.mk.inj heq
    obtain ⟨rfl, hconversion⟩ := Prod.mk.inj heq
    have hplanned := (recordBody_eq_ok hrecord).2 field hfield
    rw [hconversion] at hplanned
    exact TypeTable.exists_converts_of_fieldConversion hplanned
  | elements sourceElem destElem conversion =>
    obtain ⟨rfl, heq⟩ := Prod.mk.inj (List.mem_singleton.mp hmem)
    obtain ⟨rfl, rfl⟩ := Prod.mk.inj heq
    exact TypeTable.exists_converts_of_elementConversion (elementConversion_of_planBody h)

/-- **A delegate that a plan relies on** is listed, registered, and can stand for a value. -/
theorem exists_delegate_of_plan (h : p.plan registry spec = .ok plan)
    (hmem : (src, dst, .delegate function name style) ∈ plan.body.conversions) :
    function ∈ plan.spec.delegateMappings ∧ ∃ d, registry.get? function = some d ∧
      d.isExpressionLike = true ∧ d.Converts p.types dst function name style := by
  obtain ⟨rfl, delegates, hdelegates, hbody⟩ := plan_eq_ok h
  obtain ⟨d, hd, hconverts⟩ := exists_converts_of_planBody hbody hmem
  obtain ⟨id, hid, hdelegate⟩ := exists_beside (mapM_eq_ok_iff.mp hdelegates) hd
  obtain ⟨hfound, hlike⟩ := delegate_eq_ok hdelegate
  obtain rfl := (Registry.function_of_get? hfound).symm.trans hconverts.function
  exact ⟨hid, d, hfound, hlike, hconverts⟩

/-- The plans of an analysis are about the registered specifications, one about each. -/
theorem map_spec_plans (h : p.analyze settings = .ok a) :
    a.plans.map Plan.spec = a.registry.specs := by
  obtain ⟨-, -, hplans⟩ := analyze_eq_ok h
  have hspecs : List.Forall₂ (fun spec (plan : Plan) => spec = plan.spec) a.registry.specs
      a.plans := hplans.imp (fun spec plan hplan => (plan_eq_ok hplan).1.symm)
  exact (List.map_id' a.registry.specs ▸ map_eq_map_of_forall₂ hspecs).symm

end Program

/-! ## The functions that are called -/

namespace Emitter

variable {e : Emitter} {decl : FunctionDecl}

/-- **A function that can be called for a value**: it takes the source, as its receiver or as
its one parameter, and gives the destination and nothing else. -/
structure Callable (e : Emitter) (spec : MappingSpec) (decl : FunctionDecl) : Prop where
  /-- Its name. -/
  name : decl.name = spec.name
  /-- What it takes. -/
  takes : ∃ source, e.Writes (sourceParam spec) source ∧
    if spec.sourceIsReceiver then decl.receiver = some source ∧ decl.params = []
    else decl.receiver = none ∧ decl.params = [source]
  /-- What it gives. -/
  gives : ∃ text, e.Spelled spec.destType text ∧ decl.results = [text]

/-- **The function of a specification that can stand for a value can be called for one.** -/
theorem HeadFor.callable (h : e.HeadFor spec decl) (hlike : spec.isExpressionLike = true) :
    e.Callable spec decl := by
  unfold MappingSpec.isExpressionLike at hlike
  obtain ⟨hlike, hfails⟩ := Bool.and_eq_true_iff.mp hlike
  obtain ⟨hmade, hreturned⟩ := Bool.and_eq_true_iff.mp hlike
  have hfails : spec.errorIsReturned = false := by simpa using hfails
  refine ⟨h.name, ?_, ?_⟩
  · have hreceiver := h.receiver
    have hparams := h.params
    unfold receiverOf at hreceiver
    unfold paramsOf at hparams
    rw [hmade] at hparams
    cases hmethod : spec.sourceIsReceiver with
    | true =>
      rw [hmethod] at hreceiver hparams
      obtain ⟨source, rest, hsource, hrest, hlist⟩ := List.forall₂_cons_left_iff.mp hreceiver
      obtain rfl := List.forall₂_nil_left_iff.mp hrest
      exact ⟨source, hsource, Option.toList_eq_singleton_iff.mp hlist,
        List.forall₂_nil_left_iff.mp hparams⟩
    | false =>
      rw [hmethod] at hreceiver hparams
      obtain ⟨source, rest, hsource, hrest, hlist⟩ := List.forall₂_cons_left_iff.mp hparams
      obtain rfl := List.forall₂_nil_left_iff.mp hrest
      exact ⟨source, hsource, Option.toList_eq_nil_iff.mp (List.forall₂_nil_left_iff.mp hreceiver),
        hlist⟩
  · obtain ⟨text, htext, hresults⟩ := h.results
    rw [hreturned, hfails] at hresults
    exact ⟨text, htext, hresults⟩

end Emitter

namespace Program

variable {p : Program} {settings : Settings} {a : Analysis}

/-- **Delegates are closed and callable.** The registry of an analysis has a specification of a
function exactly if one was read of it. What was read is kept in another order, that of the
names, and the registry answers by position; the positions it knows are those at which the
specifications stand in that order. Whenever a plan converts a value by a function, the
function is one that its specification lists; it has one specification and one plan, by the
name that is called and as a method exactly if it is called as one; what it gives may be put
where it is needed; and wherever the plans are written out, there is in the file of its stem a
function for that plan that takes the source and gives the destination. -/
theorem delegates_closed_and_callable (ha : p.analyze settings = .ok a) :
    (∀ id spec, a.registry.get? id = some spec ↔ ∃ f, p.function? id = some f ∧
      p.isCandidate f = true ∧ p.interpret settings id = .ok (some spec)) ∧
    (∃ specs, p.specsOf settings p.functions.toList = .ok specs ∧ a.registry.specs.Perm specs ∧
      a.registry.specs.Pairwise (fun s s' => s.comesBefore s' = true)) ∧
    (∀ id i, a.registry.positions.get? id = some i ↔
      ∃ spec, a.registry.specs[i]? = some spec ∧ spec.function = id) ∧
    ∀ plan ∈ a.plans, ∀ src dst function name style,
      (src, dst, .delegate function name style) ∈ plan.body.conversions →
        function ∈ plan.spec.delegateMappings ∧
        ∃ own : Plan,
          a.registry.specs.filter (fun spec => spec.function = function) = [own.spec] ∧
          a.plans.filter (fun plan => plan.spec.function = function) = [own] ∧
          own.spec.name = name ∧
          (style = .receiver ↔ own.spec.sourceIsReceiver = true) ∧
          p.types.assignable own.spec.destType dst = .ok true ∧
          ∀ output packageName files,
            (p.emitter output packageName).emit a.plans = .ok files →
            ∃ source decl names names',
              ⟨own.spec.stem ++ "." ++ output.suffix ++ ".go", source⟩ ∈ files ∧
              decl ∈ source.decls ∧
              (p.emitter output packageName).function own names = .ok decl names' ∧
              (p.emitter output packageName).Callable own.spec decl := by
  obtain ⟨hvalid, hcollect, hplans⟩ := analyze_eq_ok ha
  have hnodup := nodup_registry hvalid hcollect
  refine ⟨fun id spec => get?_registry_iff hvalid hcollect, exists_specsOf_of_collect hcollect,
    fun id i => Registry.get?_positions_eq_some_iff hnodup, ?_⟩
  intro plan hplan src dst function name style hmem
  obtain ⟨spec, hspec, hmade⟩ := exists_beside hplans hplan
  obtain ⟨hlisted, d, hfound, hlike, hconverts⟩ := exists_delegate_of_plan hmade hmem
  refine ⟨hlisted, ?_⟩
  -- the delegate is registered, so it has a plan of its own
  obtain ⟨hd, rfl⟩ := (Registry.get?_eq_some_iff hnodup).mp hfound
  have hspecs := map_spec_plans ha
  obtain ⟨own, hown, rfl⟩ := List.mem_map.mp (hspecs ▸ hd)
  have hnodup' : (a.plans.map (fun plan => plan.spec.function)).Nodup := by
    rw [← hspecs, List.map_map] at hnodup
    exact hnodup
  refine ⟨own, filter_eq_singleton hnodup hd, filter_eq_singleton hnodup' hown, hconverts.name,
    ?_, hconverts.assignable, ?_⟩
  · rw [← hconverts.style]
    exact MappingSpec.style_eq_receiver_iff
  · intro output packageName files hfiles
    obtain ⟨source, test, hsource, -, hfile, -⟩ := Emitter.exists_files_of_mem_plans hfiles hown
    obtain ⟨decl, hdecl, names, names', hfunction⟩ :=
      exists_beside_left (Emitter.sourceFile_eq_ok hsource)
        (List.mem_filter.mpr ⟨hown, decide_eq_true rfl⟩)
    exact ⟨source, decl, names, names', hfile, hdecl, hfunction,
      (Emitter.headFor_of_function hfunction).callable hlike⟩

/-! ## A card with a tag -/

/-- A program that maps contacts into cards. The label of a contact becomes the tag of its card
by a mapping function of its own: the first mapping calls `CreateMap(contact, card)` and
`MapWith(ToTag)`, the second makes a tag, calls `CreateMap(label, tag)` and returns it. -/
def tagProgram : Program where
  package := "example.com/cards"
  types := ⟨#[.basic .string,
    TypeTable.plainStruct [("Text", ⟨0⟩)],
    .named "Label" (some "example.com/cards") ⟨1⟩,
    .named "Tag" (some "example.com/cards") ⟨1⟩,
    TypeTable.plainStruct [("Label", ⟨2⟩)],
    .pointer ⟨4⟩,
    TypeTable.plainStruct [("Label", ⟨3⟩)],
    .pointer ⟨6⟩,
    .interface [],
    .signature [] [] false,
    .array ⟨8⟩ 1,
    .pointer ⟨10⟩,
    .pointer ⟨8⟩,
    .slice ⟨8⟩,
    .basic .int,
    .pointer ⟨3⟩]⟩
  functions := #[
    .external ⟨0⟩ "CreateMap" "github.com/paultyng/go-typemapper" ⟨none, [], [], false⟩,
    { id := ⟨1⟩
      name := "ToCard"
      package := "example.com/cards"
      file := some "cards.go"
      signature := ⟨none, [⟨"contact", ⟨5⟩⟩, ⟨"card", ⟨7⟩⟩], [], false⟩
      params := [⟨0⟩, ⟨1⟩]
      blocks := #[⟨⟨0⟩, [⟨2⟩, ⟨3⟩, ⟨5⟩, ⟨7⟩, ⟨8⟩, ⟨10⟩, ⟨11⟩, ⟨12⟩, ⟨14⟩, ⟨15⟩], none⟩]
      values := #[⟨.parameter 0, some ⟨5⟩, some "contact"⟩, ⟨.parameter 1, some ⟨7⟩, some "card"⟩,
        ⟨.makeInterface ⟨0⟩, some ⟨8⟩, none⟩, ⟨.makeInterface ⟨1⟩, some ⟨8⟩, none⟩,
        ⟨.functionRef ⟨0⟩, some ⟨9⟩, none⟩, ⟨.call ⟨4⟩ [⟨2⟩, ⟨3⟩], none, none⟩,
        ⟨.functionRef ⟨2⟩, some ⟨9⟩, none⟩, ⟨.makeInterface ⟨6⟩, some ⟨8⟩, none⟩,
        ⟨.alloc true, some ⟨11⟩, some "varargs"⟩, ⟨.const (.int 0), some ⟨14⟩, none⟩,
        ⟨.indexAddr ⟨8⟩ ⟨9⟩, some ⟨12⟩, none⟩, ⟨.store ⟨10⟩ ⟨7⟩, none, none⟩,
        ⟨.slice ⟨8⟩, some ⟨13⟩, none⟩, ⟨.functionRef ⟨3⟩, some ⟨9⟩, none⟩,
        ⟨.call ⟨13⟩ [⟨12⟩], none, none⟩, ⟨.ret [], none, none⟩]
      synthetic := none },
    { id := ⟨2⟩
      name := "ToTag"
      package := "example.com/cards"
      file := some "cards.go"
      signature := ⟨none, [⟨"label", ⟨2⟩⟩], [⟨3⟩], false⟩
      params := [⟨0⟩]
      blocks := #[⟨⟨0⟩, [⟨1⟩, ⟨2⟩, ⟨3⟩, ⟨4⟩, ⟨6⟩, ⟨7⟩], none⟩]
      values := #[⟨.parameter 0, some ⟨2⟩, some "label"⟩, ⟨.alloc false, some ⟨15⟩, some "tag"⟩,
        ⟨.unOp .deref ⟨1⟩, some ⟨3⟩, none⟩, ⟨.makeInterface ⟨0⟩, some ⟨8⟩, none⟩,
        ⟨.makeInterface ⟨2⟩, some ⟨8⟩, none⟩, ⟨.functionRef ⟨0⟩, some ⟨9⟩, none⟩,
        ⟨.call ⟨5⟩ [⟨3⟩, ⟨4⟩], none, none⟩, ⟨.ret [⟨2⟩], none, none⟩]
      synthetic := none },
    .external ⟨3⟩ "MapWith" "github.com/paultyng/go-typemapper" ⟨none, [], [], false⟩]

/-- What the mapping of contacts asks for. -/
def toCardSpec : MappingSpec where
  function := ⟨1⟩
  name := "ToCard"
  qualifiedName := "cards.ToCard"
  file := some "cards.go"
  sourceType := ⟨5⟩
  destType := ⟨7⟩
  sourceBinding := "contact"
  destBinding := "card"
  sourceIsReceiver := false
  destIsPreconstructed := false
  destIsReturned := false
  errorIsReturned := false
  recognizedPrefixes := .empty
  ignoredDestFields := .empty
  manualFieldOverrides := .empty
  delegateMappings := .ofList [⟨2⟩]

/-- What the mapping of labels asks for. -/
def toTagSpec : MappingSpec where
  function := ⟨2⟩
  name := "ToTag"
  qualifiedName := "cards.ToTag"
  file := some "cards.go"
  sourceType := ⟨2⟩
  destType := ⟨3⟩
  sourceBinding := "label"
  destBinding := "tag"
  sourceIsReceiver := false
  destIsPreconstructed := true
  destIsReturned := true
  errorIsReturned := false
  recognizedPrefixes := .empty
  ignoredDestFields := .empty
  manualFieldOverrides := .empty
  delegateMappings := .empty

/-- What is planned for the program of the tags. -/
def tagPlans : List Plan :=
  [⟨toCardSpec, .record [⟨⟨⟨"Label", ⟨2⟩, 0⟩, ⟨"Label", ⟨3⟩, 0⟩⟩, .delegate ⟨2⟩ "ToTag" .call⟩] []⟩,
    ⟨toTagSpec, .record [⟨⟨⟨"Text", ⟨0⟩, 0⟩, ⟨"Text", ⟨0⟩, 0⟩⟩, .assign⟩] []⟩]

theorem tagProgram_valid : tagProgram.validate = .ok () := by decide +kernel

/-- The body of the mapping of contacts is written from start to end. -/
theorem tagProgram_tidy : tagProgram.functions[1].Tidy where
  increasing := by decide
  placed := by
    show ∀ id ∈ ([⟨2⟩, ⟨3⟩, ⟨5⟩, ⟨7⟩, ⟨8⟩, ⟨10⟩, ⟨11⟩, ⟨12⟩, ⟨14⟩, ⟨15⟩] : List ValueId), _
    simp only [List.forall_mem_cons]
    refine ⟨⟨_, rfl, rfl⟩, ⟨_, rfl, rfl⟩, ⟨_, rfl, rfl⟩, ⟨_, rfl, rfl⟩, ⟨_, rfl, rfl⟩,
      ⟨_, rfl, ⟨_, rfl⟩, _, rfl⟩, ⟨_, rfl, rfl, by decide, _, _, rfl⟩, ⟨_, rfl, rfl⟩,
      ⟨_, rfl, rfl⟩, ⟨_, rfl, rfl⟩, fun _ h => absurd h List.not_mem_nil⟩

/-- The mapping of contacts is read for what it asks for. -/
theorem tagProgram_interpret : tagProgram.interpret {} ⟨1⟩ = .ok (some toCardSpec) := by
  let f : Func := tagProgram.functions[1]
  let index : UseIndex :=
    .ofUses (f.instructions.filterMap (fun id => (f.value? id).map (Use.mk id)))
  let r : Reading := ⟨{}, ⟨tagProgram, f, index⟩, "cards.ToCard"⟩
  have hindex : UseIndex.build f = .ok index := rfl
  have hname : f.qualifiedName tagProgram.types = .ok "cards.ToCard" := by decide +kernel
  have hr : Reading.ofFunction tagProgram {} f = .ok r := by
    rw [Reading.ofFunction_eq hindex, hname]
    rfl
  have hlisted : ∀ id ∈ f.instructions, ∃ kind, f.kind? id = some kind := by
    intro id hid
    obtain ⟨kind, hkind, -⟩ := tagProgram_tidy.placed id hid
    exact ⟨kind, hkind⟩
  -- the two marker calls of the function
  have hbegins : r.classify ⟨4⟩ = .ok (some (.direct .createMap)) := by decide +kernel
  have hwith : r.classify ⟨13⟩ = .ok (some (.direct .mapWith)) := by decide +kernel
  have hstart : r.start [⟨2⟩, ⟨3⟩] = .ok { toCardSpec with delegateMappings := .empty } := by
    decide +kernel
  have hready : r.scope.Ready := by
    obtain ⟨_, hbuilt, hlists⟩ := tagProgram_tidy.exists_index
    obtain rfl := Except.ok.inj (hindex.symm.trans hbuilt)
    exact ⟨tagProgram_tidy, hlists, by decide⟩
  have hrefers : f.PacksEach f.RefersTo [⟨2⟩] ⟨12⟩ :=
    ⟨⟨8⟩, [⟨7⟩], rfl, ⟨⟨true, rfl⟩, .cons ⟨rfl, by decide⟩ .nil⟩, .cons ⟨⟨6⟩, rfl, rfl⟩ .nil⟩
  have hpacked : r.scope.list r.scope.callable ⟨12⟩ = .ok [⟨2⟩] :=
    Scope.list_of_packsEach (g := id) hready hrefers (fun _ _ => Func.RefersTo.aloof)
      (fun _ _ => Scope.callable_of_refersTo hready)
  have hsaid : r.advance (.accumulating { toCardSpec with delegateMappings := .empty })
      (.direct .mapWith) [⟨12⟩] = .ok (.accumulating toCardSpec) :=
    Reading.advance_eq_ok_iff.mpr ⟨.delegate [⟨2⟩], .mapWith hpacked, rfl⟩
  refine interpret_of_run rfl hr ?_ ⟨⟨6⟩, rfl⟩
  rw [Reading.run_eq_runCalls hlisted]
  show r.runCalls .seeking [(⟨4⟩, [⟨2⟩, ⟨3⟩]), (⟨13⟩, [⟨12⟩])] = _
  have hseeking : Reading.Progress.seeking ≠ .declined := fun h => by cases h
  have hbegun : ∀ spec, Reading.Progress.accumulating spec ≠ .declined := fun _ h => by cases h
  rw [Reading.runCalls_cons_of_some hseeking hbegins]
  show (r.start [⟨2⟩, ⟨3⟩] >>= fun spec => .ok (Reading.Progress.accumulating spec)) >>= _ = _
  rw [hstart, ok_bind, ok_bind, Reading.runCalls_cons_of_some (hbegun _) hwith, hsaid]
  rfl

theorem tagProgram_analyze :
    tagProgram.analyze {} = .ok ⟨.ofSorted [toCardSpec, toTagSpec], tagPlans⟩ := by
  have htag : tagProgram.interpret {} ⟨2⟩ = .ok (some toTagSpec) := by decide +kernel
  have hspecs : tagProgram.specsOf {} tagProgram.functions.toList
      = .ok [toCardSpec, toTagSpec] := by
    show (tagProgram.interpret {} ⟨1⟩ >>= fun card => (tagProgram.interpret {} ⟨2⟩ >>= fun tag =>
      .ok (tag.toList ++ [])) >>= fun others => .ok (card.toList ++ others)) = _
    rw [tagProgram_interpret, htag]
    rfl
  exact analyze_of_specs tagProgram_valid hspecs (by decide +kernel) (by decide +kernel)

/-- The mapping of labels is there when the mapping of contacts calls it, at the second place of
the registry. -/
theorem tagProgram_delegate_callable : ∃ a own, tagProgram.analyze {} = .ok a ∧
    a.registry.positions.get? ⟨2⟩ = some 1 ∧ a.registry.get? ⟨2⟩ = some toTagSpec ∧
    a.plans.filter (fun plan => plan.spec.function = ⟨2⟩) = [own] ∧ own.spec.name = "ToTag" ∧
    own.spec.sourceIsReceiver = false ∧
    tagProgram.types.assignable own.spec.destType ⟨3⟩ = .ok true := by
  obtain ⟨hregistry, -, hpositions, hdelegates⟩ :=
    delegates_closed_and_callable tagProgram_analyze
  obtain ⟨-, own, -, hown, hname, hstyle, hassignable, -⟩ :=
    hdelegates _ List.mem_cons_self ⟨2⟩ ⟨3⟩ ⟨2⟩ "ToTag" .call List.mem_cons_self
  have hread : tagProgram.interpret {} ⟨2⟩ = .ok (some toTagSpec) := by decide +kernel
  refine ⟨_, own, tagProgram_analyze, (hpositions ⟨2⟩ 1).mpr ⟨toTagSpec, rfl, rfl⟩,
    (hregistry ⟨2⟩ toTagSpec).mpr ⟨_, rfl, by decide +kernel, hread⟩, hown, hname, ?_, hassignable⟩
  rw [← Bool.not_eq_true]
  exact fun hreceiver => nomatch hstyle.mpr hreceiver

end Program

end Crosswalk
