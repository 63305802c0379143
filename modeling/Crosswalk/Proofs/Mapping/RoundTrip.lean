import Crosswalk.Proofs.Mapping.Reading
import Crosswalk.Proofs.Ordered
import Crosswalk.Proofs.Program.Narrow

/-!
# Reading undoes writing

A mapping function that is written as a front end writes it says, when it is read,
what it was written to say. The run through its body comes down to one through its
calls (`Reading.run_eq_runCalls`). Of these, calls of other functions change
nothing, the one that begins the mapping is met first, and each of the others adds
what its directive asks for.
-/

namespace Crosswalk

variable {src dst : RecordType} {r : Reading} {m : MarkerTable} {spec : MappingSpec}
  {source dest ref a b : ValueId} {args : List ValueId} {d : Directive src dst}
  {own rest : List (ValueId × List ValueId)} {each : List (List (ValueId × List ValueId))}
  {progress : Progress}

/-! ## What directives come to -/

/-- **What is said of a specification bit by bit** comes to all that is listed, in order. -/
theorem MappingSpec.foldl_listed {α : Type} {step : MappingSpec → α → MappingSpec}
    {prefixes ignored : α → List String} {overrides : α → List (String × String)}
    {delegates : α → List FunctionId}
    (hstep : ∀ spec a, step spec a = { spec with
      recognizedPrefixes := spec.recognizedPrefixes.insertAll (prefixes a)
      ignoredDestFields := spec.ignoredDestFields.insertAll (ignored a)
      manualFieldOverrides := spec.manualFieldOverrides.insertEach (overrides a)
      delegateMappings := spec.delegateMappings.insertAll (delegates a) })
    (as : List α) (spec : MappingSpec) :
    as.foldl step spec = { spec with
      recognizedPrefixes := spec.recognizedPrefixes.insertAll (as.flatMap prefixes)
      ignoredDestFields := spec.ignoredDestFields.insertAll (as.flatMap ignored)
      manualFieldOverrides := spec.manualFieldOverrides.insertEach (as.flatMap overrides)
      delegateMappings := spec.delegateMappings.insertAll (as.flatMap delegates) } := by
  induction as generalizing spec with
  | nil => rfl
  | cons a as ih =>
    rw [List.foldl_cons, ih, hstep]
    simp only [List.flatMap_cons, OrderedSet.insertAll_append, OrderedMap.insertEach_append]

/-- **What a directive adds to a specification.** -/
def Directive.apply (d : Directive src dst) (spec : MappingSpec) : MappingSpec :=
  { spec with
    recognizedPrefixes := spec.recognizedPrefixes.insertAll d.prefixes
    ignoredDestFields := spec.ignoredDestFields.insertAll d.ignored
    manualFieldOverrides := spec.manualFieldOverrides.insertEach d.overrides
    delegateMappings := spec.delegateMappings.insertAll d.delegates }

/-- **What directives add one after another** is what all of them list, in order. -/
theorem foldl_apply (ds : List (Directive src dst)) (spec : MappingSpec) :
    ds.foldl (fun spec d => d.apply spec) spec = { spec with
      recognizedPrefixes := spec.recognizedPrefixes.insertAll (ds.flatMap Directive.prefixes)
      ignoredDestFields := spec.ignoredDestFields.insertAll (ds.flatMap Directive.ignored)
      manualFieldOverrides := spec.manualFieldOverrides.insertEach (ds.flatMap Directive.overrides)
      delegateMappings := spec.delegateMappings.insertAll (ds.flatMap Directive.delegates) } :=
  MappingSpec.foldl_listed (fun _ _ => rfl) ds spec

namespace Reading

/-! ## One call -/

/-- A selected field of the destination is read as the field that was selected. -/
theorem destField_of_selects {v : ValueId} {j : Nat} {field : RecordField} (hs : r.scope.Ready)
    (hdest : Build.HasParam r.scope.program r.scope.function dest dst)
    (hpeel : ∃ layers, r.types.peel spec.destType = .ok ⟨layers, dst.shape⟩)
    (hfield : dst.fields[j]? = some field) (h : r.scope.function.Selects dest j v) :
    r.destField spec v = .ok ⟨dst.shape, field⟩ := by
  obtain ⟨layers, hpeel⟩ := hpeel
  unfold destField
  rw [Scope.selector_of_selects hs hdest hfield h]
  show (liftM (r.types.peel spec.destType) >>= fun peeled => _ : Checked MappingError Selector) = _
  rw [hpeel]
  show (if dst.shape ≠ dst.shape then _ else Except.ok _) = _
  rw [if_neg (fun h => h rfl)]

/-- **A call that conveys a directive is read as the directive.** -/
theorem configure_of_conveyedBy (hs : r.scope.Ready)
    (hsource : Build.HasParam r.scope.program r.scope.function source src)
    (hdest : Build.HasParam r.scope.program r.scope.function dest dst)
    (hpeel : ∃ layers, r.types.peel spec.destType = .ok ⟨layers, dst.shape⟩)
    (h : d.ConveyedBy r.scope.function source dest args) :
    r.configure spec d.marker args = .ok (d.apply spec) := by
  cases d with
  | recognizePrefixes prefixes =>
    obtain ⟨packed, rfl, hpacked⟩ := h
    have hlist := Scope.list_of_packsEach (g := fun text => text) hs hpacked
      (fun _ _ hv => hv.aloof) (fun _ _ hv => Scope.literalString_of_spells hv)
    rw [List.map_id'] at hlist
    show (r.argument _ 0 (r.scope.list r.scope.literalString packed) >>= fun prefixes => _) = _
    rw [hlist]
    rfl
  | mapField i j =>
    obtain ⟨fed, field, rfl, hfed, hfield⟩ := h
    show (r.argument _ 0 (r.scope.selector fed) >>= fun source => _) = _
    rw [Scope.selector_of_selects hs hsource (List.getElem?_eq_getElem i.isLt) hfed]
    show (r.destField spec field >>= fun dest => _) = _
    rw [destField_of_selects hs hdest hpeel (List.getElem?_eq_getElem j.isLt) hfield]
    rfl
  | ignoreFields js =>
    obtain ⟨packed, rfl, hpacked⟩ := h
    obtain ⟨i, type, name, hvalue, hr⟩ := hdest
    have hlist := Scope.list_of_packsEach
      (g := fun j : Fin dst.fields.length => (⟨dst.shape, dst.fields[j]⟩ : Selector)) hs hpacked
      (fun _ _ hv => hv.aloof (Func.kind?_of_value? hvalue))
      (fun j _ hv => Scope.selector_of_selects hs ⟨i, type, name, hvalue, hr⟩
        (List.getElem?_eq_getElem j.isLt) hv)
    show (r.argument _ 0 (r.scope.list r.scope.selector packed) >>= fun selectors => _) = _
    rw [hlist]
    have hnames : (js.map (fun j => (⟨dst.shape, dst.fields[j]⟩ : Selector))).map
        (fun s => s.field.name) = js.map (fun j => dst.fields[j].name) := by
      rw [List.map_map]
      rfl
    show Except.ok { spec with ignoredDestFields := spec.ignoredDestFields.insertAll _ } = _
    rw [hnames]
    rfl
  | mapWith functions =>
    obtain ⟨packed, rfl, hpacked⟩ := h
    have hlist := Scope.list_of_packsEach (g := fun id => id) hs hpacked
      (fun _ _ hv => hv.aloof) (fun _ _ hv => Scope.callable_of_refersTo hs hv)
    rw [List.map_id'] at hlist
    show ((r.scope.list r.scope.callable packed).mapCause r.delegateError >>= fun ids => _) = _
    rw [hlist]
    rfl

/-- **A reference to a marker** is classified as the marker. -/
theorem classify_of_marker (hm : m.Declared r.scope.program r.settings) {marker : Marker}
    (href : r.scope.function.kind? ref = some (.functionRef (m.function marker))) :
    r.classify ref = .ok (some (.direct marker)) := by
  obtain ⟨g, hg, hname, hpackage⟩ := hm marker
  unfold classify
  rw [Program.staticCallee_of_functionRef hg href]
  show (r.scope.program.function (m.function marker) >>= fun target => _) = _
  rw [Program.function_eq_ok_iff.mpr hg, ok_bind]
  unfold isMarkerFunction
  rw [hpackage, hname, Marker.ofName?_name]
  rfl

/-- **A reference to a function outside the marker package** is of no interest. -/
theorem classify_of_other {target : FunctionId} {args : List Argument}
    (ha : (Aside.call target args).Sound r.scope.program r.settings)
    (href : r.scope.function.kind? ref = some (.functionRef target)) :
    r.classify ref = .ok none := by
  obtain ⟨g, hg, hpackage⟩ := ha
  unfold classify
  rw [Program.staticCallee_of_functionRef hg href]
  show (r.scope.program.function target >>= fun target => _) = _
  rw [Program.function_eq_ok_iff.mpr hg, ok_bind]
  unfold isMarkerFunction
  rw [hpackage]
  rfl

/-! ## The run through the calls -/

/-- The run through the body, seen as one through its calls. -/
def runCalls (r : Reading) :
    Progress → List (ValueId × List ValueId) → Checked MappingError Progress
  | .declined, _ => return .declined
  | progress, [] => return progress
  | progress, (callee, args) :: rest => do
    match ← r.classify callee with
    | none => r.runCalls progress rest
    | some call => r.runCalls (← r.advance progress call args) rest

theorem runCalls_declined (calls : List (ValueId × List ValueId)) :
    r.runCalls .declined calls = .ok .declined := by
  cases calls <;> rfl

/-- **Only the calls of a body matter.** -/
theorem run_eq_runCalls {ids : List ValueId}
    (h : ∀ id ∈ ids, ∃ kind, r.scope.function.kind? id = some kind) :
    r.run progress ids = r.runCalls progress (ids.filterMap r.scope.function.call?) := by
  induction ids generalizing progress with
  | nil => cases progress <;> rfl
  | cons id ids ih =>
    have hrest := fun i hi => h i (List.mem_cons_of_mem id hi)
    obtain ⟨kind, hkind⟩ := h id List.mem_cons_self
    obtain ⟨value, hvalue, hk⟩ := Func.kind?_eq_some_iff.mp hkind
    by_cases hdeclined : progress = .declined
    · rw [hdeclined, runCalls_declined]
      rfl
    · have hcall : r.scope.function.call? id = value.kind.asCall := by
        unfold Func.call?
        rw [hkind, hk]
        rfl
      rw [List.filterMap_cons, hcall, run]
      · rw [Func.value_eq_ok_iff.mpr hvalue, liftM_ok, ok_bind]
        cases value.kind.asCall with
        | none => exact ih hrest
        | some call =>
          obtain ⟨callee, args⟩ := call
          show _ = r.runCalls progress ((callee, args) :: ids.filterMap r.scope.function.call?)
          rw [runCalls]
          · refine congrArg (liftM (r.classify callee) >>= ·) (funext fun found => ?_)
            cases found with
            | none => exact ih hrest
            | some call =>
              exact congrArg (r.advance progress call args >>= ·) (funext fun _ => ih hrest)
          · exact hdeclined
      · exact hdeclined

/-- A call of no interest is passed over. -/
theorem runCalls_cons_of_none {callee : ValueId} (h : r.classify callee = .ok none) :
    r.runCalls progress ((callee, args) :: rest) = r.runCalls progress rest := by
  by_cases hdeclined : progress = .declined
  · rw [hdeclined, runCalls_declined, runCalls_declined]
  · rw [runCalls, h]
    · rfl
    · exact hdeclined

/-- A call of the marker package does something to the run. -/
theorem runCalls_cons_of_some {callee : ValueId} {call : MarkerCall}
    (hdeclined : progress ≠ .declined) (h : r.classify callee = .ok (some call)) :
    r.runCalls progress ((callee, args) :: rest) =
      r.advance progress call args >>= fun progress => r.runCalls progress rest := by
  rw [runCalls, h]
  · rfl
  · exact hdeclined

/-- Two runs do the same if they do the same with the first call and with the others. -/
theorem runCalls_cons_congr {r' : Reading} {c : ValueId × List ValueId}
    {rest rest' : List (ValueId × List ValueId)} (hclassify : r'.classify c.1 = r.classify c.1)
    (hadvance : ∀ progress found, r'.advance progress found c.2 = r.advance progress found c.2)
    (hrest : ∀ progress, r'.runCalls progress rest' = r.runCalls progress rest) :
    r'.runCalls progress (c :: rest') = r.runCalls progress (c :: rest) := by
  obtain ⟨callee, args⟩ := c
  by_cases hdeclined : progress = .declined
  · rw [hdeclined, runCalls_declined, runCalls_declined]
  · rw [runCalls, runCalls, hclassify]
    · refine congrArg (liftM (r.classify callee) >>= ·) (funext (fun found => ?_))
      cases found with
      | none => exact hrest progress
      | some found =>
        dsimp only
        rw [hadvance]
        exact congrArg (r.advance progress found args >>= ·) (funext hrest)
    · exact hdeclined
    · exact hdeclined

/-- A call of a function outside the marker package is passed over. -/
theorem runCalls_aside {aside : Aside} (ha : aside.Sound r.scope.program r.settings)
    (h : aside.LoweredTo r.scope.function own) :
    r.runCalls progress (own ++ rest) = r.runCalls progress rest := by
  cases aside with
  | call target args =>
    obtain ⟨ref, lowered, rfl, href⟩ := h
    exact runCalls_cons_of_none (classify_of_other ha href)
  | cut =>
    rw [h]
    rfl

theorem runCalls_asides {before : List Aside}
    (hbefore : ∀ a ∈ before, a.Sound r.scope.program r.settings)
    (h : List.Forall₂ (Aside.LoweredTo r.scope.function) before each) :
    r.runCalls progress (each.flatten ++ rest) = r.runCalls progress rest := by
  induction h with
  | nil => rfl
  | cons ha _ ih =>
    rw [List.flatten_cons, List.append_assoc, runCalls_aside (hbefore _ List.mem_cons_self) ha]
    exact ih (fun a ha' => hbefore a (List.mem_cons_of_mem _ ha'))

/-- **The calls of a body add what its directives ask for**, one after another. -/
theorem runCalls_items {items : List (Item src dst)} (hs : r.scope.Ready)
    (hm : m.Declared r.scope.program r.settings)
    (hsource : Build.HasParam r.scope.program r.scope.function source src)
    (hdest : Build.HasParam r.scope.program r.scope.function dest dst)
    (hpeel : ∃ layers, r.types.peel spec.destType = .ok ⟨layers, dst.shape⟩)
    (hitems : ∀ item ∈ items, item.Sound r.scope.program r.settings)
    (h : List.Forall₂ (Item.LoweredTo m r.scope.function source dest) items each) :
    r.runCalls (.accumulating spec) each.flatten = .ok (.accumulating
      ((items.filterMap Item.directive?).foldl (fun spec d => d.apply spec) spec)) := by
  induction h generalizing spec with
  | nil => rfl
  | @cons item own items each hitem _ ih =>
    have hrest := fun i hi => hitems i (List.mem_cons_of_mem item hi)
    have hsound := hitems item List.mem_cons_self
    cases item with
    | configure d =>
      obtain ⟨ref, args, rfl, href, hargs⟩ := hitem
      show r.runCalls (.accumulating spec) ((ref, args) :: each.flatten) = _
      rw [runCalls, classify_of_marker hm href]
      · show ((r.configure spec d.marker args >>= fun spec => Except.ok (.accumulating spec))
          >>= fun progress => r.runCalls progress each.flatten) = _
        rw [configure_of_conveyedBy hs hsource hdest hpeel hargs]
        exact ih hpeel hrest
      · exact nofun
    | aside a =>
      rw [List.flatten_cons, runCalls_aside hsound hitem]
      exact ih hpeel hrest

/-! ## The beginning and the end -/

/-- **The specification that a mapping begins with**, for a function that gives nothing
back. -/
def initial (r : Reading) (sourceParam destParam : Param) : MappingSpec where
  function := r.scope.function.id
  name := r.scope.function.name
  qualifiedName := r.qualifiedName
  file := r.scope.function.file
  sourceType := sourceParam.type
  destType := destParam.type
  sourceBinding := sourceParam.name
  destBinding := destParam.name
  sourceIsReceiver := false
  destIsPreconstructed := false
  destIsReturned := false
  errorIsReturned := false
  recognizedPrefixes := .empty
  ignoredDestFields := .empty
  manualFieldOverrides := .empty
  delegateMappings := .empty

variable {sourceParam destParam : Param}

/-- **Two parameters begin a mapping** of the one into the other. -/
theorem start_of_params (hs : r.scope.Ready) (hmethod : r.scope.function.isMethod = false)
    (hresults : r.scope.function.signature.results = [])
    (hsource : r.scope.function.value? source
      = some ⟨.parameter 0, some sourceParam.type, some sourceParam.name⟩)
    (hdest : r.scope.function.value? dest
      = some ⟨.parameter 1, some destParam.type, some destParam.name⟩)
    (ha : r.scope.function.kind? a = some (.makeInterface source))
    (hb : r.scope.function.kind? b = some (.makeInterface dest)) :
    r.start [a, b] = .ok (r.initial sourceParam destParam) := by
  have hshape : r.resultShape = .ok (false, false) := by
    unfold resultShape
    rw [hresults]
    rfl
  show (r.argument .createMap 0 (r.scope.binding a) >>= fun source => _) = _
  rw [Scope.binding_of_param hs hmethod ha hsource]
  show (r.argument .createMap 1 (r.scope.binding b) >>= fun dest => _) = _
  rw [Scope.binding_of_param hs hmethod hb hdest]
  show (r.resultShape >>= fun shape => _) = _
  rw [hshape]
  unfold initial
  rw [← hmethod]
  rfl

/-- A destination behind a pointer may be given by the caller. -/
theorem finish_of_pointer {elem : TypeId}
    (hdest : r.types.kind? spec.destType = some (.pointer elem)) : r.finish spec = .ok spec := by
  have hreference : r.types.isReferenceShaped spec.destType = .ok true := by
    have hnames : r.types.peelNames spec.destType = .ok ⟨[], spec.destType⟩ := by
      unfold TypeTable.peelNames
      rw [TypeTable.peelNamesUpTo, TypeTable.kind_of_kind? hdest]
      rfl
    unfold TypeTable.isReferenceShaped
    rw [hnames, ok_bind, TypeTable.kind_of_kind? hdest]
    rfl
  unfold finish
  cases hpre : spec.destIsPreconstructed with
  | true => rfl
  | false =>
    show (liftM (r.types.isReferenceShaped spec.destType) >>= fun known => _ :
      Checked MappingError MappingSpec) = _
    rw [hreference]
    rfl

end Reading

/-! ## The whole function -/

section

variable {p p' : Program} {f f' : Func} {id : FunctionId} {settings : Settings}
  {before : List Aside} {items : List (Item src dst)} {sourceParam destParam : Param}
  {sourceElem destElem : TypeId}

/-- **What is read of a function** is what the run through it comes to, if the destination
is behind a pointer. -/
theorem Program.interpret_of_run (hf : p.function? id = some f)
    (hr : Reading.ofFunction p settings f = .ok r)
    (hrun : r.run .seeking r.scope.function.instructions = .ok (.accumulating spec))
    (hdest : ∃ elem, r.types.kind? spec.destType = some (.pointer elem)) :
    p.interpret settings id = .ok (some spec) := by
  obtain ⟨elem, hdest⟩ := hdest
  rw [Program.interpret_eq_spec? hf hr]
  show (r.run .seeking r.scope.function.instructions >>= fun progress => r.conclude progress) = _
  rw [hrun]
  show (r.finish spec >>= fun spec => Except.ok (some spec)) = _
  rw [Reading.finish_of_pointer hdest]
  rfl

namespace Build.Finished

theorem signature_eq (h : Build.Finished m id before items p f p' f') :
    f'.signature = f.signature := by
  rw [h.header]

/-- **A program only gains** by a mapping function that is finished in it. -/
theorem extends_program (h : Build.Finished m id before items p f p' f')
    (hf : p.function? id = some f) (hdeclared : Build.Declared f) : p.Extends p' := by
  refine ⟨h.keeps.types, fun id' g hg => ?_⟩
  by_cases heq : id' = id
  · subst heq
    obtain rfl := Option.some.inj (hf.symm.trans hg)
    refine ⟨f', h.function, by rw [h.header], h.signature_eq, fun v w hw => ?_, ?_⟩
    · have hlt := Func.index_lt_of_value? hw
      rw [hdeclared.values] at hlt
      exact absurd hlt (Nat.not_lt_zero _)
    · rw [hdeclared.blocks]
      exact Nat.zero_le _
  · exact ⟨g, (h.others id' heq).trans hg, .refl g⟩

/-- **A finished mapping function can be read.** -/
theorem exists_reading (h : Build.Finished m id before items p f p' f')
    (hsig : f.signature = ⟨none, [sourceParam, destParam], [], false⟩) (settings : Settings) :
    ∃ r, Reading.ofFunction p' settings f' = .ok r ∧ r.settings = settings ∧
      r.scope.program = p' ∧ r.scope.function = f' ∧ r.scope.Ready := by
  obtain ⟨index, hindex, hlists⟩ := h.tidy.exists_index
  obtain ⟨name, hname⟩ : ∃ name, f'.qualifiedName p'.types = .ok name := by
    unfold Func.qualifiedName
    rw [h.signature_eq, hsig]
    exact ⟨_, rfl⟩
  have hdest := h.params 1 destParam (by rw [hsig]; rfl)
  refine ⟨⟨settings, ⟨p', f', index⟩, name⟩, ?_, rfl, rfl, rfl, h.tidy, hlists,
    Func.index_lt_of_value? hdest⟩
  rw [Reading.ofFunction_eq hindex, hname]
  rfl

/-- **The run through a finished mapping function** collects what was asked for. -/
theorem run_eq (h : Build.Finished m id before items p f r.scope.program r.scope.function)
    (hsig : f.signature = ⟨none, [sourceParam, destParam], [], false⟩) (hready : r.scope.Ready)
    (hsource : RecordType.resolve p.types sourceParam.type
      = .ok (some { src with type := sourceParam.type }))
    (hdest : RecordType.resolve p.types destParam.type
      = .ok (some { dst with type := destParam.type }))
    (hm : m.Declared p r.settings) (hbefore : ∀ a ∈ before, a.Sound p r.settings)
    (hitems : ∀ item ∈ items, item.Sound p r.settings) :
    r.run .seeking r.scope.function.instructions = .ok (.accumulating
      ((items.filterMap Item.directive?).foldl (fun spec d => d.apply spec)
        (r.initial sourceParam destParam))) := by
  -- the parameters still point to records, and everything mentioned is still declared
  have hsource' := RecordType.resolve_grow hsource h.keeps.types
  have hdest' := RecordType.resolve_grow hdest h.keeps.types
  have hm' := hm.keeps h.keeps
  have hbefore' := fun a ha => (hbefore a ha).keeps h.keeps
  have hitems' := fun item hitem => (hitems item hitem).keeps h.keeps
  have hsourceValue := h.params 0 sourceParam (by rw [hsig]; rfl)
  have hdestValue := h.params 1 destParam (by rw [hsig]; rfl)
  have hsig' := h.signature_eq.trans hsig
  have hlisted : ∀ id ∈ r.scope.function.instructions,
      ∃ kind, r.scope.function.kind? id = some kind := by
    intro id hid
    obtain ⟨kind, hkind, -⟩ := h.tidy.placed id hid
    exact ⟨kind, hkind⟩
  obtain ⟨asides, ref, a, b, own, hcalls, hasides, href, ha, hb, hown⟩ := h.calls
  have hmethod : r.scope.function.isMethod = false := by
    unfold Func.isMethod
    rw [hsig']
    rfl
  have hstart : r.start [a, b] = .ok (r.initial sourceParam destParam) :=
    Reading.start_of_params hready hmethod (by rw [hsig']) hsourceValue hdestValue ha hb
  obtain ⟨layers, hpeel⟩ := RecordType.peel_of_resolve hdest'
  calc r.run .seeking r.scope.function.instructions
      = r.runCalls .seeking (r.scope.function.instructions.filterMap r.scope.function.call?) :=
        Reading.run_eq_runCalls hlisted
    _ = r.runCalls .seeking (asides.flatten ++ ((ref, [a, b]) :: own.flatten)) := by rw [hcalls]
    _ = r.runCalls .seeking ((ref, [a, b]) :: own.flatten) :=
        Reading.runCalls_asides hbefore' hasides
    _ = r.runCalls (.accumulating (r.initial sourceParam destParam)) own.flatten := by
        rw [Reading.runCalls, Reading.classify_of_marker hm' href]
        · show ((r.start [a, b] >>= fun spec => Except.ok (.accumulating spec))
            >>= fun progress => r.runCalls progress own.flatten) = _
          rw [hstart]
          rfl
        · exact nofun
    _ = _ := Reading.runCalls_items hready hm' ⟨0, _, _, hsourceValue, hsource'⟩
        ⟨1, _, _, hdestValue, hdest'⟩ ⟨layers, hpeel⟩ hitems' hown

/-- **A finished mapping function is read as what was asked for.** -/
theorem exists_interpret_eq (h : Build.Finished m id before items p f p' f')
    (hsig : f.signature = ⟨none, [sourceParam, destParam], [], false⟩)
    (hsource : RecordType.resolve p.types sourceParam.type
      = .ok (some { src with type := sourceParam.type }))
    (hdest : RecordType.resolve p.types destParam.type
      = .ok (some { dst with type := destParam.type }))
    (hpointer : p.types.kind? destParam.type = some (.pointer destElem))
    (hm : m.Declared p settings) (hbefore : ∀ a ∈ before, a.Sound p settings)
    (hitems : ∀ item ∈ items, item.Sound p settings) :
    ∃ r : Reading, p'.interpret settings id = .ok (some
      ((items.filterMap Item.directive?).foldl (fun spec d => d.apply spec)
        (r.initial sourceParam destParam))) := by
  obtain ⟨r, hread, rfl, rfl, rfl, hready⟩ := h.exists_reading hsig settings
  have hrun := h.run_eq hsig hready hsource hdest hm hbefore hitems
  refine ⟨r, Program.interpret_of_run h.function hread hrun ⟨destElem, ?_⟩⟩
  rw [foldl_apply]
  exact h.keeps.types _ _ hpointer

end Build.Finished

/-- The functions that directives delegate to are declared. -/
theorem isSome_function?_of_delegate (hitems : ∀ item ∈ items, item.Sound p settings)
    {target : FunctionId}
    (htarget : target ∈ (items.filterMap Item.directive?).flatMap Directive.delegates) :
    (p.function? target).isSome := by
  obtain ⟨d, hd, htarget⟩ := List.mem_flatMap.mp htarget
  obtain ⟨item, hitem, hd⟩ := List.mem_filterMap.mp hd
  cases item with
  | aside a => cases hd
  | configure d' =>
    obtain rfl := Option.some.inj hd
    have hsound := hitems _ hitem
    cases d' with
    | mapWith functions =>
      obtain ⟨g, hg⟩ := hsound target htarget
      exact Option.isSome_of_mem hg
    | _ => cases htarget

/-- **What a specification mentions is at positions of 32 bits.** -/
structure MappingSpec.Narrow (spec : MappingSpec) : Prop where
  /-- The type it maps from. -/
  source : spec.sourceType.Fits
  /-- The type it maps to. -/
  dest : spec.destType.Fits
  /-- The functions that map nested values. -/
  delegates : ∀ target ∈ spec.delegateMappings.items, target.Fits

/-- **Reading undoes writing.** Take a function that is declared with two parameters, a
pointer to a record and a pointer to another, and any steps: directives, calls of functions
outside the marker package, and cuts into blocks, where the directives come after the mapping
is begun. Then its body can be written, and the function is read as a mapping of its first
parameter into its second that asks for just what the directives ask for. What is listed is
listed at its first occurrence, and a field is fed from the field that was named for it
last. If 32 bits can count the tables of the program that is left behind, then they could all
along, and all positions are of that width. -/
theorem interpret_undoes_mappingBody (before : List Aside) (items : List (Item src dst))
    (hf : p.function? id = some f) (hdeclared : Build.Declared f)
    (hsig : f.signature = ⟨none, [sourceParam, destParam], [], false⟩)
    (hsource : p.types.kind? sourceParam.type = some (.pointer sourceElem))
    (hdest : p.types.kind? destParam.type = some (.pointer destElem))
    (hsrc : RecordType.resolve p.types sourceElem = .ok (some src))
    (hdst : RecordType.resolve p.types destElem = .ok (some dst))
    (hm : m.Declared p settings) (hbefore : ∀ a ∈ before, a.Sound p settings)
    (hitems : ∀ item ∈ items, item.Sound p settings) :
    ∃ p' spec, Build.mappingBody m id before items p = .ok ((), p') ∧
      p.types.GrowsTo p'.types ∧ p'.interpret settings id = .ok (some spec) ∧
      spec.sourceType = sourceParam.type ∧ spec.destType = destParam.type ∧
      spec.sourceBinding = sourceParam.name ∧ spec.destBinding = destParam.name ∧
      spec.recognizedPrefixes.items
        = ((items.filterMap Item.directive?).flatMap Directive.prefixes).eraseDups ∧
      spec.ignoredDestFields.items
        = ((items.filterMap Item.directive?).flatMap Directive.ignored).eraseDups ∧
      spec.delegateMappings.items
        = ((items.filterMap Item.directive?).flatMap Directive.delegates).eraseDups ∧
      spec.manualFieldOverrides
        = .ofList ((items.filterMap Item.directive?).flatMap Directive.overrides) ∧
      spec.manualFieldOverrides.keys
        = (((items.filterMap Item.directive?).flatMap Directive.overrides).map Prod.fst).eraseDups ∧
      (∀ name, spec.manualFieldOverrides.get? name
        = (((items.filterMap Item.directive?).flatMap Directive.overrides).reverse.find?
          (fun o => o.1 = name)).map Prod.snd) ∧
      (p'.Narrow → p.Narrow ∧ id.Fits ∧ spec.Narrow ∧
        ∃ f', p'.function? id = some f' ∧ ∀ v ∈ f'.instructions, v.Fits) := by
  have hsource' := RecordType.resolve_of_pointer hsrc hsource
  have hdest' := RecordType.resolve_of_pointer hdst hdest
  have hparams : f.signature.allParams = [sourceParam, destParam] := by
    rw [hsig]
    rfl
  obtain ⟨_, p', hbuild, f', hfinished⟩ :=
    Build.runs_mappingBody hf hdeclared hparams hsource' hdest' hm hbefore hitems
  obtain ⟨r, hinterpret⟩ :=
    hfinished.exists_interpret_eq hsig hsource' hdest' hdest hm hbefore hitems
  rw [foldl_apply] at hinterpret
  have hdelegates : ((OrderedSet.empty : OrderedSet FunctionId).insertAll
      ((items.filterMap Item.directive?).flatMap Directive.delegates)).items
        = ((items.filterMap Item.directive?).flatMap Directive.delegates).eraseDups :=
    OrderedSet.items_ofList _
  refine ⟨p', _, hbuild, hfinished.keeps.types, hinterpret, rfl, rfl, rfl, rfl, ?_, ?_, hdelegates,
    rfl, ?_, ?_, fun hnarrow => ?_⟩
  · exact OrderedSet.items_ofList _
  · exact OrderedSet.items_ofList _
  · exact OrderedMap.keys_ofList _
  · exact OrderedMap.get?_ofList _
  · -- whatever is mentioned was there before, or is in the body that was written
    have hp := (hfinished.extends_program hf hdeclared).narrow hnarrow
    refine ⟨hp, hp.fits_function (Option.isSome_of_mem hf), ⟨?_, ?_, fun target htarget => ?_⟩,
      f', hfinished.function, fun v hv => ?_⟩
    · exact hp.fits_type (TypeTable.has_of_kind? hsource)
    · exact hp.fits_type (TypeTable.has_of_kind? hdest)
    · refine hp.fits_function (isSome_function?_of_delegate hitems (List.mem_eraseDups.mp ?_))
      rw [← hdelegates]
      exact htarget
    · obtain ⟨kind, hkind, -⟩ := hfinished.tidy.placed v hv
      have hwritten : p'.kind? id v = some kind :=
        (Program.kind?_of_function? hfinished.function).trans hkind
      exact hnarrow.fits_value (Option.isSome_of_mem hwritten)

end

/-! ## One mapping function -/

/-- The functions of the marker package, declared first. -/
def accountMarkers : MarkerTable where
  function
    | .createMap => ⟨0⟩
    | .recognizePrefixes => ⟨1⟩
    | .mapField => ⟨2⟩
    | .ignoreFields => ⟨3⟩
    | .mapWith => ⟨4⟩
  any := ⟨6⟩
  string := ⟨0⟩

/-- The mapping of accounts into users, as it is declared. -/
def toUser : Func :=
  .external ⟨6⟩ "ToUser" "example.com/accounts" ⟨none, [⟨"a", ⟨3⟩⟩, ⟨"u", ⟨5⟩⟩], [], false⟩

/-- A program that declares it. -/
def accountProgram : Program where
  package := "example.com/accounts"
  types := ⟨#[.basic .string,
    TypeTable.plainStruct [("Login", ⟨0⟩), ("Mail", ⟨0⟩)],
    .named "Account" (some "example.com/accounts") ⟨1⟩,
    .pointer ⟨2⟩,
    TypeTable.plainStruct [("Name", ⟨0⟩), ("Mail", ⟨0⟩), ("Seen", ⟨0⟩)],
    .pointer ⟨4⟩,
    .interface []]⟩
  functions := #[
    .external ⟨0⟩ "CreateMap" "github.com/paultyng/go-typemapper" ⟨none, [], [], false⟩,
    .external ⟨1⟩ "RecognizePrefixes" "github.com/paultyng/go-typemapper" ⟨none, [], [], false⟩,
    .external ⟨2⟩ "MapField" "github.com/paultyng/go-typemapper" ⟨none, [], [], false⟩,
    .external ⟨3⟩ "IgnoreFields" "github.com/paultyng/go-typemapper" ⟨none, [], [], false⟩,
    .external ⟨4⟩ "MapWith" "github.com/paultyng/go-typemapper" ⟨none, [], [], false⟩,
    .external ⟨5⟩ "Println" "fmt" ⟨none, [], [], false⟩,
    toUser]

/-- The record of an account. -/
def accountRecord : RecordType := ⟨⟨2⟩, ⟨1⟩, [⟨"Login", ⟨0⟩, 0⟩, ⟨"Mail", ⟨0⟩, 1⟩]⟩
/-- The record of a user. -/
def userRecord : RecordType := ⟨⟨4⟩, ⟨4⟩, [⟨"Name", ⟨0⟩, 0⟩, ⟨"Mail", ⟨0⟩, 1⟩, ⟨"Seen", ⟨0⟩, 2⟩]⟩

/-- How accounts are mapped: directives, a cut, and a call of another function that is given a
pack of its own. -/
def accountItems : List (Item accountRecord userRecord) :=
  [.configure (.recognizePrefixes ["Get", "Set"]), .aside .cut,
    .configure (.mapField ⟨0, by decide⟩ ⟨0, by decide⟩),
    .aside (.call ⟨5⟩ [.plain ⟨0⟩, .packed ⟨6⟩ [⟨1⟩, ⟨8⟩]]),
    .configure (.ignoreFields [⟨2, by decide⟩]), .configure (.mapWith [⟨6⟩]),
    .configure (.recognizePrefixes ["Get", "Is"])]

/-- The mapping of accounts into users is read as it was written. -/
theorem accountProgram_interpreted : ∃ p' spec,
    Build.mappingBody accountMarkers ⟨6⟩ [.call ⟨5⟩ []] accountItems accountProgram
      = .ok ((), p') ∧
    p'.interpret {} ⟨6⟩ = .ok (some spec) ∧ spec.sourceType = ⟨3⟩ ∧ spec.destType = ⟨5⟩ ∧
    spec.sourceBinding = "a" ∧ spec.destBinding = "u" ∧
    spec.recognizedPrefixes.items = ["Get", "Set", "Is"] ∧
    spec.ignoredDestFields.items = ["Seen"] ∧ spec.delegateMappings.items = [⟨6⟩] ∧
    spec.manualFieldOverrides.get? "Name" = some "Login" ∧
    p'.Narrow ∧ spec.Narrow := by
  have hmarkers : accountMarkers.Declared accountProgram {} := by
    intro marker
    cases marker <;> exact ⟨_, rfl, rfl, by decide⟩
  have hasides : ∀ a ∈ [Aside.call ⟨5⟩ []], a.Sound accountProgram {} := by
    intro a ha
    rw [List.mem_singleton.mp ha]
    exact ⟨_, rfl, by decide⟩
  have hitems : ∀ item ∈ accountItems, item.Sound accountProgram {} := by
    simp only [accountItems, List.forall_mem_cons]
    refine ⟨trivial, trivial, trivial, ⟨_, rfl, by decide⟩, trivial, ?_, trivial, nofun⟩
    intro id hid
    rw [List.mem_singleton.mp hid]
    exact ⟨toUser, rfl⟩
  have hf : accountProgram.function? ⟨6⟩ = some toUser := rfl
  have hsig : toUser.signature = ⟨none, [⟨"a", ⟨3⟩⟩, ⟨"u", ⟨5⟩⟩], [], false⟩ := rfl
  obtain ⟨p', spec, hbuild, -, hspec, hsource, hdest, hsourceName, hdestName, hprefixes, hignored,
    hdelegates, -, -, hoverrides, hnarrow⟩ := interpret_undoes_mappingBody [.call ⟨5⟩ []]
      accountItems hf ⟨rfl, rfl, rfl⟩ hsig rfl rfl rfl rfl hmarkers hasides hitems
  have hbuilt : ∀ built ∈ (Build.mappingBody accountMarkers ⟨6⟩ [.call ⟨5⟩ []] accountItems
      accountProgram).toOption, built.2.Narrow := by
    decide +kernel
  have hp' : p'.Narrow := hbuilt ((), p') (by rw [hbuild]; rfl)
  refine ⟨p', spec, hbuild, hspec, hsource, hdest, hsourceName, hdestName, hprefixes.trans ?_,
    hignored.trans ?_, hdelegates.trans ?_, (hoverrides "Name").trans ?_, hp', (hnarrow hp').2.2.1⟩
  · decide
  · decide
  · decide
  · decide

end Crosswalk
