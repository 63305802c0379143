import Crosswalk.Proofs.Mapping.Alike
import Crosswalk.Proofs.Mapping.Reordering
import Crosswalk.Proofs.Program.Relisting

/-!
# Reading functions that configure their mappings in another order

When the calls that configure a mapping are listed elsewhere in the function, nothing else of it
changes. Each argument is read as it was: its chain goes through the same values, the first store
into a variable is the same, and so is what a walk collects, since the walk goes nowhere from
calls that nothing reads. A closure whose body lists its calls elsewhere still stands for the
same function. So every call turns out to be the same, and says the same
(`Scope.Relists.readsAlike`).

What remains is that the marker calls come in another order. The function is then read for a
specification that asks the same (`Reading.spec?_reorder`).
-/

namespace Crosswalk

/-- **The scope `s'` lists some calls elsewhere**, calls that nothing reads. Other functions of the
program may list theirs elsewhere, too. -/
structure Scope.Relists (moved : List ValueId) (s s' : Scope) : Prop where
  /-- The programs. -/
  program : s.program.Relists s'.program
  /-- The functions. -/
  function : s.function.Relists s'.function
  /-- What is moved about. -/
  moves : UseIndex.Moves moved s.index s'.index
  /-- These are calls. -/
  calls : ∀ u ∈ s.index.uses, u.user ∈ moved → ∃ callee args, u.value.kind = .call callee args
  /-- The program mentions only what exists. -/
  sound : s.program.Sound
  /-- So does the function. -/
  own : s.function.Sound s.program
  /-- The instructions are those of the function. -/
  lists : s.index.Lists s.function

namespace Scope.Relists

variable {moved : List ValueId} {s s' : Scope}

variable (h : s.Relists moved s')
include h

theorem value_eq : s'.value = s.value := by
  funext v
  unfold Scope.value
  rw [h.function.value?_eq]

theorem follow_eq {α : Type} (c : Chain α) : s'.follow c = s.follow c := by
  funext n v
  induction n generalizing v with
  | zero => rfl
  | succ n ih =>
    rw [follow, follow, h.value_eq]
    simp only [ih]

theorem chainBound_eq : s'.chainBound = s.chainBound := by
  unfold chainBound
  rw [h.function.header]

theorem selectorAt_eq : s'.selectorAt = s.selectorAt := by
  funext v base field
  unfold selectorAt
  rw [h.value_eq, h.program.types]

/-- **A closure stands for the same function**, as its body makes the same calls. -/
theorem closureTarget_eq (closure : FunctionId) :
    s'.closureTarget closure = s.closureTarget closure := by
  refine (InStep.eq ?_).symm
  unfold closureTarget
  cases hbody : s.program.function? closure with
  | none =>
    rw [(eq_none_iff_of_optionRel (h.program.functions closure)).mp hbody]
    exact .fail _
  | some body =>
    obtain ⟨body', hbody', hrelists⟩ :=
      exists_right_of_optionRel (h.program.functions closure) hbody
    have hsound := h.sound.functions closure body hbody
    have hsound' := h.program.function_sound hrelists hsound
    have hname : body'.name = body.name := by rw [hrelists.header]
    have hcalls : InStep (fun calls calls' => List.Perm calls' calls) body.calls body'.calls := by
      rw [Func.calls_eq (fun _ => hsound.has_of_listed),
        Func.calls_eq (fun _ => hsound'.has_of_listed)]
      exact .ok hrelists.calls
    rw [hbody']
    refine hcalls.lift.bind (fun calls calls' hperm => ?_)
    rw [hname]
    match calls, calls', hperm with
    | [], calls', hperm =>
      rw [hperm.eq_nil]
      exact .fail _
    | [(callee, args)], calls', hperm =>
      rw [List.perm_singleton.mp hperm]
      dsimp only
      rw [h.program.staticCallee_eq hrelists]
      exact .refl _
    | _ :: _ :: _, [], hperm => cases hperm.length_eq
    | _ :: _ :: _, [_], hperm => cases hperm.length_eq
    | _ :: _ :: _, _ :: _ :: _, hperm =>
      dsimp only
      rw [hperm.length_eq]
      exact .fail _

/-- The first store into a place is the same. -/
theorem storedInto_eq : s'.storedInto = s.storedInto := by
  funext v
  refine h.moves.findSome?_readers (fun u hu hmoved => ?_) v
  obtain ⟨callee, args, hkind⟩ := h.calls u hu hmoved
  rw [hkind]

/-- **A walk collects the same**, whenever it comes by what is moved. -/
theorem storedElements_eq : s'.storedElements = s.storedElements := by
  have hvisits : ∀ index root, ∀ u ∈ UseIndex.visits index root, u ∈ index.uses :=
    fun _ _ u hu => (UseIndex.reached_of_mem_visits hu).mem_uses
  have hfold : ∀ index : UseIndex, (∀ u ∈ index.uses, u ∈ s.index.uses) → ∀ base,
      ((index.visits base).foldl packStep ([base], [])).2
        = (((index.visits base).filter (fun u => decide (u.user ∉ moved))).foldl packStep
            ([base], [])).2 := by
    intro index hindex base
    refine (SameSoFar.foldl_filter_calls (· ∈ moved) (fun u hu => ?_) (fun u hu => ?_) _).stored
    · exact h.calls u (hindex u (hvisits index base u hu))
    · exact h.moves.unread u (hindex u (hvisits index base u hu))
  funext base
  unfold storedElements
  rw [h.value_eq, hfold s'.index (fun _ => h.moves.mem_uses_iff.mp), hfold s.index (fun _ => id),
    h.moves.filter_visits]

/-- **Arguments are read alike.** -/
theorem readsAlike : s.ReadsAlike s' where
  types := h.program.types
  functions id := optionRel_imp (h.program.functions id) (fun f f' hf => by
    rw [hf.header]
    exact ⟨rfl, rfl⟩)
  header := by
    rw [h.function.header]
  sound := h.own
  lists := h.lists
  staticCallee v _ := h.program.staticCallee_eq h.function v
  literalString v _ := by
    unfold literalString
    rw [literalStringTo_eq_follow, literalStringTo_eq_follow, h.follow_eq, h.chainBound_eq]
  selector v _ := by
    have hchain : s'.selectorChain = s.selectorChain := by
      unfold selectorChain
      rw [h.selectorAt_eq]
    unfold selector
    rw [selectorTo_eq_follow, selectorTo_eq_follow, hchain, h.follow_eq, h.chainBound_eq]
  callable v _ := by
    have hchain : s'.callableChain = s.callableChain := by
      unfold callableChain
      simp only [h.closureTarget_eq]
    unfold callable
    rw [callableTo_eq_follow, callableTo_eq_follow, hchain, h.follow_eq, h.chainBound_eq]
  binding v _ := by
    have hchain : s'.bindingChain = s.bindingChain := by
      unfold bindingChain
      rw [h.storedInto_eq, h.program.types, h.function.isMethod]
    unfold binding
    rw [bindingTo_eq_follow, bindingTo_eq_follow, hchain, h.follow_eq, h.chainBound_eq]
  packed v _ := by
    have hchain : s'.packedChain = s.packedChain := by
      unfold packedChain
      rw [h.storedElements_eq]
    unfold packed
    rw [packedTo_eq_follow, packedTo_eq_follow, hchain, h.follow_eq, h.chainBound_eq]

end Scope.Relists

/-! ## The run -/

namespace Reading

variable {r : Reading} {progress : Progress} {calls : List (ValueId × List ValueId)}
  {spec : MappingSpec} {found : Option MappingSpec} {s' : Scope} {f' : Func}
  {moved : List ValueId}

/-- **A mapping comes of a run** when it can be told of every call what it turns out to be, and
the marker calls among them come to the mapping. -/
theorem runCalls_eq_accumulating_iff : r.runCalls progress calls = .ok (.accumulating spec) ↔
    (∀ call ∈ calls, ∃ found, r.classify call.1 = .ok found) ∧
      (calls.filterMap r.mark?).foldlM r.follow progress = .ok (.accumulating spec) := by
  induction calls generalizing progress with
  | nil =>
    have hnil : r.runCalls progress [] = .ok progress := by cases progress <;> rfl
    rw [hnil]
    exact ⟨fun h => ⟨fun _ hcall => absurd hcall List.not_mem_nil, h⟩, And.right⟩
  | cons call calls ih =>
    obtain ⟨callee, args⟩ := call
    by_cases hdeclined : progress = .declined
    · rw [hdeclined, runCalls_declined, foldlM_declined]
      constructor
      · intro h
        cases h
      · intro h
        cases h.2
    cases hclassify : r.classify callee with
    | error fault =>
      have hstops : r.runCalls progress ((callee, args) :: calls) = .error (.fault fault) := by
        rw [runCalls, hclassify]
        · rfl
        · exact hdeclined
      rw [hstops]
      constructor
      · intro h
        cases h
      · intro h
        obtain ⟨found, hfound⟩ := h.1 _ List.mem_cons_self
        cases hclassify.symm.trans hfound
    | ok found =>
      have hfirst : ∃ found, r.classify callee = .ok found := ⟨found, hclassify⟩
      rw [List.forall_mem_cons, and_iff_right hfirst]
      cases found with
      | none =>
        rw [runCalls_cons_of_none hclassify, List.filterMap_cons_none (mark?_of_none hclassify)]
        exact ih
      | some mark =>
        rw [runCalls_cons_of_some hdeclined hclassify,
          List.filterMap_cons_some (mark?_of_some hclassify), List.foldlM_cons]
        show r.advance progress mark args >>= _ = _ ↔ _ ∧ r.advance progress mark args >>= _ = _
        cases r.advance progress mark args with
        | error stop =>
          constructor
          · intro h
            cases h
          · intro h
            cases h.2
        | ok progress => exact ih

/-- **A reading comes to the same** if nothing is listed elsewhere in the function itself. -/
theorem spec?_of_relists (h : r.scope.Relists moved s') (hlists : s'.index.Lists s'.function)
    (hsame : s'.function.instructions = r.scope.function.instructions) :
    { r with scope := s' }.spec? = r.spec? := by
  refine h.readsAlike.spec?_eq hlists ?_
  rw [hsame, h.function.call?_eq]

/-! ## Configuration calls in another order -/

/-- The marker calls among some instructions, each with its arguments. -/
def marksOf (r : Reading) (ids : List ValueId) : List (MarkerCall × List ValueId) :=
  (ids.filterMap r.scope.function.call?).filterMap r.mark?

/-- **Whether the instruction at `id` configures the mapping**: it calls a marker other than the
one that begins a mapping. -/
def configures (r : Reading) (id : ValueId) : Bool :=
  match (r.scope.function.call? id).bind r.mark? with
  | some (.direct m, _) => m ≠ .createMap
  | _ => false

/-- **The function `f'` configures its mapping in another order.** The calls that do may be listed
anywhere after the call that begins the mapping. -/
structure Reorders (r : Reading) (f' : Func) : Prop where
  /-- The same instructions are listed. -/
  relists : r.scope.function.Relists f'
  /-- All that configures nothing is listed as it was. -/
  others : f'.instructions.filter (fun id => !r.configures id)
    = r.scope.function.instructions.filter (fun id => !r.configures id)
  /-- The same call begins the mapping, and the other marker calls come after it. -/
  marks : ∃ args rest rest', r.Opens args rest ∧
    r.marksOf f'.instructions = (.direct .createMap, args) :: rest' ∧ r.Reordered rest rest'
  /-- What configures the mapping gives nothing, or at least nothing that is read. -/
  unread : ∀ id ∈ r.scope.function.instructions, ∀ w, r.scope.function.value? id = some w →
    ∀ o ∈ w.kind.operands, r.configures o = false

namespace Reorders

/-- A configuration call is a call. -/
theorem exists_call_of_configures {id : ValueId} (h : r.configures id = true) :
    ∃ callee args, r.scope.function.kind? id = some (.call callee args) := by
  unfold configures at h
  cases hcall : r.scope.function.call? id with
  | none =>
    rw [hcall] at h
    cases h
  | some call => exact ⟨call.1, call.2, Func.call?_eq_some_iff.mp hcall⟩

/-- **What is moved about are the configuration calls.** -/
theorem moves (h : r.Reorders s'.function) (hlists : r.scope.index.Lists r.scope.function)
    (hlists' : s'.index.Lists s'.function) :
    UseIndex.Moves (r.scope.function.instructions.filter r.configures) r.scope.index s'.index := by
  have hvalues := h.relists.value?_eq
  have hmoved : ∀ id ∈ r.scope.function.instructions,
      decide (id ∉ r.scope.function.instructions.filter r.configures) = !r.configures id := by
    intro id hid
    rw [Bool.eq_iff_iff, decide_eq_true_iff, Bool.not_eq_true', ← Bool.not_eq_true]
    exact not_congr (List.mem_filter.trans (and_iff_right hid))
  refine ⟨?_, ?_, fun u hu v hv => decide_eq_false (fun hread => ?_)⟩
  · rw [hlists.uses_eq, hlists'.uses_eq, hvalues]
    exact h.relists.instructions.filterMap _
  · rw [hlists.filter_uses_eq (fun id => decide (id ∉ _)),
      hlists'.filter_uses_eq (fun id => decide (id ∉ _)), hvalues,
      List.filter_congr hmoved, ← h.others]
    refine congrArg _ (List.filter_congr (fun id hid => hmoved id ?_))
    exact h.relists.instructions.mem_iff.mp hid
  · have hno := h.unread u.user (hlists.mem_instructions hu) u.value (hlists.entries u hu) v hread
    cases hno.symm.trans (List.mem_filter.mp hv).2

theorem scope_relists (s' : Scope) (h : r.Reorders s'.function)
    (hprogram : r.scope.program.Relists s'.program) (hsound : r.scope.program.Sound)
    (hown : r.scope.function.Sound r.scope.program) (hlists : r.scope.index.Lists r.scope.function)
    (hlists' : s'.index.Lists s'.function) :
    r.scope.Relists (r.scope.function.instructions.filter r.configures) s' where
  program := hprogram
  function := h.relists
  moves := h.moves hlists hlists'
  calls u hu hmoved := by
    obtain ⟨callee, args, hkind⟩ := exists_call_of_configures (List.mem_filter.mp hmoved).2
    exact ⟨callee, args, Option.some.inj ((hlists.values hu).symm.trans hkind)⟩
  sound := hsound
  own := hown
  lists := hlists

end Reorders

/-- **A function that configures its mapping in another order is read for a specification that
asks the same.** -/
theorem spec?_reorder (h : r.scope.Relists moved s') (hlists : s'.index.Lists s'.function)
    (hreorders : r.Reorders s'.function) (hspec : r.spec? = .ok found) :
    ∃ spec spec', found = some spec ∧ { r with scope := s' }.spec? = .ok (some spec') ∧
      spec.AsksSame spec' := by
  obtain ⟨args, rest, rest', hopens, hopens', hreordered⟩ := hreorders.marks
  -- the function begins a mapping, and goes on with it to the end
  unfold spec? at hspec
  rw [run_eq_runCalls (fun id hid => h.lists.exists_kind hid)] at hspec
  obtain ⟨progress, hrun, hconclude⟩ := bind_eq_ok_iff.mp hspec
  have hmarks : r.marks.foldlM r.follow .seeking = .ok progress := by
    refine Eq.trans (runCalls_eq_foldlM (fun fault hfault => ?_)).symm hrun
    cases hrun.symm.trans hfault
  rw [hopens, List.foldlM_cons] at hmarks
  obtain ⟨begun, hbegun, hrest⟩ := bind_eq_ok_iff.mp hmarks
  obtain ⟨first, -, heq⟩ := bind_eq_ok_iff.mp hbegun
  obtain rfl := Except.ok.inj heq
  obtain ⟨additions, -, rfl⟩ := foldlM_eq_ok_iff.mp hrest
  obtain ⟨hshown, hfound⟩ := conclude_eq_ok_iff.mp hconclude
  obtain ⟨hclassified, -⟩ := runCalls_eq_accumulating_iff.mp hrun
  obtain ⟨spec', hrest', hsame⟩ := hreordered.foldlM hrest
  -- so it does in the other order, since the same calls turn out to be the same
  have hrun' : { r with scope := s' }.run .seeking s'.function.instructions
      = .ok (.accumulating spec') := by
    rw [run_eq_runCalls (fun id hid => hlists.exists_kind hid)]
    dsimp only
    rw [h.readsAlike.runCalls_eq (fun c hc => ?_)]
    · refine runCalls_eq_accumulating_iff.mpr ⟨fun c hc => ?_, ?_⟩
      · exact hclassified c (h.function.calls.mem_iff.mp hc)
      · have hmarks' : (s'.function.instructions.filterMap s'.function.call?).filterMap r.mark?
            = (.direct .createMap, args) :: rest' := by
          rw [h.function.call?_eq]
          exact hopens'
        rw [hmarks', List.foldlM_cons, hbegun]
        exact hrest'
    · exact h.own.has_of_mem_calls (h.function.calls.mem_iff.mp hc)
  refine ⟨_, spec', hfound, ?_, hsame⟩
  unfold spec?
  dsimp only
  rw [hrun', ok_bind, h.readsAlike.conclude_eq, conclude_eq_ok_iff]
  refine ⟨?_, rfl⟩
  rw [hsame.header]
  exact hshown

end Reading

end Crosswalk
