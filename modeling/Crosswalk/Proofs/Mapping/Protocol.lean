import Crosswalk.Proofs.Mapping.Calls
import Crosswalk.Proofs.Mapping.RoundTrip
import Crosswalk.Proofs.Plan.Accounting

/-!
# The protocol of marker calls

Of the calls in a function only those of the marker package matter (`Reading.marks`), and of
these the first decides whether the function is a mapping function at all. If it is, the calls
have to follow a protocol: the first one begins the mapping, and every other says something
of it. The first call that does not decides for the whole function, and the destination is
looked at last.

The protocol is stated without the run that enforces it (`Reading.Accepts`,
`Reading.Rejects`), and the run is proved to enforce it by induction on the marker calls.
-/

namespace Crosswalk

namespace Reading

variable {r : Reading} {spec spec' first : MappingSpec} {progress : Progress}
  {args : List ValueId} {calls : List (ValueId × List ValueId)}
  {rest : List (MarkerCall × List ValueId)} {e : MappingError}

/-! ## The marker calls of a function -/

/-- The call, if it is one of the marker package. -/
def mark? (r : Reading) (call : ValueId × List ValueId) : Option (MarkerCall × List ValueId) :=
  match r.classify call.1 with
  | .ok (some mark) => some (mark, call.2)
  | _ => none

theorem mark?_of_none {call : ValueId × List ValueId} (h : r.classify call.1 = .ok none) :
    r.mark? call = none := by
  unfold mark?
  rw [h]

theorem mark?_of_some {call : ValueId × List ValueId} {mark : MarkerCall}
    (h : r.classify call.1 = .ok (some mark)) : r.mark? call = some (mark, call.2) := by
  unfold mark?
  rw [h]

/-- **The marker calls of the function**, in the order in which its blocks list them, each with
its arguments. -/
def marks (r : Reading) : List (MarkerCall × List ValueId) :=
  (r.scope.function.instructions.filterMap r.scope.function.call?).filterMap r.mark?

/-- The first marker call begins a mapping with these arguments, and others follow. -/
def Opens (r : Reading) (args : List ValueId) (rest : List (MarkerCall × List ValueId)) : Prop :=
  r.marks = (.direct .createMap, args) :: rest

/-! ## The other calls -/

/-- What a marker call does to the run. -/
def follow (r : Reading) (progress : Progress) (mark : MarkerCall × List ValueId) :
    Checked MappingError Progress :=
  r.advance progress mark.1 mark.2

theorem foldlM_declined : rest.foldlM r.follow .declined = .ok .declined := by
  induction rest with
  | nil => rfl
  | cons mark rest ih => exact ih

/-- **Only the marker calls of a function matter**, unless it cannot be told which they
are. -/
theorem runCalls_eq_foldlM (hno : ∀ fault, r.runCalls progress calls ≠ .error (.fault fault)) :
    r.runCalls progress calls = (calls.filterMap r.mark?).foldlM r.follow progress := by
  induction calls generalizing progress with
  | nil => cases progress <;> rfl
  | cons call calls ih =>
    obtain ⟨callee, args⟩ := call
    by_cases hdeclined : progress = .declined
    · rw [hdeclined, runCalls_declined, foldlM_declined]
    cases hclassify : r.classify callee with
    | error fault =>
      refine absurd ?_ (hno fault)
      rw [runCalls, hclassify]
      · rfl
      · exact hdeclined
    | ok found =>
      cases found with
      | none =>
        rw [runCalls_cons_of_none hclassify] at hno ⊢
        rw [List.filterMap_cons_none (mark?_of_none hclassify)]
        exact ih hno
      | some call =>
        rw [runCalls_cons_of_some hdeclined hclassify] at hno ⊢
        rw [List.filterMap_cons_some (mark?_of_some hclassify), List.foldlM_cons]
        show _ = r.advance progress call args >>= _
        cases hadvance : r.advance progress call args with
        | error stop => rfl
        | ok progress' =>
          rw [hadvance] at hno
          exact ih hno

/-- Additions leave alone what a mapping began with. -/
theorem foldl_apply_eq (additions : List Addition) (spec : MappingSpec) :
    additions.foldl Addition.apply spec = { spec with
      recognizedPrefixes := (additions.foldl Addition.apply spec).recognizedPrefixes
      ignoredDestFields := (additions.foldl Addition.apply spec).ignoredDestFields
      manualFieldOverrides := (additions.foldl Addition.apply spec).manualFieldOverrides
      delegateMappings := (additions.foldl Addition.apply spec).delegateMappings } := by
  induction additions generalizing spec with
  | nil => rfl
  | cons addition additions ih =>
    rw [List.foldl_cons, ih]
    cases addition <;> rfl

theorem destType_apply (addition : Addition) (spec : MappingSpec) :
    (addition.apply spec).destType = spec.destType := by
  cases addition <;> rfl

/-- **A mapping that has begun goes on to its end** when every call says something, and comes
to all of it in order. -/
theorem foldlM_eq_ok_iff : rest.foldlM r.follow (.accumulating spec) = .ok progress ↔
    ∃ additions, List.Forall₂ (r.Says spec.destType) rest additions ∧
      progress = .accumulating (additions.foldl Addition.apply spec) := by
  induction rest generalizing spec with
  | nil =>
    constructor
    · intro h
      exact ⟨[], .nil, (Except.ok.inj h).symm⟩
    · rintro ⟨_, ⟨⟩, rfl⟩
      rfl
  | cons mark rest ih =>
    rw [List.foldlM_cons, bind_eq_ok_iff]
    constructor
    · rintro ⟨_, hmark, hrest⟩
      obtain ⟨addition, hsaid, rfl⟩ := advance_eq_ok_iff.mp hmark
      obtain ⟨additions, hadditions, rfl⟩ := ih.mp hrest
      rw [destType_apply] at hadditions
      exact ⟨addition :: additions, .cons hsaid hadditions, rfl⟩
    · rintro ⟨_, ⟨⟩ | ⟨hsaid, hadditions⟩, rfl⟩
      refine ⟨_, advance_eq_ok_iff.mpr ⟨_, hsaid, rfl⟩, ih.mpr ⟨_, ?_, rfl⟩⟩
      rw [destType_apply]
      exact hadditions

/-- **The first call that is refused decides.** -/
theorem foldlM_eq_cause_iff : rest.foldlM r.follow (.accumulating spec) = .error (.cause e) ↔
    ∃ before mark after additions, rest = before ++ mark :: after ∧
      List.Forall₂ (r.Says spec.destType) before additions ∧ r.Refuses spec.destType mark e := by
  induction rest generalizing spec with
  | nil => exact ⟨nofun, fun ⟨_, _, _, _, h, _⟩ => by simp at h⟩
  | cons mark rest ih =>
    rw [List.foldlM_cons, bind_eq_error_iff]
    constructor
    · rintro (h | ⟨_, hmark, hrest⟩)
      · exact ⟨[], mark, rest, [], rfl, .nil, advance_eq_cause_iff.mp h⟩
      · obtain ⟨addition, hsaid, rfl⟩ := advance_eq_ok_iff.mp hmark
        obtain ⟨before, refused, after, additions, rfl, hbefore, hrefuses⟩ := ih.mp hrest
        rw [destType_apply] at hbefore hrefuses
        exact ⟨mark :: before, refused, after, addition :: additions, rfl, .cons hsaid hbefore,
          hrefuses⟩
    · rintro ⟨_, refused, after, _, h, ⟨⟩ | ⟨hsaid, hbefore⟩, hrefuses⟩
      · obtain ⟨rfl, rfl⟩ := List.cons.inj h
        exact .inl (advance_eq_cause_iff.mpr hrefuses)
      · obtain ⟨rfl, rfl⟩ := List.cons.inj h
        refine .inr ⟨_, advance_eq_ok_iff.mpr ⟨_, hsaid, rfl⟩, ih.mpr ?_⟩
        rw [destType_apply]
        exact ⟨_, refused, after, _, rfl, hbefore, hrefuses⟩

/-! ## The last check -/

/-- **The giver of the destination sees what is written to it**, or the function made it. -/
def Shown (r : Reading) (spec : MappingSpec) : Prop :=
  spec.destIsPreconstructed = true ∨ r.types.isReferenceShaped spec.destType = .ok true

theorem finish_eq_ok_iff : r.finish spec = .ok spec' ↔ r.Shown spec ∧ spec' = spec := by
  unfold finish Shown
  cases hpre : spec.destIsPreconstructed with
  | true =>
    rw [if_pos rfl]
    exact ⟨fun h => ⟨.inl rfl, (Except.ok.inj h).symm⟩, fun ⟨_, h⟩ => h ▸ rfl⟩
  | false =>
    rw [if_neg Bool.false_ne_true, bind_eq_ok_iff]
    constructor
    · rintro ⟨shaped, hshaped, h⟩
      rw [liftM_eq_ok_iff] at hshaped
      cases shaped with
      | true => exact ⟨.inr hshaped, (Except.ok.inj h).symm⟩
      | false =>
        obtain ⟨shown, -, h⟩ := bind_eq_ok_iff.mp h
        cases h
    · rintro ⟨hno | hshaped, rfl⟩
      · cases hno
      · exact ⟨true, liftM_eq_ok_iff.mpr hshaped, rfl⟩

theorem finish_eq_cause_iff : r.finish spec = .error (.cause e) ↔
    spec.destIsPreconstructed = false ∧ r.types.isReferenceShaped spec.destType = .ok false ∧
      ∃ text, r.types.display spec.destType = .ok text ∧
        e = .invalidDestination spec.qualifiedName spec.destBinding text := by
  unfold finish
  cases hpre : spec.destIsPreconstructed with
  | true =>
    rw [if_pos rfl]
    exact ⟨nofun, nofun⟩
  | false =>
    rw [if_neg Bool.false_ne_true, bind_eq_error_iff]
    constructor
    · rintro (h | ⟨shaped, hshaped, h⟩)
      · exact absurd h liftM_ne_cause
      rw [liftM_eq_ok_iff] at hshaped
      cases shaped with
      | true => cases h
      | false =>
        obtain ⟨text, htext, h⟩ := (bind_eq_error_iff.mp h).resolve_left liftM_ne_cause
        rw [liftM_eq_ok_iff] at htext
        exact ⟨rfl, hshaped, text, htext, (Stop.cause.inj (Except.error.inj h)).symm⟩
    · rintro ⟨-, hshaped, text, htext, rfl⟩
      refine .inr ⟨false, liftM_eq_ok_iff.mpr hshaped, ?_⟩
      exact bind_eq_error_iff.mpr (.inr ⟨text, liftM_eq_ok_iff.mpr htext, rfl⟩)

/-! ## The whole function -/

/-- **The specification that a function is read for** when its calls follow the protocol: the
one that the first call begins with, and then what the others add to it. -/
inductive Accepts (r : Reading) : MappingSpec → Prop
  | mk {args : List ValueId} {rest : List (MarkerCall × List ValueId)} {first : MappingSpec}
      {additions : List Addition} (hopens : r.Opens args rest) (hfirst : r.Begins args first)
      (hrest : List.Forall₂ (r.Says first.destType) rest additions) (hshown : r.Shown first) :
      Accepts r (additions.foldl Addition.apply first)

/-- **What is wrong with a function whose calls do not follow the protocol**: that which is
wrong with the first call that is not in order, or, if all of them are, with the
destination. -/
inductive Rejects (r : Reading) : MappingError → Prop
  /-- The mapping cannot begin. -/
  | beginning {args : List ValueId} {rest : List (MarkerCall × List ValueId)} {e : MappingError}
      (hopens : r.Opens args rest) (h : r.CannotBegin args e) : Rejects r e
  /-- All calls before `mark` are in order, and it is not. -/
  | call {args : List ValueId} {before after : List (MarkerCall × List ValueId)}
      {mark : MarkerCall × List ValueId} {first : MappingSpec} {additions : List Addition}
      {e : MappingError} (hopens : r.Opens args (before ++ mark :: after))
      (hfirst : r.Begins args first)
      (hbefore : List.Forall₂ (r.Says first.destType) before additions)
      (h : r.Refuses first.destType mark e) : Rejects r e
  /-- What is written to the destination would be lost. -/
  | destination {args : List ValueId} {rest : List (MarkerCall × List ValueId)}
      {first : MappingSpec} {additions : List Addition} {text : String}
      (hopens : r.Opens args rest) (hfirst : r.Begins args first)
      (hrest : List.Forall₂ (r.Says first.destType) rest additions)
      (hpassed : first.destIsPreconstructed = false)
      (hcopied : r.types.isReferenceShaped first.destType = .ok false)
      (htext : r.types.display first.destType = .ok text) :
      Rejects r (.invalidDestination first.qualifiedName first.destBinding text)

theorem Accepts.exists_opens (h : r.Accepts spec) : ∃ args rest, r.Opens args rest := by
  cases h with
  | mk hopens => exact ⟨_, _, hopens⟩

theorem Rejects.exists_opens (h : r.Rejects e) : ∃ args rest, r.Opens args rest := by
  cases h with
  | beginning hopens => exact ⟨_, _, hopens⟩
  | call hopens => exact ⟨_, _, hopens⟩
  | destination hopens => exact ⟨_, _, hopens⟩

/-- A function whose first marker call begins no mapping is left alone. -/
theorem foldlM_seeking_of_not_opens (h : ¬ ∃ args rest, r.Opens args rest) :
    r.marks.foldlM r.follow .seeking = .ok .seeking ∨
      r.marks.foldlM r.follow .seeking = .ok .declined := by
  unfold Opens at h
  cases hmarks : r.marks with
  | nil => exact .inl rfl
  | cons mark rest =>
    obtain ⟨call, args⟩ := mark
    have hdeclines : r.advance .seeking call args = .ok .declined := by
      cases call with
      | direct m =>
        cases m with
        | createMap => exact absurd ⟨args, rest, hmarks⟩ h
        | _ => rfl
      | _ => rfl
    rw [List.foldlM_cons]
    show r.advance .seeking call args >>= _ = _ ∨ r.advance .seeking call args >>= _ = _
    rw [hdeclines]
    exact .inr foldlM_declined

variable {loops : Prop}

/-- **A reading is the run through the marker calls**, unless it faults. -/
theorem spec?_eq (hs : r.scope.Tame loops) (hno : ∀ fault, r.spec? ≠ .error (.fault fault)) :
    r.spec? = r.marks.foldlM r.follow .seeking >>= r.conclude := by
  have hlisted : ∀ id ∈ r.scope.function.instructions,
      ∃ kind, r.scope.function.kind? id = some kind := by
    intro id hid
    obtain ⟨value, hvalue, -⟩ := hs.function.listed id hid
    exact ⟨value.kind, Func.kind?_of_value? hvalue⟩
  have hrun : r.run .seeking r.scope.function.instructions = r.runCalls .seeking
      (r.scope.function.instructions.filterMap r.scope.function.call?) := run_eq_runCalls hlisted
  unfold spec? at hno ⊢
  rw [hrun] at hno ⊢
  rw [runCalls_eq_foldlM (fun fault h => hno fault (by rw [h]; rfl))]
  rfl

theorem spec?_of_opens {args : List ValueId} (hs : r.scope.Tame loops)
    (hno : ∀ fault, r.spec? ≠ .error (.fault fault)) (hopens : r.Opens args rest) :
    r.spec? = (r.start args >>= fun first => rest.foldlM r.follow (.accumulating first))
      >>= r.conclude := by
  rw [spec?_eq hs hno, hopens, List.foldlM_cons]
  show ((r.start args >>= fun first => .ok (Progress.accumulating first)) >>= _) >>= _ = _
  cases r.start args <;> rfl

theorem spec?_of_not_opens (hs : r.scope.Tame loops)
    (hno : ∀ fault, r.spec? ≠ .error (.fault fault)) (h : ¬ ∃ args rest, r.Opens args rest) :
    r.spec? = .ok none := by
  rw [spec?_eq hs hno]
  rcases foldlM_seeking_of_not_opens h with h | h
  · rw [h]
    rfl
  · rw [h]
    rfl

/-- What a mapping that has begun is concluded with. -/
theorem conclude_eq_ok_iff {found : Option MappingSpec} :
    r.conclude (.accumulating spec) = .ok found ↔ r.Shown spec ∧ found = some spec := by
  show (r.finish spec >>= fun spec => .ok (some spec)) = _ ↔ _
  rw [bind_eq_ok_iff]
  constructor
  · rintro ⟨_, h, hfound⟩
    obtain ⟨hshown, rfl⟩ := finish_eq_ok_iff.mp h
    exact ⟨hshown, (Except.ok.inj hfound).symm⟩
  · rintro ⟨hshown, rfl⟩
    exact ⟨spec, finish_eq_ok_iff.mpr ⟨hshown, rfl⟩, rfl⟩

theorem conclude_eq_cause_iff :
    r.conclude (.accumulating spec) = .error (.cause e) ↔ r.finish spec = .error (.cause e) := by
  show (r.finish spec >>= fun spec => .ok (some spec)) = _ ↔ _
  rw [bind_eq_error_iff]
  exact ⟨fun h => h.resolve_right (fun ⟨_, _, h⟩ => nomatch h), .inl⟩

/-- **A function is read for a specification exactly when its calls follow the protocol**, and
for no other than theirs. -/
theorem spec?_eq_some_iff (hs : r.scope.Tame loops)
    (hno : ∀ fault, r.spec? ≠ .error (.fault fault)) :
    r.spec? = .ok (some spec) ↔ r.Accepts spec := by
  constructor
  · intro h
    by_cases hopens : ∃ args rest, r.Opens args rest
    · obtain ⟨args, rest, hopens⟩ := hopens
      rw [spec?_of_opens hs hno hopens] at h
      obtain ⟨progress, hprogress, h⟩ := bind_eq_ok_iff.mp h
      obtain ⟨first, hfirst, hprogress⟩ := bind_eq_ok_iff.mp hprogress
      obtain ⟨additions, hrest, rfl⟩ := foldlM_eq_ok_iff.mp hprogress
      obtain ⟨hshown, heq⟩ := conclude_eq_ok_iff.mp h
      obtain rfl := Option.some.inj heq
      rw [foldl_apply_eq] at hshown
      exact .mk hopens ((start_eq_ok_iff hs.function.resultTypes).mp hfirst) hrest hshown
    · rw [spec?_of_not_opens hs hno hopens] at h
      cases h
  · rintro @⟨args, rest, first, additions, hopens, hfirst, hrest, hshown⟩
    rw [spec?_of_opens hs hno hopens, (start_eq_ok_iff hs.function.resultTypes).mpr hfirst, ok_bind,
      foldlM_eq_ok_iff.mpr ⟨additions, hrest, rfl⟩, ok_bind, conclude_eq_ok_iff]
    refine ⟨?_, rfl⟩
    rw [foldl_apply_eq]
    exact hshown

/-- **A function is refused for the first call that is not in order**, or for its
destination. -/
theorem spec?_eq_cause_iff (hs : r.scope.Tame loops)
    (hno : ∀ fault, r.spec? ≠ .error (.fault fault)) :
    r.spec? = .error (.cause e) ↔ r.Rejects e := by
  have hstart : ∀ {args first}, r.start args = .ok first ↔ r.Begins args first :=
    start_eq_ok_iff hs.function.resultTypes
  constructor
  · intro h
    by_cases hopens : ∃ args rest, r.Opens args rest
    · obtain ⟨args, rest, hopens⟩ := hopens
      rw [spec?_of_opens hs hno hopens] at h
      rcases bind_eq_error_iff.mp h with h | ⟨progress, hprogress, h⟩
      · rcases bind_eq_error_iff.mp h with h | ⟨first, hfirst, h⟩
        · exact .beginning hopens ((start_eq_cause_iff hs.function.resultTypes).mp h)
        · obtain ⟨before, mark, after, additions, rfl, hbefore, hrefuses⟩ :=
            foldlM_eq_cause_iff.mp h
          exact .call hopens (hstart.mp hfirst) hbefore hrefuses
      · obtain ⟨first, hfirst, hprogress⟩ := bind_eq_ok_iff.mp hprogress
        obtain ⟨additions, hrest, rfl⟩ := foldlM_eq_ok_iff.mp hprogress
        have hfinish := finish_eq_cause_iff.mp (conclude_eq_cause_iff.mp h)
        rw [foldl_apply_eq] at hfinish
        obtain ⟨hpassed, hcopied, text, htext, he⟩ := hfinish
        have he : e = .invalidDestination first.qualifiedName first.destBinding text := he
        rw [he]
        exact .destination hopens (hstart.mp hfirst) hrest hpassed hcopied htext
    · rw [spec?_of_not_opens hs hno hopens] at h
      cases h
  · intro h
    cases h with
    | beginning hopens h =>
      rw [spec?_of_opens hs hno hopens, (start_eq_cause_iff hs.function.resultTypes).mpr h]
      rfl
    | call hopens hfirst hbefore h =>
      rw [spec?_of_opens hs hno hopens, hstart.mpr hfirst, ok_bind,
        foldlM_eq_cause_iff.mpr ⟨_, _, _, _, rfl, hbefore, h⟩]
      rfl
    | destination hopens hfirst hrest hpassed hcopied htext =>
      rw [spec?_of_opens hs hno hopens, hstart.mpr hfirst, ok_bind,
        foldlM_eq_ok_iff.mpr ⟨_, hrest, rfl⟩, ok_bind, conclude_eq_cause_iff, foldl_apply_eq,
        finish_eq_cause_iff]
      exact ⟨hpassed, hcopied, _, htext, rfl⟩

/-- **A function is left alone exactly when its first marker call begins no mapping.** -/
theorem spec?_eq_none_iff (hs : r.scope.Tame loops)
    (hno : ∀ fault, r.spec? ≠ .error (.fault fault)) :
    r.spec? = .ok none ↔ ¬ ∃ args rest, r.Opens args rest := by
  constructor
  · rintro h ⟨args, rest, hopens⟩
    rw [spec?_of_opens hs hno hopens] at h
    obtain ⟨progress, hprogress, h⟩ := bind_eq_ok_iff.mp h
    obtain ⟨first, -, hprogress⟩ := bind_eq_ok_iff.mp hprogress
    obtain ⟨additions, -, rfl⟩ := foldlM_eq_ok_iff.mp hprogress
    cases (conclude_eq_ok_iff.mp h).2
  · exact spec?_of_not_opens hs hno

end Reading

namespace Program

variable {p : Program} {settings : Settings}

/-- A function of a valid program is at the position it claims. -/
theorem function?_of_mem {f : Func} (hp : p.Sound) (hf : f ∈ p.functions) :
    p.function? f.id = some f := by
  obtain ⟨i, hi⟩ := Array.mem_iff_getElem?.mp hf
  rw [hp.functionIds ⟨i⟩ f hi]
  exact hi

/-- **Reading a function is enforcing the protocol on it.** Unless the reading goes round for
ever, which takes a circle in the program, a function is left alone exactly when its first
marker call begins no mapping; otherwise it is read for the specification that its calls
follow the protocol for, or refused for the first call that is not in order. -/
theorem interpret_of_function? {id : FunctionId} {f : Func} (h : p.validate = .ok ())
    (settings : Settings) (hf : p.function? id = some f) :
    (p.interpret settings id = .error (.fault .endless) ∧ ¬ p.Acyclic) ∨
    ∃ r, Reading.ofFunction p settings f = .ok r ∧
      (p.interpret settings id = .ok none ↔ ¬ ∃ args rest, r.Opens args rest) ∧
      (∀ spec, p.interpret settings id = .ok (some spec) ↔ r.Accepts spec) ∧
      (∀ e, p.interpret settings id = .error (.cause e) ↔ r.Rejects e) ∧
      ((∃ args rest, r.Opens args rest) → (∃ spec, r.Accepts spec) ∨ ∃ e, r.Rejects e) := by
  have hp := tame_of_validate h
  cases hr : Reading.ofFunction p settings f with
  | error fault =>
    have hfault : p.interpret settings id = .error (.fault fault) := by
      unfold interpret
      rw [hf]
      show (liftM (Reading.ofFunction p settings f) >>= fun r => r.spec? :
        Checked MappingError _) = _
      rw [hr]
      rfl
    obtain ⟨rfl, hloops⟩ := (hp.interpret_safe settings id).fault hfault
    exact .inl ⟨hfault, hloops⟩
  | ok r =>
    obtain ⟨-, -, -, -, hs⟩ := (hp.ofFunction_safe hf settings).answer hr
    have heq := interpret_eq_spec? hf hr
    by_cases hno : ∀ fault, r.spec? ≠ .error (.fault fault)
    · rw [heq]
      refine .inr ⟨r, rfl, Reading.spec?_eq_none_iff hs hno,
        fun _ => Reading.spec?_eq_some_iff hs hno, fun _ => Reading.spec?_eq_cause_iff hs hno,
        fun hopens => ?_⟩
      -- what is neither left alone nor faults is read or refused
      cases hspec : r.spec? with
      | ok found =>
        cases found with
        | some spec => exact .inl ⟨spec, (Reading.spec?_eq_some_iff hs hno).mp hspec⟩
        | none => exact absurd hopens ((Reading.spec?_eq_none_iff hs hno).mp hspec)
      | error stop =>
        cases stop with
        | fault fault => exact absurd hspec (hno fault)
        | cause e => exact .inr ⟨e, (Reading.spec?_eq_cause_iff hs hno).mp hspec⟩
    · obtain ⟨fault, hfault⟩ := not_forall.mp hno
      have hfault := heq.trans (not_not.mp hfault)
      obtain ⟨rfl, hloops⟩ := (hp.interpret_safe settings id).fault hfault
      exact .inl ⟨hfault, hloops⟩

/-- **A function that is read for a specification follows the protocol for it.** -/
theorem exists_accepts_of_interpret {id : FunctionId} {spec : MappingSpec}
    (h : p.validate = .ok ()) (hspec : p.interpret settings id = .ok (some spec)) :
    ∃ f r, p.function? id = some f ∧ Reading.ofFunction p settings f = .ok r ∧
      r.scope.program = p ∧ r.scope.function = f ∧ r.Accepts spec := by
  obtain ⟨f, hf⟩ : ∃ f, p.function? id = some f := by
    unfold interpret at hspec
    split at hspec
    · cases hspec
    · exact ⟨_, ‹_›⟩
  rcases interpret_of_function? h settings hf with ⟨hfault, -⟩ | ⟨r, hr, -, haccepts, -⟩
  · cases hspec.symm.trans hfault
  · obtain ⟨-, hprogram, hfunction, -⟩ :=
      ((tame_of_validate h).ofFunction_safe hf settings).answer hr
    exact ⟨f, r, hf, hr, hprogram, hfunction, (haccepts spec).mp hspec⟩

/-- **The protocol decides**, for every function of a valid program, and nothing but a mapping
function ever stops an analysis. What stops it is what the reading of a function is refused
for, or else the planning of a specification that a function has been read for; in either case
the first marker call of the function begins a mapping. -/
theorem reading_follows_protocol (h : p.validate = .ok ()) (settings : Settings) :
    (∀ id f, p.function? id = some f →
      (p.interpret settings id = .error (.fault .endless) ∧ ¬ p.Acyclic) ∨
      ∃ r, Reading.ofFunction p settings f = .ok r ∧
        (p.interpret settings id = .ok none ↔ ¬ ∃ args rest, r.Opens args rest) ∧
        (∀ spec, p.interpret settings id = .ok (some spec) ↔ r.Accepts spec) ∧
        (∀ e, p.interpret settings id = .error (.cause e) ↔ r.Rejects e) ∧
        ((∃ args rest, r.Opens args rest) → (∃ spec, r.Accepts spec) ∨ ∃ e, r.Rejects e)) ∧
    ∀ e, p.analyze settings = .error (.cause e) →
      ∃ f ∈ p.functions, p.isCandidate f = true ∧
        ∃ r args rest, Reading.ofFunction p settings f = .ok r ∧ r.Opens args rest ∧
          (r.Rejects e ∨ ∃ registry spec, p.collect settings = .ok registry ∧
            spec ∈ registry.specs ∧ r.Accepts spec ∧ p.plan registry spec = .error (.cause e)) := by
  refine ⟨fun id f hf => interpret_of_function? h settings hf, fun e he => ?_⟩
  have hread := fun {f : Func} (hf : f ∈ p.functions) =>
    interpret_of_function? h settings (function?_of_mem (validate_eq_ok_iff.mp h) hf)
  rcases analyze_eq_error h he with
    ⟨f, hf, hcandidate, hstop⟩ | ⟨registry, spec, hcollect, hspec, hplan⟩
  · rcases hread hf with ⟨hfault, -⟩ | ⟨r, hr, -, -, hrejects, -⟩
    · cases hstop.symm.trans hfault
    · have hrejected := (hrejects e).mp hstop
      obtain ⟨args, rest, hopens⟩ := hrejected.exists_opens
      exact ⟨f, hf, hcandidate, r, args, rest, hr, hopens, .inl hrejected⟩
  · obtain ⟨f, hf, hcandidate, hfound⟩ := exists_of_mem_registry hcollect hspec
    rcases hread hf with ⟨hfault, -⟩ | ⟨r, hr, -, haccepts, -, -⟩
    · cases hfound.symm.trans hfault
    · have haccepted := (haccepts spec).mp hfound
      obtain ⟨args, rest, hopens⟩ := haccepted.exists_opens
      exact ⟨f, hf, hcandidate, r, args, rest, hr, hopens,
        .inr ⟨registry, spec, hcollect, hspec, haccepted, hplan⟩⟩

/-- The mapping of contacts into cards follows the protocol. -/
theorem cardProgram_follows_protocol : cardProgram.validate = .ok () ∧
    ∃ f r spec, cardProgram.function? ⟨1⟩ = some f ∧
      Reading.ofFunction cardProgram {} f = .ok r ∧ r.Accepts spec ∧
      cardProgram.interpret {} ⟨1⟩ = .ok (some spec) := by
  have hvalid : cardProgram.validate = .ok () := by decide +kernel
  obtain ⟨f, hf⟩ : ∃ f, cardProgram.function? ⟨1⟩ = some f := ⟨_, rfl⟩
  have hcomputed : answersWith Option.isSome (cardProgram.interpret {} ⟨1⟩) = true := by
    decide +kernel
  obtain ⟨found, hfound, hsome⟩ := exists_of_answersWith hcomputed
  obtain ⟨spec, rfl⟩ := Option.isSome_iff_exists.mp hsome
  rcases (reading_follows_protocol hvalid {}).1 ⟨1⟩ f hf with ⟨hfault, -⟩ | ⟨r, hr, -, haccepts, -⟩
  · cases hfault.symm.trans hfound
  · exact ⟨hvalid, f, r, spec, hf, hr, (haccepts spec).mp hfound, hfound⟩

end Program

end Crosswalk
