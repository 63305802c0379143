import Crosswalk.Proofs.Mapping.Fields
import Crosswalk.Proofs.Mapping.Hosting
import Crosswalk.Proofs.Mapping.RoundTrip

/-!
# Calls of other packages

A mapping function may do more than ask for its mapping: it may log, or measure how long it
takes. What it calls to that end has nothing to say of the mapping, but it reads what marker
calls read: the parameters, a selected field, even a pack.

A function with one more call that nothing reads hosts it (`Program.hosts_insertCall`). Each
marker call then turns out to be what it was, and says what it said (`Scope.Hosts.readsAlike`),
and if the additional call is of no interest, the run passes over it. So the function asks for
what it asked for, and is refused for what it was refused for (`Program.interpret_insertCall`).
-/

namespace Crosswalk

namespace Reading

variable {r : Reading} {call : ValueId} {s' : Scope} {progress : Progress} {ids : List ValueId}

/-- **Calls of no interest are passed over**, wherever they are listed. -/
theorem runCalls_filterMap_others {f : Func}
    (hforeign : ∀ callee args, f.kind? call = some (.call callee args) →
      r.classify callee = .ok none) :
    r.runCalls progress (ids.filterMap f.call?)
      = r.runCalls progress ((ids.filter (fun id => decide (id ≠ call))).filterMap f.call?) := by
  induction ids generalizing progress with
  | nil => rfl
  | cons id ids ih =>
    by_cases hid : id = call
    · rw [List.filter_cons_of_neg (by simpa using hid), List.filterMap_cons, hid]
      cases hcall : f.call? call with
      | none => exact ih
      | some c =>
        have hnone := hforeign c.1 c.2 (Func.call?_eq_some_iff.mp hcall)
        exact (runCalls_cons_of_none hnone).trans ih
    · rw [List.filter_cons_of_pos (by simpa using hid), List.filterMap_cons, List.filterMap_cons]
      cases f.call? id with
      | none => exact ih
      | some c => exact runCalls_cons_congr rfl (fun _ _ => rfl) (fun _ => ih)

/-- **A reading comes to the same**, whether the function hosts a call of no interest or not. -/
theorem spec?_of_hosts (h : r.scope.Hosts call s') (hlists : s'.index.Lists s'.function)
    (hforeign : ∀ callee args, s'.function.kind? call = some (.call callee args) →
      { r with scope := s' }.classify callee = .ok none) :
    { r with scope := s' }.spec? = r.spec? := by
  have hsame : r.scope.function.instructions.filterMap s'.function.call?
      = r.scope.function.instructions.filterMap r.scope.function.call? := by
    refine List.filterMap_congr (fun id hid => ?_)
    unfold Func.call? Func.kind?
    rw [h.value?_eq (h.sound.has_of_listed hid)]
  refine h.readsAlike.spec?_eq hlists ?_
  rw [runCalls_filterMap_others hforeign, h.filter_instructions hlists, hsame]

end Reading

/-! ## One more call -/

/-- The function that a closure is over. -/
def ValueKind.closure? : ValueKind → Option FunctionId
  | .makeClosure id _ => some id
  | _ => none

/-- **A call to be put into a function.** -/
structure CallSite where
  /-- The block it is put into. -/
  block : BlockId
  /-- Its place among the instructions of the block. -/
  place : Nat
  /-- The values that come with it, a reference to the callee for one. They are not listed. -/
  operands : List Value
  /-- The callee. -/
  callee : ValueId
  /-- The arguments. -/
  args : List ValueId
  /-- The type of what it gives. -/
  type : Option TypeId
  /-- The name that this has in the source. -/
  name : Option String
deriving DecidableEq, Repr

namespace CallSite

/-- The call. -/
def value (site : CallSite) : Value := ⟨.call site.callee site.args, site.type, site.name⟩

/-- The position of the call, after the values it comes with. -/
def position (site : CallSite) (f : Func) : ValueId := ⟨f.values.size + site.operands.length⟩

end CallSite

/-- **The function with one more call.** -/
def Func.insertCall (site : CallSite) (f : Func) : Func :=
  { f with
    blocks := f.blocks.modify site.block.index (fun b =>
      { b with instructions := b.instructions.insertIdx site.place (site.position f) })
    values := f.values ++ (site.operands ++ [site.value]).toArray }

/-- **The program with one more call** in one function. -/
def Program.insertCall (p : Program) (id : FunctionId) (site : CallSite) : Program :=
  { p with functions := p.functions.modify id.index (Func.insertCall site) }

namespace Func

variable {p : Program} {f : Func} {site : CallSite} {v : ValueId} {w : Value}

theorem value?_insertCall (h : f.value? v = some w) : (f.insertCall site).value? v = some w := by
  unfold value? insertCall
  dsimp only
  rw [Array.getElem?_append_left (index_lt_of_value? h)]
  exact h

/-- The call is at its position. -/
theorem value?_insertCall_position :
    (f.insertCall site).value? (site.position f) = some site.value := by
  unfold value? insertCall CallSite.position
  dsimp only
  rw [Array.getElem?_append_right (Nat.le_add_right _ _), Nat.add_sub_cancel_left,
    List.getElem?_toArray, List.getElem?_concat_length]

/-- There was no value at the position of the call. -/
theorem ne_position_of_value? (h : f.value? v = some w) : v ≠ site.position f := by
  rintro rfl
  exact Nat.not_lt.mpr (Nat.le_add_right _ _) (index_lt_of_value? h)

/-- The call is all that is listed besides. -/
theorem filter_instructions_insertCall (hf : f.Sound p) :
    (f.insertCall site).instructions.filter (fun id => decide (id ≠ site.position f))
      = f.instructions := by
  have hold : f.instructions.filter (fun id => decide (id ≠ site.position f)) = f.instructions := by
    refine List.filter_eq_self.mpr (fun id hid => ?_)
    obtain ⟨w, hw, -⟩ := hf.listed id hid
    exact decide_eq_true (ne_position_of_value? hw)
  refine Eq.trans ?_ hold
  unfold instructions insertCall
  dsimp only
  rw [List.filter_flatMap, List.filter_flatMap, Array.toList_modify, List.flatMap_def,
    List.flatMap_def]
  refine congrArg List.flatten (map_modify_of_eq (fun b => ?_) _ _)
  exact filter_insertIdx_of_neg (by simp) _ _

/-- The function with one more call still lists nothing but what exists. -/
theorem has_of_listed_insertCall (hf : f.Sound p) (hv : v ∈ (f.insertCall site).instructions) :
    (f.insertCall site).Has v := by
  by_cases hcall : v = site.position f
  · exact ⟨site.value, hcall ▸ value?_insertCall_position⟩
  · have hmem : v ∈ f.instructions :=
      filter_instructions_insertCall hf ▸ List.mem_filter.mpr ⟨hv, decide_eq_true hcall⟩
    obtain ⟨w, hw, -⟩ := hf.listed v hmem
    exact ⟨w, value?_insertCall hw⟩

end Func

namespace Program

variable {p : Program} {f : Func} {site : CallSite} {id : FunctionId} {index index' : UseIndex}

theorem function?_insertCall (hf : p.function? id = some f) :
    (p.insertCall id site).function? id = some (f.insertCall site) := by
  unfold function? insertCall
  rw [Array.getElem?_modify, if_pos rfl, show p.functions[id.index]? = some f from hf]
  rfl

theorem function?_insertCall_of_ne {other : FunctionId} (h : other ≠ id) :
    (p.insertCall id site).function? other = p.function? other := by
  unfold function? insertCall
  rw [Array.getElem?_modify, if_neg]
  exact fun heq => h (congrArg FunctionId.mk heq.symm)

/-- **The call joins the instructions of a function**, if it is given what there was before. -/
theorem joins_insertCall (hf : f.Sound p) (hlists : index.Lists f)
    (hlists' : index'.Lists (f.insertCall site))
    (hbefore : ∀ o ∈ site.callee :: site.args, o.index < (site.position f).index) :
    UseIndex.Joins (site.position f) index index' := by
  have hold : ∀ u ∈ index'.uses, u.user ≠ site.position f → f.value? u.user = some u.value := by
    intro u hu hne
    have hmem : u.user ∈ f.instructions := by
      rw [← Func.filter_instructions_insertCall hf]
      exact List.mem_filter.mpr ⟨hlists'.mem_instructions hu, decide_eq_true hne⟩
    obtain ⟨w, hw, -⟩ := hf.listed u.user hmem
    exact hw.trans ((Func.value?_insertCall hw).symm.trans (hlists'.entries u hu))
  refine ⟨UseIndex.eq_of_users (f := f) ?_ (fun u hu => ?_) hlists.entries, fun u hu => ?_⟩
  · rw [hlists.users, ← Func.filter_instructions_insertCall hf, ← hlists'.users, List.filter_map]
    rfl
  · obtain ⟨hmem, hne⟩ := List.mem_filter.mp hu
    exact hold u hmem (of_decide_eq_true hne)
  · refine decide_eq_false (fun hread => ?_)
    by_cases hcall : u.user = site.position f
    · have hvalue := hlists'.entries u hu
      rw [hcall, Func.value?_insertCall_position] at hvalue
      rw [← Option.some.inj hvalue] at hread
      exact Nat.lt_irrefl _ (hbefore _ hread)
    · obtain ⟨w, hw⟩ := hf.has_of_operand (hold u hu hcall) hread
      exact Func.ne_position_of_value? hw rfl

/-- **A function with one more call hosts it**, if none of its closures is over itself. -/
theorem hosts_insertCall (hp : p.Sound) (hf : p.function? id = some f)
    (hapart : ∀ w ∈ f.values, w.kind.closure? ≠ some id)
    (hbefore : ∀ o ∈ site.callee :: site.args, o.index < (site.position f).index)
    (hlists : index.Lists f) (hlists' : index'.Lists (f.insertCall site)) :
    Scope.Hosts (site.position f) ⟨p, f, index⟩
      ⟨p.insertCall id site, f.insertCall site, index'⟩ := by
  obtain rfl := hp.functionIds id f hf
  have hsound := hp.functions _ f hf
  exact {
    types := rfl
    own := hf
    host := function?_insertCall hf
    others := fun _ => function?_insertCall_of_ne
    header := rfl
    values := fun _ _ => Func.value?_insertCall
    joins := joins_insertCall hsound hlists hlists' hbefore
    called := by
      intro u hu hcall
      have hvalue := hlists'.entries u hu
      rw [hcall, Func.value?_insertCall_position] at hvalue
      exact ⟨site.callee, site.args, Option.some.inj hvalue ▸ rfl⟩
    sound := hsound
    lists := hlists
    apart := by
      intro v bindings hkind
      obtain ⟨w, hw, hkind⟩ := Func.kind?_eq_some_iff.mp hkind
      exact hapart w (Array.mem_of_getElem? hw) (hkind ▸ rfl) }

/-- **A call of no interest does not change what a function asks for.** Whichever block it is put
into, at whatever place, and whatever it is given: the function is no mapping function as before,
or it is read as before, or it is refused for the same reason. -/
theorem interpret_insertCall {settings : Settings} (hp : p.validate = .ok ())
    (hf : p.function? id = some f) (hapart : ∀ w ∈ f.values, w.kind.closure? ≠ some id)
    (hbefore : ∀ o ∈ site.callee :: site.args, o.index < (site.position f).index)
    (hforeign : (Reading.ofFunction (p.insertCall id site) settings (f.insertCall site)
      >>= fun r => r.classify site.callee) = .ok none) :
    (p.insertCall id site).interpret settings id = p.interpret settings id := by
  have hsound := validate_eq_ok_iff.mp hp
  have hfsound := hsound.functions id f hf
  obtain ⟨index, hindex, hlists⟩ := Func.exists_index (f := f)
    (fun v hv => hfsound.has_of_listed hv)
  obtain ⟨index', hindex', hlists'⟩ := Func.exists_index (f := f.insertCall site)
    (fun v hv => Func.has_of_listed_insertCall hfsound hv)
  have hhosts := hosts_insertCall hsound hf hapart hbefore hlists hlists'
  rw [Reading.ofFunction_eq hindex'] at hforeign
  obtain ⟨r, hr, hclassify⟩ := bind_eq_ok_iff.mp hforeign
  obtain ⟨name, hname, hr⟩ := bind_eq_ok_iff.mp hr
  obtain rfl := Except.ok.inj hr
  have hspec := Reading.spec?_of_hosts (r := ⟨settings, ⟨p, f, index⟩, name⟩) hhosts hlists' (by
    intro callee args hkind
    rw [Func.kind?_of_value? Func.value?_insertCall_position] at hkind
    obtain ⟨rfl, -⟩ := ValueKind.call.inj (Option.some.inj hkind)
    exact hclassify)
  unfold interpret
  rw [hf, function?_insertCall hf]
  dsimp only
  rw [Reading.ofFunction_eq hindex, Reading.ofFunction_eq hindex', hname,
    show f.qualifiedName p.types = .ok name from hname]
  exact hspec

/-- A call of the mapping of cards by itself, after the first field has been selected. -/
def cardRecursion : CallSite where
  block := ⟨0⟩
  place := 7
  operands := [⟨.functionRef ⟨1⟩, some ⟨6⟩, none⟩]
  callee := ⟨15⟩
  args := [⟨0⟩, ⟨1⟩]
  type := none
  name := none

/-- A mapping that calls itself between two selections asks for what it asked for. -/
theorem strayProgram_recursive : ∃ spec, strayProgram.interpret {} ⟨1⟩ = .ok (some spec) ∧
    (strayProgram.insertCall ⟨1⟩ cardRecursion).interpret {} ⟨1⟩ = .ok (some spec) := by
  have hvalid : strayProgram.validate = .ok () := by decide +kernel
  obtain ⟨spec, hspec, -⟩ := strayProgram_interpret
  have hsame : (strayProgram.insertCall ⟨1⟩ cardRecursion).interpret {} ⟨1⟩
      = strayProgram.interpret {} ⟨1⟩ :=
    interpret_insertCall hvalid rfl (by decide) (by decide) (by decide +kernel)
  exact ⟨spec, hspec, hsame.trans hspec⟩

end Program

end Crosswalk
