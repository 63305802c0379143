import Crosswalk.Proofs.InStep
import Crosswalk.Proofs.Mapping.Chains
import Crosswalk.Proofs.Mapping.Collecting
import Crosswalk.Proofs.Mapping.RoundTrip

/-!
# Reading alike

Of the function that is read and of its program a reading sees little: what the arguments of the
calls are read as, which functions the calls name, the declaration of the function, and the
types. Two scopes in which these are the same *read alike*. Every call then turns out to be the
same and says the same, in the one as in the other.
-/

namespace Crosswalk

/-- **Whatever the function has is read alike** in the scopes `s` and `s'`. -/
structure Scope.ReadsAlike (s s' : Scope) : Prop where
  /-- The types are the same. -/
  types : s'.program.types = s.program.types
  /-- Functions are in the same packages, and have the same names. -/
  functions : ∀ id, Option.Rel (fun f f' => f'.package = f.package ∧ f'.name = f.name)
    (s.program.function? id) (s'.program.function? id)
  /-- The function is declared alike. -/
  header : s'.function
    = { s.function with blocks := s'.function.blocks, values := s'.function.values }
  /-- The function mentions only what exists. -/
  sound : s.function.Sound s.program
  /-- The instructions are those of the function. -/
  lists : s.index.Lists s.function
  /-- Calls name the same functions. -/
  staticCallee : ∀ v, s.function.Has v →
    s'.program.staticCallee s'.function v = s.program.staticCallee s.function v
  /-- The same strings are read. -/
  literalString : ∀ v, s.function.Has v → s'.literalString v = s.literalString v
  /-- The same fields are read. -/
  selector : ∀ v, s.function.Has v → s'.selector v = s.selector v
  /-- The same functions are read. -/
  callable : ∀ v, s.function.Has v → s'.callable v = s.callable v
  /-- The same variables are read. -/
  binding : ∀ v, s.function.Has v → s'.binding v = s.binding v
  /-- The same values have been packed. -/
  packed : ∀ v, s.function.Has v → s'.packed v = s.packed v

/-- What the calls of a sound function read is there. -/
theorem Func.Sound.has_of_mem_calls {p : Program} {f : Func} {ids : List ValueId}
    {c : ValueId × List ValueId} (hf : f.Sound p) (hc : c ∈ ids.filterMap f.call?) :
    ∀ o ∈ c.1 :: c.2, f.Has o := by
  intro o ho
  obtain ⟨id, -, hcall⟩ := List.mem_filterMap.mp hc
  obtain ⟨w, hw, hkind⟩ := Func.kind?_eq_some_iff.mp (Func.call?_eq_some_iff.mp hcall)
  exact hf.has_of_operand hw (hkind ▸ ho)

/-- The packed values are values of the function. -/
theorem Scope.has_of_mem_packed {s : Scope} {v : ValueId} {vs : List ValueId}
    (hs : s.function.Sound s.program) (hl : s.index.Lists s.function)
    (h : s.packed v = .ok vs) : ∀ w ∈ vs, s.function.Has w := by
  unfold packed at h
  rw [packedTo_eq_follow] at h
  obtain ⟨_, value, -, h⟩ := exists_finish_of_follow (fun _ _ _ => rfl) h
  unfold packedChain at h
  dsimp only at h
  split at h
  · obtain rfl := Except.ok.inj h
    exact nofun
  · obtain ⟨stores, hcollects, hstored⟩ := exists_collects h
    intro w hw
    obtain ⟨u, hu, hvalue⟩ := exists_beside hstored hw
    have huses := (UseIndex.reached_of_mem_visits (hcollects.walked.subset hu)).mem_uses
    exact hs.has_of_operand (hl.entries u huses) (u.mem_operands_of_stored? hvalue)
  · cases h

namespace Scope.ReadsAlike

variable {r : Reading} {s' : Scope} {v : ValueId} {args : List ValueId} {spec : MappingSpec}
  {progress : Reading.Progress} {m : Marker}

variable (h : r.scope.ReadsAlike s')
include h

theorem list_eq {α : Type} {element element' : ValueId → Checked ShapeError α}
    (helement : ∀ w, r.scope.function.Has w → element' w = element w)
    (hv : r.scope.function.Has v) : s'.list element' v = r.scope.list element v := by
  unfold list
  rw [h.packed v hv]
  cases hvs : r.scope.packed v with
  | error e => rfl
  | ok vs =>
    rw [ok_bind, ok_bind]
    refine mapM_eq_mapM_of_forall₂ (List.forall₂_same.mpr (fun w hw => ?_))
    exact helement w (has_of_mem_packed h.sound h.lists hvs w hw)

omit h in
/-- Functions of one package are both markers or neither. -/
theorem isMarkerFunction_eq {f f' : Func} (hpackage : f'.package = f.package) :
    { r with scope := s' }.isMarkerFunction f' = r.isMarkerFunction f :=
  congrArg r.settings.markers.isMarkerPackage hpackage

/-- **A call turns out to be the same.** -/
theorem classify_eq (hv : r.scope.function.Has v) :
    { r with scope := s' }.classify v = r.classify v := by
  unfold Reading.classify
  dsimp only
  rw [h.staticCallee v hv, h.callable v hv]
  cases hcallee : r.scope.program.staticCallee r.scope.function v with
  | some id =>
    obtain ⟨f, hf⟩ := Program.exists_of_staticCallee hcallee
    obtain ⟨f', hf', hpackage, hname⟩ := exists_right_of_optionRel (h.functions id) hf
    dsimp only
    rw [Program.function_eq_ok_iff.mpr hf, Program.function_eq_ok_iff.mpr hf', ok_bind, ok_bind,
      isMarkerFunction_eq hpackage, hname]
  | none =>
    refine congrArg ((r.scope.callable v).attempt >>= ·) (funext (fun found => ?_))
    cases found with
    | error e => rfl
    | ok id =>
      dsimp only
      cases hf : r.scope.program.function? id with
      | none => rw [(eq_none_iff_of_optionRel (h.functions id)).mp hf]
      | some f =>
        obtain ⟨f', hf', hpackage, -⟩ := exists_right_of_optionRel (h.functions id) hf
        rw [hf']
        dsimp only
        rw [isMarkerFunction_eq hpackage]

theorem resultShape_eq : { r with scope := s' }.resultShape = r.resultShape := by
  have hresults : s'.function.signature.results = r.scope.function.signature.results := by
    rw [h.header]
  unfold Reading.resultShape Reading.types
  dsimp only
  rw [hresults, h.types]

theorem start_eq (hargs : ∀ a ∈ args, r.scope.function.Has a) :
    { r with scope := s' }.start args = r.start args := by
  unfold Reading.start
  split
  · rename_i source dest
    have hsource := h.binding source (hargs source List.mem_cons_self)
    have hdest := h.binding dest (hargs dest (List.mem_cons_of_mem _ List.mem_cons_self))
    rw [h.resultShape_eq, h.header]
    dsimp only
    rw [hsource, hdest]
    rfl
  · rfl

theorem destField_eq (hv : r.scope.function.Has v) :
    { r with scope := s' }.destField spec v = r.destField spec v := by
  unfold Reading.destField Reading.types
  dsimp only
  rw [h.selector v hv, h.types]
  rfl

/-- **A marker adds the same.** -/
theorem configure_eq (hargs : ∀ a ∈ args, r.scope.function.Has a) :
    { r with scope := s' }.configure spec m args = r.configure spec m args := by
  unfold Reading.configure
  split
  · rfl
  · rename_i packed
    have hpacked := hargs packed List.mem_cons_self
    dsimp only
    rw [h.list_eq h.literalString hpacked]
    rfl
  · rename_i source dest
    rw [h.destField_eq (hargs dest (List.mem_cons_of_mem _ List.mem_cons_self))]
    dsimp only
    rw [h.selector source (hargs source List.mem_cons_self)]
    rfl
  · rename_i packed
    have hpacked := hargs packed List.mem_cons_self
    dsimp only
    rw [h.list_eq h.selector hpacked]
    rfl
  · rename_i packed
    have hpacked := hargs packed List.mem_cons_self
    dsimp only
    rw [h.list_eq h.callable hpacked]
    rfl
  · rfl

theorem advance_eq {found : MarkerCall} (hargs : ∀ a ∈ args, r.scope.function.Has a) :
    { r with scope := s' }.advance progress found args = r.advance progress found args := by
  unfold Reading.advance
  split
  · rfl
  · rw [h.start_eq hargs]
  · rfl
  · rw [h.configure_eq hargs]
  · rfl
  · rfl

/-- The run through calls of what the function has is the same. -/
theorem runCalls_eq {calls : List (ValueId × List ValueId)}
    (hcalls : ∀ c ∈ calls, ∀ o ∈ c.1 :: c.2, r.scope.function.Has o) :
    { r with scope := s' }.runCalls progress calls = r.runCalls progress calls := by
  induction calls generalizing progress with
  | nil => cases progress <;> rfl
  | cons c calls ih =>
    have hoperands := hcalls _ List.mem_cons_self
    refine Reading.runCalls_cons_congr (h.classify_eq (hoperands _ List.mem_cons_self)) ?_
      (fun _ => ih (fun c hc => hcalls c (List.mem_cons_of_mem _ hc)))
    exact fun _ _ => h.advance_eq (fun a ha => hoperands a (List.mem_cons_of_mem _ ha))

theorem conclude_eq : { r with scope := s' }.conclude progress = r.conclude progress := by
  unfold Reading.conclude Reading.finish Reading.types
  dsimp only
  rw [h.types]

/-- **A reading comes to the same** if the run through its calls is the run through those of the
function. -/
theorem spec?_eq (hlists : s'.index.Lists s'.function)
    (hcalls : { r with scope := s' }.runCalls .seeking
        (s'.function.instructions.filterMap s'.function.call?)
      = { r with scope := s' }.runCalls .seeking
        (r.scope.function.instructions.filterMap r.scope.function.call?)) :
    { r with scope := s' }.spec? = r.spec? := by
  have hrun : { r with scope := s' }.run .seeking s'.function.instructions
      = r.run .seeking r.scope.function.instructions := by
    calc { r with scope := s' }.run .seeking s'.function.instructions
        = { r with scope := s' }.runCalls .seeking
            (s'.function.instructions.filterMap s'.function.call?) :=
          Reading.run_eq_runCalls (fun id hid => hlists.exists_kind hid)
      _ = { r with scope := s' }.runCalls .seeking
            (r.scope.function.instructions.filterMap r.scope.function.call?) := hcalls
      _ = r.runCalls .seeking (r.scope.function.instructions.filterMap r.scope.function.call?) :=
          h.runCalls_eq (fun _ hc => h.sound.has_of_mem_calls hc)
      _ = r.run .seeking r.scope.function.instructions :=
          (Reading.run_eq_runCalls (fun id hid => h.lists.exists_kind hid)).symm
  unfold Reading.spec?
  dsimp only
  rw [hrun]
  exact congrArg (r.run .seeking r.scope.function.instructions >>= ·)
    (funext (fun progress => h.conclude_eq))

end Scope.ReadsAlike

end Crosswalk
