import Crosswalk.Proofs.Plan.Accounting
import Crosswalk.Proofs.Plan.Safe
import Crosswalk.Proofs.Source.Safe

/-!
# Validated programs do not fault

A program is checked once, and then relied on. What comes of it is stated here for
everything that is done with a program up to the text of its generated files: no position
past the end is followed, in whatever circles the program goes; and there is no fault of
any kind if it goes in none.

Circles are the one thing that validation lets pass. Where a type is met again inside
itself, or a chain of values leads back to where it has been, a walk may have no end.
-/

namespace Crosswalk

namespace Program

variable {p : Program}

/-- **Validation comes to the right verdict** on any program, and an analysis of one that
does not pass ends with what is wrong with it. -/
theorem validate_verdict (p : Program) (settings : Settings) :
    p.validate = .ok () ∧ p.Sound ∨
      ∃ e, p.validate = .error e ∧ ¬ p.Sound ∧
        p.analyze settings = .error (.cause (.program e)) := by
  cases h : p.validate with
  | ok u => exact .inl ⟨rfl, validate_eq_ok_iff.mp h⟩
  | error e =>
    refine .inr ⟨e, rfl, fun hsound => ?_, ?_⟩
    · rw [validate_eq_ok_iff.mpr hsound] at h
      cases h
    · unfold analyze ensureValid
      rw [h]
      rfl

/-- **A validated program never faults.** Whatever the settings are, reading any of its
functions, analysing it, and emitting the plans that come of the analysis follow no position
past the end of the types, values, blocks or functions. If one of them faults at all, it is
for a walk without an end, and the program has the circle to go round in. And validation
itself comes to the right verdict on any program whatsoever. -/
theorem faultless_of_validate (h : p.validate = .ok ()) (settings : Settings) :
    (∀ id fault, p.interpret settings id = .error (.fault fault) →
      fault = .endless ∧ ¬ p.Acyclic) ∧
    (∀ fault, p.analyze settings = .error (.fault fault) → fault = .endless ∧ ¬ p.Acyclic) ∧
    (∀ a output packageName fault, p.analyze settings = .ok a →
      (p.emitter output packageName).emit a.plans = .error (.fault fault) →
        fault = .endless ∧ ¬ p.Acyclic) ∧
    ∀ q : Program, q.validate = .ok () ∧ q.Sound ∨
      ∃ e, q.validate = .error e ∧ ¬ q.Sound ∧
        q.analyze settings = .error (.cause (.program e)) := by
  have hp := tame_of_validate h
  refine ⟨fun id fault hfault => ?_, fun fault hfault => ?_,
    fun a output packageName fault ha hfault => ?_, fun q => q.validate_verdict settings⟩
  · exact (hp.interpret_safe settings id).fault hfault
  · exact (hp.analyze_safe settings).fault hfault
  · have hplans := (hp.analyze_safe settings).answer ha
    exact (Emitter.emit_safe (e := p.emitter output packageName) hp.types hplans).fault hfault

/-! ## The program of the cards -/

/-- No type of the program of the cards is met inside itself, and neither of its two boxes
is made from a box. -/
theorem cardProgram_acyclic : cardProgram.Acyclic where
  types := by
    refine not_transGen_of_lt TypeId.index (fun ⟨i⟩ b hab => ?_)
    cases hab with
    | part h =>
      obtain ⟨k, hk, -, hb⟩ := h
      have hall : ∀ entry ∈ cardProgram.types.kinds.toList.zipIdx,
          ∀ part ∈ entry.1.parts, part.index < entry.2 := by decide
      refine hall (k, i) (List.mem_zipIdx_iff_getElem?.mpr ?_) b hb
      rw [Array.getElem?_toList]
      exact hk
    | rest hk hp =>
      -- the one function type of the program takes nothing
      match i, hk with
      | 6, hk => cases hk
      | n + 7, hk => cases hk
  values := by
    intro id f s hf hs
    obtain ⟨index, -, hs⟩ := bind_eq_ok_iff.mp hs
    obtain rfl := Except.ok.inj hs
    refine not_transGen_of_lt ValueId.index (fun v w hvw => ?_)
    have hall : ∀ f ∈ cardProgram.functions.toList, ∀ entry ∈ f.values.toList.zipIdx,
        entry.1.kind.isAlloc = false ∧ ∀ o ∈ entry.1.kind.operands, o.index < entry.2 := by
      decide
    have hvalue : ∀ kind, f.kind? v = some kind →
        kind.isAlloc = false ∧ ∀ o ∈ kind.operands, o.index < v.index := by
      intro kind hk
      obtain ⟨value, hvalue, rfl⟩ := Func.kind?_eq_some_iff.mp hk
      refine hall f (Array.mem_toList_iff.mpr (Array.mem_of_getElem? hf)) (value, v.index)
        (List.mem_zipIdx_iff_getElem?.mpr ?_)
      rw [Array.getElem?_toList]
      exact hvalue
    cases hvw with
    | boxed hk => exact (hvalue _ hk).2 w List.mem_cons_self
    | loaded hk => exact (hvalue _ hk).2 w List.mem_cons_self
    | stored hk => cases (hvalue _ hk).1

/-- Reading, analysing and emitting the program of the cards never faults. -/
theorem cardProgram_faultless :
    cardProgram.validate = .ok () ∧ cardProgram.Acyclic ∧ ∀ settings : Settings,
      (∀ id fault, cardProgram.interpret settings id ≠ .error (.fault fault)) ∧
      (∀ fault, cardProgram.analyze settings ≠ .error (.fault fault)) ∧
      ∀ a output packageName fault, cardProgram.analyze settings = .ok a →
        (cardProgram.emitter output packageName).emit a.plans ≠ .error (.fault fault) := by
  have hvalid : cardProgram.validate = .ok () := by decide +kernel
  refine ⟨hvalid, cardProgram_acyclic, fun settings => ?_⟩
  obtain ⟨hinterpret, hanalyze, hemit, -⟩ := faultless_of_validate hvalid settings
  refine ⟨fun id fault h => ?_, fun fault h => ?_, fun a output packageName fault ha h => ?_⟩
  · exact (hinterpret id fault h).2 cardProgram_acyclic
  · exact (hanalyze fault h).2 cardProgram_acyclic
  · exact (hemit a output packageName fault ha h).2 cardProgram_acyclic

end Program

end Crosswalk
