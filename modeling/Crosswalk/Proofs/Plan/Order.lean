import Crosswalk.Proofs.Plan.Delegates
import Crosswalk.Proofs.Program.Reorder
import Crosswalk.Proofs.Source.Mirror

/-!
# The order of declaration

Nothing that is made of a program depends on the order in which its functions are declared.
Functions are read in that order, so it may decide *which* complaint comes first, but not
whether there is one. Delegates are found by the functions they were read of, wherever those
stand. And the registry puts specifications in the order of their names before anything is
planned, so that plans, reports and files come out in one order.

Two specifications with the same names are the exception: they stay in the order in which they
were read. Where no two mapping functions share both names, what comes out is the same in every
detail.
-/

namespace Crosswalk

variable {ρ : FunctionId → FunctionId} {R : TypeId → TypeId → Prop}
  {E : TypeId → TypeId → Conversion → Conversion → Prop}

namespace Program

variable {p p' : Program} {settings : Settings} {a a' : Analysis} {registry registry' : Registry}

theorem pairwise_registry (hcollect : p.collect settings = .ok registry) :
    registry.specs.Pairwise (fun s s' => s.comesBefore s' = true) := by
  obtain ⟨-, -, -, hsorted⟩ := exists_specsOf_of_collect hcollect
  exact hsorted

/-- **Names decide the order of registered specifications**, where no two have the same. -/
theorem Mirrors.specs (h : p.Mirrors ρ R p') (hp : p.validate = .ok ()) (hp' : p'.validate = .ok ())
    (hcollect : p.collect settings = .ok registry)
    (hcollect' : p'.collect settings = .ok registry') (hreg : registry.Mirrors ρ R registry')
    (hnames : (registry.specs.map (fun s => (s.name, s.qualifiedName))).Nodup) :
    List.Forall₂ (MappingSpec.Mirrors ρ R) registry.specs registry'.specs := by
  have hnodup := nodup_registry hp hcollect
  have hnodup' := nodup_registry hp' hcollect'
  refine forall₂_of_pairwise (pairwise_registry hcollect) (pairwise_registry hcollect') ?_ ?_
    (fun _ _ => MappingSpec.names_eq_of_comesBefore) hnames (.of_map _ hnodup')
    (fun _ => hreg.exists_spec hnodup)
    (fun _ => hreg.exists_original h.bijective.surjective hnodup') ?_
  · intro s s' d d' hs hd
    rw [MappingSpec.comesBefore_iff, MappingSpec.comesBefore_iff, hs.name, hs.qualifiedName,
      hd.name, hd.qualifiedName]
    exact id
  · intro s s' hs
    rw [hs.name, hs.qualifiedName]
  · intro s b hb b' hb' hsb hsb'
    exact List.inj_on_of_nodup_map hnodup' hb hb' (hsb.function.trans hsb'.function.symm)

/-- **Analyses come to the same in the same order**, where no two specifications have the same
names. -/
theorem Mirrors.analysis (h : p.Mirrors ρ R p') (ht : p.types.Indistinct R E)
    (hjudges : p.JudgesAlike settings ρ p') (ha : p.analyze settings = .ok a)
    (ha' : p'.analyze settings = .ok a')
    (hnames : (a.registry.specs.map (fun s => (s.name, s.qualifiedName))).Nodup) :
    Analysis.Mirrors ρ R E a a' := by
  obtain ⟨hp, hcollect, hplans⟩ := analyze_eq_ok ha
  obtain ⟨hp', hcollect', hplans'⟩ := analyze_eq_ok ha'
  have hreg := h.mirrors_registry ht hjudges hp hp' hcollect hcollect'
  have hspecs := h.specs hp hp' hcollect hcollect' hreg hnames
  exact ⟨hspecs, (h.planAll ht hreg hspecs).answer (mapM_eq_ok_iff.mpr hplans)
    (mapM_eq_ok_iff.mpr hplans')⟩

/-- **The order of declaration does not matter.** A program can be analysed exactly if it can
be with its functions in another order. Where no two mapping functions share both names, the
reports are the same in the same order, and the same files are emitted with the same contents,
or none for the same reason. -/
theorem outcome_reorder (p : Program) (settings : Settings)
    (σ : Equiv.Perm (Fin p.functions.size)) (hp : p.validate = .ok ()) :
    ((∃ a, p.analyze settings = .ok a) ↔ ∃ a', (p.reorder σ).analyze settings = .ok a') ∧
    ∀ a a', p.analyze settings = .ok a → (p.reorder σ).analyze settings = .ok a' →
      (a.registry.specs.map (fun s => (s.name, s.qualifiedName))).Nodup →
        a.plans.map (Plan.report p.types) = a'.plans.map (Plan.report (p.reorder σ).types) ∧
        ∀ output packageName, (p.emitter output packageName).emit a.plans
          = ((p.reorder σ).emitter output packageName).emit a'.plans := by
  have h := p.mirrors_reorder σ
  have ht := p.types.indistinct_eq
  have hp' : (p.reorder σ).validate = .ok () :=
    validate_eq_ok_iff.mpr (h.sound (fun _ _ heq => heq ▸ id) (validate_eq_ok_iff.mp hp))
  refine ⟨h.analyze_iff ht h.judgesAlike hp hp', fun a a' ha ha' hnames => ?_⟩
  have hplans := (h.analysis ht h.judgesAlike ha ha' hnames).plans
  refine ⟨?_, fun output packageName => Emitter.emit_mirrors hplans⟩
  exact map_eq_map_of_forall₂ (hplans.imp (fun _ _ hplan => hplan.report p.types))

/-- The two mappings of the tags trade places. -/
def tagSwap : Equiv.Perm (Fin tagProgram.functions.size) := Equiv.swap ⟨1, by decide⟩ ⟨2, by decide⟩

/-- The tags of cards come out the same when the mapping of labels is declared before the
mapping that calls it. -/
theorem tagProgram_outcome_reorder : tagProgram.validate = .ok () ∧
    ∃ a a', tagProgram.analyze {} = .ok a ∧ (tagProgram.reorder tagSwap).analyze {} = .ok a' ∧
      (a.registry.specs.map (fun s => (s.name, s.qualifiedName))).Nodup ∧
      a.plans.map (Plan.report tagProgram.types)
        = a'.plans.map (Plan.report (tagProgram.reorder tagSwap).types) ∧
      (tagProgram.emitter {}).emit a.plans
        = ((tagProgram.reorder tagSwap).emitter {}).emit a'.plans := by
  obtain ⟨hanalyses, hsame⟩ := outcome_reorder tagProgram {} tagSwap tagProgram_valid
  obtain ⟨a', ha'⟩ := hanalyses.mp ⟨_, tagProgram_analyze⟩
  have hnames : (([toCardSpec, toTagSpec] : List MappingSpec).map
      (fun s => (s.name, s.qualifiedName))).Nodup := by decide
  obtain ⟨hreports, hfiles⟩ := hsame _ a' tagProgram_analyze ha' hnames
  exact ⟨tagProgram_valid, _, a', tagProgram_analyze, ha', hnames, hreports, hfiles _ _⟩

end Program

end Crosswalk
