import Crosswalk.Plan.Report
import Crosswalk.Proofs.Plan.Mirror
import Crosswalk.Source.Emission

/-!
# What is shown and written of plans that mirror one another

A plan refers to functions in three places: it says which function it is for, which ones the
function delegates to, and which one a conversion calls. Reports and generated files name
functions, and never say where they stand. So plans that differ in positions only are reported
alike and written alike, down to the reason why they cannot be written.
-/

namespace Crosswalk

variable {ρ : FunctionId → FunctionId} {t : TypeTable}

/-- **Two plans that differ only in the positions of functions.** -/
abbrev Plan.Moved (ρ : FunctionId → FunctionId) : Plan → Plan → Prop :=
  Plan.Mirrors ρ Eq (fun _ _ => Eq)

/-- Two fields that are fed alike, but for the positions of functions. -/
abbrev PlannedField.Moved (ρ : FunctionId → FunctionId) : PlannedField → PlannedField → Prop :=
  PlannedField.Mirrors ρ Eq (fun _ _ => Eq)

/-! ## Conversions -/

namespace Conversion.Mirrors

variable {c c' : Conversion}

theorem report (h : Conversion.Mirrors ρ Eq c c') (t : TypeTable) : c.report t = c'.report t := by
  cases h with
  | assign => rfl
  | coerce h => rw [h]
  | delegate function name style => cases style <;> rfl

theorem lower (h : Conversion.Mirrors ρ Eq c c') (t : TypeTable) (home : String) (source : Expr) :
    t.lower home c source = t.lower home c' source := by
  cases h with
  | assign => rfl
  | coerce h => rw [h]
  | delegate function name style => cases style <;> rfl

end Conversion.Mirrors

/-! ## Reports -/

/-- What is made of the names of fields is the same. -/
theorem RecordField.map_eq_map_of_copied {α : Type} {R : TypeId → TypeId → Prop}
    {fs gs : List RecordField} {make : RecordField → α}
    (hmake : ∀ f g : RecordField, f.name = g.name → make f = make g)
    (h : List.Forall₂ (RecordField.Copied R) fs gs) : fs.map make = gs.map make :=
  map_eq_map_of_forall₂ (h.imp (fun f g hfield => hmake f g hfield.name))

theorem PlanBody.Mirrors.reportLines {x y : PlanBody}
    (h : PlanBody.Mirrors ρ Eq (fun _ _ => Eq) x y) (t : TypeTable) :
    x.reportLines t = y.reportLines t := by
  unfold PlanBody.reportLines
  cases h with
  | record hfields hunmatched =>
    dsimp only
    rw [RecordField.map_eq_map_of_copied (fun f g hname => by rw [hname]) hunmatched]
    congr 1
    refine mapM_eq_mapM_of_forall₂ (hfields.imp (fun f g hfg => ?_))
    rw [hfg.conversion.report, hfg.pair.source.name, hfg.pair.dest.name]
  | elements hsrc hdst hc =>
    dsimp only
    rw [hc.report, hsrc, hdst]

/-- **Plans are reported alike.** -/
theorem Plan.Mirrors.report {x y : Plan} (h : Plan.Moved ρ x y) (t : TypeTable) :
    x.report t = y.report t := by
  unfold Plan.report Plan.reportLines
  rw [h.body.reportLines, h.spec.qualifiedName, h.spec.sourceType, h.spec.destType]

/-! ## Generated functions and tests -/

namespace Emitter

variable {e : Emitter} {s s' : MappingSpec} {x y : Plan} {xs ys : List Plan}

theorem headOf_mirrors (h : s.Mirrors ρ Eq s') (sourceType destType : String) :
    headOf s sourceType destType = headOf s' sourceType destType := by
  unfold headOf
  rw [h.name, h.sourceBinding, h.destBinding, h.sourceIsReceiver, h.destIsPreconstructed,
    h.destIsReturned, h.errorIsReturned]

theorem success_mirrors (h : s.Mirrors ρ Eq s') : success s = success s' := by
  unfold success
  rw [h.destBinding, h.destIsReturned, h.errorIsReturned]

theorem prepareRecord_mirrors (h : s.Mirrors ρ Eq s') (destType : String) :
    e.prepareRecord s destType = e.prepareRecord s' destType := by
  unfold prepareRecord
  rw [h.destIsPreconstructed, h.destType, h.destBinding, success_mirrors h]

theorem feedField_mirrors {f g : PlannedField} (h : s.Mirrors ρ Eq s')
    (hfg : PlannedField.Moved ρ f g) : e.feedField s f = e.feedField s' g := by
  unfold feedField
  rw [h.sourceBinding, h.destBinding, hfg.pair.source.name, hfg.pair.dest.name]
  dsimp only
  rw [hfg.conversion.lower]

theorem recordStatements_mirrors {fields fields' : List PlannedField}
    {unmatched unmatched' : List RecordField} (h : s.Mirrors ρ Eq s') (destType : String)
    (hfields : List.Forall₂ (PlannedField.Moved ρ) fields fields')
    (hunmatched : List.Forall₂ (RecordField.Copied Eq) unmatched unmatched') :
    e.recordStatements s destType fields unmatched
      = e.recordStatements s' destType fields' unmatched' := by
  have hnoMatch : unmatched.map noMatch = unmatched'.map noMatch :=
    RecordField.map_eq_map_of_copied (fun f g hname => by rw [noMatch, noMatch, hname]) hunmatched
  have hfed : fields.mapM (e.feedField s) = fields'.mapM (e.feedField s') :=
    mapM_eq_mapM_of_forall₂ (hfields.imp (fun _ _ => feedField_mirrors h))
  unfold recordStatements
  rw [prepareRecord_mirrors h, hfed, hnoMatch]

theorem elementStatements_mirrors {c c' : Conversion} (h : s.Mirrors ρ Eq s') (destType : String)
    (hc : Conversion.Mirrors ρ Eq c c') :
    e.elementStatements s destType c = e.elementStatements s' destType c' := by
  have hitem : itemName s = itemName s' := by
    unfold itemName
    rw [h.sourceBinding]
  unfold elementStatements
  rw [hc.lower, hitem, h.destType, h.destBinding, h.sourceBinding, h.destIsPreconstructed,
    h.qualifiedName]

/-- **The generated functions are the same.** -/
theorem function_mirrors (h : Plan.Moved ρ x y) : e.function x = e.function y := by
  have hlast : lastReturn x.spec = lastReturn y.spec := by
    unfold lastReturn
    rw [success_mirrors h.spec]
  have hmirrors := h.body
  unfold function
  generalize x.body = body, y.body = body' at hmirrors
  dsimp only
  rw [h.spec.sourceType, h.spec.destType, hlast]
  congr 1
  funext _
  congr 1
  funext sourceType
  congr 1
  funext destType
  rw [headOf_mirrors h.spec]
  cases hmirrors with
  | record hfields hunmatched =>
    dsimp only
    rw [recordStatements_mirrors h.spec destType hfields hunmatched]
  | elements _ _ hc =>
    dsimp only
    rw [elementStatements_mirrors h.spec destType hc]

theorem unmatchedNames_mirrors (h : Plan.Moved ρ x y) : x.unmatchedNames = y.unmatchedNames := by
  have hmirrors := h.body
  unfold Plan.unmatchedNames
  generalize x.body = body, y.body = body' at hmirrors
  cases hmirrors with
  | record _ hunmatched =>
    exact RecordField.map_eq_map_of_copied (fun _ _ hname => hname) hunmatched
  | elements _ _ _ => rfl

/-- **The tests are the same.** -/
theorem test_mirrors (h : Plan.Moved ρ x y) : e.test x = e.test y := by
  have hname : e.testName x.spec = e.testName y.spec := by
    unfold testName
    rw [h.spec.sourceIsReceiver, h.spec.sourceType, h.spec.name]
  unfold test testBody
  rw [hname, unmatchedNames_mirrors h]

/-! ## Generated files -/

theorem stem_mirrors (h : s.Mirrors ρ Eq s') : s.stem = s'.stem := by
  unfold MappingSpec.stem
  rw [h.file]

theorem stemFiles_mirrors (h : List.Forall₂ (Plan.Moved ρ) xs ys) (stem : String) :
    e.stemFiles xs stem = e.stemFiles ys stem := by
  have hown : List.Forall₂ (Plan.Moved ρ) (xs.filter (fun p => p.spec.stem = stem))
      (ys.filter (fun p => p.spec.stem = stem)) := by
    refine List.rel_filter (fun x y hxy => ?_) h
    show decide (x.spec.stem = stem) = true ↔ decide (y.spec.stem = stem) = true
    rw [stem_mirrors hxy.spec]
  unfold stemFiles sourceFile testFile
  dsimp only
  rw [mapM_eq_mapM_of_forall₂ (hown.imp (fun _ _ => function_mirrors)),
    mapM_eq_mapM_of_forall₂ (hown.imp (fun _ _ => test_mirrors))]

/-- **The same files are emitted**, or none for the same reason. -/
theorem emit_mirrors (h : List.Forall₂ (Plan.Moved ρ) xs ys) : e.emit xs = e.emit ys := by
  have hstem : xs.map (fun p => p.spec.stem) = ys.map (fun p => p.spec.stem) :=
    map_eq_map_of_forall₂ (h.imp (fun _ _ hxy => stem_mirrors hxy.spec))
  have hstems : stems xs = stems ys := by
    unfold stems
    rw [hstem]
  have hfiles : e.stemFiles xs = e.stemFiles ys := funext (stemFiles_mirrors h)
  unfold emit
  rw [hstems, hfiles]

end Emitter

end Crosswalk
