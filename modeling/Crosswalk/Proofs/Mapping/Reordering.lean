import Crosswalk.Proofs.Mapping.Protocol
import Crosswalk.Proofs.Plan.Asking

/-!
# Configuring in another order

Once a mapping has begun, each marker call adds what it says, and it says it whatever the others
say. So the calls may come in another order: what they come to asks the same
(`Reading.Reordered.foldlM`), as long as two orders are kept. Of the calls that feed one
destination field, the last one holds. And the functions that nested values may be mapped with
are listed in the order in which they were named.
-/

namespace Crosswalk

/-! ## What additions come to -/

namespace Addition

instance : Inhabited Addition := ⟨.recognize []⟩

/-- The prefixes that are added. -/
def prefixes : Addition → List String
  | .recognize prefixes => prefixes
  | _ => []

/-- The ignored names that are added. -/
def names : Addition → List String
  | .ignore names => names
  | _ => []

/-- The override that is added, the destination field first. -/
def feeds : Addition → List (String × String)
  | .feed dest source => [(dest, source)]
  | _ => []

/-- The functions that are added. -/
def functions : Addition → List FunctionId
  | .delegate functions => functions
  | _ => []

variable {additions additions' : List Addition}

/-- **What additions come to.** -/
theorem foldl_apply (additions : List Addition) (spec : MappingSpec) :
    additions.foldl apply spec = { spec with
      recognizedPrefixes := spec.recognizedPrefixes.insertAll (additions.flatMap prefixes)
      ignoredDestFields := spec.ignoredDestFields.insertAll (additions.flatMap names)
      manualFieldOverrides := spec.manualFieldOverrides.insertEach (additions.flatMap feeds)
      delegateMappings := spec.delegateMappings.insertAll (additions.flatMap functions) } := by
  refine MappingSpec.foldl_listed (fun spec addition => ?_) additions spec
  cases addition <;> rfl

/-- **Additions in another order ask the same**, if the overrides of each field and the functions
are added in the order they were. -/
theorem asksSame_foldl (spec : MappingSpec) (hperm : additions'.Perm additions)
    (hfeeds : ∀ dest, (additions'.flatMap feeds).filter (fun e => e.1 = dest)
      = (additions.flatMap feeds).filter (fun e => e.1 = dest))
    (hfunctions : additions'.flatMap functions = additions.flatMap functions) :
    (additions.foldl apply spec).AsksSame (additions'.foldl apply spec) := by
  rw [foldl_apply additions, foldl_apply additions', hfunctions]
  refine ⟨rfl, ⟨fun x => ?_, fun x => ?_, fun name => ?_⟩⟩
  · exact OrderedSet.mem_insertAll.trans (Iff.trans (or_congr_right
      (hperm.flatMap_right prefixes).mem_iff.symm) OrderedSet.mem_insertAll.symm)
  · exact OrderedSet.mem_insertAll.trans (Iff.trans (or_congr_right
      (hperm.flatMap_right names).mem_iff.symm) OrderedSet.mem_insertAll.symm)
  · exact OrderedMap.get?_insertEach_congr (hfeeds name).symm rfl

end Addition

/-! ## What calls say -/

namespace Reading

variable {r : Reading} {destType : TypeId} {mark : MarkerCall × List ValueId}
  {addition addition' : Addition} {first spec : MappingSpec}
  {rest rest' : List (MarkerCall × List ValueId)}

/-- A call says one thing only. -/
theorem Says.unique (h : r.Says destType mark addition) (h' : r.Says destType mark addition') :
    addition = addition' := by
  cases h with
  | recognizePrefixes h =>
    cases h' with
    | recognizePrefixes h' => rw [Except.ok.inj (h.symm.trans h')]
  | mapField hs hd =>
    cases h' with
    | mapField hs' hd' =>
      rw [Except.ok.inj (hs.symm.trans hs'), Except.ok.inj (hd.symm.trans hd')]
  | ignoreFields h =>
    cases h' with
    | ignoreFields h' => rw [Except.ok.inj (h.symm.trans h')]
  | mapWith h =>
    cases h' with
    | mapWith h' => rw [Except.ok.inj (h.symm.trans h')]

/-- **The destination field that a call feeds**, if it feeds one. -/
def fedField? (r : Reading) : MarkerCall × List ValueId → Option String
  | (.direct .mapField, [_, dest]) =>
    match r.scope.selector dest with
    | .ok selector => some selector.field.name
    | .error _ => none
  | _ => none

/-- Whether a call names functions to map nested values with. -/
def delegates (mark : MarkerCall × List ValueId) : Bool := mark.1 = .direct .mapWith

theorem Says.fedField? (h : r.Says destType mark addition) {e : String × String}
    (he : e ∈ addition.feeds) : r.fedField? mark = some e.1 := by
  cases h with
  | mapField hs hd =>
    rw [List.mem_singleton.mp he]
    unfold Reading.fedField?
    dsimp only
    rw [hd]
  | _ => cases he

theorem Says.delegates (h : r.Says destType mark addition) {id : FunctionId}
    (hid : id ∈ addition.functions) : Reading.delegates mark = true := by
  cases h with
  | mapWith => rfl
  | _ => cases hid

/-- **The marker calls `rest'` are the calls `rest` in another order**, except that those that feed
one field, and those that name functions, come in the order in which they came. -/
structure Reordered (r : Reading) (rest rest' : List (MarkerCall × List ValueId)) : Prop where
  /-- They are the same calls. -/
  perm : rest'.Perm rest
  /-- The calls that feed one field. -/
  feeds : ∀ dest, rest'.filter (fun mark => r.fedField? mark = some dest)
    = rest.filter (fun mark => r.fedField? mark = some dest)
  /-- The calls that name functions. -/
  delegates : rest'.filter delegates = rest.filter delegates

/-- **Calls in another order ask the same.** -/
theorem Reordered.foldlM (h : r.Reordered rest rest')
    (hspec : rest.foldlM r.follow (.accumulating first) = .ok (.accumulating spec)) :
    ∃ spec', rest'.foldlM r.follow (.accumulating first) = .ok (.accumulating spec') ∧
      spec.AsksSame spec' := by
  obtain ⟨additions, hsaid, hadded⟩ := foldlM_eq_ok_iff.mp hspec
  obtain rfl := Progress.accumulating.inj hadded
  obtain ⟨said, rfl, hmeant⟩ := exists_map_of_forall₂ hsaid (fun _ _ _ => Says.unique)
  have hrest : ∀ mark ∈ rest', mark ∈ rest := fun mark => h.perm.mem_iff.mp
  refine ⟨_, foldlM_eq_ok_iff.mpr ⟨rest'.map said, ?_, rfl⟩, ?_⟩
  · refine List.forall₂_map_right_iff.mpr (List.forall₂_same.mpr (fun mark hmark => ?_))
    exact hmeant mark (hrest mark hmark)
  refine Addition.asksSame_foldl first (h.perm.map said) (fun dest => ?_) ?_
  · -- only calls that feed the field add to what is said of it
    have hfed : ∀ mark ∈ rest, ¬ decide (r.fedField? mark = some dest) = true →
        (said mark).feeds.filter (fun e => e.1 = dest) = [] := by
      intro mark hmark hno
      refine List.filter_eq_nil_iff.mpr (fun e he heq => hno (decide_eq_true ?_))
      rw [(hmeant mark hmark).fedField? he, of_decide_eq_true heq]
    simp only [List.flatMap_map, List.filter_flatMap]
    rw [← flatMap_filter_of_eq_nil hfed, ← flatMap_filter_of_eq_nil
      (fun mark hmark => hfed mark (hrest mark hmark)), h.feeds dest]
  · have hnamed : ∀ mark ∈ rest, ¬ Reading.delegates mark = true → (said mark).functions = [] := by
      intro mark hmark hno
      refine List.eq_nil_iff_forall_not_mem.mpr (fun id hid => hno ?_)
      exact (hmeant mark hmark).delegates hid
    simp only [List.flatMap_map]
    rw [← flatMap_filter_of_eq_nil hnamed, ← flatMap_filter_of_eq_nil
      (fun mark hmark => hnamed mark (hrest mark hmark)), h.delegates]

end Reading

end Crosswalk
