import Crosswalk.Proofs.Mapping.Safe

/-!
# What marker calls say

The first marker call of a mapping function begins a mapping (`Reading.Begins`), or it cannot,
for a reason (`Reading.CannotBegin`). Every other one says something of the mapping
(`Reading.Says`), or it is refused (`Reading.Refuses`). The four relations spell out what each
marker asks of its arguments. That they are what a reading makes of one call is proved here,
in either direction; what it makes of all the calls of a function is said elsewhere.
-/

namespace Crosswalk

/-- **What a marker call adds to a specification.** -/
inductive Addition where
  /-- Prefixes that field names may carry. -/
  | recognize (prefixes : List String)
  /-- The source field that feeds a destination field. -/
  | feed (dest source : String)
  /-- Destination fields to leave alone. -/
  | ignore (names : List String)
  /-- Functions to map nested values with. -/
  | delegate (functions : List FunctionId)
deriving DecidableEq, Repr

/-- The specification with the addition. -/
def Addition.apply : MappingSpec → Addition → MappingSpec
  | spec, .recognize prefixes =>
    { spec with recognizedPrefixes := spec.recognizedPrefixes.insertAll prefixes }
  | spec, .feed dest source =>
    { spec with manualFieldOverrides := spec.manualFieldOverrides.insert dest source }
  | spec, .ignore names => { spec with ignoredDestFields := spec.ignoredDestFields.insertAll names }
  | spec, .delegate functions =>
    { spec with delegateMappings := spec.delegateMappings.insertAll functions }

/-- **What results say of a mapping**: whether they give the destination back, and whether an
error. -/
inductive TypeTable.Gives (t : TypeTable) : List TypeId → Bool → Bool → Prop
  /-- There is no result. -/
  | nothing : Gives t [] false false
  /-- There is an error, and nothing else. -/
  | error {e : TypeId} (he : t.isError e = .ok true) : Gives t [e] false true
  /-- There is a destination, and nothing else. -/
  | dest {d : TypeId} (hd : t.isError d = .ok false) : Gives t [d] true false
  /-- There is a destination, and then an error. -/
  | both {d e : TypeId} (he : t.isError e = .ok true) : Gives t [d, e] true true

/-- Results say one thing only. -/
theorem TypeTable.Gives.unique {t : TypeTable} {results : List TypeId}
    {returned fails returned' fails' : Bool} (h : t.Gives results returned fails)
    (h' : t.Gives results returned' fails') : returned = returned' ∧ fails = fails' := by
  cases h with
  | nothing => cases h'; exact ⟨rfl, rfl⟩
  | error he =>
    cases h' with
    | error => exact ⟨rfl, rfl⟩
    | dest hd => cases he.symm.trans hd
  | dest hd =>
    cases h' with
    | error he => cases he.symm.trans hd
    | dest => exact ⟨rfl, rfl⟩
  | both he => cases h'; exact ⟨rfl, rfl⟩

/-- Results that say something are two at most. -/
theorem TypeTable.Gives.length_le {t : TypeTable} {results : List TypeId} {returned fails : Bool}
    (h : t.Gives results returned fails) : results.length ≤ 2 := by
  cases h with
  | nothing => exact Nat.zero_le 2
  | error => exact Nat.le_succ 1
  | dest => exact Nat.le_succ 1
  | both => exact Nat.le_refl 2

namespace Reading

variable {r : Reading} {spec spec' first : MappingSpec} {progress : Progress}
  {args : List ValueId} {call : MarkerCall} {m : Marker} {e : MappingError}

/-! ## What calls say -/

/-- **The specification that a mapping of one variable into another begins with.** -/
def opening (r : Reading) (source dest : Binding) (returned fails : Bool) : MappingSpec where
  function := r.scope.function.id
  name := r.scope.function.name
  qualifiedName := r.qualifiedName
  file := r.scope.function.file
  sourceType := source.type
  destType := dest.type
  sourceBinding := source.name.getD r.settings.bindings.source
  destBinding := dest.name.getD r.settings.bindings.destination
  sourceIsReceiver := r.scope.function.isMethod
  destIsPreconstructed := dest.constructed
  destIsReturned := returned
  errorIsReturned := fails
  recognizedPrefixes := .empty
  ignoredDestFields := .empty
  manualFieldOverrides := .empty
  delegateMappings := .empty

/-- **The first call begins a mapping**: it has two arguments, both variables, and the
function gives back at most a destination and then at most an error. -/
inductive Begins (r : Reading) : List ValueId → MappingSpec → Prop
  | mk {a b : ValueId} {source dest : Binding} {returned fails : Bool}
      (hs : r.scope.binding a = .ok source) (hd : r.scope.binding b = .ok dest)
      (hgives : r.types.Gives r.scope.function.signature.results returned fails) :
      Begins r [a, b] (r.opening source dest returned fails)

/-- **Why no mapping can begin.** -/
inductive CannotBegin (r : Reading) : List ValueId → MappingError → Prop
  /-- There are not two arguments. -/
  | arity {args : List ValueId} (h : args.length ≠ 2) :
      CannotBegin r args (r.wrongArity .createMap args.length)
  /-- The source is no variable. -/
  | source {a b : ValueId} {e : ShapeError} (h : r.scope.binding a = .error (.cause e)) :
      CannotBegin r [a, b] (r.malformed .createMap 0 e)
  /-- The destination is no variable. -/
  | dest {a b : ValueId} {source : Binding} {e : ShapeError} (hs : r.scope.binding a = .ok source)
      (h : r.scope.binding b = .error (.cause e)) :
      CannotBegin r [a, b] (r.malformed .createMap 1 e)
  /-- The function gives back something else. -/
  | results {a b : ValueId} {source dest : Binding} (hs : r.scope.binding a = .ok source)
      (hd : r.scope.binding b = .ok dest)
      (h : ∀ returned fails, ¬ r.types.Gives r.scope.function.signature.results returned fails) :
      CannotBegin r [a, b]
        (.resultShape r.qualifiedName r.scope.function.signature.results.length)

/-- **What a marker call says** of a mapping to `destType`. -/
inductive Says (r : Reading) (destType : TypeId) : MarkerCall × List ValueId → Addition → Prop
  /-- It lists strings. -/
  | recognizePrefixes {packed : ValueId} {prefixes : List String}
      (h : r.scope.list r.scope.literalString packed = .ok prefixes) :
      Says r destType (.direct .recognizePrefixes, [packed]) (.recognize prefixes)
  /-- It names a field, and a field of the destination's record. -/
  | mapField {a b : ValueId} {source dest : Selector} {layers : List Layer}
      (hs : r.scope.selector a = .ok source) (hd : r.scope.selector b = .ok dest)
      (hrecord : r.types.peel destType = .ok ⟨layers, dest.record⟩) :
      Says r destType (.direct .mapField, [a, b]) (.feed dest.field.name source.field.name)
  /-- It lists fields. -/
  | ignoreFields {packed : ValueId} {selectors : List Selector}
      (h : r.scope.list r.scope.selector packed = .ok selectors) :
      Says r destType (.direct .ignoreFields, [packed])
        (.ignore (selectors.map (fun s => s.field.name)))
  /-- It lists functions. -/
  | mapWith {packed : ValueId} {functions : List FunctionId}
      (h : r.scope.list r.scope.callable packed = .ok functions) :
      Says r destType (.direct .mapWith, [packed]) (.delegate functions)

/-- **Why a marker call is refused** in a mapping to `destType`. -/
inductive Refuses (r : Reading) (destType : TypeId) :
    MarkerCall × List ValueId → MappingError → Prop
  /-- It would begin the mapping once more. -/
  | again {args : List ValueId} : Refuses r destType (.direct .createMap, args)
      (r.unexpected Marker.createMap.name "the mapping has already been created")
  /-- It has too few or too many arguments. -/
  | arity {m : Marker} {args : List ValueId} (hm : m ≠ .createMap) (h : args.length ≠ m.arity) :
      Refuses r destType (.direct m, args) (r.wrongArity m args.length)
  /-- It does not list strings. -/
  | recognizePrefixes {packed : ValueId} {e : ShapeError}
      (h : r.scope.list r.scope.literalString packed = .error (.cause e)) :
      Refuses r destType (.direct .recognizePrefixes, [packed])
        (r.malformed .recognizePrefixes 0 e)
  /-- It names no field to feed from. -/
  | source {a b : ValueId} {e : ShapeError} (h : r.scope.selector a = .error (.cause e)) :
      Refuses r destType (.direct .mapField, [a, b]) (r.malformed .mapField 0 e)
  /-- It names no field to feed. -/
  | dest {a b : ValueId} {source : Selector} {e : ShapeError}
      (hs : r.scope.selector a = .ok source) (h : r.scope.selector b = .error (.cause e)) :
      Refuses r destType (.direct .mapField, [a, b]) (r.malformed .mapField 1 e)
  /-- It names a field of another record than the destination's. -/
  | record {a b : ValueId} {source dest : Selector} {peeled : Peeled}
      (hs : r.scope.selector a = .ok source) (hd : r.scope.selector b = .ok dest)
      (hpeel : r.types.peel destType = .ok peeled) (h : dest.record ≠ peeled.shape) :
      Refuses r destType (.direct .mapField, [a, b]) (r.malformed .mapField 1
        (.unexpected .destinationField ("field `" ++ dest.field.name ++ "` of another record")))
  /-- It does not list fields. -/
  | ignoreFields {packed : ValueId} {e : ShapeError}
      (h : r.scope.list r.scope.selector packed = .error (.cause e)) :
      Refuses r destType (.direct .ignoreFields, [packed]) (r.malformed .ignoreFields 0 e)
  /-- It does not list functions. -/
  | mapWith {packed : ValueId} {e : ShapeError}
      (h : r.scope.list r.scope.callable packed = .error (.cause e)) :
      Refuses r destType (.direct .mapWith, [packed]) (r.delegateError e)
  /-- What it calls is no marker. -/
  | unknown {name : String} {args : List ValueId} : Refuses r destType (.unknown name, args)
      (r.unexpected name "not a configuration function")
  /-- It is not called directly. -/
  | indirect {args : List ValueId} : Refuses r destType (.indirect, args)
      (r.unexpected "<dynamic>" "marker functions must be called directly")

/-! ## One call -/

theorem destField_eq_ok_iff {v : ValueId} {dest : Selector} :
    r.destField spec v = .ok dest ↔ r.scope.selector v = .ok dest ∧
      ∃ layers, r.types.peel spec.destType = .ok ⟨layers, dest.record⟩ := by
  unfold destField argument
  rw [bind_eq_ok_iff]
  constructor
  · rintro ⟨found, hfound, h⟩
    rw [mapCause_eq_ok_iff] at hfound
    obtain ⟨⟨layers, shape⟩, hpeel, h⟩ := bind_eq_ok_iff.mp h
    rw [liftM_eq_ok_iff] at hpeel
    split at h
    · cases h
    · rename_i hrecord
      obtain rfl := Except.ok.inj h
      exact ⟨hfound, layers, not_ne_iff.mp hrecord ▸ hpeel⟩
  · rintro ⟨hfound, layers, hpeel⟩
    refine ⟨dest, mapCause_eq_ok_iff.mpr hfound, ?_⟩
    rw [hpeel, liftM_ok, ok_bind, if_neg (not_ne_iff.mpr rfl)]
    rfl

theorem destField_eq_cause_iff {v : ValueId} :
    r.destField spec v = .error (.cause e) ↔
      (∃ shape, r.scope.selector v = .error (.cause shape) ∧ e = r.malformed .mapField 1 shape) ∨
      ∃ dest peeled, r.scope.selector v = .ok dest ∧ r.types.peel spec.destType = .ok peeled ∧
        dest.record ≠ peeled.shape ∧ e = r.malformed .mapField 1 (.unexpected .destinationField
          ("field `" ++ dest.field.name ++ "` of another record")) := by
  unfold destField argument
  rw [bind_eq_error_iff, mapCause_eq_cause_iff]
  refine or_congr_right ?_
  constructor
  · rintro ⟨dest, hdest, h⟩
    rw [mapCause_eq_ok_iff] at hdest
    obtain ⟨peeled, hpeel, h⟩ := (bind_eq_error_iff.mp h).resolve_left liftM_ne_cause
    rw [liftM_eq_ok_iff] at hpeel
    split at h
    · rename_i hrecord
      exact ⟨dest, peeled, hdest, hpeel, hrecord, (Stop.cause.inj (Except.error.inj h)).symm⟩
    · cases h
  · rintro ⟨dest, peeled, hdest, hpeel, hrecord, rfl⟩
    refine ⟨dest, mapCause_eq_ok_iff.mpr hdest, ?_⟩
    rw [hpeel, liftM_ok, ok_bind, if_pos hrecord]
    rfl

/-- **A configuration call adds what it says.** -/
theorem configure_eq_ok_iff : r.configure spec m args = .ok spec' ↔
    ∃ addition, r.Says spec.destType (.direct m, args) addition ∧
      spec' = addition.apply spec := by
  constructor
  · intro h
    unfold configure argument at h
    split at h
    · cases h
    · obtain ⟨prefixes, hprefixes, h⟩ := bind_eq_ok_iff.mp h
      exact ⟨_, .recognizePrefixes (mapCause_eq_ok_iff.mp hprefixes), (Except.ok.inj h).symm⟩
    · obtain ⟨source, hsource, h⟩ := bind_eq_ok_iff.mp h
      obtain ⟨dest, hdest, h⟩ := bind_eq_ok_iff.mp h
      obtain ⟨hdest, layers, hpeel⟩ := destField_eq_ok_iff.mp hdest
      exact ⟨_, .mapField (mapCause_eq_ok_iff.mp hsource) hdest hpeel, (Except.ok.inj h).symm⟩
    · obtain ⟨selectors, hselectors, h⟩ := bind_eq_ok_iff.mp h
      exact ⟨_, .ignoreFields (mapCause_eq_ok_iff.mp hselectors), (Except.ok.inj h).symm⟩
    · obtain ⟨functions, hfunctions, h⟩ := bind_eq_ok_iff.mp h
      exact ⟨_, .mapWith (mapCause_eq_ok_iff.mp hfunctions), (Except.ok.inj h).symm⟩
    · cases h
  · rintro ⟨addition, hsaid, rfl⟩
    cases hsaid with
    | recognizePrefixes h =>
      exact bind_eq_ok_iff.mpr ⟨_, mapCause_eq_ok_iff.mpr h, rfl⟩
    | mapField hs hd hrecord =>
      refine bind_eq_ok_iff.mpr ⟨_, mapCause_eq_ok_iff.mpr hs, ?_⟩
      exact bind_eq_ok_iff.mpr ⟨_, destField_eq_ok_iff.mpr ⟨hd, _, hrecord⟩, rfl⟩
    | ignoreFields h => exact bind_eq_ok_iff.mpr ⟨_, mapCause_eq_ok_iff.mpr h, rfl⟩
    | mapWith h => exact bind_eq_ok_iff.mpr ⟨_, mapCause_eq_ok_iff.mpr h, rfl⟩

/-- A step that is read and then put to use stops for the cause for which it cannot be
read. -/
theorem mapCause_bind_eq_cause_iff {α : Type} {x : Checked ShapeError α}
    {restate : ShapeError → MappingError} {g : α → MappingSpec} :
    (x.mapCause restate >>= fun a => .ok (g a)) = .error (.cause e) ↔
      ∃ shape, x = .error (.cause shape) ∧ e = restate shape := by
  rw [bind_eq_error_iff, mapCause_eq_cause_iff]
  exact ⟨fun h => h.resolve_right (fun ⟨_, _, h⟩ => nomatch h), .inl⟩

theorem configure_of_length_ne (hm : m ≠ .createMap) (h : args.length ≠ m.arity) :
    r.configure spec m args = .error (.cause (r.wrongArity m args.length)) := by
  unfold configure
  split
  · exact absurd rfl hm
  · exact absurd rfl h
  · exact absurd rfl h
  · exact absurd rfl h
  · exact absurd rfl h
  · rfl

/-- **A configuration call is refused for what is wrong with it.** -/
theorem configure_eq_cause_iff : r.configure spec m args = .error (.cause e) ↔
    r.Refuses spec.destType (.direct m, args) e := by
  constructor
  · intro h
    by_cases hm : m = .createMap
    · subst hm
      obtain rfl := Stop.cause.inj (Except.error.inj h)
      exact .again
    by_cases hlen : args.length ≠ m.arity
    · rw [configure_of_length_ne hm hlen] at h
      obtain rfl := Stop.cause.inj (Except.error.inj h)
      exact .arity hm hlen
    -- the number of arguments is right, so it is one of them that is not
    have hlen := not_ne_iff.mp hlen
    cases m with
    | createMap => exact absurd rfl hm
    | recognizePrefixes =>
      obtain ⟨packed, rfl⟩ := List.length_eq_one_iff.mp hlen
      obtain ⟨shape, hshape, rfl⟩ := mapCause_bind_eq_cause_iff.mp h
      exact .recognizePrefixes hshape
    | mapField =>
      obtain ⟨a, b, rfl⟩ := List.length_eq_two.mp hlen
      rcases bind_eq_error_iff.mp h with h | ⟨source, hsource, h⟩
      · obtain ⟨shape, hshape, rfl⟩ := mapCause_eq_cause_iff.mp h
        exact .source hshape
      have hsource := mapCause_eq_ok_iff.mp hsource
      have h := (bind_eq_error_iff.mp h).resolve_right (fun ⟨_, _, h⟩ => nomatch h)
      rcases destField_eq_cause_iff.mp h with ⟨shape, hshape, rfl⟩ | ⟨_, _, hd, hpeel, hne, rfl⟩
      · exact .dest hsource hshape
      · exact .record hsource hd hpeel hne
    | ignoreFields =>
      obtain ⟨packed, rfl⟩ := List.length_eq_one_iff.mp hlen
      obtain ⟨shape, hshape, rfl⟩ := mapCause_bind_eq_cause_iff.mp h
      exact .ignoreFields hshape
    | mapWith =>
      obtain ⟨packed, rfl⟩ := List.length_eq_one_iff.mp hlen
      obtain ⟨shape, hshape, rfl⟩ := mapCause_bind_eq_cause_iff.mp h
      exact .mapWith hshape
  · intro h
    cases h with
    | again => rfl
    | arity hm h => exact configure_of_length_ne hm h
    | recognizePrefixes h => exact mapCause_bind_eq_cause_iff.mpr ⟨_, h, rfl⟩
    | source h => exact bind_eq_error_iff.mpr (.inl (mapCause_eq_cause_iff.mpr ⟨_, h, rfl⟩))
    | dest hs h =>
      refine bind_eq_error_iff.mpr (.inr ⟨_, mapCause_eq_ok_iff.mpr hs, ?_⟩)
      exact bind_eq_error_iff.mpr (.inl (destField_eq_cause_iff.mpr (.inl ⟨_, h, rfl⟩)))
    | record hs hd hpeel h =>
      refine bind_eq_error_iff.mpr (.inr ⟨_, mapCause_eq_ok_iff.mpr hs, ?_⟩)
      refine bind_eq_error_iff.mpr (.inl (destField_eq_cause_iff.mpr (.inr ?_)))
      exact ⟨_, _, hd, hpeel, h, rfl⟩
    | ignoreFields h => exact mapCause_bind_eq_cause_iff.mpr ⟨_, h, rfl⟩
    | mapWith h => exact mapCause_bind_eq_cause_iff.mpr ⟨_, h, rfl⟩

/-- **In a mapping that has begun a call adds what it says**, whatever it calls. -/
theorem advance_eq_ok_iff : r.advance (.accumulating spec) call args = .ok progress ↔
    ∃ addition, r.Says spec.destType (call, args) addition ∧
      progress = .accumulating (addition.apply spec) := by
  cases call with
  | direct m =>
    show (r.configure spec m args >>= fun spec => .ok (.accumulating spec)) = .ok progress ↔ _
    rw [bind_eq_ok_iff]
    constructor
    · rintro ⟨spec', h, heq⟩
      obtain ⟨addition, hsaid, rfl⟩ := configure_eq_ok_iff.mp h
      exact ⟨addition, hsaid, (Except.ok.inj heq).symm⟩
    · rintro ⟨addition, hsaid, rfl⟩
      exact ⟨_, configure_eq_ok_iff.mpr ⟨addition, hsaid, rfl⟩, rfl⟩
  | unknown name => exact ⟨nofun, fun ⟨_, h, _⟩ => nomatch h⟩
  | indirect => exact ⟨nofun, fun ⟨_, h, _⟩ => nomatch h⟩

theorem advance_eq_cause_iff : r.advance (.accumulating spec) call args = .error (.cause e) ↔
    r.Refuses spec.destType (call, args) e := by
  cases call with
  | direct m =>
    show (r.configure spec m args >>= fun spec => .ok (Progress.accumulating spec)) = _ ↔ _
    rw [bind_eq_error_iff, configure_eq_cause_iff]
    exact ⟨fun h => h.resolve_right (fun ⟨_, _, h⟩ => nomatch h), .inl⟩
  | unknown name =>
    constructor
    · intro h
      obtain rfl := Stop.cause.inj (Except.error.inj h)
      exact .unknown
    · rintro ⟨⟩
      rfl
  | indirect =>
    constructor
    · intro h
      obtain rfl := Stop.cause.inj (Except.error.inj h)
      exact .indirect
    · rintro ⟨⟩
      rfl

/-! ## The beginning -/

theorem splitError_concat {t : TypeTable} {init : List TypeId} {last : TypeId} {fails : Bool}
    (h : t.isError last = .ok fails) :
    splitError t (init ++ [last])
      = .ok (if fails then (init, true) else (init ++ [last], false)) := by
  unfold splitError
  rw [List.getLast?_concat]
  show (t.isError last >>= fun fails => _) = _
  rw [h, ok_bind, List.dropLast_concat]
  cases fails <;> rfl

/-- **What the results say is what they are taken for**; there is nothing else that they could
say. -/
theorem resultShape_cases (hhas : ∀ id ∈ r.scope.function.signature.results, r.types.Has id) :
    (∃ returned fails, r.resultShape = .ok (returned, fails) ∧
      r.types.Gives r.scope.function.signature.results returned fails) ∨
    r.resultShape = .error (.cause
        (.resultShape r.qualifiedName r.scope.function.signature.results.length)) ∧
      ∀ returned fails, ¬ r.types.Gives r.scope.function.signature.results returned fails := by
  unfold resultShape
  generalize r.scope.function.signature.results = results at hhas ⊢
  rcases List.eq_nil_or_concat' results with rfl | ⟨init, last, rfl⟩
  · exact .inl ⟨false, false, rfl, .nothing⟩
  have hsafe : (r.types.isError last).Safe False (fun _ => True) :=
    (hhas last (List.mem_append_right _ List.mem_cons_self)).isError_safe
  obtain ⟨fails, hfails, -⟩ := hsafe.exists_ok
  dsimp only
  rw [splitError_concat hfails, liftM_ok, ok_bind]
  cases fails with
  | true =>
    match init with
    | [] => exact .inl ⟨false, true, rfl, .error hfails⟩
    | [d] => exact .inl ⟨true, true, rfl, .both hfails⟩
    | _ :: _ :: _ => exact .inr ⟨rfl, fun _ _ hgives => absurd hgives.length_le (by simp)⟩
  | false =>
    match init with
    | [] => exact .inl ⟨true, false, rfl, .dest hfails⟩
    | [d] =>
      refine .inr ⟨rfl, fun _ _ hgives => ?_⟩
      cases hgives with
      | both he => cases he.symm.trans hfails
    | _ :: _ :: _ => exact .inr ⟨rfl, fun _ _ hgives => absurd hgives.length_le (by simp)⟩

theorem start_eq_ok_iff (hhas : ∀ id ∈ r.scope.function.signature.results, r.types.Has id) :
    r.start args = .ok first ↔ r.Begins args first := by
  unfold start argument
  constructor
  · intro h
    split at h
    · obtain ⟨source, hsource, h⟩ := bind_eq_ok_iff.mp h
      obtain ⟨dest, hdest, h⟩ := bind_eq_ok_iff.mp h
      obtain ⟨⟨returned, fails⟩, hshape, h⟩ := bind_eq_ok_iff.mp h
      obtain rfl := Except.ok.inj h
      refine .mk (mapCause_eq_ok_iff.mp hsource) (mapCause_eq_ok_iff.mp hdest) ?_
      rcases resultShape_cases hhas with ⟨returned', fails', hshape', hgives⟩ | ⟨hshape', -⟩
      · obtain ⟨rfl, rfl⟩ := Prod.mk.inj (Except.ok.inj (hshape.symm.trans hshape'))
        exact hgives
      · cases hshape.symm.trans hshape'
    · cases h
  · intro h
    obtain @⟨a, b, source, dest, returned, fails, hs, hd, hgives⟩ := h
    refine bind_eq_ok_iff.mpr ⟨source, mapCause_eq_ok_iff.mpr hs, ?_⟩
    refine bind_eq_ok_iff.mpr ⟨dest, mapCause_eq_ok_iff.mpr hd, ?_⟩
    refine bind_eq_ok_iff.mpr ⟨(returned, fails), ?_, rfl⟩
    rcases resultShape_cases hhas with ⟨returned', fails', hshape, hgives'⟩ | ⟨-, hno⟩
    · obtain ⟨rfl, rfl⟩ := hgives.unique hgives'
      exact hshape
    · exact absurd hgives (hno _ _)

theorem start_eq_cause_iff (hhas : ∀ id ∈ r.scope.function.signature.results, r.types.Has id) :
    r.start args = .error (.cause e) ↔ r.CannotBegin args e := by
  unfold start argument
  constructor
  · intro h
    split at h
    · rcases bind_eq_error_iff.mp h with h | ⟨source, hsource, h⟩
      · obtain ⟨shape, hshape, rfl⟩ := mapCause_eq_cause_iff.mp h
        exact .source hshape
      have hsource := mapCause_eq_ok_iff.mp hsource
      rcases bind_eq_error_iff.mp h with h | ⟨dest, hdest, h⟩
      · obtain ⟨shape, hshape, rfl⟩ := mapCause_eq_cause_iff.mp h
        exact .dest hsource hshape
      have hdest := mapCause_eq_ok_iff.mp hdest
      have h := (bind_eq_error_iff.mp h).resolve_right (fun ⟨_, _, h⟩ => nomatch h)
      rcases resultShape_cases hhas with ⟨_, _, hshape, -⟩ | ⟨hshape, hno⟩
      · cases h.symm.trans hshape
      · obtain rfl := Stop.cause.inj (Except.error.inj (h.symm.trans hshape))
        exact .results hsource hdest hno
    · rename_i hlen
      obtain rfl := Stop.cause.inj (Except.error.inj h)
      refine .arity (fun htwo => ?_)
      obtain ⟨a, b, rfl⟩ := List.length_eq_two.mp htwo
      exact hlen a b rfl
  · intro h
    cases h with
    | arity h =>
      split
      · exact absurd rfl h
      · rfl
    | source h => exact bind_eq_error_iff.mpr (.inl (mapCause_eq_cause_iff.mpr ⟨_, h, rfl⟩))
    | dest hs h =>
      refine bind_eq_error_iff.mpr (.inr ⟨_, mapCause_eq_ok_iff.mpr hs, ?_⟩)
      exact bind_eq_error_iff.mpr (.inl (mapCause_eq_cause_iff.mpr ⟨_, h, rfl⟩))
    | results hs hd hno =>
      refine bind_eq_error_iff.mpr (.inr ⟨_, mapCause_eq_ok_iff.mpr hs, ?_⟩)
      refine bind_eq_error_iff.mpr (.inr ⟨_, mapCause_eq_ok_iff.mpr hd, ?_⟩)
      rcases resultShape_cases hhas with ⟨_, _, -, hgives⟩ | ⟨hshape, -⟩
      · exact absurd hgives (hno _ _)
      · exact bind_eq_error_iff.mpr (.inl hshape)

end Reading

end Crosswalk
