import Crosswalk.Proofs.Coercion.Walk
import Crosswalk.Proofs.Matching
import Crosswalk.Proofs.Types.Safe

/-!
# Safe walks between types

Matching and converting walk from pair to pair of types. Both remember the pairs they
have met, so they end even where types are declared by themselves: there are no more
pairs than the square of the table's size, and a walk has a step for each
(`TypeTable.Met`). What remains to be seen to is that every pair is one of positions that
exist.
-/

namespace Crosswalk

namespace TypeTable

variable {t : TypeTable} {src dst : TypeId} {seen : List (TypeId × TypeId)} {n : Nat}
  {loops : Prop}

/-! ## Pairs that have been met -/

/-- **A walk that has met the pairs `seen` can take `n` steps more**, one for each pair that
it has not met, and another. -/
structure Met (t : TypeTable) (seen : List (TypeId × TypeId)) (n : Nat) : Prop where
  /-- No pair has been met twice. -/
  nodup : seen.Nodup
  /-- All pairs are of positions that exist. -/
  has : ∀ p ∈ seen, t.Has p.1 ∧ t.Has p.2
  /-- There are more steps than pairs. -/
  room : t.size * t.size < seen.length + n

namespace Met

theorem start (t : TypeTable) : t.Met [] (t.size * t.size + 2) :=
  ⟨List.nodup_nil, nofun, by rw [List.length_nil]; omega⟩

/-- The last step is never taken. -/
theorem not_zero (h : t.Met seen 0) : False :=
  absurd (length_le_size_mul_size h.nodup h.has) (Nat.not_le_of_lt h.room)

theorem next (h : t.Met seen (n + 1)) (hnew : (src, dst) ∉ seen) (hs : t.Has src)
    (hd : t.Has dst) : t.Met ((src, dst) :: seen) n where
  nodup := List.nodup_cons.mpr ⟨hnew, h.nodup⟩
  has := List.forall_mem_cons.mpr ⟨⟨hs, hd⟩, h.has⟩
  room := by
    have hroom := h.room
    rw [List.length_cons]
    omega

end Met

namespace Grounded

/-! ## Matching types -/

theorem compatibleFrom_safe (ht : t.Grounded loops) (hseen : t.Met seen n) (hs : t.Has src)
    (hd : t.Has dst) : (t.compatibleFrom n seen src dst).Safe loops (fun _ => True) := by
  induction n generalizing seen src dst with
  | zero => exact hseen.not_zero.elim
  | succ n ih =>
    change Lookup.Safe loops _ (if (src, dst) ∈ seen then Except.ok false
      else t.assignable src dst >>= fun fits => _)
    split
    · exact trivial
    · rename_i hnew
      have hnext := hseen.next hnew hs hd
      refine (ht.assignable_safe hs hd).bind (fun fits _ => ?_)
      split
      · exact trivial
      refine (ht.closed.pointee_safe hd).bind (fun pointee hpointee => ?_)
      split
      · exact ih hnext hs (hpointee _ rfl)
      refine (ht.closed.unname_safe hs).bind (fun s hs => ?_)
      refine (ht.closed.unname_safe hd).bind (fun d hd => ?_)
      split
      · exact trivial
      · exact ih hnext hs hd

/-- **Whether one type may feed another** is a safe question. -/
theorem compatible_safe (ht : t.Grounded loops) (hs : t.Has src) (hd : t.Has dst) :
    (t.compatible src dst).Safe loops (fun _ => True) :=
  ht.compatibleFrom_safe (.start t) hs hd

/-! ## Conversions -/

theorem coercionFrom_safe (ht : t.Grounded loops) (hseen : t.Met seen n) (hs : t.Has src)
    (hd : t.Has dst) : (t.coercionFrom n seen src dst).Safe loops (fun _ => True) := by
  induction n generalizing seen src dst with
  | zero => exact hseen.not_zero.elim
  | succ n ih =>
    rw [coercionFrom]
    refine (ht.assignable_safe hs hd).bind (fun fits _ => ?_)
    split
    · exact trivial
    split
    · exact trivial
    rename_i hnew
    have hnext := hseen.next hnew hs hd
    refine (ht.closed.pointee_safe hd).bind (fun pointee hpointee => ?_)
    split
    · exact (ih hnext hs (hpointee _ rfl)).bind (fun _ _ => trivial)
    refine (ht.closed.pointee_safe hs).bind (fun pointee hpointee => ?_)
    split
    · exact (ih hnext (hpointee _ rfl) hd).bind (fun _ _ => trivial)
    refine hd.isNamed_safe.bind (fun named _ => ?_)
    split
    · refine (ht.closed.unname_safe hd).bind (fun d hd => ?_)
      exact (ih hnext hs hd).bind (fun _ _ => trivial)
    refine hs.isNamed_safe.bind (fun named _ => ?_)
    split
    · refine (ht.closed.unname_safe hs).bind (fun s hs => ?_)
      exact (ih hnext hs hd).bind (fun _ _ => trivial)
    · exact trivial

/-- **Coercing one type to another** is safe. -/
theorem coerce_safe (ht : t.Grounded loops) (hs : t.Has src) (hd : t.Has dst) :
    (t.coerce src dst).Safe loops (fun _ => True) :=
  (ht.coercionFrom_safe (.start t) hs hd).bind (fun _ _ => trivial)

end Grounded

end TypeTable

/-- **The types of the specification exist.** -/
structure MappingSpec.Typed (t : TypeTable) (spec : MappingSpec) : Prop where
  /-- That of the source. -/
  source : t.Has spec.sourceType
  /-- That of the destination. -/
  dest : t.Has spec.destType

namespace TypeTable

variable {t : TypeTable} {src dst : TypeId} {delegates : List MappingSpec} {d : MappingSpec}
  {loops : Prop}

namespace Grounded

theorem converts_safe (ht : t.Grounded loops) (hspec : d.Typed t) (hs : t.Has src)
    (hd : t.Has dst) : (d.converts t src dst).Safe loops (fun _ => True) := by
  refine (ht.assignable_safe hspec.dest hd).bind (fun fits _ => ?_)
  split
  · exact trivial
  refine (ht.assignable_safe hs hspec.source).bind (fun taken _ => ?_)
  split
  · exact trivial
  split
  · exact trivial
  refine (ht.closed.pointee_safe hspec.source).bind (fun pointee hpointee => ?_)
  split
  · exact ht.assignable_safe hs (hpointee _ rfl)
  · exact trivial

theorem findDelegate_safe (ht : t.Grounded loops) (hdelegates : ∀ d ∈ delegates, d.Typed t)
    (hs : t.Has src) (hd : t.Has dst) :
    (t.findDelegate delegates src dst).Safe loops (fun _ => True) :=
  (Ends.findM? (fun d hmem => ht.converts_safe (hdelegates d hmem) hs hd)).mono
    (fun _ _ => trivial)

/-- **Converting fields** is safe with delegates whose types exist. -/
theorem fieldConversion_safe (ht : t.Grounded loops) (hdelegates : ∀ d ∈ delegates, d.Typed t)
    (hs : t.Has src) (hd : t.Has dst) :
    (t.fieldConversion delegates src dst).Safe loops (fun _ => True) := by
  refine (ht.identical_safe hs hd).bind (fun same _ => ?_)
  split
  · exact trivial
  refine (ht.findDelegate_safe hdelegates hs hd).bind (fun found _ => ?_)
  split
  · exact trivial
  · exact ht.coerce_safe hs hd

/-- **Converting elements** is safe with delegates whose types exist. -/
theorem elementConversion_safe (ht : t.Grounded loops) (hdelegates : ∀ d ∈ delegates, d.Typed t)
    (hs : t.Has src) (hd : t.Has dst) :
    (t.elementConversion delegates src dst).Safe loops (fun _ => True) := by
  refine (ht.findDelegate_safe hdelegates hs hd).bind (fun found _ => ?_)
  split
  · exact trivial
  refine (ht.identical_safe hs hd).bind (fun same _ => ?_)
  split
  · exact trivial
  · exact ht.coerce_safe hs hd

end Grounded

end TypeTable

/-! ## Matching records -/

namespace Matcher

variable {m : Matcher} {t : TypeTable} {src dst : RecordType} {dest : RecordField}
  {dests : List RecordField} {loops : Prop}

/-- What feeds a field is a field of the source. -/
theorem findSource_safe (ht : t.Grounded loops) (hsrc : ∀ f ∈ src.fields, t.Has f.type)
    (hdest : t.Has dest.type) :
    (m.findSource t src dest).Safe loops (fun found => ∀ f ∈ found, f ∈ src.fields) := by
  unfold findSource
  split
  · exact fun f hf => List.mem_of_find?_eq_some hf
  · refine Ends.findM? (fun source hsource => ?_)
    unfold fits
    split
    · exact ht.compatible_safe (hsrc source hsource) hdest
    · exact trivial

theorem matchFields_safe (ht : t.Grounded loops) (hsrc : ∀ f ∈ src.fields, t.Has f.type)
    (hdests : ∀ f ∈ dests, t.Has f.type) :
    (m.matchFields t src dests).Safe loops
      (fun found => ∀ pair ∈ found.pairs, t.Has pair.source.type ∧ t.Has pair.dest.type) := by
  induction dests with
  | nil => exact nofun
  | cons dest dests ih =>
    have hdest := hdests dest List.mem_cons_self
    have hrest := ih (fun f hf => hdests f (List.mem_cons_of_mem _ hf))
    rw [matchFields]
    split
    · exact hrest
    refine (findSource_safe ht hsrc hdest).bind (fun found hfound => ?_)
    refine hrest.bind (fun others hothers => ?_)
    split
    · exact List.forall_mem_cons.mpr ⟨⟨hsrc _ (hfound _ rfl), hdest⟩, hothers⟩
    · exact hothers

/-- **Matching records** whose fields' types exist pairs fields whose types exist. -/
theorem matchRecords_safe (ht : t.Grounded loops) (hsrc : ∀ f ∈ src.fields, t.Has f.type)
    (hdst : ∀ f ∈ dst.fields, t.Has f.type) :
    (m.matchRecords t src dst).Safe loops
      (fun found => ∀ pair ∈ found.pairs, t.Has pair.source.type ∧ t.Has pair.dest.type) :=
  matchFields_safe ht hsrc hdst

end Matcher

end Crosswalk
