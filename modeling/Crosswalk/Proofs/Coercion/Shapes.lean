import Crosswalk.Proofs.Coercion.Course

/-!
# What a match does to shapes

Types are matched by a walk that takes layers off both sides, at different rates, until it
comes to two types that fit. What those have in common they share with the types it set
out from. The walk takes nothing but names off the source, so the source keeps its
pointers; and it takes only pointers and names off the destination, so the destination
has at least the pointers that are left at the end.

Hence a match never brings different data together: unless the source is `nil` or the
destination an interface, the two wrap identical shapes, and the source in no more
pointers than the destination (`TypeTable.WellFormed.shapes_of_compatible`).
-/

namespace Crosswalk

namespace Peeled

theorem pointerDepth_wrap_pointer (p : Peeled) :
    (p.wrap .pointer).pointerDepth = p.pointerDepth + 1 :=
  List.count_cons_self

theorem pointerDepth_wrap_named (p : Peeled) (id : TypeId) :
    (p.wrap (.named id)).pointerDepth = p.pointerDepth := by
  have hne : Layer.named id ≠ .pointer := nofun
  exact List.count_cons_of_ne hne

end Peeled

namespace TypeTable

variable {t : TypeTable} {src dst s d a b u v w x y : TypeId} {k : TypeKind} {n m : Nat}
  {p : Peeled}

/-- The type has no layers. -/
def IsShape (t : TypeTable) (v : TypeId) : Prop := ∃ k, t.kind? v = some k ∧ k.inside? = none

/-- **Inside the layers of a type, `n` pointers among them, is the shape `v`.** -/
inductive Wraps (t : TypeTable) : Nat → TypeId → TypeId → Prop
  | shape {v : TypeId} (h : t.IsShape v) : Wraps t 0 v v
  | pointer {n : Nat} {a b v : TypeId} (hk : t.kind? a = some (.pointer b)) (h : Wraps t n b v) :
      Wraps t (n + 1) a v
  | name {n : Nat} {a b v : TypeId} (hk : t.Declares a b) (h : Wraps t n b v) : Wraps t n a v

/-- What is wrapped is what is left when all layers are off. -/
theorem wraps_of_peelUpTo (h : t.peelUpTo n a = .ok p) (hshape : t.IsShape p.shape) :
    t.Wraps p.pointerDepth a p.shape := by
  induction n generalizing a p with
  | zero =>
    obtain rfl := Except.ok.inj h
    exact .shape hshape
  | succ n ih =>
    rw [peelUpTo] at h
    obtain ⟨k, hk, h⟩ := bind_eq_ok_iff.mp h
    rw [kind_eq_ok_iff] at hk
    split at h
    · obtain ⟨inner, hinner, h⟩ := bind_eq_ok_iff.mp h
      obtain rfl := Except.ok.inj h
      rw [Peeled.pointerDepth_wrap_pointer]
      exact .pointer hk (ih hinner hshape)
    · obtain ⟨inner, hinner, h⟩ := bind_eq_ok_iff.mp h
      obtain rfl := Except.ok.inj h
      rw [Peeled.pointerDepth_wrap_named]
      exact .name ⟨_, _, hk⟩ (ih hinner hshape)
    · obtain rfl := Except.ok.inj h
      exact .shape hshape

theorem wraps_of_peel (h : t.peel a = .ok p) (hshape : t.IsShape p.shape) :
    t.Wraps p.pointerDepth a p.shape :=
  wraps_of_peelUpTo h hshape

theorem IsShape.not_inside (h : t.IsShape v) : ¬ t.Inside v a := by
  obtain ⟨k, hk, hin⟩ := h
  rintro ⟨k', hk', hin'⟩
  obtain rfl := Option.some.inj (hk.symm.trans hk')
  cases hin.symm.trans hin'

namespace Wraps

theorem eq_of_isShape (h : t.Wraps n a v) (ha : t.IsShape a) : n = 0 ∧ a = v := by
  cases h with
  | shape => exact ⟨rfl, rfl⟩
  | pointer hk => exact absurd ⟨_, hk, rfl⟩ ha.not_inside
  | name hk => exact absurd hk.inside ha.not_inside

/-- A name comes off without a pointer. -/
theorem of_declares (h : t.Wraps n a v) (hab : t.Declares a b) : t.Wraps n b v := by
  cases h with
  | shape h => exact absurd hab.inside h.not_inside
  | pointer hk =>
    obtain ⟨name, package, hk'⟩ := hab
    cases hk.symm.trans hk'
  | name hk h =>
    obtain ⟨name, package, hk⟩ := hk
    obtain ⟨name', package', hk'⟩ := hab
    obtain ⟨-, -, rfl⟩ := TypeKind.named.inj (Option.some.inj (hk.symm.trans hk'))
    exact h

/-- A pointer comes off. -/
theorem of_pointer (h : t.Wraps n a v) (hk : t.kind? a = some (.pointer b)) :
    ∃ m, n = m + 1 ∧ t.Wraps m b v := by
  cases h with
  | shape h => exact absurd ⟨_, hk, rfl⟩ h.not_inside
  | pointer hk' h =>
    obtain rfl := TypeKind.pointer.inj (Option.some.inj (hk.symm.trans hk'))
    exact ⟨_, rfl, h⟩
  | name hk' =>
    obtain ⟨name, package, hk'⟩ := hk'
    cases hk.symm.trans hk'

/-- **Taking names off keeps the pointers.** -/
theorem of_names (h : t.Wraps n a v) (hab : Relation.ReflTransGen t.Declares a b) :
    t.Wraps n b v := by
  induction hab with
  | refl => exact h
  | tail _ hname ih => exact ih.of_declares hname

/-- **Taking layers off adds no pointer.** -/
theorem of_reaches (h : t.Wraps n a v) (hab : Relation.ReflTransGen t.Inside a b) :
    ∃ m ≤ n, t.Wraps m b v := by
  induction hab with
  | refl => exact ⟨n, Nat.le_refl n, h⟩
  | tail _ hin ih =>
    obtain ⟨m, hm, h⟩ := ih
    obtain ⟨k, hk, hin⟩ := hin
    cases k with
    | pointer elem =>
      obtain rfl := Option.some.inj hin
      obtain ⟨i, rfl, hinner⟩ := h.of_pointer hk
      exact ⟨i, Nat.le_of_succ_le hm, hinner⟩
    | named name package underlying =>
      obtain rfl := Option.some.inj hin
      exact ⟨m, hm, h.of_declares ⟨name, package, hk⟩⟩
    | _ => cases hin

end Wraps

/-- Nothing is declared by an entry that is no name. -/
theorem not_declares_of_isBare (hk : t.kind? a = some k) (hbare : k.IsBare) :
    ¬ t.Declares a b := by
  rintro ⟨name, package, hk'⟩
  obtain rfl := Option.some.inj (hk.symm.trans hk')
  cases hbare

/-- What is identical to a shape is a shape. -/
theorem IsShape.of_identical (h : t.IsShape a) (hab : t.identical a b = .ok true) :
    t.IsShape b := by
  rcases identical_iff.mp hab with rfl | ⟨ka, kb, hka, hkb, halike⟩
  · exact h
  obtain ⟨k, hk, hin⟩ := h
  obtain rfl := Option.some.inj (hk.symm.trans hka)
  refine ⟨kb, hkb, ?_⟩
  cases halike with
  | named | pointer => cases hin
  | _ => rfl

namespace WellFormed

/-- Behind the names of a type are the same pointers and the same shape. -/
theorem exists_underlying_wraps (ht : t.WellFormed) (h : t.Wraps n a v) :
    ∃ x k, t.underlying a = .ok x ∧ t.kind? x = some k ∧ k.IsBare ∧ t.Wraps n x v := by
  have ha : t.Has a := by
    cases h with
    | shape h => exact has_of_kind? h.choose_spec.1
    | pointer hk => exact has_of_kind? hk
    | name hk => exact (hk.inside.has ht.closed).1
  obtain ⟨path, x, hlead⟩ := ht.exists_leads ha
  obtain ⟨k, hk, hbare⟩ := hlead.exists_kind_end
  exact ⟨x, k, underlying_of_leads hlead, hk, hbare, h.of_names hlead.declares⟩

/-- **Identical types without a name wrap identical shapes in as many pointers.** The
induction is on the pointers; the names between two of them come off together. -/
theorem wraps_of_identical (ht : t.WellFormed) (hx : t.Wraps n x v) (hy : t.Wraps m y w)
    (hk : t.kind? x = some k) (hbare : k.IsBare) (hxy : t.identical x y = .ok true) :
    n = m ∧ t.identical v w = .ok true := by
  induction n generalizing m x y k with
  | zero =>
    cases hx with
    | shape hshape =>
      obtain ⟨rfl, rfl⟩ := hy.eq_of_isShape (hshape.of_identical hxy)
      exact ⟨rfl, hxy⟩
    | name hname => exact absurd hname (not_declares_of_isBare hk hbare)
  | succ n ih =>
    cases hx with
    | pointer hke he =>
      obtain ⟨f, hkf, hef⟩ := exists_pointer_of_identical hxy hke
      obtain ⟨m, rfl, hf⟩ := hy.of_pointer hkf
      obtain ⟨x', k', hx', hk', hbare', he'⟩ := ht.exists_underlying_wraps he
      obtain ⟨y', -, hy', -, -, hf'⟩ := ht.exists_underlying_wraps hf
      have hsame := ht.identical_underlying hef hx' hy'
      obtain ⟨rfl, hvw⟩ := ih he' hf' hk' hbare' hsame
      exact ⟨rfl, hvw⟩
    | name hname => exact absurd hname (not_declares_of_isBare hk hbare)

/-- **What stands behind the names of two types that fit**: identical types, or an
interface on the side of the destination, unless the source is `nil`. -/
theorem underlying_of_accepts (ht : t.WellFormed) (h : t.Accepts s d)
    (hu : t.underlying s = .ok u) (hv : t.underlying d = .ok v) :
    t.kind? s = some (.basic .untypedNil) ∨ (∃ methods, t.kind? v = some (.interface methods)) ∨
      t.identical u v = .ok true := by
  cases h with
  | same hsame => exact .inr (.inr (ht.identical_underlying hsame hu hv))
  | shape hu' hv' hsame =>
    obtain rfl := Except.ok.inj (hu.symm.trans hu')
    obtain rfl := Except.ok.inj (hv.symm.trans hv')
    exact .inr (.inr hsame)
  | anything hv' hkv =>
    obtain rfl := Except.ok.inj (hv.symm.trans hv')
    exact .inr (.inl ⟨_, hkv⟩)
  | methods _ hv' _ hkv =>
    obtain rfl := Except.ok.inj (hv.symm.trans hv')
    exact .inr (.inl ⟨_, hkv⟩)
  | untypedNil hs => exact .inl hs

/-- **A match wraps one shape on both sides**, and in no more pointers on the side of the
source, unless the source is `nil` or the destination an interface. -/
theorem wraps_of_compatible (ht : t.WellFormed) (h : t.compatible src dst = .ok true)
    (hsrc : t.Wraps n src v) (hdst : t.Wraps m dst w) :
    t.kind? src = some (.basic .untypedNil) ∨ (∃ methods, t.kind? w = some (.interface methods)) ∨
      t.identical v w = .ok true ∧ n ≤ m := by
  obtain ⟨s, d, hnames, hreach, hfits⟩ := exists_fitting_of_compatibleFrom h
  obtain ⟨x, k, hx, hk, hbare, hxv⟩ := ht.exists_underlying_wraps (hsrc.of_names hnames)
  obtain ⟨m', hm', hdw⟩ := hdst.of_reaches hreach
  obtain ⟨y, -, hy, -, -, hyw⟩ := ht.exists_underlying_wraps hdw
  rcases ht.underlying_of_accepts (accepts_of_assignable hfits) hx hy with hnil | ⟨ms, hms⟩ | hsame
  · exact .inl (ht.eq_of_declares_untypedNil hnames hnil ▸ hnil)
  · obtain ⟨-, rfl⟩ := hyw.eq_of_isShape ⟨_, hms, rfl⟩
    exact .inr (.inl ⟨ms, hms⟩)
  · obtain ⟨rfl, hvw⟩ := ht.wraps_of_identical hxv hyw hk hbare hsame
    exact .inr (.inr ⟨hvw, hm'⟩)

/-- **Another pointer around the destination does no harm.** -/
theorem compatible_pointer (ht : t.WellFormed) (h : t.compatible src dst = .ok true)
    (hp : t.kind? a = some (.pointer dst)) : t.compatible src a = .ok true := by
  have hdst : t.Has dst := ht.closed a _ hp dst List.mem_cons_self
  have hsrc : t.Has src := by
    rcases has_of_compatible h with rfl | ⟨hsrc, -⟩
    · exact hdst
    · exact hsrc
  have ha := has_of_kind? hp
  obtain ⟨n, hfeeds⟩ := (compatible_iff ht.closed hsrc hdst).mp h
  refine (compatible_iff ht.closed hsrc ha).mpr ?_
  obtain ⟨fits, hfits⟩ := ht.exists_assignable hsrc ha
  cases fits with
  | true => exact ⟨0, .fits hfits⟩
  | false => exact ⟨n + 1, .pointee hfits (pointee_of_kind? hp) hfeeds⟩

/-- **A match never pairs different data.** Where all layers come off the source and the
destination, the source is `nil`, or the destination wraps an interface, or the two wrap
identical shapes and the source has no more pointers than the destination. And what may
feed the destination may feed a pointer to it. -/
theorem shapes_of_compatible (ht : t.WellFormed) (h : t.compatible src dst = .ok true) :
    (∀ ps pd, t.peel src = .ok ps → t.peel dst = .ok pd → t.IsShape ps.shape →
      t.IsShape pd.shape →
        t.kind? src = some (.basic .untypedNil) ∨
        (∃ methods, t.kind? pd.shape = some (.interface methods)) ∨
        t.identical ps.shape pd.shape = .ok true ∧ ps.pointerDepth ≤ pd.pointerDepth) ∧
      ∀ p, t.kind? p = some (.pointer dst) → t.compatible src p = .ok true := by
  refine ⟨fun ps pd hps hpd hshape hshape' => ?_, fun p hp => ht.compatible_pointer h hp⟩
  exact ht.wraps_of_compatible h (wraps_of_peel hps hshape) (wraps_of_peel hpd hshape')

end WellFormed

/-- A list by name may feed a list by that name, and so a pointer to one: behind the name and
behind the pointer there is the same list, and one pointer is added. -/
theorem declaredInts_shapes :
    declaredInts.WellFormed ∧ declaredInts.compatible ⟨2⟩ ⟨2⟩ = .ok true ∧
    declaredInts.kind? ⟨3⟩ = some (.pointer ⟨2⟩) ∧ declaredInts.compatible ⟨2⟩ ⟨3⟩ = .ok true ∧
    declaredInts.peel ⟨2⟩ = .ok ⟨[.named ⟨2⟩], ⟨1⟩⟩ ∧
    declaredInts.peel ⟨3⟩ = .ok ⟨[.pointer, .named ⟨2⟩], ⟨1⟩⟩ ∧
    declaredInts.identical ⟨1⟩ ⟨1⟩ = .ok true ∧
    Peeled.pointerDepth ⟨[.named ⟨2⟩], ⟨1⟩⟩ ≤ Peeled.pointerDepth ⟨[.pointer, .named ⟨2⟩], ⟨1⟩⟩ := by
  have hself : declaredInts.compatible ⟨2⟩ ⟨2⟩ = .ok true := rfl
  have hlist : declaredInts.IsShape ⟨1⟩ := ⟨_, rfl, rfl⟩
  obtain ⟨-, hpointer⟩ := wellFormed_declaredInts.shapes_of_compatible hself
  obtain ⟨hshapes, -⟩ := wellFormed_declaredInts.shapes_of_compatible (hpointer ⟨3⟩ rfl)
  refine ⟨wellFormed_declaredInts, hself, rfl, hpointer ⟨3⟩ rfl, rfl, rfl, ?_⟩
  rcases hshapes _ _ rfl rfl hlist hlist with hnil | ⟨methods, hinterface⟩ | hsame
  · cases hnil
  · cases hinterface
  · exact hsame

end TypeTable

end Crosswalk
