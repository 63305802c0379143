import Crosswalk.Proofs.Types.Closed
import Crosswalk.Types.Layers

/-!
# Chains of layers

Taking layers off a type is a walk along a chain of entries: each entry says
which one comes next, or that it is the last. The walks of the library are cut
off after as many steps as the table has entries and one more. A chain that
ends has no entry twice, so it is shorter than the table, and the cut is never
felt (`Leads.length_lt_size`).

What may be taken off is a parameter of the chain: names only, as for
`TypeTable.underlying`, or pointers as well, as for `TypeTable.peel`.
-/

namespace Crosswalk

/-- What a named entry is declared as. -/
def TypeKind.declared? : TypeKind → Option TypeId
  | .named _ _ underlying => some underlying
  | _ => none

/-- What is inside one layer, a pointer or a name. -/
def TypeKind.inside? : TypeKind → Option TypeId
  | .pointer elem => some elem
  | .named _ _ underlying => some underlying
  | _ => none

/-- What a pointer points to. -/
def TypeKind.pointee? : TypeKind → Option TypeId
  | .pointer elem => some elem
  | _ => none

/-- The entry is not a named type. -/
abbrev TypeKind.IsBare (k : TypeKind) : Prop := k.declared? = none

theorem TypeKind.declared?_eq_some {k : TypeKind} {u : TypeId} (h : k.declared? = some u) :
    ∃ name package, k = .named name package u := by
  cases k <;> cases h
  exact ⟨_, _, rfl⟩

theorem TypeKind.inside?_eq_of_declared? {k : TypeKind} {u : TypeId} (h : k.declared? = some u) :
    k.inside? = some u := by
  obtain ⟨name, package, rfl⟩ := declared?_eq_some h
  rfl

theorem TypeKind.pointee?_eq_some {k : TypeKind} {e : TypeId} (h : k.pointee? = some e) :
    k = .pointer e := by
  cases k <;> cases h
  rfl

theorem TypeKind.pointee?_eq_none_of_inside? {k : TypeKind} (h : k.inside? = none) :
    k.pointee? = none := by
  cases k <;> first | rfl | cases h

theorem TypeKind.declared?_eq_none_of_inside? {k : TypeKind} (h : k.inside? = none) :
    k.declared? = none := by
  cases k <;> first | rfl | cases h

theorem TypeKind.inside?_eq_none {k : TypeKind} (hp : k.pointee? = none)
    (hn : k.declared? = none) : k.inside? = none := by
  cases k with
  | pointer elem => cases hp
  | named name package underlying => cases hn
  | _ => rfl

namespace TypeTable

variable {t t' : TypeTable} {step : TypeKind → Option TypeId} {id u v w : TypeId}
  {k : TypeKind} {path path' : List TypeId} {n : Nat}

/-! ## Questions about one entry -/

theorem pointee_of_kind? (hk : t.kind? id = some k) : t.pointee id = .ok k.pointee? := by
  unfold pointee
  rw [kind_of_kind? hk]
  cases k <;> rfl

theorem isNamed_of_kind? (hk : t.kind? id = some k) :
    t.isNamed id = .ok k.declared?.isSome := by
  unfold isNamed
  rw [kind_of_kind? hk]
  cases k <;> rfl

theorem unname_of_kind? (hk : t.kind? id = some k) :
    t.unname id = .ok (k.declared?.getD id) := by
  unfold unname
  rw [kind_of_kind? hk]
  cases k <;> rfl

/-! ## Chains -/

/-- **The chain from `id` passes `path` and ends at `v`.** -/
inductive Leads (t : TypeTable) (step : TypeKind → Option TypeId) :
    List TypeId → TypeId → TypeId → Prop
  | stop {id : TypeId} {k : TypeKind} (hk : t.kind? id = some k) (hstep : step k = none) :
      Leads t step [] id id
  | next {id u v : TypeId} {k : TypeKind} {path : List TypeId} (hk : t.kind? id = some k)
      (hstep : step k = some u) (h : Leads t step path u v) : Leads t step (id :: path) id v

namespace Leads

/-- A chain goes one way. -/
theorem unique (h : t.Leads step path id v) (h' : t.Leads step path' id w) :
    path = path' ∧ v = w := by
  induction h generalizing path' with
  | stop hk hstep =>
    cases h' with
    | stop => exact ⟨rfl, rfl⟩
    | next hk' hstep' =>
      rw [Option.some.inj (hk.symm.trans hk'), hstep'] at hstep
      cases hstep
  | next hk hstep h ih =>
    cases h' with
    | stop hk' hstep' =>
      rw [Option.some.inj (hk.symm.trans hk'), hstep'] at hstep
      cases hstep
    | next hk' hstep' h' =>
      rw [Option.some.inj (hk.symm.trans hk'), hstep'] at hstep
      obtain rfl := Option.some.inj hstep
      obtain ⟨rfl, rfl⟩ := ih h'
      exact ⟨rfl, rfl⟩

/-- From an entry on its way the chain goes on as before. -/
theorem exists_of_mem (h : t.Leads step path id v) (hw : w ∈ path) :
    ∃ path', path'.length < path.length ∧ t.Leads step (w :: path') w v := by
  induction h with
  | stop => cases hw
  | next hk hstep h ih =>
    rcases List.mem_cons.mp hw with rfl | hw
    · exact ⟨_, Nat.lt_succ_self _, .next hk hstep h⟩
    · obtain ⟨path', hlen, h'⟩ := ih hw
      exact ⟨path', Nat.lt_succ_of_lt hlen, h'⟩

theorem has_of_mem (h : t.Leads step path id v) (hw : w ∈ path) : t.Has w := by
  obtain ⟨path', -, h'⟩ := h.exists_of_mem hw
  cases h' with
  | next hk => exact has_of_kind? hk

theorem exists_kind_end (h : t.Leads step path id v) : ∃ k, t.kind? v = some k ∧ step k = none := by
  induction h with
  | stop hk hstep => exact ⟨_, hk, hstep⟩
  | next _ _ _ ih => exact ih

theorem has_end (h : t.Leads step path id v) : t.Has v := by
  obtain ⟨k, hk, -⟩ := h.exists_kind_end
  exact has_of_kind? hk

theorem end_not_mem (h : t.Leads step path id v) : v ∉ path := by
  intro hv
  obtain ⟨k, hk, hnone⟩ := h.exists_kind_end
  obtain ⟨path', -, h'⟩ := h.exists_of_mem hv
  exact List.cons_ne_nil _ _ (h'.unique (.stop hk hnone)).1

/-- **A chain that ends meets no entry twice.** -/
theorem nodup (h : t.Leads step path id v) : path.Nodup := by
  induction h with
  | stop => exact List.nodup_nil
  | next hk hstep h ih =>
    refine List.nodup_cons.mpr ⟨fun hmem => ?_, ih⟩
    obtain ⟨path', hlen, h'⟩ := h.exists_of_mem hmem
    obtain ⟨-, rfl⟩ := List.cons.inj (h'.unique (.next hk hstep h)).1
    exact absurd hlen (Nat.lt_irrefl _)

/-- **A chain that ends is shorter than the table.** -/
theorem length_lt_size (h : t.Leads step path id v) : path.length < t.size := by
  have hnodup : (v :: path).Nodup := List.nodup_cons.mpr ⟨h.end_not_mem, h.nodup⟩
  refine length_le_size hnodup (fun w hw => ?_)
  rcases List.mem_cons.mp hw with rfl | hw
  · exact h.has_end
  · exact h.has_of_mem hw

theorem grow (hgrow : t.GrowsTo t') (h : t.Leads step path id v) : t'.Leads step path id v := by
  induction h with
  | stop hk hstep => exact .stop (hgrow _ _ hk) hstep
  | next hk hstep _ ih => exact .next (hgrow _ _ hk) hstep ih

end Leads

/-! ## Names -/

/-- The name `a` is declared as `b`. -/
def Declares (t : TypeTable) (a b : TypeId) : Prop :=
  ∃ name package, t.kind? a = some (.named name package b)

theorem underlyingUpTo_succ_of_named {name : String} {package : Option String}
    (hk : t.kind? id = some (.named name package u)) :
    t.underlyingUpTo (n + 1) id = t.underlyingUpTo n u := by
  rw [underlyingUpTo, kind_of_kind? hk, ok_bind]

theorem underlyingUpTo_of_isBare (hk : t.kind? id = some k) (hbare : k.IsBare) :
    t.underlyingUpTo n id = .ok id := by
  cases n with
  | zero => rfl
  | succ n =>
    rw [underlyingUpTo, kind_of_kind? hk, ok_bind]
    cases k <;> first | rfl | cases hbare

theorem underlying_of_isBare (hk : t.kind? id = some k) (hbare : k.IsBare) :
    t.underlying id = .ok id :=
  underlyingUpTo_of_isBare hk hbare

theorem underlyingUpTo_of_leads (h : t.Leads TypeKind.declared? path id v)
    (hlen : path.length ≤ n) : t.underlyingUpTo n id = .ok v := by
  induction h generalizing n with
  | stop hk hstep => exact underlyingUpTo_of_isBare hk hstep
  | next hk hstep _ ih =>
    obtain ⟨n, rfl⟩ := Nat.exists_eq_add_of_le' (Nat.lt_of_lt_of_le (Nat.succ_pos _) hlen)
    obtain ⟨name, package, rfl⟩ := TypeKind.declared?_eq_some hstep
    rw [underlyingUpTo_succ_of_named hk]
    exact ih (Nat.le_of_succ_le_succ hlen)

/-- **The end of a chain of names is what is behind them.** -/
theorem underlying_of_leads (h : t.Leads TypeKind.declared? path id v) :
    t.underlying id = .ok v :=
  underlyingUpTo_of_leads h (Nat.le_succ_of_le (Nat.le_of_lt h.length_lt_size))

/-- In a closed table something is always found behind the names. -/
theorem Closed.exists_underlying (ht : t.Closed) (hid : t.Has id) :
    ∃ v, t.underlying id = .ok v ∧ t.Has v := by
  suffices ∀ n id, t.Has id → ∃ v, t.underlyingUpTo n id = .ok v ∧ t.Has v from this _ id hid
  intro n
  induction n with
  | zero => exact fun id hid => ⟨id, rfl, hid⟩
  | succ n ih =>
    intro id hid
    obtain ⟨k, hk⟩ := exists_kind_of_has hid
    cases hstep : k.declared? with
    | none => exact ⟨id, underlyingUpTo_of_isBare hk hstep, hid⟩
    | some u =>
      obtain ⟨name, package, rfl⟩ := TypeKind.declared?_eq_some hstep
      rw [underlyingUpTo_succ_of_named hk]
      exact ih u (ht id _ hk u List.mem_cons_self)

/-! ## Layers -/

theorem peelUpTo_of_inside?_eq_none (hk : t.kind? id = some k) (hin : k.inside? = none) :
    t.peelUpTo n id = .ok ⟨[], id⟩ := by
  cases n with
  | zero => rfl
  | succ n =>
    rw [peelUpTo, kind_of_kind? hk, ok_bind]
    cases k <;> first | rfl | cases hin

/-- Taking off a layer first, and then the others. -/
theorem peelUpTo_succ_of_inside? (hk : t.kind? id = some k) (hin : k.inside? = some u) :
    ∃ layer, t.peelUpTo (n + 1) id = t.peelUpTo n u >>= fun p => .ok (p.wrap layer) := by
  rw [peelUpTo, kind_of_kind? hk, ok_bind]
  cases k with
  | pointer elem =>
    obtain rfl := Option.some.inj hin
    exact ⟨.pointer, rfl⟩
  | named name package underlying =>
    obtain rfl := Option.some.inj hin
    exact ⟨.named id, rfl⟩
  | _ => cases hin

theorem peelUpTo_of_leads (h : t.Leads TypeKind.inside? path id v) (hlen : path.length ≤ n) :
    ∃ layers, t.peelUpTo n id = .ok ⟨layers, v⟩ := by
  induction h generalizing n with
  | stop hk hstep => exact ⟨[], peelUpTo_of_inside?_eq_none hk hstep⟩
  | next hk hstep _ ih =>
    obtain ⟨n, rfl⟩ := Nat.exists_eq_add_of_le' (Nat.lt_of_lt_of_le (Nat.succ_pos _) hlen)
    obtain ⟨layer, hpeel⟩ := peelUpTo_succ_of_inside? (n := n) hk hstep
    obtain ⟨layers, hlayers⟩ := ih (Nat.le_of_succ_le_succ hlen)
    exact ⟨layer :: layers, by rw [hpeel, hlayers]; rfl⟩

/-- **The end of a chain of layers is the shape.** -/
theorem peel_of_leads (h : t.Leads TypeKind.inside? path id v) :
    ∃ layers, t.peel id = .ok ⟨layers, v⟩ :=
  peelUpTo_of_leads h (Nat.le_succ_of_le (Nat.le_of_lt h.length_lt_size))

/-- A chain from where the walk stopped is one from where it began, and no shorter than
the walk unless the walk stopped by itself. -/
theorem leads_of_peelUpTo {peeled : Peeled} (h : t.peelUpTo n id = .ok peeled)
    (hpath : t.Leads TypeKind.inside? path peeled.shape v) :
    ∃ path', t.Leads TypeKind.inside? path' id v ∧ (peeled.shape = v ∨ n ≤ path'.length) := by
  induction n generalizing id peeled with
  | zero =>
    obtain rfl := Except.ok.inj h
    exact ⟨path, hpath, .inr (Nat.zero_le _)⟩
  | succ n ih =>
    have h' := h
    rw [peelUpTo] at h'
    obtain ⟨k, hk, -⟩ := bind_eq_ok_iff.mp h'
    rw [kind_eq_ok_iff] at hk
    cases hin : k.inside? with
    | none =>
      obtain rfl := Except.ok.inj ((peelUpTo_of_inside?_eq_none hk hin).symm.trans h)
      obtain ⟨rfl, rfl⟩ := hpath.unique (.stop hk hin)
      exact ⟨[], hpath, .inl rfl⟩
    | some u =>
      obtain ⟨layer, hpeel⟩ := peelUpTo_succ_of_inside? (n := n) hk hin
      obtain ⟨inner, hinner, hwrap⟩ := bind_eq_ok_iff.mp (hpeel.symm.trans h)
      obtain rfl := Except.ok.inj hwrap
      obtain ⟨path', hpath', hor⟩ := ih hinner hpath
      exact ⟨id :: path', .next hk hin hpath', hor.imp_right Nat.succ_le_succ⟩

/-- What is a shape of its own behind a shape is the end of a chain. -/
theorem leads_of_peel {peeled : Peeled} (h : t.peel id = .ok peeled)
    (hpath : t.Leads TypeKind.inside? path peeled.shape v) :
    ∃ path', t.Leads TypeKind.inside? path' id v ∧ peeled.shape = v := by
  obtain ⟨path', hpath', hor⟩ := leads_of_peelUpTo h hpath
  refine ⟨path', hpath', hor.resolve_right (fun hle => ?_)⟩
  exact absurd hpath'.length_lt_size (Nat.not_lt.mpr (Nat.le_of_succ_le hle))

end TypeTable

end Crosswalk
