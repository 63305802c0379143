import Crosswalk.Proofs.Types.WellFormed

/-!
# The rules of assignability

`TypeTable.assignable` tries its rules one after another and stops at the first
that decides. `TypeTable.Accepts` lists the same rules side by side. An
affirmative answer always comes from one of them, in any table; and where the
question is answered at all, each of them makes the answer affirmative.
-/

namespace Crosswalk

/-- Whether the type is defined: named or basic. -/
def TypeKind.isDefined : TypeKind → Bool
  | .named .. | .basic _ => true
  | _ => false

/-- **The kinds that the untyped `nil` is stored in.** -/
inductive TypeKind.TakesNil : TypeKind → Prop
  | pointer (elem : TypeId) : TakesNil (.pointer elem)
  | slice (elem : TypeId) : TakesNil (.slice elem)
  | map (key value : TypeId) : TakesNil (.map key value)
  | signature (params results : List TypeId) (variadic : Bool) :
      TakesNil (.signature params results variadic)

namespace TypeTable

variable {t : TypeTable} {src dst u v : TypeId} {k ks kd kv : TypeKind} {r : Bool} {loops : Prop}

theorem coversMethods_eq_true_iff {wanted atHand : List String} :
    coversMethods wanted atHand = true ↔ ∀ m ∈ wanted, m ∈ atHand := by
  unfold coversMethods
  rw [List.all_eq_true]
  exact forall₂_congr (fun m _ => decide_eq_true_iff)

/-- **A value of type `src` may stand in a place of type `dst`**, by one of the
rules. -/
inductive Accepts (t : TypeTable) (src dst : TypeId) : Prop
  /-- The types are one. -/
  | same (h : t.identical src dst = .ok true)
  /-- Behind the names the types are one, and not both of them are defined. -/
  | shape {u v : TypeId} (hu : t.underlying src = .ok u) (hv : t.underlying dst = .ok v)
      (h : t.identical u v = .ok true)
      (hdef : t.isDefined src = .ok false ∨ t.isDefined dst = .ok false)
  /-- The destination is an interface that asks for nothing. -/
  | anything {v : TypeId} (hv : t.underlying dst = .ok v) (hkv : t.kind? v = some (.interface []))
  /-- The destination is an interface, and the source another that has its
  methods. -/
  | methods {u v : TypeId} {wanted atHand : List String} (hu : t.underlying src = .ok u)
      (hv : t.underlying dst = .ok v) (hku : t.kind? u = some (.interface atHand))
      (hkv : t.kind? v = some (.interface wanted)) (h : ∀ m ∈ wanted, m ∈ atHand)
  /-- The source is `nil`, and the destination takes it. -/
  | untypedNil {v : TypeId} {kv : TypeKind} (hs : t.kind? src = some (.basic .untypedNil))
      (hv : t.underlying dst = .ok v) (hkv : t.kind? v = some kv) (h : kv.TakesNil)

theorem isDefined_of_kind? (hk : t.kind? src = some k) : t.isDefined src = .ok k.isDefined := by
  unfold isDefined
  rw [kind_of_kind? hk]
  cases k <;> rfl

/-! ## The last rules -/

/-- The rules for interfaces and for `nil`; `u` and `v` are the types behind the
names of the source and of the destination. -/
def takes (t : TypeTable) (src u v : TypeId) : Lookup Bool := do
  match ← t.kind v with
  | .interface wanted =>
    if wanted.isEmpty then return true
    match ← t.kind u with
    | .interface methods => return coversMethods wanted methods
    | _ => return false
  | dstKind =>
    match ← t.kind src with
    | .basic .untypedNil =>
      match dstKind with
      | .pointer _ | .slice _ | .map .. | .signature .. => return true
      | _ => return false
    | _ => return false

/-- The rules in the order in which they are tried. -/
theorem assignable_eq (t : TypeTable) (src dst : TypeId) :
    t.assignable src dst = (do
      if ← t.identical src dst then return true
      let u ← t.underlying src
      let v ← t.underlying dst
      if ← t.identical u v then
        if !(← t.isDefined src) then return true
        if !(← t.isDefined dst) then return true
      t.takes src u v) := rfl

theorem has_of_assignable (h : t.assignable src dst = .ok r) :
    src = dst ∨ t.Has src ∧ t.Has dst := by
  rw [assignable_eq] at h
  obtain ⟨same, hsame, -⟩ := bind_eq_ok_iff.mp h
  exact has_of_identical hsame

theorem assignable_of_identical (h : t.identical src dst = .ok true) :
    t.assignable src dst = .ok true := by
  rw [assignable_eq, h]
  rfl

/-- What the last rules affirm is one of the last rules. -/
theorem accepts_of_takes (hu : t.underlying src = .ok u) (hv : t.underlying dst = .ok v)
    (h : t.takes src u v = .ok true) : t.Accepts src dst := by
  unfold takes at h
  obtain ⟨kv, hkv, h⟩ := bind_eq_ok_iff.mp h
  rw [kind_eq_ok_iff] at hkv
  split at h
  · rename_i wanted
    cases wanted with
    | nil => exact .anything hv hkv
    | cons m wanted =>
      obtain ⟨ku, hku, h⟩ := bind_eq_ok_iff.mp h
      rw [kind_eq_ok_iff] at hku
      split at h
      · exact .methods hu hv hku hkv (coversMethods_eq_true_iff.mp (Except.ok.inj h))
      · cases h
  · obtain ⟨ks, hks, h⟩ := bind_eq_ok_iff.mp h
    rw [kind_eq_ok_iff] at hks
    split at h
    · refine .untypedNil hks hv hkv ?_
      cases kv with
      | pointer elem => exact .pointer elem
      | slice elem => exact .slice elem
      | map key value => exact .map key value
      | signature params results variadic => exact .signature params results variadic
      | _ => cases h
    · cases h

/-- **An affirmative answer comes from a rule.** -/
theorem accepts_of_assignable (h : t.assignable src dst = .ok true) : t.Accepts src dst := by
  rw [assignable_eq] at h
  obtain ⟨same, hsame, h⟩ := bind_eq_ok_iff.mp h
  cases same with
  | true => exact .same hsame
  | false =>
    obtain ⟨u, hu, h⟩ := bind_eq_ok_iff.mp h
    obtain ⟨v, hv, h⟩ := bind_eq_ok_iff.mp h
    obtain ⟨shape, hshape, h⟩ := bind_eq_ok_iff.mp h
    cases shape with
    | false => exact accepts_of_takes hu hv h
    | true =>
      obtain ⟨ds, hds, h⟩ := bind_eq_ok_iff.mp h
      cases ds with
      | false => exact .shape hu hv hshape (.inl hds)
      | true =>
        obtain ⟨dd, hdd, h⟩ := bind_eq_ok_iff.mp h
        cases dd with
        | false => exact .shape hu hv hshape (.inr hdd)
        | true => exact accepts_of_takes hu hv h

/-- **Among pointers nothing but identity counts**, even where the destination is
a name for one. -/
theorem not_assignable_of_pointer {e f : TypeId} (hs : t.kind? src = some (.pointer e))
    (hv : t.underlying dst = .ok v) (hkv : t.kind? v = some (.pointer f))
    (hne : t.identical src v ≠ .ok true) : t.assignable src dst ≠ .ok true := by
  intro h
  cases accepts_of_assignable h with
  | same hsame =>
    obtain ⟨f', hd, -⟩ := exists_pointer_of_identical hsame hs
    obtain rfl := Except.ok.inj (hv.symm.trans (underlying_of_isBare hd rfl))
    exact hne hsame
  | shape hu hv' hshape =>
    obtain rfl := Except.ok.inj ((underlying_of_isBare hs rfl).symm.trans hu)
    obtain rfl := Except.ok.inj (hv.symm.trans hv')
    exact hne hshape
  | anything hv' hkv' =>
    obtain rfl := Except.ok.inj (hv.symm.trans hv')
    cases hkv.symm.trans hkv'
  | methods hu hv' hku hkv' =>
    obtain rfl := Except.ok.inj (hv.symm.trans hv')
    cases hkv.symm.trans hkv'
  | untypedNil hs' => cases hs.symm.trans hs'

/-! ## Every rule is tried -/

theorem exists_takes (hs : t.Has src) (hu : t.Has u) (hv : t.Has v) :
    ∃ r, t.takes src u v = .ok r := by
  obtain ⟨ks, hks⟩ := exists_kind_of_has hs
  obtain ⟨ku, hku⟩ := exists_kind_of_has hu
  obtain ⟨kv, hkv⟩ := exists_kind_of_has hv
  unfold takes
  rw [kind_of_kind? hkv, kind_of_kind? hku, kind_of_kind? hks, ok_bind]
  split
  · split
    · exact ⟨true, rfl⟩
    · rw [ok_bind]
      split <;> exact ⟨_, rfl⟩
  · rw [ok_bind]
    split
    · split <;> exact ⟨_, rfl⟩
    · exact ⟨false, rfl⟩

/-- What the last rules affirm is affirmed, if there is an answer. -/
theorem assignable_of_takes (hv : t.underlying dst = .ok v)
    (htakes : ∀ u, t.underlying src = .ok u → t.takes src u v = .ok true)
    (h : t.assignable src dst = .ok r) : r = true := by
  rw [assignable_eq] at h
  obtain ⟨same, -, h⟩ := bind_eq_ok_iff.mp h
  cases same with
  | true => exact (Except.ok.inj h).symm
  | false =>
    obtain ⟨u, hu, h⟩ := bind_eq_ok_iff.mp h
    obtain ⟨v', hv', h⟩ := bind_eq_ok_iff.mp h
    obtain rfl := Except.ok.inj (hv.symm.trans hv')
    obtain ⟨shape, -, h⟩ := bind_eq_ok_iff.mp h
    have hlast := htakes u hu
    cases shape with
    | false => exact Except.ok.inj (h.symm.trans hlast)
    | true =>
      obtain ⟨ds, -, h⟩ := bind_eq_ok_iff.mp h
      cases ds with
      | false => exact (Except.ok.inj h).symm
      | true =>
        obtain ⟨dd, -, h⟩ := bind_eq_ok_iff.mp h
        cases dd with
        | false => exact (Except.ok.inj h).symm
        | true => exact Except.ok.inj (h.symm.trans hlast)

theorem takes_of_anything (hkv : t.kind? v = some (.interface [])) :
    t.takes src u v = .ok true := by
  unfold takes
  rw [kind_of_kind? hkv]
  rfl

theorem takes_of_methods {wanted atHand : List String} (hku : t.kind? u = some (.interface atHand))
    (hkv : t.kind? v = some (.interface wanted)) (h : ∀ m ∈ wanted, m ∈ atHand) :
    t.takes src u v = .ok true := by
  unfold takes
  rw [kind_of_kind? hkv, kind_of_kind? hku]
  cases wanted with
  | nil => rfl
  | cons m wanted => exact congrArg Except.ok (coversMethods_eq_true_iff.mpr h)

theorem takes_of_untypedNil (hs : t.kind? src = some (.basic .untypedNil))
    (hkv : t.kind? v = some kv) (h : kv.TakesNil) : t.takes src u v = .ok true := by
  unfold takes
  rw [kind_of_kind? hkv, kind_of_kind? hs]
  cases h <;> rfl

/-- A rule that applies decides, if there is an answer. -/
theorem Accepts.eq_true (hacc : t.Accepts src dst) (h : t.assignable src dst = .ok r) :
    r = true := by
  cases hacc with
  | same hsame =>
    rw [assignable_eq, hsame] at h
    exact (Except.ok.inj h).symm
  | shape hu hv hshape hdef =>
    rw [assignable_eq] at h
    obtain ⟨same, -, h⟩ := bind_eq_ok_iff.mp h
    cases same with
    | true => exact (Except.ok.inj h).symm
    | false =>
      rw [if_neg Bool.false_ne_true, hu, hv, ok_bind, ok_bind, hshape, ok_bind, if_pos rfl] at h
      obtain ⟨ds, hds, h⟩ := bind_eq_ok_iff.mp h
      cases ds with
      | false => exact (Except.ok.inj h).symm
      | true =>
        rcases hdef with hdef | hdef
        · cases hds.symm.trans hdef
        · rw [hdef] at h
          exact (Except.ok.inj h).symm
  | anything hv hkv => exact assignable_of_takes hv (fun _ _ => takes_of_anything hkv) h
  | methods hu hv hku hkv hm =>
    refine assignable_of_takes hv (fun u' hu' => ?_) h
    obtain rfl := Except.ok.inj (hu.symm.trans hu')
    exact takes_of_methods hku hkv hm
  | untypedNil hs hv hkv hnil =>
    exact assignable_of_takes hv (fun _ _ => takes_of_untypedNil hs hkv hnil) h

theorem Closed.underlying_safe (ht : t.Closed) (hid : t.Has src) :
    (t.underlying src).Safe loops t.Has := by
  obtain ⟨v, hv, hasv⟩ := ht.exists_underlying hid
  exact .of_eq_ok hv hasv

/-- **Asking whether a value may stand in a place** follows no position past the end. -/
theorem Closed.assignable_safe (ht : t.Closed) (h : loops ∨ ∀ id, t.Shallow (t.size + 1) id)
    (hs : t.Has src) (hd : t.Has dst) : (t.assignable src dst).Safe loops (fun _ => True) := by
  have hidentical : ∀ {a b}, t.Has a → t.Has b → (t.identical a b).Safe loops (fun _ => True) :=
    fun ha hb => identicalTo_safe ht (h.imp_right (fun h => h _)) ha hb
  obtain ⟨ks, hks⟩ := exists_kind_of_has hs
  obtain ⟨kd, hkd⟩ := exists_kind_of_has hd
  rw [assignable_eq]
  refine (hidentical hs hd).bind (fun same _ => ?_)
  cases same with
  | true => exact trivial
  | false =>
    refine (ht.underlying_safe hs).bind (fun u hu => ?_)
    refine (ht.underlying_safe hd).bind (fun v hv => ?_)
    refine (hidentical hu hv).bind (fun shape _ => ?_)
    obtain ⟨last, hlast⟩ := exists_takes hs hu hv
    rw [isDefined_of_kind? hks, isDefined_of_kind? hkd, hlast]
    cases shape <;> cases ks.isDefined <;> cases kd.isDefined <;> exact trivial

/-- **Whether a value may stand in a place has an answer**, if no literal contains itself. -/
theorem Closed.exists_assignable (ht : t.Closed)
    (h : ∀ id, ¬ Relation.TransGen t.Contains id id) (hs : t.Has src) (hd : t.Has dst) :
    ∃ r, t.assignable src dst = .ok r := by
  have hsafe : (t.assignable src dst).Safe False (fun _ => True) :=
    ht.assignable_safe (.inr (ht.shallow h)) hs hd
  obtain ⟨r, hr, -⟩ := hsafe.exists_ok
  exact ⟨r, hr⟩

namespace WellFormed

theorem exists_assignable (ht : t.WellFormed) (hs : t.Has src) (hd : t.Has dst) :
    ∃ r, t.assignable src dst = .ok r :=
  ht.closed.exists_assignable ht.grounded hs hd

/-- **The rules are what assignability is.** -/
theorem assignable_iff (ht : t.WellFormed) (hs : t.Has src) (hd : t.Has dst) :
    t.assignable src dst = .ok true ↔ t.Accepts src dst := by
  constructor
  · exact accepts_of_assignable
  · intro hacc
    obtain ⟨r, hr⟩ := ht.exists_assignable hs hd
    exact hacc.eq_true hr ▸ hr

end WellFormed

end TypeTable

end Crosswalk
