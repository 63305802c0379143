import Crosswalk.Proofs.Record
import Crosswalk.Proofs.Types.Safe

/-!
# Taking layers off, to the end or to the cut

Two walks take layers off a type: one takes off all of them, the other names only. They differ in
what counts as a layer and in nothing else, so they are one walk here (`TypeTable.takeOff`), and
what is said of it is said of both.

A chain of layers either ends or comes back to where it was. In the first case it is taken apart
to its end, and the cut is not felt: the walk may take off one layer more than there are entries,
and the chain is shorter than the table. In the second case the cut is all that stops the walk, so
it is exactly that long, and where it stands there is still a layer. `TypeTable.TakenApart` says
both, and says that nothing but the chain decides which it is.

What other questions find behind a type is read off the two walks (`TypeTable.SeenBehind`).
-/

namespace Crosswalk

/-- What a step takes off is a layer, a pointer or a name. -/
def TakesLayers (step : TypeKind → Option TypeId) : Prop :=
  ∀ k u, step k = some u → k.inside? = some u

theorem takesLayers_inside? : TakesLayers TypeKind.inside? := fun _ _ h => h

theorem takesLayers_declared? : TakesLayers TypeKind.declared? :=
  fun _ _ => TypeKind.inside?_eq_of_declared?

/-- The layer that the entry at a position is. -/
def TypeKind.layer (id : TypeId) : TypeKind → Layer
  | .pointer _ => .pointer
  | _ => .named id

/-- Whether writing through a copy of a value of the type is seen by its giver. -/
def TypeKind.isReference : TypeKind → Bool
  | .pointer _ | .slice _ | .map .. => true
  | _ => false

namespace TypeTable

variable {t : TypeTable} {step : TypeKind → Option TypeId} {id u v w : TypeId} {k : TypeKind}
  {layers layers' : List Layer} {path path' : List TypeId} {n : Nat} {whole names : Peeled}

/-- The type at `b` is right inside the one at `a`. -/
def Encloses (t : TypeTable) (step : TypeKind → Option TypeId) (a b : TypeId) : Prop :=
  ∃ k, t.kind? a = some k ∧ step k = some b

/-! ## Layers, from the outside in -/

/-- **Taking layers off the type at one position leads to another**, the outermost layer first: a
pointer is followed by its pointee, a name by what it is declared as. -/
inductive Unwraps (t : TypeTable) (step : TypeKind → Option TypeId) :
    List Layer → TypeId → TypeId → Prop
  /-- Nothing is taken off. -/
  | nothing {id : TypeId} : Unwraps t step [] id id
  /-- A layer is taken off what is right inside it. -/
  | layer {id u v : TypeId} {k : TypeKind} {layers : List Layer} (hk : t.kind? id = some k)
      (hstep : step k = some u) (h : Unwraps t step layers u v) :
      Unwraps t step (k.layer id :: layers) id v

/-- From inside a layer the chain goes on as before. -/
theorem Leads.inside (h : t.Leads step path id v) (hk : t.kind? id = some k)
    (hstep : step k = some u) : ∃ path', path = id :: path' ∧ t.Leads step path' u v := by
  cases h with
  | stop hk' hnone =>
    rw [Option.some.inj (hk.symm.trans hk'), hnone] at hstep
    cases hstep
  | next hk' hstep' h =>
    rw [Option.some.inj (hk.symm.trans hk'), hstep'] at hstep
    obtain rfl := Option.some.inj hstep
    exact ⟨_, rfl, h⟩

namespace Unwraps

theorem append (h : t.Unwraps step layers id v) (h' : t.Unwraps step layers' v w) :
    t.Unwraps step (layers ++ layers') id w := by
  induction h with
  | nothing => exact h'
  | layer hk hstep _ ih => exact .layer hk hstep (ih h')

/-- Names are among the layers. -/
theorem of_names (h : t.Unwraps TypeKind.declared? layers id v) :
    t.Unwraps TypeKind.inside? layers id v := by
  induction h with
  | nothing => exact .nothing
  | layer hk hstep _ ih => exact .layer hk (TypeKind.inside?_eq_of_declared? hstep) ih

/-- What is left exists. -/
theorem has (h : t.Unwraps step layers id v) (ht : t.Closed) (hlayer : TakesLayers step)
    (hid : t.Has id) : t.Has v := by
  induction h with
  | nothing => exact hid
  | layer hk hstep _ ih => exact ih (ht.has_of_inside? hk (hlayer _ _ hstep))

/-- In front of a chain the layers make it longer by as many entries. -/
theorem leads (h : t.Unwraps step layers id v) (hpath : t.Leads step path v w) :
    ∃ path', t.Leads step path' id w ∧ path'.length = layers.length + path.length := by
  induction h with
  | nothing => exact ⟨path, hpath, (Nat.zero_add _).symm⟩
  | layer hk hstep _ ih =>
    obtain ⟨path', hpath', hlen⟩ := ih hpath
    exact ⟨_, .next hk hstep hpath', by rw [List.length_cons, List.length_cons, hlen]; omega⟩

/-- What is left of a chain is shorter by as many entries. -/
theorem rest (h : t.Unwraps step layers id v) (hpath : t.Leads step path id w) :
    ∃ path', t.Leads step path' v w ∧ path.length = layers.length + path'.length := by
  induction h generalizing path with
  | nothing => exact ⟨path, hpath, (Nat.zero_add _).symm⟩
  | layer hk hstep _ ih =>
    obtain ⟨inner, rfl, hinner⟩ := hpath.inside hk hstep
    obtain ⟨path', hpath', hlen⟩ := ih hinner
    exact ⟨path', hpath', by rw [List.length_cons, List.length_cons, hlen]; omega⟩

/-- **There is one way to take all layers off.** -/
theorem unique (h : t.Unwraps step layers id v) (h' : t.Unwraps step layers' id v)
    (hend : t.Leads step [] v v) : layers = layers' := by
  induction h generalizing layers' with
  | nothing =>
    cases h' with
    | nothing => rfl
    | layer hk hstep _ =>
      obtain ⟨path', hcons, -⟩ := hend.inside hk hstep
      cases hcons
  | layer hk hstep _ ih =>
    cases h' with
    | nothing =>
      obtain ⟨path', hcons, -⟩ := hend.inside hk hstep
      cases hcons
    | layer hk' hstep' h' =>
      obtain rfl := Option.some.inj (hk.symm.trans hk')
      obtain rfl := Option.some.inj (hstep.symm.trans hstep')
      rw [ih h' hend]

end Unwraps

/-! ## Chains that end -/

theorem within_of_leads (h : t.Leads step path id v) :
    Within (t.Encloses step) (path.length + 1) id := by
  induction h with
  | stop hk hnone =>
    rintro b ⟨k, hk', hstep⟩
    rw [Option.some.inj (hk'.symm.trans hk), hnone] at hstep
    cases hstep
  | next hk hstep _ ih =>
    rintro b ⟨k, hk', hstep'⟩
    rw [Option.some.inj (hk'.symm.trans hk), hstep] at hstep'
    exact Option.some.inj hstep' ▸ ih

theorem Closed.exists_leads (ht : t.Closed) (hlayer : TakesLayers step) (hid : t.Has id)
    (h : Within (t.Encloses step) n id) : ∃ path v, t.Leads step path id v := by
  induction n generalizing id with
  | zero => exact h.elim
  | succ n ih =>
    obtain ⟨k, hk⟩ := exists_kind_of_has hid
    cases hstep : step k with
    | none => exact ⟨[], id, .stop hk hstep⟩
    | some u =>
      obtain ⟨path, v, hpath⟩ := ih (ht.has_of_inside? hk (hlayer k u hstep)) (h u ⟨k, hk, hstep⟩)
      exact ⟨id :: path, v, .next hk hstep hpath⟩

/-- **A chain ends just if it does not come back** to where it was: it has no more than so many
entries to go to. -/
theorem Closed.exists_leads_iff (ht : t.Closed) (hlayer : TakesLayers step) (hid : t.Has id) :
    (∃ path v, t.Leads step path id v) ↔ ∀ w, Relation.ReflTransGen (t.Encloses step) id w →
      ¬ Relation.TransGen (t.Encloses step) w w := by
  constructor
  · rintro ⟨path, v, hpath⟩ w hw
    obtain ⟨m, hm⟩ := (within_of_leads hpath).exists_of_reflTransGen hw
    exact hm.not_transGen
  · intro hacyclic
    have hinside : ∀ a b, t.Encloses step a b → a.index < t.size := fun _ _ ⟨_, hk, _⟩ =>
      has_iff_lt.mp (has_of_kind? hk)
    exact ht.exists_leads hlayer hid ((within_iff index_injective hinside).mpr hacyclic)

/-! ## The walk -/

/-- Taking off at most the given number of layers. -/
def takeOff (t : TypeTable) (step : TypeKind → Option TypeId) : Nat → TypeId → Lookup Peeled
  | 0, id => .ok ⟨[], id⟩
  | n + 1, id => do
    let k ← t.kind id
    match step k with
    | some u => return (← t.takeOff step n u).wrap (k.layer id)
    | none => return ⟨[], id⟩

theorem peelUpTo_eq : t.peelUpTo n id = t.takeOff TypeKind.inside? n id := by
  induction n generalizing id with
  | zero => rfl
  | succ n ih =>
    rw [peelUpTo, takeOff]
    refine congrArg (t.kind id >>= ·) (funext fun k => ?_)
    cases k with
    | pointer elem => exact congrArg (· >>= _) ih
    | named name package underlying => exact congrArg (· >>= _) ih
    | _ => rfl

theorem peelNamesUpTo_eq : t.peelNamesUpTo n id = t.takeOff TypeKind.declared? n id := by
  induction n generalizing id with
  | zero => rfl
  | succ n ih =>
    rw [peelNamesUpTo, takeOff]
    refine congrArg (t.kind id >>= ·) (funext fun k => ?_)
    cases k with
    | named name package underlying => exact congrArg (· >>= _) ih
    | _ => rfl

/-- **What is behind the names is what is left without them**, wherever either walk is cut. -/
theorem underlyingUpTo_eq :
    t.underlyingUpTo n id = (t.peelNamesUpTo n id).map Peeled.shape := by
  induction n generalizing id with
  | zero => rfl
  | succ n ih =>
    rw [underlyingUpTo, peelNamesUpTo]
    cases t.kind id with
    | error f => rfl
    | ok k =>
      cases k with
      | named name package underlying =>
        show t.underlyingUpTo n underlying = (t.peelNamesUpTo n underlying >>= fun inner =>
          .ok (inner.wrap (.named id))).map Peeled.shape
        rw [ih]
        cases t.peelNamesUpTo n underlying <;> rfl
      | _ => rfl

/-- The walk goes on until there is no layer or it is cut. -/
theorem Closed.exists_takeOff (ht : t.Closed) (hlayer : TakesLayers step) (hid : t.Has id)
    (n : Nat) : ∃ p, t.takeOff step n id = .ok p ∧ t.Unwraps step p.layers id p.shape ∧
      ∃ k, t.kind? p.shape = some k ∧ (step k = none ∨ p.layers.length = n) := by
  induction n generalizing id with
  | zero =>
    obtain ⟨k, hk⟩ := exists_kind_of_has hid
    exact ⟨⟨[], id⟩, rfl, .nothing, k, hk, .inr rfl⟩
  | succ n ih =>
    obtain ⟨k, hk⟩ := exists_kind_of_has hid
    rw [takeOff, kind_of_kind? hk, ok_bind]
    cases hstep : step k with
    | none => exact ⟨⟨[], id⟩, rfl, .nothing, k, hk, .inl hstep⟩
    | some u =>
      obtain ⟨p, hp, hunwraps, k', hk', hor⟩ := ih (ht.has_of_inside? hk (hlayer k u hstep))
      refine ⟨p.wrap (k.layer id), ?_, .layer hk hstep hunwraps, k', hk',
        hor.imp_right (congrArg Nat.succ)⟩
      show (t.takeOff step n u >>= fun inner => .ok (inner.wrap (k.layer id))) = _
      rw [hp]
      rfl

/-- **A type is taken apart**, as far as the chain goes or one layer further than there are
entries. -/
structure TakenApart (t : TypeTable) (step : TypeKind → Option TypeId) (id : TypeId)
    (p : Peeled) : Prop where
  /-- The layers are those that are met on the way. -/
  unwraps : t.Unwraps step p.layers id p.shape
  /-- A chain that ends is taken off to its end, -/
  ended : ∀ path v, t.Leads step path id v → p.shape = v ∧ p.layers.length = path.length
  /-- and one that does not is cut after one layer more than there are entries. -/
  cut : (¬ ∃ path v, t.Leads step path id v) →
    (∃ k u, t.kind? p.shape = some k ∧ step k = some u) ∧ p.layers.length = t.size + 1
  /-- A chain that does not come back to where it was ends, and no other. -/
  ends_iff : (∃ path v, t.Leads step path id v) ↔
    ∀ w, Relation.ReflTransGen (t.Encloses step) id w → ¬ Relation.TransGen (t.Encloses step) w w

theorem Closed.exists_takenApart (ht : t.Closed) (hlayer : TakesLayers step) (hid : t.Has id) :
    ∃ p, t.takeOff step (t.size + 1) id = .ok p ∧ t.TakenApart step id p := by
  obtain ⟨p, hp, hunwraps, k, hk, hor⟩ := ht.exists_takeOff hlayer hid (t.size + 1)
  refine ⟨p, hp, hunwraps, ?_, ?_, ht.exists_leads_iff hlayer hid⟩
  · intro path v hpath
    obtain ⟨path', hpath', hlen⟩ := hunwraps.rest hpath
    cases hpath' with
    | stop => exact ⟨rfl, hlen.symm⟩
    | next hk' hstep _ =>
      -- the walk would have gone on, so it was cut, but no chain that ends is as long
      obtain rfl := Option.some.inj (hk.symm.trans hk')
      have hcut := hor.resolve_left (by simp [hstep])
      have hshort := hpath.length_lt_size
      omega
  · intro hendless
    cases hstep : step k with
    | none =>
      obtain ⟨path, hpath, -⟩ := hunwraps.leads (.stop hk hstep)
      exact absurd ⟨path, p.shape, hpath⟩ hendless
    | some u => exact ⟨⟨k, u, hk, hstep⟩, hor.resolve_left (by simp [hstep])⟩

/-! ## What is behind a type -/

/-- **Whoever looks behind a type sees the same**: what is left of it without its layers, or
without its names. -/
structure SeenBehind (t : TypeTable) (id : TypeId) (whole names : Peeled) : Prop where
  /-- A record is a struct that is left without layers. -/
  record : ∃ found, RecordType.resolve t id = .ok found ∧ ∀ r, found = some r ↔
    ∃ members, t.kind? whole.shape = some (.struct members) ∧
      r = ⟨id, whole.shape, RecordType.fieldsOf members⟩
  /-- A slice is one that is left without layers. -/
  slice : ∃ found, t.sliceShape id = .ok found ∧ ∀ s, found = some s ↔
    s = whole.shape ∧ ∃ elem, t.kind? s = some (.slice elem)
  /-- A reference is one that is left without names. -/
  reference : ∃ k, t.kind? names.shape = some k ∧ t.isReferenceShaped id = .ok k.isReference
  /-- Without its layers is left what is left without its names, once that has lost its own. -/
  same : (∃ path v, t.Leads TypeKind.inside? path id v) → ∃ layers,
    t.peel names.shape = .ok ⟨layers, whole.shape⟩ ∧ whole.layers = names.layers ++ layers

theorem TakenApart.leads_shape (h : t.TakenApart step id whole) (hk : t.kind? whole.shape = some k)
    (hstep : step k = none) : ∃ path, t.Leads step path id whole.shape := by
  obtain ⟨path, hpath, -⟩ := h.unwraps.leads (.stop hk hstep)
  exact ⟨path, hpath⟩

theorem Closed.seenBehind (ht : t.Closed) (hid : t.Has id) (hpeel : t.peel id = .ok whole)
    (hnames : t.peelNames id = .ok names) (hwhole : t.TakenApart TypeKind.inside? id whole)
    (hbare : t.TakenApart TypeKind.declared? id names) : t.SeenBehind id whole names where
  record := by
    have hsafe : (RecordType.resolve t id).Safe False _ := ht.resolve_safe hid
    obtain ⟨found, hfound, -⟩ := hsafe.exists_ok
    refine ⟨found, hfound, fun r => ⟨?_, ?_⟩⟩
    · rintro rfl
      obtain ⟨path, shape, members, hpath, hk, rfl⟩ := RecordType.resolve_eq_ok_iff.mp hfound
      obtain ⟨rfl, -⟩ := hwhole.ended path shape hpath
      exact ⟨members, hk, rfl⟩
    · rintro ⟨members, hk, rfl⟩
      obtain ⟨path, hpath⟩ := hwhole.leads_shape hk rfl
      have hresolve := RecordType.resolve_eq_ok_iff.mpr ⟨path, _, members, hpath, hk, rfl⟩
      exact Except.ok.inj (hfound.symm.trans hresolve)
  slice := by
    obtain ⟨k, hk⟩ := exists_kind_of_has (hwhole.unwraps.has ht takesLayers_inside? hid)
    unfold sliceShape
    rw [hpeel, ok_bind]
    dsimp only
    rw [kind_of_kind? hk, ok_bind]
    cases k with
    | slice elem =>
      refine ⟨some whole.shape, rfl, fun s => ⟨?_, ?_⟩⟩
      · rintro ⟨⟩
        exact ⟨rfl, elem, hk⟩
      · rintro ⟨rfl, -⟩
        rfl
    | _ =>
      refine ⟨none, rfl, fun s => ⟨nofun, ?_⟩⟩
      rintro ⟨rfl, elem, hslice⟩
      cases hk.symm.trans hslice
  reference := by
    obtain ⟨k, hk⟩ := exists_kind_of_has (hbare.unwraps.has ht takesLayers_declared? hid)
    refine ⟨k, hk, ?_⟩
    unfold isReferenceShaped
    rw [hnames, ok_bind, kind_of_kind? hk, ok_bind]
    cases k <;> rfl
  same := by
    rintro ⟨path, v, hpath⟩
    obtain ⟨rfl, -⟩ := hwhole.ended path v hpath
    obtain ⟨inner, hinner, hinside⟩ := ht.exists_takenApart takesLayers_inside?
      (hbare.unwraps.has ht takesLayers_declared? hid)
    obtain ⟨path', hpath', -⟩ := hbare.unwraps.of_names.rest hpath
    obtain ⟨hshape, -⟩ := hinside.ended path' _ hpath'
    obtain ⟨k, hk, hend⟩ := hpath.exists_kind_end
    have happend := hbare.unwraps.of_names.append (hshape ▸ hinside.unwraps)
    refine ⟨inner.layers, ?_, hwhole.unwraps.unique happend (.stop hk hend)⟩
    rw [peel, peelUpTo_eq, hinner, ← hshape]

/-- **Peeling is exact**, whatever goes round in the table. All layers of a type are taken off where
they come to an end, and one more than there are entries where they do not, which is where the
chain of layers comes back to itself and nowhere else. Taking off names only is the same for names,
and what it leaves is what stands behind them. Whoever asks for a record, a slice or a reference is
answered by what is left. -/
theorem peeling_exact (ht : t.validate = .ok ()) (id : TypeId) :
    t.underlying id = (t.peelNames id).map Peeled.shape ∧
    (t.Has id → ∃ whole names, t.peel id = .ok whole ∧ t.peelNames id = .ok names ∧
      t.TakenApart TypeKind.inside? id whole ∧ t.TakenApart TypeKind.declared? id names ∧
      t.SeenBehind id whole names) := by
  refine ⟨underlyingUpTo_eq, fun hid => ?_⟩
  have hclosed := validate_eq_ok_iff.mp ht
  obtain ⟨whole, hpeel, hwhole⟩ := hclosed.exists_takenApart takesLayers_inside? hid
  obtain ⟨names, hnames, hbare⟩ := hclosed.exists_takenApart takesLayers_declared? hid
  rw [← peelUpTo_eq] at hpeel
  rw [← peelNamesUpTo_eq] at hnames
  exact ⟨whole, names, hpeel, hnames, hwhole, hbare,
    hclosed.seenBehind hid hpeel hnames hwhole hbare⟩

/-- A handle is a name for a pointer to a card, and a ring is a name for a pointer to a ring. -/
def ringTable : TypeTable :=
  ⟨#[.basic .string, .struct [⟨"Holder", ⟨0⟩, false⟩],
    .named "Card" (some "example.com/cards") ⟨1⟩, .pointer ⟨2⟩,
    .named "Handle" (some "example.com/cards") ⟨3⟩,
    .named "Ring" (some "example.com/cards") ⟨6⟩, .pointer ⟨5⟩]⟩

/-- A ring has no end. -/
theorem ringTable_endless (ht : ringTable.Closed) :
    ¬ ∃ path v, ringTable.Leads TypeKind.inside? path ⟨5⟩ v := by
  have hid : ringTable.Has ⟨5⟩ := rfl
  rw [ht.exists_leads_iff takesLayers_inside? hid]
  intro hacyclic
  have hinto : ringTable.Encloses TypeKind.inside? ⟨5⟩ ⟨6⟩ := ⟨_, rfl, rfl⟩
  have hback : ringTable.Encloses TypeKind.inside? ⟨6⟩ ⟨5⟩ := ⟨_, rfl, rfl⟩
  exact hacyclic ⟨5⟩ .refl (.tail (.single hinto) hback)

/-- A handle has three layers, the outermost of them a name, and inside is the struct. A ring is cut
after eight layers, though it has but one name in front of its pointer. -/
theorem peeling_exact_ringTable :
    ringTable.validate = .ok () ∧ ringTable.Has ⟨4⟩ ∧ ringTable.Has ⟨5⟩ ∧
    (∃ whole names, ringTable.peel ⟨4⟩ = .ok whole ∧ ringTable.peelNames ⟨4⟩ = .ok names ∧
      whole.shape = ⟨1⟩ ∧ whole.layers.length = 3 ∧ names.shape = ⟨3⟩ ∧
      ringTable.SeenBehind ⟨4⟩ whole names) ∧
    ∃ whole names, ringTable.peel ⟨5⟩ = .ok whole ∧ ringTable.peelNames ⟨5⟩ = .ok names ∧
      whole.layers.length = 8 ∧ names.shape = ⟨6⟩ ∧ ringTable.SeenBehind ⟨5⟩ whole names := by
  have ht : ringTable.validate = .ok () := rfl
  obtain ⟨card, pointer, hcard, hpointer, hwhole, hnames, hseen⟩ := (peeling_exact ht ⟨4⟩).2 rfl
  obtain ⟨ring, inside, hring, hinside, hround, hname, hseenRing⟩ := (peeling_exact ht ⟨5⟩).2 rfl
  have hlayers : ringTable.Leads TypeKind.inside? [⟨4⟩, ⟨3⟩, ⟨2⟩] ⟨4⟩ ⟨1⟩ :=
    .next rfl rfl (.next rfl rfl (.next rfl rfl (.stop rfl rfl)))
  obtain ⟨hshape, hlen⟩ := hwhole.ended _ _ hlayers
  have hhandle := (hnames.ended _ _ (.next rfl rfl (.stop rfl rfl))).1
  have hcut := (hround.cut (ringTable_endless (validate_eq_ok_iff.mp ht))).2
  have hbehind := (hname.ended _ _ (.next rfl rfl (.stop rfl rfl))).1
  exact ⟨ht, rfl, rfl, ⟨card, pointer, hcard, hpointer, hshape, hlen, hhandle, hseen⟩,
    ring, inside, hring, hinside, hcut, hbehind, hseenRing⟩

end TypeTable

end Crosswalk
