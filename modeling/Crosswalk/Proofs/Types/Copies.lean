import Crosswalk.Proofs.InStep
import Crosswalk.Proofs.Types.Safe

/-!
# Repeated entries

A front end may enter a type into the table more than once. Such entries are *copies* of
one another: they say the same, up to naming copies where they name types. Since entries
may lead back to themselves by way of names, this is no recursion on anything, but it is
what the largest relation that passes from entries to their parts says
(`TypeTable.Copies`). Any relation that passes to parts will do for what is proved here
(`TypeTable.Copying`).

Questions that are asked of copies come to answers that are copies, because every step of
a walk leads from copies to copies; so no walk has to end for this. Comparisons are the
exception. They answer at once where positions are equal, and go on where these are
copies, so they must be known to come to an end.
-/

namespace Crosswalk

/-- Two declared fields that agree up to their types. -/
structure Member.Copied (R : TypeId → TypeId → Prop) (f g : Member) : Prop where
  /-- They have one name. -/
  name : f.name = g.name
  /-- They are both embedded, or neither is. -/
  embedded : f.embedded = g.embedded
  /-- Their types are related. -/
  type : R f.type g.type

/-- **Two entries that say the same**, up to naming related types. -/
inductive TypeKind.Copied (R : TypeId → TypeId → Prop) : TypeKind → TypeKind → Prop
  | basic (b : BasicType) : Copied R (.basic b) (.basic b)
  | named (name : String) (package : Option String) {u v : TypeId} (h : R u v) :
      Copied R (.named name package u) (.named name package v)
  | pointer {a b : TypeId} (h : R a b) : Copied R (.pointer a) (.pointer b)
  | slice {a b : TypeId} (h : R a b) : Copied R (.slice a) (.slice b)
  | array {a b : TypeId} (length : Nat) (h : R a b) : Copied R (.array a length) (.array b length)
  | map {k k' v v' : TypeId} (hk : R k k') (hv : R v v') : Copied R (.map k v) (.map k' v')
  | struct {fs gs : List Member} (h : List.Forall₂ (Member.Copied R) fs gs) :
      Copied R (.struct fs) (.struct gs)
  | interface (methods : List String) : Copied R (.interface methods) (.interface methods)
  | signature {ps ps' rs rs' : List TypeId} (variadic : Bool) (hp : List.Forall₂ R ps ps')
      (hr : List.Forall₂ R rs rs') :
      Copied R (.signature ps rs variadic) (.signature ps' rs' variadic)
  | tuple {xs ys : List TypeId} (h : List.Forall₂ R xs ys) : Copied R (.tuple xs) (.tuple ys)

namespace TypeKind.Copied

variable {R S : TypeId → TypeId → Prop} {ka kb : TypeKind}

theorem mono (hRS : ∀ a b, R a b → S a b) (h : Copied R ka kb) : Copied S ka kb := by
  cases h with
  | basic b => exact .basic b
  | named name package h => exact .named name package (hRS _ _ h)
  | pointer h => exact .pointer (hRS _ _ h)
  | slice h => exact .slice (hRS _ _ h)
  | array length h => exact .array length (hRS _ _ h)
  | map hk hv => exact .map (hRS _ _ hk) (hRS _ _ hv)
  | struct h => exact .struct (h.imp (fun _ _ hfg => ⟨hfg.1, hfg.2, hRS _ _ hfg.3⟩))
  | interface methods => exact .interface methods
  | signature variadic hp hr => exact .signature variadic (hp.imp hRS) (hr.imp hRS)
  | tuple h => exact .tuple (h.imp hRS)

theorem flip (h : Copied R ka kb) : Copied (Function.swap R) kb ka := by
  cases h with
  | basic b => exact .basic b
  | named name package h => exact .named name package h
  | pointer h => exact .pointer h
  | slice h => exact .slice h
  | array length h => exact .array length h
  | map hk hv => exact .map hk hv
  | struct h => exact .struct (h.flip.imp (fun _ _ hfg => ⟨hfg.1.symm, hfg.2.symm, hfg.3⟩))
  | interface methods => exact .interface methods
  | signature variadic hp hr => exact .signature variadic hp.flip hr.flip
  | tuple h => exact .tuple h.flip

/-- An entry says what it says itself. -/
theorem refl {k : TypeKind} (h : ∀ part ∈ k.parts, R part part) : Copied R k k := by
  have hsame : ∀ ids : List TypeId, (∀ id ∈ ids, R id id) → List.Forall₂ R ids ids :=
    fun ids hids => List.forall₂_same.mpr hids
  cases k with
  | basic b => exact .basic b
  | named name package u => exact .named name package (h u List.mem_cons_self)
  | pointer elem => exact .pointer (h elem List.mem_cons_self)
  | slice elem => exact .slice (h elem List.mem_cons_self)
  | array elem length => exact .array length (h elem List.mem_cons_self)
  | map key value =>
    exact .map (h key List.mem_cons_self) (h value (List.mem_cons_of_mem _ List.mem_cons_self))
  | struct fields =>
    exact .struct (List.forall₂_same.mpr (fun f hf => ⟨rfl, rfl, h _ (List.mem_map_of_mem hf)⟩))
  | interface methods => exact .interface methods
  | signature params results variadic =>
    refine .signature variadic (hsame _ (fun p hp => h p (List.mem_append_left _ hp)))
      (hsame _ (fun r hr => h r (List.mem_append_right _ hr)))
  | tuple elems => exact .tuple (hsame _ h)

/-- **Copied entries are alike** if those of their parts are that a comparison looks at. -/
theorem alike (h : Copied R ka kb)
    (hRS : ka.IsBare → ∀ a ∈ ka.parts, ∀ b, R a b → S a b) : TypeKind.Alike S ka kb := by
  cases h with
  | basic b => exact .basic b
  | named name package h => exact .named name package _ _
  | pointer h => exact .pointer (hRS rfl _ List.mem_cons_self _ h)
  | slice h => exact .slice (hRS rfl _ List.mem_cons_self _ h)
  | array length h => exact .array length (hRS rfl _ List.mem_cons_self _ h)
  | map hk hv =>
    exact .map (hRS rfl _ List.mem_cons_self _ hk)
      (hRS rfl _ (List.mem_cons_of_mem _ List.mem_cons_self) _ hv)
  | struct h =>
    refine .struct (forall₂_imp_mem (fun f hf g _ hfg => ⟨hfg.1, hfg.2, ?_⟩) h)
    exact hRS rfl _ (List.mem_map_of_mem hf) _ hfg.3
  | interface methods => exact .interface rfl
  | signature variadic hp hr =>
    refine .signature variadic (forall₂_imp_mem (fun a ha b _ hab => ?_) hp)
      (forall₂_imp_mem (fun a ha b _ hab => ?_) hr)
    · exact hRS rfl a (List.mem_append_left _ ha) b hab
    · exact hRS rfl a (List.mem_append_right _ ha) b hab
  | tuple h => exact .tuple (forall₂_imp_mem (fun a ha b _ hab => hRS rfl a ha b hab) h)

theorem pointee? (h : Copied R ka kb) : Option.Rel R ka.pointee? kb.pointee? := by
  cases h with
  | pointer h => exact .some h
  | _ => exact .none

theorem pointee?_eq_none (h : Copied R ka kb) (hp : ka.pointee? = none) : kb.pointee? = none := by
  cases h with
  | pointer => cases hp
  | _ => rfl

theorem inside?_eq_none (h : Copied R ka kb) (hin : ka.inside? = none) : kb.inside? = none := by
  cases h with
  | pointer => cases hin
  | named => cases hin
  | _ => rfl

theorem isDefined (h : Copied R ka kb) : ka.isDefined = kb.isDefined := by
  cases h <;> rfl

end TypeKind.Copied

namespace TypeTable

variable {t : TypeTable} {R : TypeId → TypeId → Prop} {a b a' b' : TypeId} {n : Nat}

/-- **The relation passes to parts**: entries at related positions say the same, up to it. -/
def Copying (t : TypeTable) (R : TypeId → TypeId → Prop) : Prop :=
  ∀ a b, R a b → ∃ ka kb, t.kind? a = some ka ∧ t.kind? b = some kb ∧ ka.Copied R kb

/-- **The entries are copies of one another**: some relation that passes to parts relates
them. -/
def Copies (t : TypeTable) (a b : TypeId) : Prop := ∃ R, t.Copying R ∧ R a b

/-- **Copies say the same, up to naming copies.** -/
theorem copying_copies (t : TypeTable) : t.Copying t.Copies := by
  rintro a b ⟨R, hR, hab⟩
  obtain ⟨ka, kb, ha, hb, hk⟩ := hR a b hab
  exact ⟨ka, kb, ha, hb, hk.mono (fun x y hxy => ⟨R, hR, hxy⟩)⟩

/-- Entries that say the same, up to naming copies, are copies. -/
theorem copies_of_copied {ka kb : TypeKind} (ha : t.kind? a = some ka) (hb : t.kind? b = some kb)
    (h : ka.Copied t.Copies kb) : t.Copies a b := by
  have hmore : ∀ x y, t.Copies x y → (x = a ∧ y = b) ∨ t.Copies x y := fun _ _ => .inr
  refine ⟨fun x y => (x = a ∧ y = b) ∨ t.Copies x y, ?_, .inl ⟨rfl, rfl⟩⟩
  rintro x y (⟨rfl, rfl⟩ | hxy)
  · exact ⟨ka, kb, ha, hb, h.mono hmore⟩
  · obtain ⟨kx, ky, hx, hy, hk⟩ := t.copying_copies x y hxy
    exact ⟨kx, ky, hx, hy, hk.mono hmore⟩

/-- In a closed table every entry is a copy of itself. -/
theorem Closed.copies_refl (ht : t.Closed) (ha : t.Has a) : t.Copies a a := by
  refine ⟨fun a b => a = b ∧ t.Has a, ?_, rfl, ha⟩
  rintro a _ ⟨rfl, ha⟩
  obtain ⟨k, hk⟩ := exists_kind_of_has ha
  exact ⟨k, k, hk, hk, .refl (fun part hpart => ⟨rfl, ht a k hk part hpart⟩)⟩

namespace Copying

/-- Which of two entries is the copy makes no difference. -/
theorem flip (hR : t.Copying R) : t.Copying (Function.swap R) := by
  intro a b h
  obtain ⟨kb, ka, hb, ha, hk⟩ := hR b a h
  exact ⟨ka, kb, ha, hb, hk.flip⟩

/-! ## One entry -/

theorem has_left (hR : t.Copying R) (h : R a b) : t.Has a := by
  obtain ⟨ka, kb, ha, -, -⟩ := hR a b h
  exact has_of_kind? ha

theorem has_right (hR : t.Copying R) (h : R a b) : t.Has b := by
  obtain ⟨ka, kb, -, hb, -⟩ := hR a b h
  exact has_of_kind? hb

theorem kind (hR : t.Copying R) (h : R a b) :
    InStep (TypeKind.Copied R) (t.kind a) (t.kind b) := by
  obtain ⟨ka, kb, ha, hb, hk⟩ := hR a b h
  exact .of_ok (kind_of_kind? ha) (kind_of_kind? hb) hk

theorem isError (hR : t.Copying R) (h : R a b) : InStep Eq (t.isError a) (t.isError b) := by
  refine (hR.kind h).bind (fun ka kb hk => ?_)
  cases hk with
  | named name package _ => cases package <;> exact .refl _
  | _ => exact .refl _

theorem isDefined (hR : t.Copying R) (h : R a b) : InStep Eq (t.isDefined a) (t.isDefined b) := by
  obtain ⟨ka, kb, ha, hb, hk⟩ := hR a b h
  rw [isDefined_of_kind? ha, isDefined_of_kind? hb, hk.isDefined]
  exact .refl _

theorem pointee (hR : t.Copying R) (h : R a b) :
    InStep (Option.Rel R) (t.pointee a) (t.pointee b) := by
  obtain ⟨ka, kb, ha, hb, hk⟩ := hR a b h
  exact .of_ok (pointee_of_kind? ha) (pointee_of_kind? hb) hk.pointee?

theorem unname (hR : t.Copying R) (h : R a b) : InStep R (t.unname a) (t.unname b) := by
  refine (hR.kind h).bind (fun ka kb hk => ?_)
  cases hk with
  | named name package h => exact .ok h
  | _ => exact .ok h

/-! ## Layers -/

theorem peelUpTo (hR : t.Copying R) (h : R a b) :
    InStep (fun p q => R p.shape q.shape) (t.peelUpTo n a) (t.peelUpTo n b) := by
  induction n generalizing a b with
  | zero => exact .ok h
  | succ n ih =>
    refine (hR.kind h).bind (fun ka kb hk => ?_)
    cases hk with
    | pointer h => exact (ih h).bind (fun _ _ hshape => .ok hshape)
    | named name package h => exact (ih h).bind (fun _ _ hshape => .ok hshape)
    | _ => exact .ok h

/-- Behind copies stand copies. -/
theorem peel (hR : t.Copying R) (h : R a b) :
    InStep (fun p q => R p.shape q.shape) (t.peel a) (t.peel b) :=
  hR.peelUpTo h

theorem peelNamesUpTo (hR : t.Copying R) (h : R a b) :
    InStep (fun p q => R p.shape q.shape) (t.peelNamesUpTo n a) (t.peelNamesUpTo n b) := by
  induction n generalizing a b with
  | zero => exact .ok h
  | succ n ih =>
    refine (hR.kind h).bind (fun ka kb hk => ?_)
    cases hk with
    | named name package h => exact (ih h).bind (fun _ _ hshape => .ok hshape)
    | _ => exact .ok h

theorem underlyingUpTo (hR : t.Copying R) (h : R a b) :
    InStep R (t.underlyingUpTo n a) (t.underlyingUpTo n b) := by
  induction n generalizing a b with
  | zero => exact .ok h
  | succ n ih =>
    refine (hR.kind h).bind (fun ka kb hk => ?_)
    cases hk with
    | named name package h => exact ih h
    | _ => exact .ok h

theorem underlying (hR : t.Copying R) (h : R a b) : InStep R (t.underlying a) (t.underlying b) :=
  hR.underlyingUpTo h

theorem isReferenceShaped (hR : t.Copying R) (h : R a b) :
    InStep Eq (t.isReferenceShaped a) (t.isReferenceShaped b) := by
  refine (hR.peelNamesUpTo h).bind (fun p q hshape => (hR.kind hshape).bind (fun ka kb hk => ?_))
  cases hk <;> exact .refl _

theorem elem (hR : t.Copying R) (h : R a b) : InStep (Option.Rel R) (t.elem a) (t.elem b) := by
  refine (hR.underlying h).bind (fun u v huv => (hR.kind huv).bind (fun ka kb hk => ?_))
  cases hk with
  | slice h => exact .ok (.some h)
  | array length h => exact .ok (.some h)
  | _ => exact .ok .none

theorem sliceShape (hR : t.Copying R) (h : R a b) :
    InStep (Option.Rel R) (t.sliceShape a) (t.sliceShape b) := by
  refine (hR.peel h).bind (fun p q hshape => (hR.kind hshape).bind (fun ka kb hk => ?_))
  cases hk with
  | slice h => exact .ok (.some hshape)
  | _ => exact .ok .none

theorem structFields (hR : t.Copying R) (h : R a b) :
    InStep (Option.Rel (List.Forall₂ (Member.Copied R))) (t.structFields a) (t.structFields b) := by
  refine (hR.peel h).bind (fun p q hshape => (hR.kind hshape).bind (fun ka kb hk => ?_))
  cases hk with
  | struct h => exact .ok (.some h)
  | _ => exact .ok .none

end Copying

end TypeTable

/-! ## Records -/

/-- Two fields that agree up to their types. -/
structure RecordField.Copied (R : TypeId → TypeId → Prop) (f g : RecordField) : Prop where
  /-- They have one name. -/
  name : f.name = g.name
  /-- Their types are related. -/
  type : R f.type g.type
  /-- They have one place. -/
  index : f.index = g.index

/-- **Two records that agree up to their types.** -/
structure RecordType.Copied (R : TypeId → TypeId → Prop) (r s : RecordType) : Prop where
  /-- The types they are behind are related. -/
  type : R r.type s.type
  /-- So are the structs. -/
  shape : R r.shape s.shape
  /-- Their fields agree. -/
  fields : List.Forall₂ (RecordField.Copied R) r.fields s.fields

theorem RecordField.copied_eq_eq_eq : RecordField.Copied Eq = Eq := by
  funext f g
  refine propext ⟨fun ⟨hname, htype, hindex⟩ => ?_, fun h => h ▸ ⟨rfl, rfl, rfl⟩⟩
  cases f
  cases g
  exact RecordField.mk.injEq .. ▸ ⟨hname, htype, hindex⟩

theorem RecordType.copied_eq_eq_eq : RecordType.Copied Eq = Eq := by
  funext r s
  refine propext ⟨fun ⟨htype, hshape, hfields⟩ => ?_, fun h => h ▸ ⟨rfl, rfl, ?_⟩⟩
  · rw [RecordField.copied_eq_eq_eq, List.forall₂_eq_eq_eq] at hfields
    cases r
    cases s
    exact RecordType.mk.injEq .. ▸ ⟨htype, hshape, hfields⟩
  · rw [RecordField.copied_eq_eq_eq, List.forall₂_eq_eq_eq]

/-- Structs that say the same have the same fields. -/
theorem RecordType.copied_fieldsOf {R : TypeId → TypeId → Prop} {fs gs : List Member}
    (h : List.Forall₂ (Member.Copied R) fs gs) :
    List.Forall₂ (RecordField.Copied R) (fieldsOf fs) (fieldsOf gs) := by
  obtain ⟨hlen, hget⟩ := List.forall₂_iff_get.mp h
  refine List.forall₂_iff_get.mpr ⟨by simp [fieldsOf, hlen], fun i hi hi' => ?_⟩
  have hi := by simpa [fieldsOf] using hi
  have hi' := by simpa [fieldsOf] using hi'
  obtain ⟨hname, -, htype⟩ := hget i hi hi'
  exact ⟨by simpa [fieldsOf] using hname, by simpa [fieldsOf] using htype, by simp [fieldsOf]⟩

/-! ## Texts -/

/-- Parameters are spelled alike if types are. -/
theorem InStep.spellParams {R : TypeId → TypeId → Prop} {spell : TypeId → Lookup String}
    {rest : TypeId → Lookup TypeId}
    (hspell : ∀ a b, R a b → InStep Eq (spell a) (spell b))
    (hrest : ∀ a b, R a b → InStep R (rest a) (rest b)) {variadic : Bool} {ps qs : List TypeId}
    (h : List.Forall₂ R ps qs) :
    InStep Eq (Crosswalk.spellParams spell rest variadic ps)
      (Crosswalk.spellParams spell rest variadic qs) := by
  induction h with
  | nil => exact .refl _
  | cons hpq htail ih =>
    cases htail with
    | nil =>
      cases variadic with
      | true =>
        exact (hrest _ _ hpq).bind (fun _ _ he => (hspell _ _ he).bind_eq (fun _ => .refl _))
      | false => exact (hspell _ _ hpq).bind_eq (fun _ => .refl _)
    | cons hpq' htail => exact (hspell _ _ hpq).bind_eq (fun _ => ih.bind_eq (fun _ => .refl _))

namespace TypeTable.Copying

variable {t : TypeTable} {R : TypeId → TypeId → Prop} {a b a' b' u v u' v' : TypeId} {n : Nat}

/-- **Behind copies stand records that agree.** -/
theorem resolve (hR : t.Copying R) (h : R a b) :
    InStep (Option.Rel (RecordType.Copied R)) (RecordType.resolve t a)
      (RecordType.resolve t b) := by
  refine (hR.peel h).bind (fun p q hshape => ?_)
  refine (hR.structFields hshape).bind (fun fs gs hfields => ?_)
  cases hfields with
  | none => exact .ok .none
  | some hfields => exact .ok (.some ⟨h, hshape, RecordType.copied_fieldsOf hfields⟩)

theorem restElem (hR : t.Copying R) (h : R a b) : InStep R (t.restElem a) (t.restElem b) := by
  refine (hR.elem h).bind (fun ea eb he => ?_)
  cases he with
  | none => exact .ok h
  | some he => exact .ok he

theorem displayTo (hR : t.Copying R) (h : R a b) :
    InStep Eq (t.displayTo n a) (t.displayTo n b) := by
  induction n generalizing a b with
  | zero => exact .refl _
  | succ n ih =>
    have hall : ∀ {ids ids' : List TypeId}, List.Forall₂ R ids ids' →
        InStep Eq (ids.mapM (t.displayTo n)) (ids'.mapM (t.displayTo n)) :=
      fun hids => .mapM_eq (hids.imp (fun _ _ => ih))
    obtain ⟨ka, kb, ha, hb, hk⟩ := hR a b h
    unfold TypeTable.displayTo
    rw [ha, hb]
    cases hk with
    | basic b => exact .refl _
    | named name package _ => cases package <;> exact .refl _
    | pointer h => exact (ih h).bind_eq (fun _ => .refl _)
    | slice h => exact (ih h).bind_eq (fun _ => .refl _)
    | array length h => exact (ih h).bind_eq (fun _ => .refl _)
    | map hk hv => exact (ih hk).bind_eq (fun _ => (ih hv).bind_eq (fun _ => .refl _))
    | struct h =>
      refine InStep.bind_eq (.mapM_eq (h.imp (fun f g hfg => ?_))) (fun _ => .refl _)
      obtain ⟨hname, -, htype⟩ := hfg
      rw [hname]
      exact (ih htype).bind_eq (fun _ => .refl _)
    | interface methods => exact .refl _
    | signature variadic hp hr =>
      exact (InStep.spellParams (fun _ _ h => ih h) (fun _ _ h => hR.restElem h) hp).bind_eq
        (fun _ => (hall hr).bind_eq (fun _ => .refl _))
    | tuple h => exact (hall h).bind_eq (fun _ => .refl _)

/-- **Copies are shown alike.** -/
theorem display (hR : t.Copying R) (h : R a b) : InStep Eq (t.display a) (t.display b) :=
  hR.displayTo h

/-! ## Comparisons -/

/-- Copies are found to be identical, unless they are too deep. -/
theorem identicalTo (hR : t.Copying R) (hdeep : t.Shallow n a) (h : R a b) :
    t.identicalTo n a b = .ok true := by
  induction n generalizing a b with
  | zero => exact hdeep.elim
  | succ n ih =>
    obtain ⟨ka, kb, ha, hb, hk⟩ := hR a b h
    refine identicalTo_succ_iff.mpr (.inr ⟨ka, kb, ha, hb, hk.alike (fun hbare x hx y hxy => ?_)⟩)
    exact ih (hdeep x ⟨ka, ha, hbare, hx⟩) hxy

/-- **Comparing copies comes to what comparing the originals does.** -/
theorem identical (hR : t.Copying R) (ht : t.Grounded False) (ha : R a b) (ha' : R a' b') :
    InStep Eq (t.identical a a') (t.identical b b') := by
  obtain ⟨r, hr, -⟩ := (ht.identical_safe (hR.has_left ha) (hR.has_left ha')).exists_ok
  obtain ⟨r', hr', -⟩ := (ht.identical_safe (hR.has_right ha) (hR.has_right ha')).exists_ok
  have hdeep := ht.shallow.resolve_left not_false
  have hab : t.identical a b = .ok true := hR.identicalTo (hdeep a) ha
  have hab' : t.identical a' b' = .ok true := hR.identicalTo (hdeep a') ha'
  refine .of_iff hr hr' ⟨fun h => ?_, fun h => ?_⟩
  · exact identical_trans (identical_symm hab) (identical_trans h hab')
  · exact identical_trans hab (identical_trans h (identical_symm hab'))

/-- The last rules of assignability do not tell copies apart. -/
theorem takes (hR : t.Copying R) (ha : R a b) (hu : R u u') (hv : R v v') :
    InStep Eq (t.takes a u v) (t.takes b u' v') := by
  refine (hR.kind hv).bind (fun kv kv' hkv => ?_)
  cases hkv with
  | interface methods =>
    show InStep Eq (if methods.isEmpty then _ else _) (if methods.isEmpty then _ else _)
    split
    · exact .refl _
    · exact (hR.kind hu).bind (fun ka kb hk => by cases hk <;> exact .refl _)
  -- a destination that is no interface takes nothing but the untyped `nil`
  | _ => exact (hR.kind ha).bind (fun ka kb hk => by cases hk <;> exact .refl _)

/-- **Copies are stored where the originals are.** -/
theorem assignable (hR : t.Copying R) (ht : t.Grounded False) (ha : R a b) (ha' : R a' b') :
    InStep Eq (t.assignable a a') (t.assignable b b') := by
  rw [assignable_eq, assignable_eq]
  refine (hR.identical ht ha ha').bind_eq (fun same => ?_)
  split
  · exact .refl _
  refine (hR.underlying ha).bind (fun u u' hu => (hR.underlying ha').bind (fun v v' hv => ?_))
  refine (hR.identical ht hu hv).bind_eq (fun shape => ?_)
  split
  · refine (hR.isDefined ha).bind_eq (fun ds => ?_)
    split
    · exact .refl _
    refine (hR.isDefined ha').bind_eq (fun dd => ?_)
    split
    · exact .refl _
    · exact hR.takes ha hu hv
  · exact hR.takes ha hu hv

end TypeTable.Copying

end Crosswalk
