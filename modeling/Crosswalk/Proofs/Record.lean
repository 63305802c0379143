import Crosswalk.Proofs.Types.Chain
import Crosswalk.Record

/-!
# Records and their fields

The record behind a type is the struct at the end of its chain of layers
(`RecordType.resolve_eq_ok_iff`). So it is the same in every table that the table
grows into, and the same behind a pointer to the type.

The fields of a record are the members of that struct, each with its place, so
their places differ even where their names do not.
-/

namespace Crosswalk

variable {t t' : TypeTable} {id elem shape : TypeId} {r : RecordType} {members : List Member}
  {path : List TypeId}

namespace TypeTable

theorem structFields_of_leads (h : t.Leads TypeKind.inside? path id shape)
    (hk : t.kind? shape = some (.struct members)) : t.structFields id = .ok (some members) := by
  obtain ⟨layers, hpeel⟩ := peel_of_leads h
  unfold structFields
  rw [hpeel, ok_bind, kind_of_kind? hk]
  rfl

theorem exists_leads_of_structFields (h : t.structFields id = .ok (some members)) :
    ∃ path shape, t.Leads TypeKind.inside? path id shape ∧
      t.kind? shape = some (.struct members) := by
  obtain ⟨peeled, hpeel, h⟩ := bind_eq_ok_iff.mp h
  obtain ⟨k, hk, h⟩ := bind_eq_ok_iff.mp h
  rw [kind_eq_ok_iff] at hk
  cases k with
  | struct fields =>
    obtain rfl := Option.some.inj (Except.ok.inj h)
    obtain ⟨path, hpath, -⟩ := leads_of_peel hpeel (.stop hk rfl)
    exact ⟨path, peeled.shape, hpath, hk⟩
  | _ => cases h

end TypeTable

namespace RecordType

/-- Where the layers of a type wrap a struct, the record behind it is that struct. -/
theorem resolve_of_peel {layers : List Layer} (hpeel : t.peel id = .ok ⟨layers, shape⟩)
    (hk : t.kind? shape = some (.struct members)) :
    resolve t id = .ok (some ⟨id, shape, fieldsOf members⟩) := by
  have hfields := TypeTable.structFields_of_leads (.stop hk rfl) hk
  unfold resolve
  rw [hpeel, ok_bind]
  exact congrArg (· >>= fun found => Except.ok (found.map (fun members =>
    (⟨id, shape, fieldsOf members⟩ : RecordType)))) hfields

/-- **The record behind a type is the struct at the end of its layers.** -/
theorem resolve_eq_ok_iff : resolve t id = .ok (some r) ↔ ∃ path shape members,
    t.Leads TypeKind.inside? path id shape ∧ t.kind? shape = some (.struct members) ∧
      r = ⟨id, shape, fieldsOf members⟩ := by
  constructor
  · intro h
    obtain ⟨peeled, hpeel, h⟩ := bind_eq_ok_iff.mp h
    obtain ⟨found, hfound, h⟩ := bind_eq_ok_iff.mp h
    obtain ⟨members, rfl, rfl⟩ := Option.map_eq_some_iff.mp (Except.ok.inj h)
    obtain ⟨path, shape, hpath, hk⟩ := TypeTable.exists_leads_of_structFields hfound
    obtain ⟨path', hpath', rfl⟩ := TypeTable.leads_of_peel hpeel hpath
    exact ⟨path', peeled.shape, members, hpath', hk, rfl⟩
  · rintro ⟨path, shape, members, hpath, hk, rfl⟩
    obtain ⟨layers, hpeel⟩ := TypeTable.peel_of_leads hpath
    exact resolve_of_peel hpeel hk

/-- The shape of the record is what the layers wrap. -/
theorem peel_of_resolve (h : resolve t id = .ok (some r)) :
    ∃ layers, t.peel id = .ok ⟨layers, r.shape⟩ := by
  obtain ⟨path, shape, members, hpath, -, rfl⟩ := resolve_eq_ok_iff.mp h
  exact TypeTable.peel_of_leads hpath

theorem structFields_of_resolve (h : resolve t id = .ok (some r)) :
    ∃ members, t.structFields id = .ok (some members) ∧ r.fields = fieldsOf members := by
  obtain ⟨path, shape, members, hpath, hk, rfl⟩ := resolve_eq_ok_iff.mp h
  exact ⟨members, TypeTable.structFields_of_leads hpath hk, rfl⟩

theorem resolve_grow (h : resolve t id = .ok (some r)) (hgrow : t.GrowsTo t') :
    resolve t' id = .ok (some r) := by
  obtain ⟨path, shape, members, hpath, hk, rfl⟩ := resolve_eq_ok_iff.mp h
  exact resolve_eq_ok_iff.mpr ⟨path, shape, members, hpath.grow hgrow, hgrow _ _ hk, rfl⟩

/-- **Behind a pointer stands the same record.** -/
theorem resolve_of_pointer (h : resolve t elem = .ok (some r))
    (hk : t.kind? id = some (.pointer elem)) :
    resolve t id = .ok (some { r with type := id }) := by
  obtain ⟨path, shape, members, hpath, hshape, rfl⟩ := resolve_eq_ok_iff.mp h
  exact resolve_eq_ok_iff.mpr ⟨id :: path, shape, members, .next hk rfl hpath, hshape, rfl⟩

end RecordType

end Crosswalk
