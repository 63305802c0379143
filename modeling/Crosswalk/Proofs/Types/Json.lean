import Crosswalk.Proofs.Faithful
import Crosswalk.Program.Validation
import Crosswalk.Types.Json

/-!
# Tables of types, read back

An entry is read from its document as it was written. What it needs for that is room for its
numbers: positions of 32 bits and lengths of 64. A name may be anything, and a part that may be
left out is written all the same, as `null` or at its default.
-/

namespace Crosswalk

/-- A position that 32 bits have room for. -/
def TypeId.Fits (id : TypeId) : Prop := id.index < Width.count32

/-- The lengths an entry mentions. -/
def TypeKind.lengths : TypeKind → List Nat
  | .array _ length => [length]
  | _ => []

/-- **An entry that documents have room for.** -/
structure TypeKind.Fits (k : TypeKind) : Prop where
  /-- The types it mentions. -/
  parts : ∀ part ∈ k.parts, part.Fits
  /-- The lengths it mentions. -/
  lengths : ∀ n ∈ k.lengths, n < Width.count64

open Json (Faithful fields?_object)

theorem TypeId.faithful : Faithful TypeId.ofJson? TypeId.toJson TypeId.Fits :=
  (Faithful.nat Width.count32).wrap TypeId.mk TypeId.index (fun _ => rfl) (fun _ => rfl)

theorem TypeId.faithful_list :
    Faithful TypeId.listOfJson? (Json.ofList TypeId.toJson) (fun ids => ∀ id ∈ ids, id.Fits) :=
  TypeId.faithful.list

theorem Member.faithful : Faithful Member.ofJson? Member.toJson (fun m => m.type.Fits) := by
  refine ⟨fun m hm => ?_, fun j m hm => ?_⟩
  · simp [Member.ofJson?, Member.toJson, fields?_object, Fields.required, Fields.withDefault,
      Json.text?, Json.bool?, TypeId.faithful.undoes _ hm]
  · simp only [Member.ofJson?, Option.bind_eq_bind, Option.bind_eq_some_iff] at hm
    obtain ⟨fields, -, name, -, type, htype, embedded, -, hm⟩ := hm
    obtain rfl := Option.some.inj hm
    exact TypeId.faithful.of_required htype

namespace TypeKind

variable {k : TypeKind} {j : Json}

theorem ofJson?_toJson (hk : k.Fits) : ofJson? k.toJson = some k := by
  have hid : ∀ part ∈ k.parts, TypeId.ofJson? part.toJson = some part :=
    fun part hpart => TypeId.faithful.undoes part (hk.parts part hpart)
  have hids : ∀ ids ⊆ k.parts, TypeId.listOfJson? (Json.ofList TypeId.toJson ids) = some ids :=
    fun ids hids => TypeId.faithful_list.undoes ids (fun id hid => hk.parts id (hids hid))
  cases k with
  | basic b => simp [ofJson?, toJson]
  | named name package underlying =>
    have hpackage := (Faithful.text.nullable nofun).undoes package (fun _ _ => trivial)
    simp [ofJson?, toJson, namedOfJson?, fields?_object, Fields.required, Fields.defaultIfNamed,
      Fields.withDefault, Json.text?, hpackage, hid underlying List.mem_cons_self]
  | pointer elem => simp [ofJson?, toJson, hid elem List.mem_cons_self]
  | slice elem => simp [ofJson?, toJson, hid elem List.mem_cons_self]
  | array elem length =>
    have hlength := (Faithful.nat Width.count64).undoes length (hk.lengths _ List.mem_cons_self)
    simp [ofJson?, toJson, arrayOfJson?, fields?_object, Fields.required, hlength,
      hid elem List.mem_cons_self]
  | map key value =>
    simp [ofJson?, toJson, mapOfJson?, fields?_object, Fields.required,
      hid key List.mem_cons_self, hid value (List.mem_cons_of_mem _ List.mem_cons_self)]
  | struct fields =>
    have hfields := Member.faithful.list.undoes fields
      (fun m hm => hk.parts m.type (List.mem_map_of_mem hm))
    simp [ofJson?, toJson, structOfJson?, fields?_object, Fields.required, hfields]
  | interface methods =>
    have hmethods := Faithful.text.list.undoes methods (fun _ _ => trivial)
    simp [ofJson?, toJson, interfaceOfJson?, fields?_object, Fields.required, hmethods]
  | signature params results variadic =>
    simp [ofJson?, toJson, signatureOfJson?, fields?_object, Fields.required, Fields.withDefault,
      Json.bool?, hids params (List.subset_append_left _ _),
      hids results (List.subset_append_right _ _)]
  | tuple elems => simp [ofJson?, toJson, hids elems (List.Subset.refl _)]

theorem fits_of_ofJson? (h : ofJson? j = some k) : k.Fits := by
  unfold ofJson? at h
  obtain ⟨c, -, h⟩ := Option.bind_eq_some_iff.mp h
  split at h
  case h_11 => cases h
  all_goals simp only [namedOfJson?, arrayOfJson?, mapOfJson?, structOfJson?, interfaceOfJson?,
    signatureOfJson?, Option.bind_eq_bind, Option.bind_eq_some_iff, Option.pure_def,
    Option.some.injEq] at h
  · obtain ⟨b, -, rfl⟩ := h
    exact ⟨nofun, nofun⟩
  · obtain ⟨fields, -, name, -, package, -, underlying, hunderlying, rfl⟩ := h
    exact ⟨List.forall_mem_singleton.mpr (TypeId.faithful.of_required hunderlying), nofun⟩
  · obtain ⟨elem, helem, rfl⟩ := h
    exact ⟨List.forall_mem_singleton.mpr (TypeId.faithful.only _ _ helem), nofun⟩
  · obtain ⟨elem, helem, rfl⟩ := h
    exact ⟨List.forall_mem_singleton.mpr (TypeId.faithful.only _ _ helem), nofun⟩
  · obtain ⟨fields, -, elem, helem, length, hlength, rfl⟩ := h
    exact ⟨List.forall_mem_singleton.mpr (TypeId.faithful.of_required helem),
      List.forall_mem_singleton.mpr ((Faithful.nat Width.count64).of_required hlength)⟩
  · obtain ⟨fields, -, key, hkey, value, hvalue, rfl⟩ := h
    exact ⟨List.forall_mem_cons.mpr ⟨TypeId.faithful.of_required hkey,
      List.forall_mem_singleton.mpr (TypeId.faithful.of_required hvalue)⟩, nofun⟩
  · obtain ⟨fields, -, members, hmembers, rfl⟩ := h
    refine ⟨fun part hpart => ?_, nofun⟩
    obtain ⟨m, hm, rfl⟩ := List.mem_map.mp hpart
    exact Member.faithful.list.of_required hmembers m hm
  · obtain ⟨fields, -, methods, -, rfl⟩ := h
    exact ⟨nofun, nofun⟩
  · obtain ⟨fields, -, params, hparams, results, hresults, variadic, -, rfl⟩ := h
    refine ⟨fun part hpart => ?_, nofun⟩
    rcases List.mem_append.mp hpart with hpart | hpart
    · exact TypeId.faithful_list.of_required hparams part hpart
    · exact TypeId.faithful_list.of_required hresults part hpart
  · obtain ⟨elems, helems, rfl⟩ := h
    exact ⟨TypeId.faithful_list.only _ _ helems, nofun⟩

/-- **Reading undoes writing**, of entries of whatever kind. -/
theorem faithful : Faithful ofJson? toJson Fits :=
  ⟨fun _ => ofJson?_toJson, fun _ _ => fits_of_ofJson?⟩

end TypeKind

namespace TypeTable

/-- A table all of whose entries documents have room for. -/
def Fits (t : TypeTable) : Prop := ∀ k ∈ t.kinds, k.Fits

theorem faithful : Faithful ofJson? toJson Fits := by
  have h := TypeKind.faithful.list.wrap (fun kinds => (⟨kinds.toArray⟩ : TypeTable))
    (fun t => t.kinds.toList) (fun _ => rfl) (fun _ => rfl)
  exact ⟨fun t ht => h.undoes t (fun k hk => ht k (Array.mem_toList_iff.mp hk)), fun j t ht =>
    fun k hk => h.only j t ht k (Array.mem_toList_iff.mpr hk)⟩

end TypeTable

end Crosswalk
