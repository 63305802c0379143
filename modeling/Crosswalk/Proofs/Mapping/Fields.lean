import Crosswalk.Proofs.Mapping.Protocol

/-!
# Where the names of a specification come from

Overrides and ignored fields are kept by name. Each name was that of a selected field, and a
field is selected off a record; of the record nothing is kept. So a name says what it should
only if the record was compared with that of the side the name is for, before it was let go.

The one comparison that is made is that of the field an override is for
(`Reading.destField`). A source field and an ignored one may be selected off any record, and
then their names are those of unrelated fields of the record they are looked up in, or of none
at all.
-/

namespace Crosswalk

/-- **The selected field is one of the bare record behind a type.** -/
def Selector.On (selector : Selector) (t : TypeTable) (id : TypeId) : Prop :=
  ∃ record, RecordType.resolve t id = .ok (some record) ∧ record.shape = selector.record ∧
    selector.field ∈ record.fields

namespace Scope

variable {s : Scope} {v : ValueId} {selector : Selector} {n : Nat} {id : TypeId}

/-- **The value at `v` selects a field**: taken out of interfaces and back over loads, it is
the address of that field, off a value of the type of the record. -/
inductive Selects (s : Scope) : ValueId → Selector → Prop
  /-- The address itself. -/
  | address {v base : ValueId} {i : Nat} {value : Value} {type : TypeId} {record : RecordType}
      {field : RecordField} (hk : s.function.kind? v = some (.fieldAddr base i))
      (hbase : s.function.value? base = some value) (htype : value.type = some type)
      (hrecord : RecordType.resolve s.program.types type = .ok (some record))
      (hfield : record.fields[i]? = some field) : Selects s v ⟨record.shape, field⟩
  /-- Put into an interface. -/
  | boxed {v inner : ValueId} {selector : Selector}
      (hk : s.function.kind? v = some (.makeInterface inner)) (h : Selects s inner selector) :
      Selects s v selector
  /-- Loaded. -/
  | loaded {v inner : ValueId} {selector : Selector}
      (hk : s.function.kind? v = some (.unOp .deref inner)) (h : Selects s inner selector) :
      Selects s v selector

theorem selects_of_selectorAt {base : ValueId} {i : Nat}
    (hk : s.function.kind? v = some (.fieldAddr base i))
    (h : s.selectorAt v base i = .ok selector) : s.Selects v selector := by
  obtain ⟨value, hvalue, h⟩ := bind_eq_ok_iff.mp h
  obtain ⟨type, htype, h⟩ := bind_eq_ok_iff.mp h
  obtain ⟨found, hfound, h⟩ := bind_eq_ok_iff.mp h
  rw [liftM_eq_ok_iff] at hfound
  have htype : value.type = some type := by
    unfold typed at htype
    split at htype
    · rename_i own hown
      exact hown.trans (congrArg some (Except.ok.inj htype))
    · cases htype
  cases found with
  | none => cases h
  | some record =>
    dsimp only at h
    split at h
    · rename_i field hfield
      obtain rfl := Except.ok.inj h
      exact .address hk (value_eq_ok_iff.mp hvalue) htype hfound hfield
    · cases h

theorem selects_of_selectorTo (h : s.selectorTo n v = .ok selector) : s.Selects v selector := by
  induction n generalizing v with
  | zero => cases h
  | succ n ih =>
    obtain ⟨value, hvalue, h⟩ := bind_eq_ok_iff.mp h
    have hk := Func.kind?_of_value? (value_eq_ok_iff.mp hvalue)
    split at h
    · rename_i inner hkind
      exact .boxed (hkind ▸ hk) (ih h)
    · rename_i inner hkind
      exact .loaded (hkind ▸ hk) (ih h)
    · rename_i base i hkind
      exact selects_of_selectorAt (hkind ▸ hk) h
    · cases h

/-- **A selector is read off a value that selects its field.** -/
theorem selects_of_selector (h : s.selector v = .ok selector) : s.Selects v selector :=
  selects_of_selectorTo h

/-- **A selected field is one of the record behind a type** exactly when its record is the
struct that the layers of the type wrap. -/
theorem Selects.on_iff (h : s.Selects v selector) : selector.On s.program.types id ↔
    ∃ layers, s.program.types.peel id = .ok ⟨layers, selector.record⟩ := by
  constructor
  · rintro ⟨record, hrecord, hshape, -⟩
    exact hshape ▸ RecordType.peel_of_resolve hrecord
  · rintro ⟨layers, hpeel⟩
    induction h with
    | address hk hbase htype hrecord hfield =>
      obtain ⟨path, shape, members, -, hshape, rfl⟩ := RecordType.resolve_eq_ok_iff.mp hrecord
      exact ⟨_, RecordType.resolve_of_peel hpeel hshape, rfl, List.mem_of_getElem? hfield⟩
    | boxed hk h ih => exact ih hpeel
    | loaded hk h ih => exact ih hpeel

/-- What is read of a packed list is read of its elements. -/
theorem exists_of_mem_list {α : Type} {element : ValueId → Checked ShapeError α} {as : List α}
    {a : α} (h : s.list element v = .ok as) (ha : a ∈ as) :
    ∃ vs, s.packed v = .ok vs ∧ ∃ w ∈ vs, element w = .ok a := by
  obtain ⟨vs, hvs, h⟩ := bind_eq_ok_iff.mp h
  obtain ⟨w, hw, hread⟩ := exists_beside (mapM_eq_ok_iff.mp h) ha
  exact ⟨vs, hvs, w, hw, hread⟩

end Scope

/-! ## Names in a specification -/

section Addition

variable {additions : List Addition} {spec : MappingSpec} {name : String}

/-- **One addition** makes no override but the one it says. -/
theorem Addition.mem_overrides_apply {addition : Addition} {entry : String × String}
    (h : entry ∈ (addition.apply spec).manualFieldOverrides.entries) :
    entry ∈ spec.manualFieldOverrides.entries ∨ addition = .feed entry.1 entry.2 := by
  cases addition with
  | feed dest source =>
    rcases OrderedMap.mem_entries_insert h with h | rfl
    · exact .inl h
    · exact .inr rfl
  | _ => exact .inl h

/-- **Every override was added by one of the additions.** -/
theorem mem_overrides_foldl_apply {entry : String × String}
    (h : entry ∈ (additions.foldl Addition.apply spec).manualFieldOverrides.entries) :
    entry ∈ spec.manualFieldOverrides.entries ∨ .feed entry.1 entry.2 ∈ additions := by
  induction additions generalizing spec with
  | nil => exact .inl h
  | cons addition additions ih =>
    rcases ih h with h | h
    · refine (Addition.mem_overrides_apply h).imp_right ?_
      rintro rfl
      exact List.mem_cons_self
    · exact .inr (List.mem_cons_of_mem _ h)

/-- **One addition** ignores no fields but those it lists. -/
theorem Addition.mem_ignored_apply {addition : Addition}
    (h : name ∈ (addition.apply spec).ignoredDestFields) :
    name ∈ spec.ignoredDestFields ∨ ∃ names, addition = .ignore names ∧ name ∈ names := by
  cases addition with
  | ignore names =>
    rcases OrderedSet.mem_insertAll.mp h with h | h
    · exact .inl h
    · exact .inr ⟨names, rfl, h⟩
  | _ => exact .inl h

/-- **Every ignored name was listed by one of the additions.** -/
theorem mem_ignored_foldl_apply
    (h : name ∈ (additions.foldl Addition.apply spec).ignoredDestFields) :
    name ∈ spec.ignoredDestFields ∨ ∃ names, .ignore names ∈ additions ∧ name ∈ names := by
  induction additions generalizing spec with
  | nil => exact .inl h
  | cons addition additions ih =>
    rcases ih h with h | ⟨names, hnames, h⟩
    · rcases Addition.mem_ignored_apply h with h | ⟨names, rfl, hname⟩
      · exact .inl h
      · exact .inr ⟨names, List.mem_cons_self, hname⟩
    · exact .inr ⟨names, List.mem_cons_of_mem _ hnames, h⟩

end Addition

namespace Reading

variable {r : Reading} {destType : TypeId} {mark : MarkerCall × List ValueId}

/-- **An override is said of two selected fields**, the second of which is one of the
destination's. -/
theorem Says.exists_selects_of_feed {destName sourceName : String}
    (h : r.Says destType mark (.feed destName sourceName)) :
    ∃ a b source dest, mark = (.direct .mapField, [a, b]) ∧ r.scope.Selects a source ∧
      r.scope.Selects b dest ∧ source.field.name = sourceName ∧ dest.field.name = destName ∧
      dest.On r.types destType := by
  cases h with
  | mapField hs hd hrecord =>
    have hdest := Scope.selects_of_selector hd
    exact ⟨_, _, _, _, rfl, Scope.selects_of_selector hs, hdest, rfl, rfl,
      hdest.on_iff.mpr ⟨_, hrecord⟩⟩

/-- **Names to ignore are those of selected fields.** -/
theorem Says.exists_selects_of_ignore {names : List String} {name : String}
    (h : r.Says destType mark (.ignore names)) (hname : name ∈ names) :
    ∃ packed vs, mark = (.direct .ignoreFields, [packed]) ∧ r.scope.packed packed = .ok vs ∧
      ∃ v ∈ vs, ∃ selector, r.scope.Selects v selector ∧ selector.field.name = name := by
  cases h with
  | ignoreFields hselectors =>
    obtain ⟨selector, hselector, rfl⟩ := List.mem_map.mp hname
    obtain ⟨vs, hvs, v, hv, h⟩ := Scope.exists_of_mem_list hselectors hselector
    exact ⟨_, vs, rfl, hvs, v, hv, selector, Scope.selects_of_selector h, rfl⟩

end Reading

namespace Program

variable {p : Program} {settings : Settings} {id : FunctionId} {spec : MappingSpec}

/-- **The names in a specification are those of selected fields.** Every override comes from a
call of `MapField` with two selected fields, of which the second is one of the destination's
bare record; the first is one of the source's exactly when the struct it is selected off is
the one behind the type of the source. Every ignored name comes from a call of `IgnoreFields`
that lists a selected field of that name, and this is one of the destination's bare record
exactly when the struct it is selected off is the one behind the type of the destination. -/
theorem names_come_from_selections (h : p.validate = .ok ())
    (hspec : p.interpret settings id = .ok (some spec)) :
    ∃ f r args rest, p.function? id = some f ∧ Reading.ofFunction p settings f = .ok r ∧
      r.Opens args rest ∧
      (∀ entry ∈ spec.manualFieldOverrides.entries, ∃ a b source dest,
        (.direct .mapField, [a, b]) ∈ rest ∧ r.scope.Selects a source ∧
        r.scope.Selects b dest ∧ entry = (dest.field.name, source.field.name) ∧
        dest.On p.types spec.destType ∧
        (source.On p.types spec.sourceType ↔
          ∃ layers, p.types.peel spec.sourceType = .ok ⟨layers, source.record⟩)) ∧
      ∀ name ∈ spec.ignoredDestFields, ∃ packed vs, (.direct .ignoreFields, [packed]) ∈ rest ∧
        r.scope.packed packed = .ok vs ∧ ∃ v ∈ vs, ∃ selector, r.scope.Selects v selector ∧
          name = selector.field.name ∧
          (selector.On p.types spec.destType ↔
            ∃ layers, p.types.peel spec.destType = .ok ⟨layers, selector.record⟩) := by
  obtain ⟨f, r, hf, hr, hprogram, -, haccepts⟩ := exists_accepts_of_interpret h hspec
  have htypes : r.types = p.types := congrArg Program.types hprogram
  cases haccepts with
  | @mk args rest first additions hopens hfirst hrest =>
    obtain @⟨x, y, source, dest, returned, fails, hs, hd, hgives⟩ := hfirst
    have hdestType := congrArg MappingSpec.destType (Reading.foldl_apply_eq additions
      (r.opening source dest returned fails))
    refine ⟨f, r, _, rest, hf, hr, hopens, fun entry hentry => ?_, fun name hname => ?_⟩
    · have hmem := (mem_overrides_foldl_apply hentry).resolve_left List.not_mem_nil
      obtain ⟨mark, hmark, hsaid⟩ := exists_beside hrest hmem
      obtain ⟨a, b, source', dest', rfl, ha, hb, hsource, hdest, hon⟩ :=
        hsaid.exists_selects_of_feed
      refine ⟨a, b, source', dest', hmark, ha, hb, Prod.ext hdest.symm hsource.symm, ?_, ?_⟩
      · rw [hdestType, ← htypes]
        exact hon
      · rw [← htypes]
        exact ha.on_iff
    · obtain ⟨names, hnames, hname⟩ :=
        (mem_ignored_foldl_apply hname).resolve_left List.not_mem_nil
      obtain ⟨mark, hmark, hsaid⟩ := exists_beside hrest hnames
      obtain ⟨packed, vs, rfl, hvs, v, hv, selector, hselects, rfl⟩ :=
        hsaid.exists_selects_of_ignore hname
      refine ⟨packed, vs, hmark, hvs, v, hv, selector, hselects, rfl, ?_⟩
      rw [← htypes]
      exact hselects.on_iff

/-- The program of the cards with a mapping that feeds a field of the card from another one of
the card: it calls `CreateMap(contact, card)`, and then `MapField(card.Street, card.Phone)`. -/
def strayProgram : Program where
  package := cardProgram.package
  types := ⟨cardProgram.types.kinds ++ #[.pointer ⟨0⟩]⟩
  functions := #[
    .external ⟨0⟩ "CreateMap" "github.com/paultyng/go-typemapper" ⟨none, [], [], false⟩,
    { id := ⟨1⟩
      name := "ToCard"
      package := "example.com/cards"
      file := some "cards.go"
      signature := ⟨none, [⟨"contact", ⟨2⟩⟩, ⟨"card", ⟨4⟩⟩], [], false⟩
      params := [⟨0⟩, ⟨1⟩]
      blocks := #[⟨⟨0⟩, [⟨2⟩, ⟨3⟩, ⟨5⟩, ⟨6⟩, ⟨7⟩, ⟨8⟩, ⟨9⟩, ⟨10⟩, ⟨11⟩, ⟨13⟩, ⟨14⟩], none⟩]
      values := #[⟨.parameter 0, some ⟨2⟩, some "contact"⟩, ⟨.parameter 1, some ⟨4⟩, some "card"⟩,
        ⟨.makeInterface ⟨0⟩, some ⟨5⟩, none⟩, ⟨.makeInterface ⟨1⟩, some ⟨5⟩, none⟩,
        ⟨.functionRef ⟨0⟩, some ⟨6⟩, none⟩, ⟨.call ⟨4⟩ [⟨2⟩, ⟨3⟩], none, none⟩,
        ⟨.fieldAddr ⟨1⟩ 3, some ⟨7⟩, none⟩, ⟨.unOp .deref ⟨6⟩, some ⟨0⟩, none⟩,
        ⟨.makeInterface ⟨7⟩, some ⟨5⟩, none⟩, ⟨.fieldAddr ⟨1⟩ 0, some ⟨7⟩, none⟩,
        ⟨.unOp .deref ⟨9⟩, some ⟨0⟩, none⟩, ⟨.makeInterface ⟨10⟩, some ⟨5⟩, none⟩,
        ⟨.functionRef ⟨2⟩, some ⟨6⟩, none⟩, ⟨.call ⟨12⟩ [⟨8⟩, ⟨11⟩], none, none⟩,
        ⟨.ret [], none, none⟩]
      synthetic := none },
    .external ⟨2⟩ "MapField" "github.com/paultyng/go-typemapper" ⟨none, [], [], false⟩]

/-- The mapping is read for an override. -/
theorem strayProgram_interpret : ∃ spec, strayProgram.interpret {} ⟨1⟩ = .ok (some spec) ∧
    spec.sourceType = ⟨2⟩ ∧ ("Phone", "Street") ∈ spec.manualFieldOverrides.entries := by
  have hcomputed : answersWith (Option.any (fun spec => decide (spec.sourceType = ⟨2⟩ ∧
        ("Phone", "Street") ∈ spec.manualFieldOverrides.entries)))
      (strayProgram.interpret {} ⟨1⟩) = true := by decide +kernel
  obtain ⟨found, hfound, hany⟩ := exists_of_answersWith hcomputed
  obtain ⟨spec, rfl, hnames⟩ := (Option.any_eq_true _ _).mp hany
  exact ⟨spec, hfound, of_decide_eq_true hnames⟩

/-- What the override is for is a field of the card, though its source strays. -/
theorem strayProgram_override_on_card : strayProgram.validate = .ok () ∧
    ∃ spec dest, strayProgram.interpret {} ⟨1⟩ = .ok (some spec) ∧
      dest.field.name = "Phone" ∧ Selector.On dest strayProgram.types spec.destType := by
  have hvalid : strayProgram.validate = .ok () := by decide +kernel
  obtain ⟨spec, hspec, -, hentry⟩ := strayProgram_interpret
  obtain ⟨f, r, args, rest, -, -, -, hoverrides, -⟩ := names_come_from_selections hvalid hspec
  obtain ⟨a, b, source, dest, -, -, -, heq, hon, -⟩ := hoverrides _ hentry
  exact ⟨hvalid, spec, dest, hspec, (congrArg Prod.fst heq).symm, hon⟩

/-- **An override may name no field of the source**: a contact has no street. -/
theorem strayProgram_override_names_nothing : strayProgram.validate = .ok () ∧
    ∃ spec source, strayProgram.interpret {} ⟨1⟩ = .ok (some spec) ∧
      RecordType.resolve strayProgram.types spec.sourceType = .ok (some source) ∧
      ("Phone", "Street") ∈ spec.manualFieldOverrides.entries ∧
      "Street" ∉ source.fields.map RecordField.name := by
  obtain ⟨spec, hspec, hsource, hentry⟩ := strayProgram_interpret
  refine ⟨by decide +kernel, spec, ⟨⟨2⟩, ⟨1⟩, [⟨"Name", ⟨0⟩, 0⟩, ⟨"Mail", ⟨0⟩, 1⟩]⟩, hspec, ?_,
    hentry, by decide⟩
  rw [hsource]
  decide +kernel

end Program

end Crosswalk
