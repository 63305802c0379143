import Crosswalk.Proofs.Source.Guards

/-!
# Shapes that statements can handle

A mapping is planned for what is inside the layers of its two types, however many there are. The
statements that are emitted for it do not see through as many. A `range` runs through a slice and
`append` takes one, where only names may stand around the slice; a field can be selected of a
struct or of a pointer to one, and of nothing that takes two pointers to get to the struct.

Emission asks for one of these things only: that the destination is a slice, where elements are
appended to it. So that is always so. The other three hold just where the layers happen to allow
it (`Program.emitted_shapes_iff`).
-/

namespace Crosswalk

namespace TypeTable

variable {t : TypeTable} {id v elem under : TypeId} {layers : List Layer} {members : List Member}
  {n : Nat} {k : TypeKind} {peeled : Peeled}

/-- **What a type is once names are taken off.** -/
def Unnamed (t : TypeTable) (id : TypeId) (k : TypeKind) : Prop :=
  ∃ under, t.underlying id = .ok under ∧ t.kind? under = some k

/-- **The type is a slice once names are taken off**: this is what `range` runs through and what
`append` takes. -/
def IsSlice (t : TypeTable) (id elem : TypeId) : Prop := t.Unnamed id (.slice elem)

/-- The type is a struct once names are taken off. -/
def IsStruct (t : TypeTable) (id : TypeId) : Prop := ∃ members, t.Unnamed id (.struct members)

/-- **Fields can be selected of a value of the type**: it is a struct, or a pointer to one. -/
def HasFields (t : TypeTable) (id : TypeId) : Prop :=
  t.IsStruct id ∨ ∃ pointee, t.Unnamed id (.pointer pointee) ∧ t.IsStruct pointee

/-! ## Layers, one by one -/

/-- **A type has layers around another one**, which has none. -/
inductive Layered (t : TypeTable) : List Layer → TypeId → TypeId → Prop
  /-- There are no layers. -/
  | bare {id : TypeId} {k : TypeKind} (hk : t.kind? id = some k) (hbare : k.inside? = none) :
      Layered t [] id id
  /-- The outermost layer is a pointer. -/
  | pointer {id elem v : TypeId} {layers : List Layer} (hk : t.kind? id = some (.pointer elem))
      (h : Layered t layers elem v) : Layered t (.pointer :: layers) id v
  /-- The outermost layer is a name. -/
  | named {id u v : TypeId} {name : String} {package : Option String} {layers : List Layer}
      (hk : t.kind? id = some (.named name package u)) (h : Layered t layers u v) :
      Layered t (.named id :: layers) id v

/-- **A shape is what the layers are around.** -/
theorem layered_of_peelUpTo (h : t.peelUpTo n id = .ok peeled)
    (hk : t.kind? peeled.shape = some k) (hbare : k.inside? = none) :
    t.Layered peeled.layers id peeled.shape := by
  induction n generalizing id peeled with
  | zero =>
    obtain rfl := Except.ok.inj h
    exact .bare hk hbare
  | succ n ih =>
    rw [peelUpTo] at h
    obtain ⟨k', hk', h⟩ := bind_eq_ok_iff.mp h
    rw [kind_eq_ok_iff] at hk'
    cases k' with
    | pointer elem =>
      obtain ⟨inner, hinner, h⟩ := bind_eq_ok_iff.mp h
      obtain rfl := Except.ok.inj h
      exact .pointer hk' (ih hinner hk)
    | named name package u =>
      obtain ⟨inner, hinner, h⟩ := bind_eq_ok_iff.mp h
      obtain rfl := Except.ok.inj h
      exact .named hk' (ih hinner hk)
    | _ =>
      obtain rfl := Except.ok.inj h
      exact .bare hk hbare

theorem layered_of_peel (h : t.peel id = .ok peeled) (hk : t.kind? peeled.shape = some k)
    (hbare : k.inside? = none) : t.Layered peeled.layers id peeled.shape :=
  layered_of_peelUpTo h hk hbare

/-- **What is behind the names around a type**: without pointers among the layers it is the shape,
and otherwise a pointer, with one pointer less behind it. -/
theorem Layered.exists_underlying (h : t.Layered layers id v) : ∃ path under,
    t.Leads TypeKind.declared? path id under ∧
      (layers.count .pointer = 0 ∧ under = v ∨ ∃ pointee inner,
        t.kind? under = some (.pointer pointee) ∧ t.Layered inner pointee v ∧
          layers.count .pointer = inner.count .pointer + 1) := by
  induction h with
  | bare hk hbare =>
    exact ⟨[], _, .stop hk (TypeKind.declared?_eq_none_of_inside? hbare), .inl ⟨rfl, rfl⟩⟩
  | pointer hk h _ =>
    exact ⟨[], _, .stop hk rfl, .inr ⟨_, _, hk, h, List.count_cons_self⟩⟩
  | named hk _ ih =>
    obtain ⟨path, under, hpath, hunder⟩ := ih
    refine ⟨_, under, .next hk rfl hpath, ?_⟩
    rwa [List.count_cons_of_ne (by simp)]

/-- What is neither a name nor a pointer is behind names only, -/
theorem Layered.count_eq_zero (h : t.Layered layers id v) (hunnamed : t.Unnamed id k)
    (hbare : k.inside? = none) : layers.count .pointer = 0 := by
  obtain ⟨path, under, hpath, ⟨hzero, -⟩ | ⟨pointee, inner, hpointer, -⟩⟩ := h.exists_underlying
  · exact hzero
  · obtain ⟨under', hfound, hk⟩ := hunnamed
    obtain rfl := Except.ok.inj ((underlying_of_leads hpath).symm.trans hfound)
    obtain rfl := Option.some.inj (hpointer.symm.trans hk)
    cases hbare

/-- and behind names only it is found. -/
theorem Layered.unnamed (h : t.Layered layers id v) (hzero : layers.count .pointer = 0)
    (hv : t.kind? v = some k) : t.Unnamed id k := by
  obtain ⟨path, under, hpath, ⟨-, rfl⟩ | ⟨pointee, inner, -, -, hcount⟩⟩ := h.exists_underlying
  · exact ⟨under, underlying_of_leads hpath, hv⟩
  · cases hcount.symm.trans hzero

/-- **When a slice inside layers is seen by statements**: when no layer is a pointer. -/
theorem Layered.isSlice_iff (h : t.Layered layers id v) (hv : t.kind? v = some (.slice elem)) :
    t.IsSlice id elem ↔ layers.count .pointer = 0 :=
  ⟨fun hslice => h.count_eq_zero hslice rfl, fun hzero => h.unnamed hzero hv⟩

theorem Layered.isStruct_iff (h : t.Layered layers id v)
    (hv : t.kind? v = some (.struct members)) : t.IsStruct id ↔ layers.count .pointer = 0 :=
  ⟨fun ⟨_, hstruct⟩ => h.count_eq_zero hstruct rfl, fun hzero => ⟨members, h.unnamed hzero hv⟩⟩

/-- **When the fields of a struct inside layers can be selected**: when at most one layer is a
pointer. -/
theorem Layered.hasFields_iff (h : t.Layered layers id v)
    (hv : t.kind? v = some (.struct members)) : t.HasFields id ↔ layers.count .pointer ≤ 1 := by
  unfold HasFields
  rw [h.isStruct_iff hv]
  obtain ⟨path, under, hpath, ⟨hzero, rfl⟩ | ⟨pointee, inner, hpointer, hinner, hcount⟩⟩ :=
    h.exists_underlying
  · exact ⟨fun _ => hzero ▸ Nat.zero_le 1, fun _ => .inl hzero⟩
  · have hfound := underlying_of_leads hpath
    rw [hcount]
    constructor
    · rintro (hzero | ⟨pointee', ⟨under', hfound', hpointer'⟩, hstruct⟩)
      · cases hzero
      · obtain rfl := Except.ok.inj (hfound.symm.trans hfound')
        obtain rfl := TypeKind.pointer.inj (Option.some.inj (hpointer.symm.trans hpointer'))
        rw [(hinner.isStruct_iff hv).mp hstruct]
    · intro hle
      have hzero : inner.count .pointer = 0 := Nat.le_zero.mp (Nat.le_of_succ_le_succ hle)
      exact .inr ⟨pointee, ⟨under, hfound, hpointer⟩, (hinner.isStruct_iff hv).mpr hzero⟩

end TypeTable

/-! ## What is planned and emitted -/

namespace Emitter

variable {e : Emitter} {plan : Plan} {plans : List Plan} {files : List GeneratedFile}
  {names names' : Names} {sourceElem destElem : TypeId} {conversion : Conversion}

/-- **Elements are only appended to a slice.** -/
theorem isSlice_of_function {decl : FunctionDecl} (h : e.function plan names = .ok decl names')
    (hbody : plan.body = .elements sourceElem destElem conversion) :
    ∃ elem, e.types.IsSlice plan.spec.destType elem := by
  obtain ⟨_, between₁, -, h⟩ := Writing.bind_eq_ok_iff.mp h
  obtain ⟨sourceType, between₂, -, h⟩ := Writing.bind_eq_ok_iff.mp h
  obtain ⟨destType, between₃, -, h⟩ := Writing.bind_eq_ok_iff.mp h
  rw [hbody] at h
  obtain ⟨body, between₄, helements, -⟩ := Writing.bind_eq_ok_iff.mp h
  obtain ⟨⟨under, elem, hunder, hk⟩, -⟩ := elementStatements_eq_ok helements
  exact ⟨elem, under, hunder, hk⟩

/-- The function of each plan has been written. -/
theorem exists_function_of_emit (h : e.emit plans = .ok files) (hplan : plan ∈ plans) :
    ∃ decl names names', e.function plan names = .ok decl names' := by
  obtain ⟨source, -, hsource, -⟩ := exists_files_of_mem_plans h hplan
  obtain ⟨decl, -, hdecl⟩ := exists_beside_left (sourceFile_eq_ok hsource)
    (List.mem_filter.mpr ⟨hplan, decide_eq_true rfl⟩)
  exact ⟨decl, hdecl⟩

end Emitter

namespace Program

variable {p : Program} {settings : Settings} {a : Analysis} {output : OutputSettings}
  {packageName : Option String} {plan : Plan} {files : List GeneratedFile}
  {t : TypeTable} {id elem : TypeId}

/-- The elements of a type are those of the slice inside its layers. -/
theorem exists_peel_of_sliceElem (h : sliceElem t id = .ok (some elem)) :
    ∃ peeled, t.peel id = .ok peeled ∧ t.kind? peeled.shape = some (.slice elem) := by
  obtain ⟨found, hfound, h⟩ := bind_eq_ok_iff.mp h
  obtain ⟨peeled, hpeel, hfound⟩ := bind_eq_ok_iff.mp hfound
  obtain ⟨k, hk, hfound⟩ := bind_eq_ok_iff.mp hfound
  rw [TypeTable.kind_eq_ok_iff] at hk
  cases k with
  | slice inner =>
    obtain rfl := Except.ok.inj hfound
    have helem : t.elem peeled.shape = .ok (some inner) := by
      unfold TypeTable.elem
      rw [TypeTable.underlying_of_isBare hk rfl, ok_bind, TypeTable.kind_of_kind? hk]
      rfl
    obtain rfl := Option.some.inj (Except.ok.inj (helem.symm.trans h))
    exact ⟨peeled, hpeel, hk⟩
  | _ =>
    obtain rfl := Except.ok.inj hfound
    cases h

/-- A record is the struct inside the layers of its type. -/
theorem exists_peel_of_resolve {r : RecordType} (h : RecordType.resolve t id = .ok (some r)) :
    ∃ peeled, t.peel id = .ok peeled ∧
      ∃ members, t.kind? peeled.shape = some (.struct members) := by
  obtain ⟨path, shape, members, hpath, hk, -⟩ := RecordType.resolve_eq_ok_iff.mp h
  obtain ⟨layers, hpeel⟩ := TypeTable.peel_of_leads hpath
  exact ⟨_, hpeel, members, hk⟩

/-- **Which shapes get through.** Take a plan of an analysis all of whose plans are emitted. If it
goes element by element, then both types are layers around slices of these elements. The slice
that is appended to has no pointers around it; the one that is run through may have some, and is
a slice to `range` just when it has none. If the plan goes field by field, then both types are
layers around structs. On either side there may be any number of pointers among them, and fields
can be selected just when there is one at most. -/
theorem emitted_shapes_iff (ha : p.analyze settings = .ok a)
    (hfiles : (p.emitter output packageName).emit a.plans = .ok files) (hplan : plan ∈ a.plans) :
    ∃ source dest, p.types.peel plan.spec.sourceType = .ok source ∧
      p.types.peel plan.spec.destType = .ok dest ∧
      (∀ sourceElem destElem conversion, plan.body = .elements sourceElem destElem conversion →
        p.types.kind? source.shape = some (.slice sourceElem) ∧
        p.types.kind? dest.shape = some (.slice destElem) ∧
        p.types.IsSlice plan.spec.destType destElem ∧ dest.pointerDepth = 0 ∧
        (p.types.IsSlice plan.spec.sourceType sourceElem ↔ source.pointerDepth = 0)) ∧
      (∀ fields unmatched, plan.body = .record fields unmatched →
        (∃ members, p.types.kind? source.shape = some (.struct members)) ∧
        (∃ members, p.types.kind? dest.shape = some (.struct members)) ∧
        (p.types.HasFields plan.spec.sourceType ↔ source.pointerDepth ≤ 1) ∧
        (p.types.HasFields plan.spec.destType ↔ dest.pointerDepth ≤ 1)) := by
  obtain ⟨-, -, hplans⟩ := analyze_eq_ok ha
  obtain ⟨spec, -, hspec⟩ := exists_beside hplans hplan
  obtain ⟨rfl, delegates, -, hplanned⟩ := plan_eq_ok hspec
  cases hbody : plan.body with
  | elements sourceElem destElem conversion =>
    rw [hbody] at hplanned
    obtain ⟨hsource, hdest, -⟩ := exists_slices_of_planBody hplanned
    obtain ⟨source, hpeel, hk⟩ := exists_peel_of_sliceElem hsource
    obtain ⟨dest, hpeel', hk'⟩ := exists_peel_of_sliceElem hdest
    have hlayered := TypeTable.layered_of_peel hpeel hk rfl
    have hlayered' := TypeTable.layered_of_peel hpeel' hk' rfl
    -- emission has seen to the destination
    obtain ⟨decl, names, names', hdecl⟩ := Emitter.exists_function_of_emit hfiles hplan
    obtain ⟨elem, hslice⟩ := Emitter.isSlice_of_function hdecl hbody
    have hzero : dest.pointerDepth = 0 := hlayered'.count_eq_zero hslice rfl
    refine ⟨source, dest, hpeel, hpeel', ?_, nofun⟩
    rintro _ _ _ ⟨⟩
    exact ⟨hk, hk', (hlayered'.isSlice_iff hk').mpr hzero, hzero, hlayered.isSlice_iff hk⟩
  | record fields unmatched =>
    rw [hbody] at hplanned
    obtain ⟨src, dst, hsrc, hdst, -⟩ := exists_records_of_planBody hplanned
    obtain ⟨source, hpeel, ms, hk⟩ := exists_peel_of_resolve hsrc
    obtain ⟨dest, hpeel', ms', hk'⟩ := exists_peel_of_resolve hdst
    have hlayered := TypeTable.layered_of_peel hpeel hk rfl
    have hlayered' := TypeTable.layered_of_peel hpeel' hk' rfl
    refine ⟨source, dest, hpeel, hpeel', nofun, ?_⟩
    rintro _ _ ⟨⟩
    exact ⟨⟨ms, hk⟩, ⟨ms', hk'⟩, hlayered.hasFields_iff hk, hlayered'.hasFields_iff hk'⟩

/-- A function of two parameters that maps one into the other. -/
def shapeMapping (id : FunctionId) (name : String) (source dest : Param) : Func where
  id := id
  name := name
  package := "example.com/cards"
  file := some "cards.go"
  signature := ⟨none, [source, dest], [], false⟩
  params := [⟨0⟩, ⟨1⟩]
  blocks := #[⟨⟨0⟩, [⟨2⟩, ⟨3⟩, ⟨5⟩, ⟨6⟩], none⟩]
  values := #[⟨.parameter 0, some source.type, some source.name⟩,
    ⟨.parameter 1, some dest.type, some dest.name⟩,
    ⟨.makeInterface ⟨0⟩, some ⟨9⟩, none⟩, ⟨.makeInterface ⟨1⟩, some ⟨9⟩, none⟩,
    ⟨.functionRef ⟨0⟩, some ⟨10⟩, none⟩, ⟨.call ⟨4⟩ [⟨2⟩, ⟨3⟩], none, none⟩,
    ⟨.ret [], none, none⟩]
  synthetic := none

/-- Letters are copied from a slice and from a pointer to one, and a card is mapped from behind
two pointers. -/
def layerProgram : Program where
  package := "example.com/cards"
  types := ⟨#[.basic .string,
    .slice ⟨0⟩,
    .pointer ⟨1⟩,
    TypeTable.plainStruct [("Mail", ⟨0⟩)],
    .named "Contact" (some "example.com/cards") ⟨3⟩,
    .pointer ⟨4⟩,
    .pointer ⟨5⟩,
    .named "Card" (some "example.com/cards") ⟨3⟩,
    .pointer ⟨7⟩,
    .interface [],
    .signature [] [] false]⟩
  functions := #[
    .external ⟨0⟩ "CreateMap" "github.com/paultyng/go-typemapper" ⟨none, [], [], false⟩,
    shapeMapping ⟨1⟩ "Copy" ⟨"letters", ⟨1⟩⟩ ⟨"copies", ⟨1⟩⟩,
    shapeMapping ⟨2⟩ "CopyAll" ⟨"letters", ⟨2⟩⟩ ⟨"copies", ⟨1⟩⟩,
    shapeMapping ⟨3⟩ "ToCard" ⟨"contact", ⟨6⟩⟩ ⟨"card", ⟨8⟩⟩]

/-- What such a function asks for. -/
def shapeSpec (id : FunctionId) (name : String) (source dest : Param) : MappingSpec where
  function := id
  name := name
  qualifiedName := "cards." ++ name
  file := some "cards.go"
  sourceType := source.type
  destType := dest.type
  sourceBinding := source.name
  destBinding := dest.name
  sourceIsReceiver := false
  destIsPreconstructed := false
  destIsReturned := false
  errorIsReturned := false
  recognizedPrefixes := .empty
  ignoredDestFields := .empty
  manualFieldOverrides := .empty
  delegateMappings := .empty

/-- What is planned for the three. -/
def layerPlans : List Plan :=
  [⟨shapeSpec ⟨1⟩ "Copy" ⟨"letters", ⟨1⟩⟩ ⟨"copies", ⟨1⟩⟩, .elements ⟨0⟩ ⟨0⟩ .assign⟩,
    ⟨shapeSpec ⟨2⟩ "CopyAll" ⟨"letters", ⟨2⟩⟩ ⟨"copies", ⟨1⟩⟩, .elements ⟨0⟩ ⟨0⟩ .assign⟩,
    ⟨shapeSpec ⟨3⟩ "ToCard" ⟨"contact", ⟨6⟩⟩ ⟨"card", ⟨8⟩⟩,
      .record [⟨⟨⟨"Mail", ⟨0⟩, 0⟩, ⟨"Mail", ⟨0⟩, 0⟩⟩, .assign⟩] []⟩]

theorem layerProgram_analyze :
    layerProgram.analyze {} = .ok ⟨.ofSorted (layerPlans.map Plan.spec), layerPlans⟩ :=
  analyze_of_specs (by decide +kernel) (by decide +kernel) (by decide +kernel) (by decide +kernel)

theorem layerProgram_emits : ∃ files,
    (layerProgram.emitter {}).emit layerPlans = .ok files := by
  have hemitted : answersWith (fun _ => true)
      ((layerProgram.emitter {}).emit layerPlans) = true := by decide +kernel
  obtain ⟨files, hfiles, -⟩ := exists_of_answersWith hemitted
  exact ⟨files, hfiles⟩

/-- A slice without pointers around it is run through and appended to as it should be. -/
theorem layerProgram_slices_fit : ∃ a files plan, layerProgram.analyze {} = .ok a ∧
    (layerProgram.emitter {}).emit a.plans = .ok files ∧ plan ∈ a.plans ∧
    plan.spec.name = "Copy" ∧ layerProgram.types.IsSlice plan.spec.sourceType ⟨0⟩ ∧
    layerProgram.types.IsSlice plan.spec.destType ⟨0⟩ := by
  obtain ⟨files, hfiles⟩ := layerProgram_emits
  obtain ⟨source, dest, hsource, -, helements, -⟩ :=
    emitted_shapes_iff layerProgram_analyze hfiles List.mem_cons_self
  obtain ⟨-, -, hdest, -, hiff⟩ := helements _ _ _ rfl
  have hzero : source.pointerDepth = 0 := by
    obtain rfl := Except.ok.inj hsource
    rfl
  exact ⟨_, files, _, layerProgram_analyze, hfiles, List.mem_cons_self, rfl, hiff.mpr hzero, hdest⟩

/-- **Neither a pointer to a slice nor two pointers to a struct are refused**, and no statement
can handle them. -/
theorem layerProgram_pointers_get_through : ∃ a files copyAll toCard,
    layerProgram.analyze {} = .ok a ∧ (layerProgram.emitter {}).emit a.plans = .ok files ∧
    copyAll ∈ a.plans ∧ copyAll.body = .elements ⟨0⟩ ⟨0⟩ .assign ∧
    layerProgram.types.kind? copyAll.spec.sourceType = some (.pointer ⟨1⟩) ∧
    (∀ elem, ¬ layerProgram.types.IsSlice copyAll.spec.sourceType elem) ∧
    toCard ∈ a.plans ∧ (∃ fields, toCard.body = .record fields []) ∧
    layerProgram.types.peel toCard.spec.sourceType
      = .ok ⟨[.pointer, .pointer, .named ⟨4⟩], ⟨3⟩⟩ ∧
    ¬ layerProgram.types.HasFields toCard.spec.sourceType := by
  obtain ⟨files, hfiles⟩ := layerProgram_emits
  have hslice : ∀ elem, ¬ layerProgram.types.IsSlice ⟨2⟩ elem := by
    rintro elem ⟨under, hunder, hk⟩
    obtain rfl := Except.ok.inj hunder
    cases hk
  have hfields : ¬ layerProgram.types.HasFields ⟨6⟩ := by
    rintro (⟨members, under, hunder, hk⟩ |
      ⟨pointee, ⟨under, hunder, hk⟩, members, under', hunder', hk'⟩)
    · obtain rfl := Except.ok.inj hunder
      cases hk
    · obtain rfl := Except.ok.inj hunder
      obtain rfl := TypeKind.pointer.inj (Option.some.inj hk)
      obtain rfl := Except.ok.inj hunder'
      cases hk'
  exact ⟨_, files, _, _, layerProgram_analyze, hfiles, .tail _ (.head _), rfl, rfl, hslice,
    .tail _ (.tail _ (.head _)), ⟨_, rfl⟩, by decide +kernel, hfields⟩

end Program

end Crosswalk
