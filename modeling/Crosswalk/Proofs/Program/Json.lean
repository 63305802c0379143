import Crosswalk.Program.Json
import Crosswalk.Proofs.Types.Index
import Crosswalk.Proofs.Types.Json

/-!
# Programs, read back

A program is read from its document as it was written, down to the last entry, whether or not
it would pass validation. All that is asked for is that its numbers are of the width that
documents have room for (`Program.Fits`), and a program that came from a document is such a
program. So a document that leaves out what stands at its default may be read, written in full
and read again, and nothing changes (`Program.reading_undoes_writing`).
-/

namespace Crosswalk

open Json (Faithful fields?_object)

/-- A position that 32 bits have room for. -/
def FunctionId.Fits (id : FunctionId) : Prop := id.index < Width.count32

/-- A position that 32 bits have room for. -/
def ValueId.Fits (id : ValueId) : Prop := id.index < Width.count32

/-- A position that 32 bits have room for. -/
def BlockId.Fits (id : BlockId) : Prop := id.index < Width.count32

theorem FunctionId.faithful : Faithful FunctionId.ofJson? FunctionId.toJson FunctionId.Fits :=
  (Faithful.nat Width.count32).wrap FunctionId.mk FunctionId.index (fun _ => rfl) (fun _ => rfl)

theorem ValueId.faithful : Faithful ValueId.ofJson? ValueId.toJson ValueId.Fits :=
  (Faithful.nat Width.count32).wrap ValueId.mk ValueId.index (fun _ => rfl) (fun _ => rfl)

theorem BlockId.faithful : Faithful BlockId.ofJson? BlockId.toJson BlockId.Fits :=
  (Faithful.nat Width.count32).wrap BlockId.mk BlockId.index (fun _ => rfl) (fun _ => rfl)

theorem ValueId.faithful_list :
    Faithful ValueId.listOfJson? ValueId.listToJson (fun ids => ∀ id ∈ ids, id.Fits) :=
  ValueId.faithful.list

/-! ## Values -/

/-- An integer constant that 64 bits have room for. -/
def Literal.Fits : Literal → Prop
  | .int i => Width.isInt64 i = true
  | _ => True

theorem Literal.faithful : Faithful Literal.ofJson? Literal.toJson Literal.Fits := by
  refine ⟨fun l hl => ?_, fun j l h => ?_⟩
  · cases l with
    | string s => simp [ofJson?, toJson, Json.text?]
    | int i => simp [ofJson?, toJson, Faithful.int64.undoes i hl]
    | bool b => simp [ofJson?, toJson, Json.bool?]
    | nil => simp [ofJson?, toJson, Json.case?]
  · unfold ofJson? at h
    obtain ⟨c, -, h⟩ := Option.bind_eq_some_iff.mp h
    split at h
    · obtain ⟨s, -, h⟩ := Option.bind_eq_some_iff.mp h
      exact Option.some.inj h ▸ trivial
    · obtain ⟨i, hi, h⟩ := Option.bind_eq_some_iff.mp h
      exact Option.some.inj h ▸ Faithful.int64.only _ i hi
    · obtain ⟨b, -, h⟩ := Option.bind_eq_some_iff.mp h
      exact Option.some.inj h ▸ trivial
    · split at h
      · exact Option.some.inj h ▸ trivial
      · cases h

@[simp] theorem UnaryOp.ofJson?_toJson (op : UnaryOp) : ofJson? op.toJson = some op := by
  cases op <;> rfl

namespace ValueKind

/-- The places a value mentions: of a parameter, of a captured variable, of a field. -/
def places : ValueKind → List Nat
  | .parameter index | .freeVar index | .fieldAddr _ index => [index]
  | _ => []

/-- The constant a value is. -/
def literals : ValueKind → List Literal
  | .const literal => [literal]
  | _ => []

/-- **A value that documents have room for.** -/
structure Fits (k : ValueKind) : Prop where
  /-- The values it reads. -/
  operands : ∀ o ∈ k.operands, o.Fits
  /-- The function it refers to. -/
  target : ∀ f ∈ k.target, f.Fits
  /-- The blocks it may go on in. -/
  branches : ∀ b ∈ k.branches, b.Fits
  /-- The places it mentions. -/
  places : ∀ i ∈ k.places, i < Width.count32
  /-- The constant it is. -/
  literals : ∀ l ∈ k.literals, l.Fits

variable {k : ValueKind} {j : Json}

theorem ofJson?_toJson (hk : k.Fits) : ofJson? k.toJson = some k := by
  have hid : ∀ o ∈ k.operands, ValueId.ofJson? o.toJson = some o :=
    fun o ho => ValueId.faithful.undoes o (hk.operands o ho)
  have hids : ∀ ids ⊆ k.operands, ValueId.listOfJson? (ValueId.listToJson ids) = some ids :=
    fun ids hids => ValueId.faithful_list.undoes ids (fun o ho => hk.operands o (hids ho))
  have htarget : ∀ f ∈ k.target, FunctionId.ofJson? f.toJson = some f :=
    fun f hf => FunctionId.faithful.undoes f (hk.target f hf)
  have hblock : ∀ b ∈ k.branches, BlockId.ofJson? b.toJson = some b :=
    fun b hb => BlockId.faithful.undoes b (hk.branches b hb)
  have hplace : ∀ i ∈ k.places, Json.nat? Width.count32 (.ofNat i) = some i :=
    fun i hi => (Faithful.nat Width.count32).undoes i (hk.places i hi)
  cases k with
  | const literal =>
    have hliteral := Literal.faithful.undoes literal (hk.literals literal List.mem_cons_self)
    simp [ofJson?, toJson, ofCase?, hliteral]
  | parameter index | freeVar index =>
    simp [ofJson?, toJson, ofCase?, fields?_object, Fields.required, hplace index List.mem_cons_self]
  | functionRef function => simp [ofJson?, toJson, ofCase?, htarget function rfl]
  | alloc heap => simp [ofJson?, toJson, ofCase?, fields?_object, Fields.required, Json.bool?]
  | fieldAddr base field =>
    simp [ofJson?, toJson, ofCase?, fields?_object, Fields.required, hid base List.mem_cons_self,
      hplace field List.mem_cons_self]
  | indexAddr base index =>
    simp [ofJson?, toJson, ofCase?, fields?_object, Fields.required, hid base List.mem_cons_self,
      hid index (List.mem_cons_of_mem _ List.mem_cons_self)]
  | makeInterface value | slice value =>
    simp [ofJson?, toJson, ofCase?, fields?_object, Fields.required, hid value List.mem_cons_self]
  | unOp op operand =>
    simp [ofJson?, toJson, ofCase?, fields?_object, Fields.required, hid operand List.mem_cons_self]
  | makeClosure function bindings =>
    simp [ofJson?, toJson, ofCase?, fields?_object, Fields.required, htarget function rfl,
      hids bindings (List.Subset.refl _)]
  | call callee args =>
    simp [ofJson?, toJson, ofCase?, fields?_object, Fields.required, hid callee List.mem_cons_self,
      hids args (List.subset_cons_self _ _)]
  | store address value =>
    simp [ofJson?, toJson, ofCase?, fields?_object, Fields.required, hid address List.mem_cons_self,
      hid value (List.mem_cons_of_mem _ List.mem_cons_self)]
  | ret results =>
    simp [ofJson?, toJson, ofCase?, fields?_object, Fields.required,
      hids results (List.Subset.refl _)]
  | jump target =>
    simp [ofJson?, toJson, ofCase?, fields?_object, Fields.required,
      hblock target List.mem_cons_self]
  | branch condition thenBlock elseBlock =>
    simp [ofJson?, toJson, ofCase?, fields?_object, Fields.required,
      hid condition List.mem_cons_self, hblock thenBlock List.mem_cons_self,
      hblock elseBlock (List.mem_cons_of_mem _ List.mem_cons_self)]

/-- Fitting, where a value reads values only. -/
theorem Fits.of_operands (h : ∀ o ∈ k.operands, o.Fits) (htarget : k.target = none)
    (hbranches : k.branches = []) (hplaces : k.places = []) (hliterals : k.literals = []) :
    k.Fits :=
  ⟨h, by simp [htarget], by simp [hbranches], by simp [hplaces], by simp [hliterals]⟩

theorem fits_of_ofCase? {tag : String} (h : ofCase? tag j = some k) : k.Fits := by
  unfold ofCase? at h
  split at h
  case h_17 => cases h
  all_goals simp only [Option.bind_eq_bind, Option.bind_eq_some_iff, Option.pure_def,
    Option.some.injEq] at h
  · obtain ⟨literal, hliteral, rfl⟩ := h
    exact ⟨nofun, nofun, nofun, nofun,
      List.forall_mem_singleton.mpr (Literal.faithful.only _ _ hliteral)⟩
  · obtain ⟨fields, -, index, hindex, rfl⟩ := h
    exact ⟨nofun, nofun, nofun,
      List.forall_mem_singleton.mpr ((Faithful.nat Width.count32).of_required hindex), nofun⟩
  · obtain ⟨fields, -, index, hindex, rfl⟩ := h
    exact ⟨nofun, nofun, nofun,
      List.forall_mem_singleton.mpr ((Faithful.nat Width.count32).of_required hindex), nofun⟩
  · obtain ⟨function, hfunction, rfl⟩ := h
    refine ⟨nofun, fun f hf => ?_, nofun, nofun, nofun⟩
    exact Option.some.inj hf ▸ FunctionId.faithful.only _ _ hfunction
  · obtain ⟨fields, -, heap, -, rfl⟩ := h
    exact .of_operands nofun rfl rfl rfl rfl
  · obtain ⟨fields, -, base, hbase, field, hfield, rfl⟩ := h
    exact ⟨List.forall_mem_singleton.mpr (ValueId.faithful.of_required hbase), nofun, nofun,
      List.forall_mem_singleton.mpr ((Faithful.nat Width.count32).of_required hfield), nofun⟩
  · obtain ⟨fields, -, base, hbase, index, hindex, rfl⟩ := h
    exact .of_operands (List.forall_mem_cons.mpr ⟨ValueId.faithful.of_required hbase,
      List.forall_mem_singleton.mpr (ValueId.faithful.of_required hindex)⟩) rfl rfl rfl rfl
  · obtain ⟨fields, -, value, hvalue, rfl⟩ := h
    exact .of_operands (List.forall_mem_singleton.mpr (ValueId.faithful.of_required hvalue))
      rfl rfl rfl rfl
  · obtain ⟨fields, -, op, -, operand, hoperand, rfl⟩ := h
    exact .of_operands (List.forall_mem_singleton.mpr (ValueId.faithful.of_required hoperand))
      rfl rfl rfl rfl
  · obtain ⟨fields, -, base, hbase, rfl⟩ := h
    exact .of_operands (List.forall_mem_singleton.mpr (ValueId.faithful.of_required hbase))
      rfl rfl rfl rfl
  · obtain ⟨fields, -, function, hfunction, bindings, hbindings, rfl⟩ := h
    refine ⟨ValueId.faithful_list.of_required hbindings, fun f hf => ?_, nofun, nofun, nofun⟩
    exact Option.some.inj hf ▸ FunctionId.faithful.of_required hfunction
  · obtain ⟨fields, -, callee, hcallee, args, hargs, rfl⟩ := h
    exact .of_operands (List.forall_mem_cons.mpr ⟨ValueId.faithful.of_required hcallee,
      ValueId.faithful_list.of_required hargs⟩) rfl rfl rfl rfl
  · obtain ⟨fields, -, address, haddress, value, hvalue, rfl⟩ := h
    exact .of_operands (List.forall_mem_cons.mpr ⟨ValueId.faithful.of_required haddress,
      List.forall_mem_singleton.mpr (ValueId.faithful.of_required hvalue)⟩) rfl rfl rfl rfl
  · obtain ⟨fields, -, results, hresults, rfl⟩ := h
    exact .of_operands (ValueId.faithful_list.of_required hresults) rfl rfl rfl rfl
  · obtain ⟨fields, -, target, htarget, rfl⟩ := h
    exact ⟨nofun, nofun, List.forall_mem_singleton.mpr (BlockId.faithful.of_required htarget),
      nofun, nofun⟩
  · obtain ⟨fields, -, condition, hcondition, thenBlock, hthen, elseBlock, helse, rfl⟩ := h
    exact ⟨List.forall_mem_singleton.mpr (ValueId.faithful.of_required hcondition), nofun,
      List.forall_mem_cons.mpr ⟨BlockId.faithful.of_required hthen,
        List.forall_mem_singleton.mpr (BlockId.faithful.of_required helse)⟩, nofun, nofun⟩

/-- **Reading undoes writing**, of values of whatever kind. -/
theorem faithful : Faithful ofJson? toJson Fits := by
  refine ⟨fun _ => ofJson?_toJson, fun j k h => ?_⟩
  unfold ofJson? at h
  obtain ⟨⟨tag, content⟩, -, h⟩ := Option.bind_eq_some_iff.mp h
  cases content with
  | none => cases h
  | some content => exact fits_of_ofCase? h

end ValueKind

/-- A value of a function that documents have room for. -/
structure Value.Fits (v : Value) : Prop where
  /-- What it is. -/
  kind : v.kind.Fits
  /-- Its type. -/
  type : ∀ t ∈ v.type, t.Fits

theorem Value.faithful : Faithful Value.ofJson? Value.toJson Value.Fits := by
  have hoptional := TypeId.faithful.nullable nofun
  have htext := Faithful.text.nullable nofun
  refine ⟨fun v hv => ?_, fun j v h => ?_⟩
  · simp [Value.ofJson?, Value.toJson, fields?_object, Fields.required, Fields.withDefault,
      ValueKind.faithful.undoes _ hv.kind, hoptional.undoes _ hv.type,
      htext.undoes v.name (fun _ _ => trivial)]
  · simp only [Value.ofJson?, Option.bind_eq_bind, Option.bind_eq_some_iff] at h
    obtain ⟨fields, -, kind, hkind, type, htype, name, -, h⟩ := h
    obtain rfl := Option.some.inj h
    exact ⟨ValueKind.faithful.of_required hkind, hoptional.of_withDefault (by simp) htype⟩

/-! ## Functions -/

theorem Param.faithful : Faithful Param.ofJson? Param.toJson (fun p => p.type.Fits) := by
  refine ⟨fun p hp => ?_, fun j p h => ?_⟩
  · simp [Param.ofJson?, Param.toJson, fields?_object, Fields.required, Json.text?,
      TypeId.faithful.undoes _ hp]
  · simp only [Param.ofJson?, Option.bind_eq_bind, Option.bind_eq_some_iff] at h
    obtain ⟨fields, -, name, -, type, htype, h⟩ := h
    obtain rfl := Option.some.inj h
    exact TypeId.faithful.of_required htype

/-- A signature that documents have room for. -/
structure Signature.Fits (s : Signature) : Prop where
  /-- The type of the receiver. -/
  receiver : ∀ q ∈ s.receiver, q.type.Fits
  /-- The types of the parameters. -/
  params : ∀ q ∈ s.params, q.type.Fits
  /-- The types of the results. -/
  results : ∀ r ∈ s.results, r.Fits

theorem Signature.faithful : Faithful Signature.ofJson? Signature.toJson Signature.Fits := by
  have hoptional := Param.faithful.nullable nofun
  refine ⟨fun s hs => ?_, fun j s h => ?_⟩
  · simp [Signature.ofJson?, Signature.toJson, fields?_object, Fields.withDefault, Json.bool?,
      hoptional.undoes _ hs.receiver, Param.faithful.list.undoes _ hs.params,
      TypeId.faithful_list.undoes _ hs.results]
  · simp only [Signature.ofJson?, Option.bind_eq_bind, Option.bind_eq_some_iff] at h
    obtain ⟨fields, -, receiver, hreceiver, params, hparams, results, hresults, variadic, -, h⟩ := h
    obtain rfl := Option.some.inj h
    exact ⟨hoptional.of_withDefault (by simp) hreceiver,
      Param.faithful.list.of_withDefault (by simp) hparams,
      TypeId.faithful_list.of_withDefault (by simp) hresults⟩

/-- A block that documents have room for. -/
structure Block.Fits (b : Block) : Prop where
  /-- The position it claims. -/
  id : b.id.Fits
  /-- What it lists. -/
  instructions : ∀ v ∈ b.instructions, v.Fits

theorem Block.faithful : Faithful Block.ofJson? Block.toJson Block.Fits := by
  have htext := Faithful.text.nullable nofun
  refine ⟨fun b hb => ?_, fun j b h => ?_⟩
  · simp [Block.ofJson?, Block.toJson, fields?_object, Fields.required, Fields.withDefault,
      BlockId.faithful.undoes _ hb.id, ValueId.faithful_list.undoes _ hb.instructions,
      htext.undoes b.comment (fun _ _ => trivial)]
  · simp only [Block.ofJson?, Option.bind_eq_bind, Option.bind_eq_some_iff] at h
    obtain ⟨fields, -, id, hid, instructions, hinstructions, comment, -, h⟩ := h
    obtain rfl := Option.some.inj h
    exact ⟨BlockId.faithful.of_required hid, ValueId.faithful_list.of_required hinstructions⟩

/-- **A function that documents have room for.** -/
structure Func.Fits (f : Func) : Prop where
  /-- The position it claims. -/
  id : f.id.Fits
  /-- What it takes and gives. -/
  signature : f.signature.Fits
  /-- What its parameters are bound to. -/
  params : ∀ v ∈ f.params, v.Fits
  /-- Its blocks. -/
  blocks : ∀ b ∈ f.blocks.toList, b.Fits
  /-- Its values. -/
  values : ∀ v ∈ f.values.toList, v.Fits

theorem Func.faithful : Faithful Func.ofJson? Func.toJson Func.Fits := by
  have htext := Faithful.text.nullable nofun
  refine ⟨fun f hf => ?_, fun j f h => ?_⟩
  · simp [Func.ofJson?, Func.toJson, fields?_object, Fields.required, Fields.withDefault,
      Json.text?, FunctionId.faithful.undoes _ hf.id, Signature.faithful.undoes _ hf.signature,
      ValueId.faithful_list.undoes _ hf.params, Block.faithful.list.undoes _ hf.blocks,
      Value.faithful.list.undoes _ hf.values, htext.undoes f.file (fun _ _ => trivial),
      htext.undoes f.synthetic (fun _ _ => trivial)]
  · simp only [Func.ofJson?, Option.bind_eq_bind, Option.bind_eq_some_iff] at h
    obtain ⟨fields, -, id, hid, name, -, package, -, file, -, signature, hsignature, params, hparams,
      blocks, hblocks, values, hvalues, synthetic, -, h⟩ := h
    obtain rfl := Option.some.inj h
    exact ⟨FunctionId.faithful.of_required hid, Signature.faithful.of_required hsignature,
      ValueId.faithful_list.of_withDefault (by simp) hparams,
      Block.faithful.list.of_withDefault (by simp) hblocks,
      Value.faithful.list.of_withDefault (by simp) hvalues⟩

/-! ## Programs -/

namespace Program

/-- **A program that documents have room for.** -/
structure Fits (p : Program) : Prop where
  /-- Its types. -/
  types : p.types.Fits
  /-- Its functions. -/
  functions : ∀ f ∈ p.functions.toList, f.Fits

theorem faithful : Faithful ofJson? toJson Fits := by
  refine ⟨fun p hp => ?_, fun j p h => ?_⟩
  · simp [ofJson?, toJson, fields?_object, Fields.required, Json.text?,
      TypeTable.faithful.undoes _ hp.types, Func.faithful.list.undoes _ hp.functions]
  · simp only [ofJson?, Option.bind_eq_bind, Option.bind_eq_some_iff] at h
    obtain ⟨fields, -, package, -, types, htypes, functions, hfunctions, h⟩ := h
    obtain rfl := Option.some.inj h
    exact ⟨TypeTable.faithful.of_required htypes, Func.faithful.list.of_required hfunctions⟩

/-- **Reading undoes writing**: a program is read back as it was written, and its table of types
answers whatever is looked up afterwards as the table of its entries does. What was read from
any document is such a program. -/
theorem reading_undoes_writing :
    (∀ p : Program, p.Fits → ∃ q, ofJson? p.toJson = some q ∧ q.package = p.package ∧
      q.types.kinds = p.types.kinds ∧ q.functions = p.functions ∧
      ∀ later, q.types.answers later = (IndexedTable.load p.types.kinds).answers later) ∧
    ∀ (j : Json) (p : Program), ofJson? j = some p → ofJson? p.toJson = some p := by
  refine ⟨fun p hp => ?_, fun j p h => faithful.undoes p (faithful.only j p h)⟩
  have hindex := IndexedTable.indexes_load p.types.kinds
  exact ⟨p, faithful.undoes p hp, rfl, rfl, rfl, fun later => (hindex.answers later).symm⟩

/-- A document that leaves out whatever it may. -/
def terse : Json :=
  .object [("package", .string "example.com/terse"),
    ("types", .array [.ofCase "basic" (.string "string"),
      .ofCase "named" (.object [("name", .string "Name"), ("underlying", .ofNat 0)]),
      .ofCase "struct" (.object [("fields", .array [.object [("name", .string "First"),
        ("ty", .ofNat 1)]])]),
      .ofCase "array" (.object [("elem", .ofNat 2), ("len", .integer 18446744073709551615)])]),
    ("functions", .array [.object [("id", .ofNat 0), ("name", .string "Echo"),
      ("package", .string "example.com/terse"), ("signature", .object [("results", .array [.ofNat 9])]),
      ("blocks", .array [.object [("id", .ofNat 0), ("instructions", .array [.ofNat 1])]]),
      ("values", .array [
        .object [("kind", .ofCase "const" (.ofCase "int" (.integer (-9223372036854775808))))],
        .object [("kind", .ofCase "return" (.object [("results", .array [.ofNat 0])]))]])]])]

/-- What the document describes. -/
def terseProgram : Program :=
  ⟨"example.com/terse",
    ⟨#[.basic .string, .named "Name" none ⟨0⟩, .struct [⟨"First", ⟨1⟩, false⟩],
      .array ⟨2⟩ 18446744073709551615]⟩,
    #[⟨⟨0⟩, "Echo", "example.com/terse", none, ⟨none, [], [⟨9⟩], false⟩, [], #[⟨⟨0⟩, [⟨1⟩], none⟩],
      #[⟨.const (.int (-9223372036854775808)), none, none⟩, ⟨.ret [⟨0⟩], none, none⟩], none⟩]⟩

/-- A program that would not pass validation, with numbers at their limits. -/
theorem reading_undoes_writing_terse : ofJson? terse = some terseProgram ∧
    (∃ q, ofJson? terseProgram.toJson = some q ∧ q.package = terseProgram.package ∧
      q.types.kinds = terseProgram.types.kinds ∧ q.functions = terseProgram.functions ∧
      ∀ later, q.types.answers later =
        (IndexedTable.load terseProgram.types.kinds).answers later) ∧
    ofJson? terseProgram.toJson = some terseProgram := by
  have hterse : ofJson? terse = some terseProgram := by decide +kernel
  exact ⟨hterse, reading_undoes_writing.1 terseProgram (faithful.only terse terseProgram hterse),
    reading_undoes_writing.2 terse terseProgram hterse⟩

end Program

end Crosswalk
