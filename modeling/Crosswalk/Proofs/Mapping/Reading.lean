import Crosswalk.Proofs.Mapping.Lowering
import Crosswalk.Proofs.Program.Unpacking

/-!
# Reading what was lowered

Each reading of an argument follows a chain of values back to what the front end
made it from. The chains are those of `Proofs.Mapping.FrontEnd`, and none has more
than three links. A pack is read by the walk from its array, and then element by
element.

A whole function is read by its reading, once its values are indexed and it has a name.
-/

namespace Crosswalk

namespace Func

variable {f : Func} {base v : ValueId} {field i : Nat} {text : String} {id : FunctionId}

/-! ## What comes of operands alone -/

theorem Spells.aloof (h : f.Spells text v) : f.Aloof v := .operand h rfl

theorem RefersTo.aloof (h : f.RefersTo id v) : f.Aloof v := by
  obtain ⟨ref, href, hv⟩ := h
  refine .through hv rfl (fun o ho => ?_)
  rw [List.mem_singleton.mp ho]
  exact .operand href rfl

theorem Selects.aloof (h : f.Selects base field v) (hbase : f.kind? base = some (.parameter i)) :
    f.Aloof v := by
  obtain ⟨address, loaded, haddress, hloaded, hv⟩ := h
  refine .through hv rfl (fun o ho => ?_)
  rw [List.mem_singleton.mp ho]
  refine .through hloaded rfl (fun o ho => ?_)
  rw [List.mem_singleton.mp ho]
  refine .through haddress rfl (fun o ho => ?_)
  rw [List.mem_singleton.mp ho]
  exact .operand hbase rfl

end Func

namespace Scope

variable {s : Scope} {v base inner : ValueId} {kind : ValueKind} {text : String}
  {id : FunctionId} {r : RecordType} {n : Nat}

/-- **A scope in which arguments are read**: a tidy body with its index and at least two
values, those of its parameters. -/
structure Ready (s : Scope) : Prop where
  /-- The body is tidy. -/
  tidy : s.function.Tidy
  /-- The index is that of the body. -/
  lists : s.index.Lists s.function
  /-- There are two values. -/
  size : 2 ≤ s.function.values.size

/-- A chain may have three links. -/
theorem Ready.exists_chainBound (h : s.Ready) : ∃ n, s.chainBound = n + 3 := by
  obtain ⟨n, hn⟩ := Nat.exists_eq_add_of_le' h.size
  exact ⟨n, congrArg Nat.succ hn⟩

/-! ## One argument -/

theorem literalString_of_spells (h : s.function.Spells text v) : s.literalString v = .ok text := by
  obtain ⟨value, hvalue, hkind⟩ := value_of_kind? h
  show s.literalStringTo (s.function.values.size + 1) v = .ok text
  rw [literalStringTo, hvalue, ok_bind, hkind]
  rfl

theorem callable_of_functionRef (h : s.function.kind? v = some (.functionRef id)) :
    s.callableTo (n + 1) v = .ok id := by
  obtain ⟨value, hvalue, hkind⟩ := value_of_kind? h
  rw [callableTo, hvalue, ok_bind, hkind]
  rfl

theorem callable_of_refersTo (hs : s.Ready) (h : s.function.RefersTo id v) :
    s.callable v = .ok id := by
  obtain ⟨ref, href, hboxed⟩ := h
  obtain ⟨value, hvalue, hkind⟩ := value_of_kind? hboxed
  obtain ⟨n, hn⟩ := hs.exists_chainBound
  unfold callable
  rw [hn, callableTo, hvalue, ok_bind, hkind]
  exact callable_of_functionRef href

/-- **A selected field of a parameter** is read as the field that was selected. -/
theorem selector_of_selects (hs : s.Ready) (hv : Build.HasParam s.program s.function base r)
    {i : Nat} {field : RecordField} (hfield : r.fields[i]? = some field)
    (h : s.function.Selects base i v) :
    s.selector v = .ok ⟨r.shape, field⟩ := by
  obtain ⟨address, loaded, haddress, hloaded, hboxed⟩ := h
  obtain ⟨k, type, name, hbase, hr⟩ := hv
  obtain ⟨w₁, hw₁, hk₁⟩ := value_of_kind? hboxed
  obtain ⟨w₂, hw₂, hk₂⟩ := value_of_kind? hloaded
  obtain ⟨w₃, hw₃, hk₃⟩ := value_of_kind? haddress
  obtain ⟨n, hn⟩ := hs.exists_chainBound
  have hat : s.selectorAt address base i = .ok ⟨r.shape, field⟩ := by
    unfold selectorAt typed
    rw [value_eq_ok_iff.mpr hbase, ok_bind]
    show (liftM (RecordType.resolve s.program.types type) >>= _ : Checked ShapeError Selector) = _
    rw [hr, liftM_ok, ok_bind]
    dsimp only
    rw [hfield]
    rfl
  -- out of the interface, back over the load, to the address
  unfold selector
  rw [hn, selectorTo, hw₁, ok_bind, hk₁]
  show s.selectorTo (n + 2) loaded = _
  rw [selectorTo, hw₂, ok_bind, hk₂]
  show s.selectorTo (n + 1) address = _
  rw [selectorTo, hw₃, ok_bind, hk₃]
  exact hat

/-- What is in an interface is read as it is. -/
theorem bindingTo_of_boxed (hk : s.function.kind? v = some (.makeInterface inner)) :
    s.bindingTo (n + 1) v = s.bindingTo n inner := by
  obtain ⟨value, hvalue, hkind⟩ := value_of_kind? hk
  rw [bindingTo, hvalue, ok_bind, hkind]

/-- **A parameter in an interface** is read as the parameter. -/
theorem binding_of_param {i : Nat} {type : TypeId} {name : Option String} (hs : s.Ready)
    (hmethod : s.function.isMethod = false) (h : s.function.kind? v = some (.makeInterface base))
    (hbase : s.function.value? base = some ⟨.parameter i, some type, name⟩) :
    s.binding v = .ok ⟨name, type, false, .parameter i⟩ := by
  obtain ⟨n, hn⟩ := hs.exists_chainBound
  have hno : ¬(i = 0 ∧ s.function.isMethod = true) := by
    rw [hmethod]
    exact fun h => Bool.false_ne_true h.2
  unfold binding
  rw [hn, bindingTo_of_boxed h, bindingTo, value_eq_ok_iff.mpr hbase, ok_bind]
  show Except.ok (⟨name, type, false, if i = 0 ∧ s.function.isMethod = true then .receiver
    else .parameter i⟩ : Binding) = _
  rw [if_neg hno]

/-! ## Lists of arguments -/

/-- **A pack is read element by element**, if none of its elements comes from it. -/
theorem list_of_packsEach {α β : Type} {R : α → ValueId → Prop} {as : List α} {g : α → β}
    {element : ValueId → Checked ShapeError β} (hs : s.Ready) (h : s.function.PacksEach R as v)
    (haloof : ∀ a v, R a v → s.function.Aloof v) (hread : ∀ a v, R a v → element v = .ok (g a)) :
    s.list element v = .ok (as.map g) := by
  obtain ⟨base, vs, hslice, hpacks, hvs⟩ := h
  obtain ⟨value, hvalue, hkind⟩ := value_of_kind? hslice
  have hpacked : s.packed v = .ok vs := by
    show s.packedTo (s.function.values.size + 1) v = .ok vs
    rw [packedTo, hvalue, ok_bind, hkind]
    refine storedElements_of_packs hpacks hs.tidy (fun v hv => ?_) rfl hs.lists
    obtain ⟨a, -, ha⟩ := exists_beside hvs hv
    exact haloof a v ha
  unfold list
  rw [hpacked, ok_bind, mapM_eq_ok_iff, List.forall₂_map_right_iff]
  exact (hvs.imp hread).flip

end Scope

/-! ## Whole functions -/

section

variable {p : Program} {f : Func} {settings : Settings} {r : Reading}

theorem Reading.ofFunction_eq {index : UseIndex} (h : UseIndex.build f = .ok index) :
    ofFunction p settings f
      = f.qualifiedName p.types >>= fun name => .ok ⟨settings, ⟨p, f, index⟩, name⟩ := by
  unfold ofFunction Scope.ofFunction
  rw [h]
  rfl

/-- What a reading of a function is made of. -/
theorem Reading.exists_of_ofFunction (h : ofFunction p settings f = .ok r) :
    ∃ index name, UseIndex.build f = .ok index ∧ f.qualifiedName p.types = .ok name ∧
      r = ⟨settings, ⟨p, f, index⟩, name⟩ := by
  obtain ⟨s, hs, h⟩ := bind_eq_ok_iff.mp h
  obtain ⟨name, hname, h⟩ := bind_eq_ok_iff.mp h
  obtain ⟨index, hindex, hs⟩ := bind_eq_ok_iff.mp hs
  obtain rfl := Except.ok.inj hs
  exact ⟨index, name, hindex, hname, (Except.ok.inj h).symm⟩

/-- What is read of a function is that function. -/
theorem Reading.function_of_ofFunction (h : ofFunction p settings f = .ok r) :
    r.scope.function = f := by
  obtain ⟨_, _, -, -, rfl⟩ := exists_of_ofFunction h
  rfl

/-- The settings of a reading are those that it is made under. -/
theorem Reading.settings_of_ofFunction (h : ofFunction p settings f = .ok r) :
    r.settings = settings := by
  obtain ⟨_, _, -, -, rfl⟩ := exists_of_ofFunction h
  rfl

/-- What is read of a function is what its reading comes to. -/
theorem Program.interpret_eq_spec? {id : FunctionId} (hf : p.function? id = some f)
    (hr : Reading.ofFunction p settings f = .ok r) : p.interpret settings id = r.spec? := by
  unfold interpret
  rw [hf]
  show (liftM (Reading.ofFunction p settings f) >>= fun r => r.spec? : Checked MappingError _) = _
  rw [hr]
  rfl

end

end Crosswalk
