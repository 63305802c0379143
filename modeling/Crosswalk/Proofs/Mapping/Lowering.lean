import Crosswalk.Proofs.Mapping.FrontEnd

/-!
# Lowering succeeds, and what is lowered is there

Every step of a body can be lowered wherever its markers, callees and fields
exist, and leaves the calls it stands for behind. What is said of a call and its
arguments is said once and for all: the body only grows, and a pack is left
alone by whatever is packed after it.
-/

namespace Crosswalk

/-- **The second program has all types and functions of the first**, the functions with
their names and packages. -/
structure Program.Keeps (p p' : Program) : Prop where
  /-- The types stay. -/
  types : p.types.GrowsTo p'.types
  /-- The functions stay what they are declared as. -/
  functions : ∀ id g, p.function? id = some g →
    ∃ g', p'.function? id = some g' ∧ g'.name = g.name ∧ g'.package = g.package

section

variable {p p' p'' : Program} {f f' : Func} {id : FunctionId} {n : Nat}
  {calls : List (ValueId × List ValueId)}

theorem Program.Keeps.trans (h : p.Keeps p') (h' : p'.Keeps p'') : p.Keeps p'' := by
  refine ⟨h.types.trans h'.types, fun id g hg => ?_⟩
  obtain ⟨g', hg', hname, hpackage⟩ := h.functions id g hg
  obtain ⟨g'', hg'', hname', hpackage'⟩ := h'.functions id g' hg'
  exact ⟨g'', hg'', hname'.trans hname, hpackage'.trans hpackage⟩

/-- One function may have been replaced by another of its name and package. -/
theorem Program.Keeps.of_others (htypes : p.types.GrowsTo p'.types)
    (hothers : ∀ id', id' ≠ id → p'.function? id' = p.function? id')
    (hf : p.function? id = some f) (hf' : p'.function? id = some f')
    (hname : f'.name = f.name) (hpackage : f'.package = f.package) : p.Keeps p' := by
  refine ⟨htypes, fun id' g hg => ?_⟩
  by_cases heq : id' = id
  · rw [heq, hf] at hg
    obtain rfl := Option.some.inj hg
    exact ⟨f', heq ▸ hf', hname, hpackage⟩
  · exact ⟨g, (hothers id' heq).trans hg, rfl, rfl⟩

/-- Writing a body keeps all types and functions. -/
theorem Build.Writes.keeps (h : Writes n id p f calls p' f') (hf : p.function? id = some f)
    (hf' : p'.function? id = some f') : p.Keeps p' :=
  .of_others h.types h.others hf hf' (by rw [h.body.header]) (by rw [h.body.header])

theorem Aside.Sound.keeps {a : Aside} {settings : Settings} (ha : a.Sound p settings)
    (h : p.Keeps p') : a.Sound p' settings := by
  cases a with
  | call target args =>
    obtain ⟨g, hg, hpackage⟩ := ha
    obtain ⟨g', hg', -, hpackage'⟩ := h.functions target g hg
    exact ⟨g', hg', hpackage' ▸ hpackage⟩
  | cut => trivial

theorem Item.Sound.keeps {src dst : RecordType} {item : Item src dst} {settings : Settings}
    (hitem : item.Sound p settings) (h : p.Keeps p') : item.Sound p' settings := by
  cases item with
  | configure d =>
    cases d with
    | mapWith functions =>
      intro id hid
      obtain ⟨g, hg⟩ := hitem id hid
      obtain ⟨g', hg', -⟩ := h.functions id g hg
      exact ⟨g', hg'⟩
    | _ => trivial
  | aside a => exact Aside.Sound.keeps hitem h

theorem MarkerTable.Declared.keeps {m : MarkerTable} {settings : Settings}
    (hm : m.Declared p settings) (h : p.Keeps p') : m.Declared p' settings := by
  intro marker
  obtain ⟨g, hg, hname, hpackage⟩ := hm marker
  obtain ⟨g', hg', hname', hpackage'⟩ := h.functions _ g hg
  exact ⟨g', hg', hname'.trans hname, hpackage' ▸ hpackage⟩

end

/-! ## What grows along with a body -/

section

variable {f f' : Func} {n : Nat} {calls calls' : List (ValueId × List ValueId)} {base v : ValueId}
  {field : Nat} {id : FunctionId} {text : String} {source dest : ValueId} {src dst : RecordType}

namespace Func

theorem Selects.grow (hv : f.Selects base field v) (h : f.GrowsTo n f' calls) :
    f'.Selects base field v := by
  obtain ⟨address, loaded, haddress, hloaded, hboxed⟩ := hv
  exact ⟨address, loaded, h.kind? haddress, h.kind? hloaded, h.kind? hboxed⟩

theorem Spells.grow (hv : f.Spells text v) (h : f.GrowsTo n f' calls) : f'.Spells text v :=
  h.kind? hv

theorem RefersTo.grow (hv : f.RefersTo id v) (h : f.GrowsTo n f' calls) : f'.RefersTo id v := by
  obtain ⟨ref, href, hboxed⟩ := hv
  exact ⟨ref, h.kind? href, h.kind? hboxed⟩

theorem PacksEach.grow {α : Type} {R R' : α → ValueId → Prop} {as : List α}
    (hv : f.PacksEach R as v) (ht : f.Tidy) (h : f.GrowsTo f.values.size f' calls)
    (hR : ∀ a v, R a v → R' a v) : f'.PacksEach R' as v := by
  obtain ⟨base, vs, hslice, hpacks, hvs⟩ := hv
  obtain ⟨heap, hheap⟩ := hpacks.place
  exact ⟨base, vs, h.kind? hslice, hpacks.grow ht h (index_lt_of_kind? hheap), hvs.imp hR⟩

end Func

theorem Directive.ConveyedBy.grow {d : Directive src dst} {args : List ValueId}
    (hd : d.ConveyedBy f source dest args) (ht : f.Tidy)
    (h : f.GrowsTo f.values.size f' calls) : d.ConveyedBy f' source dest args := by
  cases d with
  | recognizePrefixes prefixes =>
    obtain ⟨packed, hargs, hpacked⟩ := hd
    exact ⟨packed, hargs, hpacked.grow ht h (fun _ _ hv => hv.grow h)⟩
  | mapField i j =>
    obtain ⟨fed, field, hargs, hfed, hfield⟩ := hd
    exact ⟨fed, field, hargs, hfed.grow h, hfield.grow h⟩
  | ignoreFields js =>
    obtain ⟨packed, hargs, hpacked⟩ := hd
    exact ⟨packed, hargs, hpacked.grow ht h (fun _ _ hv => hv.grow h)⟩
  | mapWith functions =>
    obtain ⟨packed, hargs, hpacked⟩ := hd
    exact ⟨packed, hargs, hpacked.grow ht h (fun _ _ hv => hv.grow h)⟩

theorem Aside.LoweredTo.grow {a : Aside} (ha : a.LoweredTo f calls)
    (h : f.GrowsTo n f' calls') : a.LoweredTo f' calls := by
  cases a with
  | call target args =>
    obtain ⟨ref, lowered, hcalls, href⟩ := ha
    exact ⟨ref, lowered, hcalls, h.kind? href⟩
  | cut => exact ha

theorem Item.LoweredTo.grow {m : MarkerTable} {item : Item src dst}
    (hitem : item.LoweredTo m f source dest calls) (ht : f.Tidy)
    (h : f.GrowsTo f.values.size f' calls') : item.LoweredTo m f' source dest calls := by
  cases item with
  | configure d =>
    obtain ⟨ref, args, hcalls, href, hargs⟩ := hitem
    exact ⟨ref, args, hcalls, h.kind? href, hargs.grow ht h⟩
  | aside a => exact Aside.LoweredTo.grow hitem h

end

namespace Build

variable {α : Type} {c : Cursor} {p p' : Program} {f f' : Func} {n : Nat} {base : ValueId}
  {calls : List (ValueId × List ValueId)} {r src dst : RecordType} {source dest : ValueId}
  {m : MarkerTable} {settings : Settings} {id : FunctionId}

/-! ## Arguments -/

/-- **The value at `v` is a parameter behind whose type stands the record `r`.** -/
def HasParam (p : Program) (f : Func) (v : ValueId) (r : RecordType) : Prop :=
  ∃ i type name, f.value? v = some ⟨.parameter i, some type, name⟩ ∧
    RecordType.resolve p.types type = .ok (some { r with type := type })

theorem HasParam.grow (hv : HasParam p f base r)
    (h : Writes n id p f calls p' f') : HasParam p' f' base r := by
  obtain ⟨i, type, name, hvalue, hr⟩ := hv
  exact ⟨i, type, name, h.body.values _ _ hvalue, RecordType.resolve_grow hr h.types⟩

/-- **A field of a record can be selected.** -/
theorem runs_selector (n : Nat) (h : Stands c p f) (hv : HasParam p f base r)
    (i : Fin r.fields.length) :
    Runs (selector c base i) p (Leaves n c p f [] (fun id _ f' => f'.Selects base i id)) := by
  obtain ⟨k, type, name, hvalue, hr⟩ := hv
  obtain ⟨members, hmembers, hfields⟩ := RecordType.structFields_of_resolve hr
  have hlt : i.val < members.length := by
    have hlength : r.fields.length = members.length := by
      rw [show r.fields = RecordType.fieldsOf members from hfields, RecordType.fieldsOf,
        List.length_mapIdx]
    exact hlength ▸ i.isLt
  refine (runs_fieldAddr n h hvalue rfl hmembers (List.getElem?_eq_getElem hlt)).write ?_
  rintro address p₁ f₁ hs₁ hw₁ ⟨addressType, haddress, hpointer⟩
  refine (runs_load n hs₁ haddress.value rfl (TypeTable.has_of_kind? hpointer)).write ?_
  rintro loaded p₂ f₂ hs₂ hw₂ hloaded
  refine (runs_makeInterface n hs₂).mono ?_
  rintro id p' ⟨f', hs', hw', hboxed⟩
  refine ⟨f', hs', hw', address, loaded, ?_, hw'.body.kind? hloaded, hboxed⟩
  exact hw'.body.kind? (hw₂.body.kind? haddress.kind?)

/-- **Lowering one argument after another.** Each may rely on what was there at first,
and says of its value what stays true. -/
theorem runs_mapM {g : α → Build ValueId} {R : Func → α → ValueId → Prop} {as : List α}
    (hR : ∀ {f f' : Func} {calls a v}, f.GrowsTo n f' calls → R f a v → R f' a v)
    (h : Stands c p f)
    (hg : ∀ a ∈ as, ∀ p' f', Stands c p' f' → Writes n c.function p f [] p' f' →
      Runs (g a) p' (Leaves n c p' f' [] (fun v _ f'' => R f'' a v))) :
    Runs (as.mapM g) p (Leaves n c p f [] (fun vs _ f' => List.Forall₂ (R f') as vs)) := by
  induction as generalizing p f with
  | nil => exact .pure ⟨f, h, .refl n _ p f, .nil⟩
  | cons a as ih =>
    rw [List.mapM_cons]
    refine (hg a List.mem_cons_self p f h (.refl n _ p f)).write ?_
    intro v p₁ f₁ hs₁ hw₁ hv
    refine (ih hs₁ (fun a' ha' p' f' hs' hw' => ?_)).write ?_
    · exact hg a' (List.mem_cons_of_mem a ha') p' f' hs' (hw₁.trans hw' hs₁.tidy)
    · intro vs p₂ f₂ hs₂ hw₂ hvs
      exact .pure ⟨f₂, hs₂, .refl n _ p₂ f₂, .cons (hR hw₂.body hv) hvs⟩

/-! ## Calls -/

/-- **What lowering to one call leaves behind**: a call of `target`, with arguments of
which `Q` holds. -/
def Invokes (n : Nat) (c : Cursor) (p : Program) (f : Func) (target : FunctionId)
    (Q : Func → List ValueId → Prop) (_ : Unit) (p' : Program) : Prop :=
  ∃ ref args f', Stands c p' f' ∧ Writes n c.function p f [(ref, args)] p' f' ∧
    f'.kind? ref = some (.functionRef target) ∧ Q f' args

variable {target : FunctionId} {Q : Func → List ValueId → Prop}

/-- **A call can be made**: the cursor stands at the end of a body with at least `n` values,
and the callee is declared. -/
structure CanCall (n : Nat) (c : Cursor) (target : FunctionId) (p : Program) (f : Func) : Prop where
  /-- The cursor. -/
  stands : Stands c p f
  /-- The values that the body had before anything was made for the call. -/
  size : n ≤ f.values.size
  /-- The callee. -/
  callee : ∃ g, p.function? target = some g

namespace CanCall

theorem of_declared (hm : m.Declared p settings) (marker : Marker) (h : Stands c p f)
    (hn : n ≤ f.values.size) : CanCall n c (m.function marker) p f := by
  obtain ⟨g, hg, -⟩ := hm marker
  exact ⟨h, hn, g, hg⟩

/-- Whatever is written at the cursor, the call can still be made. -/
theorem write (h : CanCall n c target p f) (hs : Stands c p' f')
    (hw : Writes n c.function p f calls p' f') : CanCall n c target p' f' := by
  obtain ⟨g, hg⟩ := h.callee
  obtain ⟨g', hg', -⟩ := (hw.keeps h.stands.function hs.function).functions target g hg
  exact ⟨hs, Nat.le_trans h.size hw.body.size_le, g', hg'⟩

/-- The arguments are made first. -/
theorem prepare {x : Build α} {g : α → Build Unit} {R : α → Program → Func → Prop}
    (h : CanCall n c target p f) (hx : Runs x p (Leaves n c p f [] R))
    (hg : ∀ a p' f', CanCall n c target p' f' → Writes n c.function p f [] p' f' → R a p' f' →
      Runs (g a) p' (Invokes n c p' f' target Q)) :
    Runs (x >>= g) p (Invokes n c p f target Q) := by
  refine hx.bind ?_
  rintro a p' ⟨f', hs, hw, hR⟩
  refine (hg a p' f' (h.write hs hw) hw hR).mono ?_
  rintro _ p'' ⟨ref, args, f'', hs', hw', href, hQ⟩
  exact ⟨ref, args, f'', hs', hw.trans hw' hs.tidy, href, hQ⟩

/-- The call itself leaves its arguments alone. -/
theorem runs {args : List ValueId} (h : CanCall n c target p f)
    (hQ : ∀ f' calls, f.GrowsTo f.values.size f' calls → Q f' args) :
    Runs (do let _ ← call c target args) p (Invokes n c p f target Q) := by
  obtain ⟨g, hg⟩ := h.callee
  refine (runs_call f.values.size args h.stands hg).bind ?_
  rintro _ p' ⟨ref, f', hs, hw, href⟩
  exact .pure ⟨ref, args, f', hs, hw.weaken h.size, href, hQ f' _ hw.body⟩

/-- **A call that is given a pack** of values that are known one by one. -/
theorem runs_packed {R : Func → α → ValueId → Prop} {as : List α} {vs : List ValueId}
    {elem : TypeId} (hR : ∀ {f f' : Func} {n calls a v}, f.GrowsTo n f' calls → R f a v → R f' a v)
    (h : CanCall n c target p f) (hvs : List.Forall₂ (R f) as vs) :
    Runs (do
      let packed ← variadic c elem vs
      let _ ← call c target [packed]) p
      (Invokes n c p f target (fun f' args => ∃ packed, args = [packed] ∧
        f'.PacksEach (R f') as packed)) := by
  refine h.prepare (runs_variadic elem vs h.stands h.size) ?_
  rintro packed p₁ f₁ h₁ hw₁ ⟨base, hslice, hpacks⟩
  have hpacked : f₁.PacksEach (R f₁) as packed :=
    ⟨base, vs, hslice, hpacks, hvs.imp (fun _ _ hv => hR hw₁.body hv)⟩
  refine h₁.runs (fun f' calls hgrow => ?_)
  exact ⟨packed, rfl, hpacked.grow h₁.stands.tidy hgrow (fun _ _ hv => hR hgrow hv)⟩

end CanCall

/-! ## Directives -/

/-- A declared function can be referred to. -/
theorem runs_functionRefs {functions : List FunctionId} (n : Nat) (h : Stands c p f)
    (hd : ∀ id ∈ functions, ∃ g, p.function? id = some g) :
    Runs (functions.mapM (functionRef c)) p (Leaves n c p f [] (fun refs _ f' =>
      List.Forall₂ (fun id ref => f'.kind? ref = some (.functionRef id)) functions refs)) := by
  refine runs_mapM (R := fun f id v => f.kind? v = some (.functionRef id))
    (fun hgrow hv => hgrow.kind? hv) h (fun id hid p' f' hs' hw' => ?_)
  obtain ⟨g, hg⟩ := hd id hid
  obtain ⟨g', hg', -⟩ := (hw'.keeps h.function hs'.function).functions id g hg
  refine (runs_functionRef n hs' hg').mono ?_
  rintro v p'' ⟨f'', hs'', hw'', -, type, _, _, _, hv, -⟩
  exact ⟨f'', hs'', hw'', Func.kind?_of_value? hv⟩

/-- **Every directive can be lowered**, and the call that is left conveys it. -/
theorem runs_lowerDirective (d : Directive src dst) (h : CanCall n c (m.function d.marker) p f)
    (hsource : HasParam p f source src) (hdest : HasParam p f dest dst) (hd : d.Sound p) :
    Runs (lowerDirective m c source dest d) p
      (Invokes n c p f (m.function d.marker)
        (fun f' args => d.ConveyedBy f' source dest args)) := by
  cases d with
  | recognizePrefixes prefixes =>
    refine h.prepare (runs_mapM (R := Func.Spells) (fun hgrow hv => hv.grow hgrow) h.stands
      (fun text _ p' f' hs' _ => ?_)) ?_
    · refine (runs_constString n hs').mono ?_
      rintro v p'' ⟨f'', hs'', hw'', -, hv⟩
      exact ⟨f'', hs'', hw'', hv⟩
    · intro vs p₁ f₁ h₁ hw₁ hvs
      exact h₁.runs_packed (fun hgrow hv => hv.grow hgrow) hvs
  | mapField i j =>
    refine h.prepare (runs_selector n h.stands hsource i) ?_
    intro fed p₁ f₁ h₁ hw₁ hfed
    refine h₁.prepare (runs_selector n h₁.stands (hdest.grow hw₁) j) ?_
    intro field p₂ f₂ h₂ hw₂ hfield
    refine h₂.runs (fun f' calls hgrow => ?_)
    exact ⟨fed, field, rfl, (hfed.grow hw₂.body).grow hgrow, hfield.grow hgrow⟩
  | ignoreFields js =>
    refine h.prepare (runs_mapM (R := fun f (j : Fin dst.fields.length) v => f.Selects dest j v)
      (fun hgrow hv => hv.grow hgrow) h.stands (fun j _ p' f' hs' hw' => ?_)) ?_
    · exact runs_selector n hs' (hdest.grow hw') j
    · intro vs p₁ f₁ h₁ hw₁ hvs
      exact h₁.runs_packed (R := fun f (j : Fin dst.fields.length) v => f.Selects dest j v)
        (fun hgrow hv => hv.grow hgrow) hvs
  | mapWith functions =>
    refine h.prepare (runs_functionRefs n h.stands hd) ?_
    intro refs p₁ f₁ h₁ hw₁ hrefs
    refine h₁.prepare (runs_mapM (R := fun f ref v => f.kind? v = some (.makeInterface ref))
      (fun hgrow hv => hgrow.kind? hv) h₁.stands (fun ref _ p' f' hs' _ => ?_)) ?_
    · exact runs_makeInterface n hs'
    · intro vs p₂ f₂ h₂ hw₂ hvs
      have hboxed : List.Forall₂ f₂.RefersTo functions vs :=
        forall₂_trans (fun _ ref _ href hv => ⟨ref, hw₂.body.kind? href, hv⟩) hrefs hvs
      exact h₂.runs_packed (R := Func.RefersTo) (fun hgrow hv => hv.grow hgrow) hboxed

/-! ## One step after another -/

/-- **What lowering a step leaves behind**: a cursor in the same function, and calls of
which `L` holds. -/
def Continues (n : Nat) (id : FunctionId) (p : Program) (f : Func)
    (L : Func → List (ValueId × List ValueId) → Prop) (c' : Cursor) (p' : Program) : Prop :=
  ∃ calls f', Stands c' p' f' ∧ c'.function = id ∧ Writes n id p f calls p' f' ∧ L f' calls

/-- **Every step between marker calls can be lowered.** -/
theorem runs_lowerAside (a : Aside) (h : Stands c p f) (hc : c.function = id)
    (ha : a.Sound p settings) :
    Runs (lowerAside c a) p (Continues f.values.size id p f a.LoweredTo) := by
  subst hc
  cases a with
  | call target args =>
    obtain ⟨g, hg, -⟩ := ha
    refine (runs_mapM (n := f.values.size) (R := fun _ _ _ => True) (fun _ _ => trivial) h
      (fun argument _ p' f' hs' hw' => ?_)).bind ?_
    · cases argument with
      | plain v => exact .pure ⟨f', hs', .refl _ _ p' f', trivial⟩
      | packed elem vs =>
        refine (runs_variadic elem vs hs' hw'.body.size_le).mono ?_
        rintro v p'' ⟨f'', hs'', hw'', -⟩
        exact ⟨f'', hs'', hw'', trivial⟩
    · rintro lowered p₁ ⟨f₁, hs₁, hw₁, -⟩
      have hcall : CanCall f.values.size c target p f := ⟨h, Nat.le_refl _, g, hg⟩
      obtain ⟨g', hg'⟩ := (hcall.write hs₁ hw₁).callee
      refine (runs_call f.values.size lowered hs₁ hg').bind ?_
      rintro _ p' ⟨ref, f', hs', hw', href⟩
      exact .pure ⟨_, f', hs', rfl, hw₁.trans hw' hs₁.tidy, ref, lowered, rfl, href⟩
  | cut =>
    refine (runs_cut f.values.size h).mono ?_
    rintro c' p' ⟨f', hs', hc', hw'⟩
    exact ⟨[], f', hs', hc', hw', rfl⟩

/-- **Every step of a body can be lowered.** -/
theorem runs_lowerItem (item : Item src dst) (h : Stands c p f) (hc : c.function = id)
    (hm : m.Declared p settings) (hsource : HasParam p f source src)
    (hdest : HasParam p f dest dst) (hitem : item.Sound p settings) :
    Runs (lowerItem m source dest c item) p
      (Continues f.values.size id p f (fun f' calls => item.LoweredTo m f' source dest calls)) := by
  cases item with
  | configure d =>
    subst hc
    have hcall := CanCall.of_declared hm d.marker h (Nat.le_refl _)
    refine (runs_lowerDirective d hcall hsource hdest hitem).bind ?_
    rintro _ p' ⟨ref, args, f', hs', hw', href, hargs⟩
    exact .pure ⟨_, f', hs', rfl, hw', ref, args, rfl, href, hargs⟩
  | aside a => exact runs_lowerAside a h hc hitem

/-- **Lowering one step after another.** Each is lowered in a body that has grown from
the first, and what it has left stays as it is. -/
theorem runs_foldlM {step : Cursor → α → Build Cursor} {as : List α}
    {L : Func → α → List (ValueId × List ValueId) → Prop}
    (hL : ∀ {f f' : Func} {calls a own}, f.Tidy → f.GrowsTo f.values.size f' calls →
      L f a own → L f' a own)
    (h : Stands c p f) (hc : c.function = id)
    (hstep : ∀ a ∈ as, ∀ c' p' f' calls, Stands c' p' f' → c'.function = id →
      Writes f.values.size id p f calls p' f' →
      Runs (step c' a) p' (Continues f'.values.size id p' f' (fun f'' own => L f'' a own))) :
    Runs (as.foldlM step c) p (Continues f.values.size id p f (fun f' calls =>
      ∃ each, List.Forall₂ (L f') as each ∧ calls = each.flatten)) := by
  induction as generalizing c p f with
  | nil => exact .pure ⟨[], f, h, hc, .refl _ _ p f, [], .nil, rfl⟩
  | cons a as ih =>
    rw [List.foldlM_cons]
    refine (hstep a List.mem_cons_self c p f [] h hc (.refl _ _ p f)).bind ?_
    rintro c₁ p₁ ⟨own, f₁, hs₁, hc₁, hw₁, hown⟩
    refine (ih hs₁ hc₁ (fun a' ha' c' p' f' calls hs' hc' hw' => ?_)).mono ?_
    · have hw := hw₁.trans (hw'.weaken hw₁.body.size_le) hs₁.tidy
      exact hstep a' (List.mem_cons_of_mem a ha') c' p' f' _ hs' hc' hw
    · rintro c' p' ⟨calls, f', hs', hc', hw', each, heach, rfl⟩
      refine ⟨_, f', hs', hc', hw₁.trans (hw'.weaken hw₁.body.size_le) hs₁.tidy, own :: each,
        .cons (hL hs₁.tidy hw'.body hown) heach, List.flatten_cons.symm⟩

/-- The steps before the mapping is begun can be lowered. -/
theorem runs_lowerAsides {before : List Aside} (h : Stands c p f) (hc : c.function = id)
    (hbefore : ∀ a ∈ before, a.Sound p settings) :
    Runs (before.foldlM lowerAside c) p (Continues f.values.size id p f (fun f' calls =>
      ∃ each, List.Forall₂ (Aside.LoweredTo f') before each ∧ calls = each.flatten)) := by
  refine runs_foldlM (fun _ hgrow ha => ha.grow hgrow) h hc
    (fun a ha c' p' f' calls hs' hc' hw' => ?_)
  have hkeeps := hw'.keeps (hc ▸ h.function) (hc' ▸ hs'.function)
  exact runs_lowerAside a hs' hc' ((hbefore a ha).keeps hkeeps)

/-- The steps of the mapping can be lowered. -/
theorem runs_lowerItems {items : List (Item src dst)} (h : Stands c p f) (hc : c.function = id)
    (hm : m.Declared p settings) (hsource : HasParam p f source src)
    (hdest : HasParam p f dest dst) (hitems : ∀ item ∈ items, item.Sound p settings) :
    Runs (items.foldlM (lowerItem m source dest) c) p (Continues f.values.size id p f
      (fun f' calls => ∃ each, List.Forall₂ (Item.LoweredTo m f' source dest) items each ∧
        calls = each.flatten)) := by
  refine runs_foldlM (fun ht hgrow hitem => hitem.grow ht hgrow) h hc
    (fun item hitem c' p' f' calls hs' hc' hw' => ?_)
  have hkeeps := hw'.keeps (hc ▸ h.function) (hc' ▸ hs'.function)
  exact runs_lowerItem item hs' hc' (hm.keeps hkeeps) (hsource.grow hw') (hdest.grow hw')
    ((hitems item hitem).keeps hkeeps)

/-! ## The whole body -/

/-- **The beginning of a mapping can be lowered.** -/
theorem runs_createMap (h : CanCall n c (m.function .createMap) p f) :
    Runs (createMap m c source dest) p (Invokes n c p f (m.function .createMap) (fun f' args =>
      ∃ a b, args = [a, b] ∧ f'.kind? a = some (.makeInterface source) ∧
        f'.kind? b = some (.makeInterface dest))) := by
  refine h.prepare (runs_makeInterface n h.stands) ?_
  intro a p₁ f₁ h₁ hw₁ ha
  refine h₁.prepare (runs_makeInterface n h₁.stands) ?_
  intro b p₂ f₂ h₂ hw₂ hb
  refine h₂.runs (fun f' calls hgrow => ?_)
  exact ⟨a, b, rfl, hgrow.kind? (hw₂.body.kind? ha), hgrow.kind? hb⟩

/-- **A finished mapping function**: what `f` was declared as, with a body that makes the
calls that were asked for. -/
structure Finished (m : MarkerTable) (id : FunctionId) (before : List Aside)
    (items : List (Item src dst)) (p : Program) (f : Func) (p' : Program) (f' : Func) : Prop where
  /-- It stands where it was declared. -/
  function : p'.function? id = some f'
  /-- Nothing else is lost, -/
  keeps : p.Keeps p'
  /-- and no other function is touched. -/
  others : ∀ id', id' ≠ id → p'.function? id' = p.function? id'
  /-- Its body is tidy. -/
  tidy : f'.Tidy
  /-- It is declared as it was. -/
  header : f' = { f with params := f'.params, blocks := f'.blocks, values := f'.values }
  /-- Its parameters are its first values. -/
  params : ∀ i q, f.signature.allParams[i]? = some q →
    f'.value? ⟨i⟩ = some ⟨.parameter i, some q.type, some q.name⟩
  /-- It makes the calls that were asked for, in order. -/
  calls : ∃ asides ref a b own,
    f'.instructions.filterMap f'.call? = asides.flatten ++ ((ref, [a, b]) :: own.flatten) ∧
      List.Forall₂ (Aside.LoweredTo f') before asides ∧
      f'.kind? ref = some (.functionRef (m.function .createMap)) ∧
      f'.kind? a = some (.makeInterface ⟨0⟩) ∧ f'.kind? b = some (.makeInterface ⟨1⟩) ∧
      List.Forall₂ (Item.LoweredTo m f' ⟨0⟩ ⟨1⟩) items own

theorem keeps_openFunc (h : p.function? id = some f) : p.Keeps (p.replace id (openFunc f)) :=
  .of_others (.refl _) (fun _ => Program.function?_replace_of_ne) h
    (Program.function?_replace h) rfl rfl

/-- **The body of a mapping function can be written** wherever its parameters point to
records and what it mentions is declared. -/
theorem runs_mappingBody {before : List Aside} {items : List (Item src dst)}
    {sourceParam destParam : Param} (h : p.function? id = some f) (hf : Declared f)
    (hparams : f.signature.allParams = [sourceParam, destParam])
    (hsource : RecordType.resolve p.types sourceParam.type
      = .ok (some { src with type := sourceParam.type }))
    (hdest : RecordType.resolve p.types destParam.type
      = .ok (some { dst with type := destParam.type }))
    (hm : m.Declared p settings) (hbefore : ∀ a ∈ before, a.Sound p settings)
    (hitems : ∀ item ∈ items, item.Sound p settings) :
    Runs (mappingBody m id before items) p
      (fun _ p' => ∃ f', Finished m id before items p f p' f') := by
  have hs := stands_openFunc h hf
  have hid : (⟨id, ⟨0⟩⟩ : Cursor).function = id := rfl
  have hkeeps := keeps_openFunc h
  have hparam := fun i q hq => param_eq (c := ⟨id, ⟨0⟩⟩) (i := i) (q := q) hs.function hf hq
  obtain ⟨hsourceEq, hsourceValue⟩ := hparam 0 sourceParam (by rw [hparams]; rfl)
  obtain ⟨hdestEq, hdestValue⟩ := hparam 1 destParam (by rw [hparams]; rfl)
  have hsource₀ : HasParam (p.replace id (openFunc f)) (openFunc f) ⟨0⟩ src :=
    ⟨0, _, _, hsourceValue, hsource⟩
  have hdest₀ : HasParam (p.replace id (openFunc f)) (openFunc f) ⟨1⟩ dst :=
    ⟨1, _, _, hdestValue, hdest⟩
  refine .next (body_eq h hf) (.next hsourceEq (.next hdestEq ?_))
  -- what comes before the mapping is begun
  refine (runs_lowerAsides hs hid (fun a ha => (hbefore a ha).keeps hkeeps)).bind ?_
  rintro c₁ p₁ ⟨_, f₁, hs₁, hc₁, hw₁, asides, hasides, rfl⟩
  have hk₁ := hkeeps.trans (hw₁.keeps hs.function (hc₁ ▸ hs₁.function))
  -- the beginning
  have hcall := CanCall.of_declared (hm.keeps hk₁) .createMap hs₁ (Nat.le_refl _)
  refine (runs_createMap hcall).bind ?_
  rintro _ p₂ ⟨ref, _, f₂, hs₂, hw₂, href, a, b, rfl, ha, hb⟩
  rw [hc₁] at hw₂
  have hk₂ := hk₁.trans (hw₂.keeps (hc₁ ▸ hs₁.function) (hc₁ ▸ hs₂.function))
  -- the steps that follow
  refine (runs_lowerItems hs₂ hc₁ (hm.keeps hk₂) ((hsource₀.grow hw₁).grow hw₂)
    ((hdest₀.grow hw₁).grow hw₂) (fun item hitem => (hitems item hitem).keeps hk₂)).bind ?_
  rintro c₃ p₃ ⟨_, f₃, hs₃, hc₃, hw₃, own, hown, rfl⟩
  refine Runs.bind (runs_ret f₃.values.size [] hs₃) ?_
  rintro _ p' ⟨f', hs', hw', -⟩
  rw [hc₃] at hw'
  have hw₁₂ := hw₁.trans (hw₂.weaken hw₁.body.size_le) hs₁.tidy
  have hw₁₃ := hw₁₂.trans (hw₃.weaken hw₁₂.body.size_le) hs₂.tidy
  have hw := hw₁₃.trans (hw'.weaken hw₁₃.body.size_le) hs₃.tidy
  have hgrow₂ := (hw₃.body.trans (hw'.body.weaken hw₃.body.size_le) hs₃.tidy)
  refine .pure ⟨f', hc₃ ▸ hs'.function, ?_, fun id' hne => ?_, hs'.tidy, ?_, ?_, ?_⟩
  · exact hkeeps.trans (hw.keeps hs.function (hc₃ ▸ hs'.function))
  · exact (hw.others id' hne).trans (Program.function?_replace_of_ne hne)
  · rw [hw.body.header]
    rfl
  · exact fun i q hq => hw.body.values _ _ (hparam i q hq).2
  · obtain ⟨ids, hids, hcalls, -⟩ := hw.body.added
    rw [instructions_openFunc hf, List.nil_append] at hids
    refine ⟨asides, ref, a, b, own, ?_, ?_, hgrow₂.kind? href, hgrow₂.kind? ha, hgrow₂.kind? hb,
      ?_⟩
    · rw [hids, hcalls]
      simp
    · exact hasides.imp (fun a calls ha => (ha.grow hw₂.body).grow hgrow₂)
    · exact hown.imp (fun item calls hitem => hitem.grow hs₃.tidy hw'.body)

end Build

end Crosswalk
