import Crosswalk.Proofs.Mapping.Variables

/-!
# What the two sides of a mapping are called

A side of a mapping is called after the last variable with a name on the chain behind it, and
by a name from the settings if there is none (`Scope.ReadAs.exists_namer`). Each side is named
by itself; nothing compares the two names.

Different parameters with different names never clash, and neither do the two names from the
settings. There remain the cases of `Func.Clash`, and the empty name of a local: with
parameters that are told apart by their names, and settings that tell the sides apart, these
are all the ways in which the two names can fail to be names of two variables
(`Program.bindings_apart_iff`).
-/

namespace Crosswalk

namespace Func

/-- The name of a value that is a variable. Whatever is no parameter and no local has none. -/
def variableName? (f : Func) (v : ValueId) : Option String :=
  match f.value? v with
  | some ⟨.parameter _, _, name⟩ => name
  | some ⟨.alloc _, _, name⟩ => name
  | _ => none

/-- **What a side is called**, given the variable that it is called after, if there is one, and
the name that it is given otherwise. -/
def sideName (f : Func) (given : String) (x : Option ValueId) : String :=
  (x.bind f.variableName?).getD given

/-- **The parameters are told apart by their names**, none of which is empty. -/
structure ParamsNamed (f : Func) : Prop where
  /-- No two have one name. -/
  nodup : (f.params.map f.variableName?).Nodup
  /-- Each has a name. -/
  named : ∀ u ∈ f.params, f.variableName? u ≠ none ∧ f.variableName? u ≠ some ""

/-- A side is called after a local whose name is empty. -/
inductive Blank (f : Func) : Option ValueId → Prop
  | mk {u : ValueId} (hlocal : u ∉ f.params) (hname : f.variableName? u = some "") :
      Blank f (some u)

/-- **The two sides come by one name**, given the variables that the source and the
destination are called after, if there are such variables. -/
inductive Clash (f : Func) (names : BindingSettings) : Option ValueId → Option ValueId → Prop
  /-- Both are called after one variable. -/
  | same {u : ValueId} : Clash f names (some u) (some u)
  /-- One is called after a local with the name of what the other is called after. -/
  | shadowed {u w : ValueId} (hlocal : u ∉ f.params ∨ w ∉ f.params)
      (hname : f.variableName? u = f.variableName? w) : Clash f names (some u) (some w)
  /-- The variable behind the source has the name that a nameless destination is given. -/
  | destination {u : ValueId} (hname : f.variableName? u = some names.destination) :
      Clash f names (some u) none
  /-- The variable behind the destination has the name that a nameless source is given. -/
  | source {w : ValueId} (hname : f.variableName? w = some names.source) :
      Clash f names none (some w)

variable {f : Func} {v u w : ValueId} {x y : Option ValueId} {type : Option TypeId}
  {name : Option String} {names : BindingSettings} {given own : String}

theorem variableName?_of_parameter {i : Nat} (hv : f.value? v = some ⟨.parameter i, type, name⟩) :
    f.variableName? v = name := by
  rw [variableName?, hv]

theorem variableName?_of_alloc {heap : Bool} (hv : f.value? v = some ⟨.alloc heap, type, name⟩) :
    f.variableName? v = name := by
  rw [variableName?, hv]

/-- **What is no parameter and no local** is no variable. -/
theorem variableName?_eq_none {kind : ValueKind} (hk : f.kind? v = some kind)
    (hparam : ∀ i, kind ≠ .parameter i) (hlocal : ∀ heap, kind ≠ .alloc heap) :
    f.variableName? v = none := by
  obtain ⟨⟨own, type, name⟩, hv, rfl⟩ := kind?_eq_some_iff.mp hk
  rw [variableName?, hv]
  split
  · rename_i i _ _ heq
    exact absurd (congrArg Value.kind (Option.some.inj heq)) (hparam i)
  · rename_i heap _ _ heq
    exact absurd (congrArg Value.kind (Option.some.inj heq)) (hlocal heap)
  · rfl

/-- A parameter is told from every other by its name. -/
theorem ParamsNamed.eq_of_variableName?_eq (h : f.ParamsNamed) (hu : u ∈ f.params)
    (hw : w ∈ f.params) (hname : f.variableName? u = f.variableName? w) : u = w :=
  List.inj_on_of_nodup_map h.nodup hu hw hname

theorem sideName_some (hname : f.variableName? u = some own) : f.sideName given (some u) = own := by
  rw [sideName, Option.bind_some, hname, Option.getD_some]

/-- **A side has an empty name** only by being called after a local. -/
theorem ParamsNamed.sideName_eq_empty_iff (h : f.ParamsNamed) (hgiven : given ≠ "")
    (hx : ∀ u, x = some u → ∃ own, f.variableName? u = some own) :
    f.sideName given x = "" ↔ f.Blank x := by
  constructor
  · intro hempty
    cases x with
    | none => exact absurd hempty hgiven
    | some u =>
      obtain ⟨own, hown⟩ := hx u rfl
      obtain rfl : own = "" := (sideName_some hown).symm.trans hempty
      exact .mk (fun hparam => (h.named u hparam).2 hown) hown
  · rintro ⟨-, hname⟩
    exact sideName_some hname

/-- **The sides have one name** just when they clash. -/
theorem ParamsNamed.sideName_eq_iff (h : f.ParamsNamed) (hnames : names.source ≠ names.destination)
    (hx : ∀ u, x = some u → ∃ own, f.variableName? u = some own)
    (hy : ∀ w, y = some w → ∃ own, f.variableName? w = some own) :
    f.sideName names.source x = f.sideName names.destination y ↔ f.Clash names x y := by
  constructor
  · intro heq
    cases x with
    | none =>
      cases y with
      | none => exact absurd heq hnames
      | some w =>
        obtain ⟨own, hown⟩ := hy w rfl
        obtain rfl : names.source = own := heq.trans (sideName_some hown)
        exact .source hown
    | some u =>
      obtain ⟨own, hown⟩ := hx u rfl
      have heq := (sideName_some hown).symm.trans heq
      cases y with
      | none =>
        obtain rfl : own = names.destination := heq
        exact .destination hown
      | some w =>
        obtain ⟨other, hother⟩ := hy w rfl
        obtain rfl : own = other := heq.trans (sideName_some hother)
        have hname := hown.trans hother.symm
        -- two parameters with one name are one parameter
        by_cases hparams : u ∈ f.params ∧ w ∈ f.params
        · obtain rfl := h.eq_of_variableName?_eq hparams.1 hparams.2 hname
          exact .same
        · exact .shadowed (not_and_or.mp hparams) hname
  · intro hclash
    cases hclash with
    | @same u =>
      obtain ⟨own, hown⟩ := hx u rfl
      exact (sideName_some hown).trans (sideName_some hown).symm
    | @shadowed u w hlocal hname =>
      obtain ⟨own, hown⟩ := hx u rfl
      exact (sideName_some hown).trans (sideName_some (hname ▸ hown)).symm
    | destination hname => exact sideName_some hname
    | source hname => exact (sideName_some hname).symm

end Func

namespace Scope

variable {s : Scope} {v w u : ValueId} {b : Binding} {x : Option ValueId}

/-- **What a value is called after**: the last variable with a name on its chain, or nothing
if there is none on it. -/
def Namer (s : Scope) (v : ValueId) : Option ValueId → Prop
  | some u => Relation.ReflTransGen s.Link v u ∧
      (∃ name, s.function.variableName? u = some name) ∧
      ∀ w, Relation.TransGen s.Link u w → s.function.variableName? w = none
  | none => ∀ w, Relation.ReflTransGen s.Link v w → s.function.variableName? w = none

theorem Namer.exists_name (h : s.Namer v x) :
    ∀ u, x = some u → ∃ name, s.function.variableName? u = some name := by
  rintro u rfl
  exact h.2.1

/-- A value at the end of its chain is called after itself, if it has a name. -/
theorem exists_namer_of_not_link (hlink : ∀ u, ¬ s.Link v u) :
    ∃ x, s.Namer v x ∧ x.bind s.function.variableName? = s.function.variableName? v := by
  have hend : ∀ w, ¬ Relation.TransGen s.Link v w := by
    intro w hchain
    obtain ⟨u, hvu, -⟩ := Relation.TransGen.head'_iff.mp hchain
    exact hlink u hvu
  cases hname : s.function.variableName? v with
  | none =>
    refine ⟨none, fun w hchain => ?_, rfl⟩
    rcases Relation.reflTransGen_iff_eq_or_transGen.mp hchain with rfl | htrans
    · exact hname
    · exact absurd htrans (hend w)
  | some name =>
    exact ⟨some v, ⟨.refl, ⟨name, hname⟩, fun w hchain => absurd hchain (hend w)⟩, hname⟩

/-- **Any other value is called after what its chain goes on to**, and after itself only if
nothing further on has a name. -/
theorem Namer.exists_namer_of_link (hlink : s.Link v w) (h : s.Namer w x) :
    ∃ y, s.Namer v y ∧ y.bind s.function.variableName? =
      (x.bind s.function.variableName? <|> s.function.variableName? v) := by
  have hon : ∀ u, Relation.TransGen s.Link v u → Relation.ReflTransGen s.Link w u := by
    intro u hchain
    obtain ⟨next, hnext, hrest⟩ := Relation.TransGen.head'_iff.mp hchain
    exact hlink.unique hnext ▸ hrest
  cases x with
  | some u =>
    obtain ⟨hchain, ⟨name, hname⟩, hlast⟩ := h
    refine ⟨some u, ⟨.head hlink hchain, ⟨name, hname⟩, hlast⟩, ?_⟩
    rw [Option.bind_some, hname]
    rfl
  | none =>
    cases hname : s.function.variableName? v with
    | none =>
      refine ⟨none, fun u hchain => ?_, rfl⟩
      rcases Relation.reflTransGen_iff_eq_or_transGen.mp hchain with rfl | htrans
      · exact hname
      · exact h u (hon u htrans)
    | some name =>
      exact ⟨some v, ⟨.refl, ⟨name, hname⟩, fun u hchain => h u (hon u hchain)⟩, hname⟩

/-- A nameless value is called after what its chain goes on to. -/
theorem Namer.exists_namer_of_nameless (hlink : s.Link v w)
    (hnone : s.function.variableName? v = none) (h : s.Namer w x) :
    ∃ y, s.Namer v y ∧ y.bind s.function.variableName? = x.bind s.function.variableName? := by
  obtain ⟨y, hy, hname⟩ := h.exists_namer_of_link hlink
  rw [hnone, Option.orElse_eq_orElse, Option.orElse_eq_or, Option.or_none] at hname
  exact ⟨y, hy, hname⟩

/-- **A variable has the name of what it is called after.** -/
theorem ReadAs.exists_namer (h : s.ReadAs v b) :
    ∃ x, s.Namer v x ∧ b.name = x.bind s.function.variableName? := by
  induction h with
  | constant hv =>
    have hk := Func.kind?_of_value? hv
    obtain ⟨x, hx, hname⟩ := exists_namer_of_not_link fun u => Made.not_link (.constant hk)
    rw [Func.variableName?_eq_none hk nofun nofun] at hname
    exact ⟨x, hx, hname.symm⟩
  | parameter hv =>
    have hk := Func.kind?_of_value? hv
    obtain ⟨x, hx, hname⟩ := exists_namer_of_not_link fun u => Given.not_link ⟨_, hk⟩
    rw [Func.variableName?_of_parameter hv] at hname
    exact ⟨x, hx, hname.symm⟩
  | place hv hstored =>
    have hk := Func.kind?_of_value? hv
    obtain ⟨x, hx, hname⟩ := exists_namer_of_not_link fun u => Made.not_link (.place hk hstored)
    rw [Func.variableName?_of_alloc hv] at hname
    exact ⟨x, hx, hname.symm⟩
  | held hv hstored h ih =>
    obtain ⟨x, hx, hread⟩ := ih
    obtain ⟨y, hy, hname⟩ := hx.exists_namer_of_link (.stored (Func.kind?_of_value? hv) hstored)
    rw [← hread, Func.variableName?_of_alloc hv] at hname
    exact ⟨y, hy, hname.symm⟩
  | boxed hk h ih =>
    obtain ⟨x, hx, hread⟩ := ih
    obtain ⟨y, hy, hname⟩ :=
      hx.exists_namer_of_nameless (.boxed hk) (Func.variableName?_eq_none hk nofun nofun)
    exact ⟨y, hy, hread.trans hname.symm⟩
  | loaded hk h hderef ih =>
    obtain ⟨x, hx, hread⟩ := ih
    obtain ⟨y, hy, hname⟩ :=
      hx.exists_namer_of_nameless (.loaded hk) (Func.variableName?_eq_none hk nofun nofun)
    exact ⟨y, hy, hread.trans hname.symm⟩

end Scope

namespace Program

variable {p : Program} {settings : Settings} {id : FunctionId} {f : Func} {spec : MappingSpec}

/-- **When the two sides of a mapping have names of their own.** Take a function whose
parameters are told apart by their names, and settings that name the two sides differently.
Each side of its specification has the name of what the value handed to the marker is called
after, or the one that the settings have for it. The names are not empty and not the same just
when neither side is called after a local with an empty name and the two sides do not clash. -/
theorem bindings_apart_iff (h : p.validate = .ok ()) (hf : p.function? id = some f)
    (hparams : f.ParamsNamed) (hsource : settings.bindings.source ≠ "")
    (hdest : settings.bindings.destination ≠ "")
    (hdefaults : settings.bindings.source ≠ settings.bindings.destination)
    (hspec : p.interpret settings id = .ok (some spec)) :
    ∃ r a b rest x y, Reading.ofFunction p settings f = .ok r ∧ r.Opens [a, b] rest ∧
      r.scope.Namer a x ∧ r.scope.Namer b y ∧
      spec.sourceBinding = f.sideName settings.bindings.source x ∧
      spec.destBinding = f.sideName settings.bindings.destination y ∧
      (spec.sourceBinding ≠ "" ∧ spec.destBinding ≠ "" ∧
          spec.sourceBinding ≠ spec.destBinding ↔
        ¬ f.Blank x ∧ ¬ f.Blank y ∧ ¬ f.Clash settings.bindings x y) := by
  obtain ⟨f', r, hf', hr, -, hfunction, haccepts⟩ := exists_accepts_of_interpret h hspec
  obtain rfl : f = f' := Option.some.inj (hf.symm.trans hf')
  have hsettings : r.settings = settings := Reading.settings_of_ofFunction hr
  cases haccepts with
  | @mk args rest first additions hopens hfirst hrest hshown =>
    obtain @⟨a, b, source, dest, returned, fails, hs, hd, hgives⟩ := hfirst
    obtain ⟨x, hx, hxname⟩ := (Scope.readAs_of_bindingTo hs).exists_namer
    obtain ⟨y, hy, hyname⟩ := (Scope.readAs_of_bindingTo hd).exists_namer
    have hxsome := hx.exists_name
    have hysome := hy.exists_name
    rw [hfunction] at hxname hyname hxsome hysome
    have hleft : (r.opening source dest returned fails).sourceBinding =
        f.sideName settings.bindings.source x := by
      rw [Func.sideName, ← hxname, ← hsettings]
      rfl
    have hright : (r.opening source dest returned fails).destBinding =
        f.sideName settings.bindings.destination y := by
      rw [Func.sideName, ← hyname, ← hsettings]
      rfl
    rw [Reading.foldl_apply_eq]
    refine ⟨r, a, b, rest, x, y, hr, hopens, hx, hy, hleft, hright, ?_⟩
    show _ ≠ _ ∧ _ ≠ _ ∧ _ ≠ _ ↔ _
    rw [hleft, hright, ← hparams.sideName_eq_empty_iff hsource hxsome,
      ← hparams.sideName_eq_empty_iff hdest hysome,
      ← hparams.sideName_eq_iff hdefaults hxsome hysome]

/-- The names of a contact and a card are names of their own, and so the two do not clash. -/
theorem cardProgram_bindings_apart : cardProgram.validate = .ok () ∧
    cardProgram.functions[1].ParamsNamed ∧ ∃ r spec a b rest x y,
      Reading.ofFunction cardProgram {} cardProgram.functions[1] = .ok r ∧
      r.Opens [a, b] rest ∧ r.scope.Namer a x ∧ r.scope.Namer b y ∧
      cardProgram.interpret {} ⟨1⟩ = .ok (some spec) ∧ spec.sourceBinding = "contact" ∧
      spec.destBinding = "card" ∧ ¬ cardProgram.functions[1].Clash {} x y := by
  have hvalid : cardProgram.validate = .ok () := by decide +kernel
  have hf : cardProgram.function? ⟨1⟩ = some cardProgram.functions[1] := rfl
  have hnamed : cardProgram.functions[1].ParamsNamed := ⟨by decide, by decide⟩
  have hread : answersWith (Option.any (fun spec =>
        decide (spec.sourceBinding = "contact" ∧ spec.destBinding = "card")))
      (cardProgram.interpret {} ⟨1⟩) = true := by decide +kernel
  obtain ⟨found, hfound, hany⟩ := exists_of_answersWith hread
  obtain ⟨spec, rfl, hboth⟩ := (Option.any_eq_true _ _).mp hany
  obtain ⟨hsource, hdest⟩ := of_decide_eq_true hboth
  obtain ⟨r, a, b, rest, x, y, hr, hopens, hx, hy, -, -, hiff⟩ :=
    bindings_apart_iff hvalid hf hnamed (by decide) (by decide) (by decide) hfound
  rw [hsource, hdest] at hiff
  have hclash := (hiff.mp ⟨by decide, by decide, by decide⟩).2.2
  exact ⟨hvalid, hnamed, r, spec, a, b, rest, x, y, hr, hopens, hx, hy, hfound, hsource, hdest,
    hclash⟩

/-- The program of the cards with a mapping of a contact, `dst`, into a new card: it calls
`CreateMap(dst, new(Card))`. Its one parameter has the name that a nameless destination is
given. -/
def freshProgram : Program where
  package := cardProgram.package
  types := cardProgram.types
  functions := #[
    .external ⟨0⟩ "CreateMap" "github.com/paultyng/go-typemapper" ⟨none, [], [], false⟩,
    { id := ⟨1⟩
      name := "Fresh"
      package := "example.com/cards"
      file := some "cards.go"
      signature := ⟨none, [⟨"dst", ⟨2⟩⟩], [⟨4⟩], false⟩
      params := [⟨0⟩]
      blocks := #[⟨⟨0⟩, [⟨1⟩, ⟨2⟩, ⟨3⟩, ⟨5⟩, ⟨7⟩], none⟩]
      values := #[⟨.parameter 0, some ⟨2⟩, some "dst"⟩, ⟨.alloc true, some ⟨4⟩, none⟩,
        ⟨.makeInterface ⟨0⟩, some ⟨5⟩, none⟩, ⟨.makeInterface ⟨1⟩, some ⟨5⟩, none⟩,
        ⟨.functionRef ⟨0⟩, some ⟨6⟩, none⟩, ⟨.call ⟨4⟩ [⟨2⟩, ⟨3⟩], none, none⟩,
        ⟨.const .nil, some ⟨4⟩, none⟩, ⟨.ret [⟨6⟩], none, none⟩]
      synthetic := none }]

/-- **A parameter may have the name that is given to the destination.** -/
theorem freshProgram_bindings_clash : ∃ spec, freshProgram.validate = .ok () ∧
    freshProgram.functions[1].ParamsNamed ∧
    freshProgram.interpret {} ⟨1⟩ = .ok (some spec) ∧ spec.sourceBinding = "dst" ∧
    spec.destBinding = "dst" := by
  have hread : answersWith (Option.any (fun spec =>
        decide (spec.sourceBinding = "dst" ∧ spec.destBinding = "dst")))
      (freshProgram.interpret {} ⟨1⟩) = true := by decide +kernel
  obtain ⟨found, hfound, hany⟩ := exists_of_answersWith hread
  obtain ⟨spec, rfl, hboth⟩ := (Option.any_eq_true _ _).mp hany
  exact ⟨spec, by decide +kernel, ⟨by decide, by decide⟩, hfound, of_decide_eq_true hboth⟩

end Program

end Crosswalk
