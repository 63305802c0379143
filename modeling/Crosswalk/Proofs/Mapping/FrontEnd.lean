import Crosswalk.Mapping.Interpretation
import Crosswalk.Proofs.Program.Packs
import Crosswalk.Proofs.Record

/-!
# How a front end writes a mapping function

A mapping function begins a mapping of its first parameter into its second and
then says, directive by directive, how it is to be done. Between its marker calls
there may be any other calls, and it may go on in a new block at any point.

The front end lowers a directive to one call of its marker. The arguments of the
call are made just before: a prefix is a constant, a field is its address, loaded
and put into an interface, a function is a reference to it in an interface, and
whatever comes in a list is packed.

What a lowered directive looks like in a body is stated apart from how it is
lowered (`Directive.ConveyedBy`): it only says which values the arguments of the
call are made of.
-/

namespace Crosswalk

/-- **What a mapping function may ask for**, between the records `src` and `dst`. -/
inductive Directive (src dst : RecordType) where
  /-- These prefixes may be carried by field names. -/
  | recognizePrefixes (prefixes : List String)
  /-- The one field feeds the other. -/
  | mapField (i : Fin src.fields.length) (j : Fin dst.fields.length)
  /-- These fields are left alone. -/
  | ignoreFields (js : List (Fin dst.fields.length))
  /-- These functions map nested values. -/
  | mapWith (functions : List FunctionId)

/-- An argument of a call of no interest: some value, or a pack of some values. -/
inductive Argument where
  | plain (v : ValueId)
  | packed (elem : TypeId) (vs : List ValueId)

/-- **What may stand between the marker calls.** -/
inductive Aside where
  /-- A call of another function. -/
  | call (target : FunctionId) (args : List Argument)
  /-- The end of a block; the body goes on in the next one. -/
  | cut

/-- One step of the body. -/
inductive Item (src dst : RecordType) where
  | configure (d : Directive src dst)
  | aside (a : Aside)

/-- **The functions of the marker package**, and the types of what two of them are
given lists of. -/
structure MarkerTable where
  /-- The function that stands for a marker. -/
  function : Marker → FunctionId
  /-- The type of anything. -/
  any : TypeId
  /-- The type of strings. -/
  string : TypeId

namespace Build

/-! ## Lowering -/

/-- A field as an argument: its address, loaded and put into an interface. -/
def selector (c : Cursor) (base : ValueId) (field : Nat) : Build ValueId := do
  makeInterface c (← load c (← fieldAddr c base field))

/-- **Lowers a directive** of a mapping from `source` to `dest`. -/
def lowerDirective {src dst : RecordType} (m : MarkerTable) (c : Cursor) (source dest : ValueId) :
    Directive src dst → Build Unit
  | .recognizePrefixes prefixes => do
    let values ← prefixes.mapM (constString c)
    let packed ← variadic c m.string values
    let _ ← call c (m.function .recognizePrefixes) [packed]
  | .mapField i j => do
    let fed ← selector c source i
    let field ← selector c dest j
    let _ ← call c (m.function .mapField) [fed, field]
  | .ignoreFields js => do
    let values ← js.mapM (fun j => selector c dest j.val)
    let packed ← variadic c m.any values
    let _ ← call c (m.function .ignoreFields) [packed]
  | .mapWith functions => do
    let refs ← functions.mapM (functionRef c)
    let values ← refs.mapM (makeInterface c)
    let packed ← variadic c m.any values
    let _ ← call c (m.function .mapWith) [packed]

/-- Lowers an argument of a call of no interest. -/
def lowerArgument (c : Cursor) : Argument → Build ValueId
  | .plain v => return v
  | .packed elem vs => variadic c elem vs

/-- Lowers what stands between marker calls, and answers where the body goes on. -/
def lowerAside (c : Cursor) : Aside → Build Cursor
  | .call target args => do
    let _ ← call c target (← args.mapM (lowerArgument c))
    return c
  | .cut => cut c

/-- Lowers one step of a body. -/
def lowerItem {src dst : RecordType} (m : MarkerTable) (source dest : ValueId) (c : Cursor) :
    Item src dst → Build Cursor
  | .configure d => do
    lowerDirective m c source dest d
    return c
  | .aside a => lowerAside c a

/-- The call by which a mapping is begun. -/
def createMap (m : MarkerTable) (c : Cursor) (source dest : ValueId) : Build Unit := do
  let boxedSource ← makeInterface c source
  let boxedDest ← makeInterface c dest
  let _ ← call c (m.function .createMap) [boxedSource, boxedDest]

/-- **Writes the body of a mapping function**: what comes before the mapping is begun,
the beginning, and the steps that follow. -/
def mappingBody {src dst : RecordType} (m : MarkerTable) (id : FunctionId) (before : List Aside)
    (items : List (Item src dst)) : Build Unit := do
  let c ← body id
  let source ← param c 0
  let dest ← param c 1
  let c ← before.foldlM lowerAside c
  createMap m c source dest
  let c ← items.foldlM (lowerItem m source dest) c
  let _ ← ret c []

end Build

/-! ## What a lowered directive looks like -/

namespace Func

/-- The value at `v` is the field at place `field` of what `base` points to. -/
def Selects (f : Func) (base : ValueId) (field : Nat) (v : ValueId) : Prop :=
  ∃ address loaded, f.kind? address = some (.fieldAddr base field) ∧
    f.kind? loaded = some (.unOp .deref address) ∧ f.kind? v = some (.makeInterface loaded)

/-- The value at `v` is the string `text`. -/
def Spells (f : Func) (text : String) (v : ValueId) : Prop :=
  f.kind? v = some (.const (.string text))

/-- The value at `v` is a reference to the function at `id`. -/
def RefersTo (f : Func) (id : FunctionId) (v : ValueId) : Prop :=
  ∃ ref, f.kind? ref = some (.functionRef id) ∧ f.kind? v = some (.makeInterface ref)

/-- The value at `v` is a pack of values that are what `R` says of `as`, one by one. -/
def PacksEach {α : Type} (f : Func) (R : α → ValueId → Prop) (as : List α) (v : ValueId) : Prop :=
  ∃ base vs, f.kind? v = some (.slice base) ∧ f.Packs base vs ∧ List.Forall₂ R as vs

end Func

variable {src dst : RecordType}

namespace Directive

/-- The marker by which a directive is given. -/
def marker : Directive src dst → Marker
  | .recognizePrefixes _ => .recognizePrefixes
  | .mapField .. => .mapField
  | .ignoreFields _ => .ignoreFields
  | .mapWith _ => .mapWith

/-- **The arguments `args` say what the directive says.** -/
def ConveyedBy (f : Func) (source dest : ValueId) : Directive src dst → List ValueId → Prop
  | .recognizePrefixes prefixes, args =>
    ∃ packed, args = [packed] ∧ f.PacksEach f.Spells prefixes packed
  | .mapField i j, args =>
    ∃ fed field, args = [fed, field] ∧ f.Selects source i fed ∧ f.Selects dest j field
  | .ignoreFields js, args =>
    ∃ packed, args = [packed] ∧ f.PacksEach (fun j => f.Selects dest j.val) js packed
  | .mapWith functions, args =>
    ∃ packed, args = [packed] ∧ f.PacksEach f.RefersTo functions packed

/-- What the directive relies on: the functions it mentions are declared. -/
def Sound (p : Program) : Directive src dst → Prop
  | .mapWith functions => ∀ id ∈ functions, ∃ g, p.function? id = some g
  | _ => True

/-! ### What it asks for -/

/-- The prefixes it lists. -/
def prefixes : Directive src dst → List String
  | .recognizePrefixes prefixes => prefixes
  | _ => []

/-- The names of a field and of the field that feeds it. -/
def overrides : Directive src dst → List (String × String)
  | .mapField i j => [(dst.fields[j].name, src.fields[i].name)]
  | _ => []

/-- The names of the fields it leaves alone. -/
def ignored : Directive src dst → List String
  | .ignoreFields js => js.map (fun j => dst.fields[j].name)
  | _ => []

/-- The functions it lists. -/
def delegates : Directive src dst → List FunctionId
  | .mapWith functions => functions
  | _ => []

end Directive

/-- The directive that is given, if one is. -/
def Item.directive? : Item src dst → Option (Directive src dst)
  | .configure d => some d
  | .aside _ => none

/-- What stands between marker calls becomes the call it makes, if it makes one. -/
def Aside.LoweredTo (f : Func) : Aside → List (ValueId × List ValueId) → Prop
  | .call target _, calls => ∃ ref args, calls = [(ref, args)] ∧
      f.kind? ref = some (.functionRef target)
  | .cut, calls => calls = []

/-- **What a step of a body becomes**: the calls it makes. -/
def Item.LoweredTo (m : MarkerTable) (f : Func) (source dest : ValueId) :
    Item src dst → List (ValueId × List ValueId) → Prop
  | .configure d, calls => ∃ ref args, calls = [(ref, args)] ∧
      f.kind? ref = some (.functionRef (m.function d.marker)) ∧ d.ConveyedBy f source dest args
  | .aside a, calls => a.LoweredTo f calls

/-- What a call relies on: its callee is declared, and not as a marker. -/
def Aside.Sound (p : Program) (settings : Settings) : Aside → Prop
  | .call target _ =>
    ∃ g, p.function? target = some g ∧ settings.markers.isMarkerPackage g.package = false
  | .cut => True

/-- What a step of a body relies on. -/
def Item.Sound (p : Program) (settings : Settings) : Item src dst → Prop
  | .configure d => d.Sound p
  | .aside a => a.Sound p settings

/-- **The markers are declared** under their names, in a package that declares markers. -/
def MarkerTable.Declared (m : MarkerTable) (p : Program) (settings : Settings) : Prop :=
  ∀ marker, ∃ g, p.function? (m.function marker) = some g ∧ g.name = marker.name ∧
    settings.markers.isMarkerPackage g.package = true

end Crosswalk
