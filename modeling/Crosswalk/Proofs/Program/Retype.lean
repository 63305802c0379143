import Crosswalk.Proofs.Program.Mirror
import Crosswalk.Proofs.Types.Copies

/-!
# Exchanging copies

A program in which some occurrences of types in functions are replaced by copies of these
types mirrors the program as it was, with its functions where they are. The smallest change of
this kind is that of the type of one value.
-/

namespace Crosswalk

theorem ValueKind.rename_id (kind : ValueKind) : kind.rename id = kind := by cases kind <;> rfl

/-- The value with another entry for its type. -/
def Value.retype (type : TypeId) (w : Value) : Value :=
  { w with type := w.type.map (fun _ => type) }

/-- The function with another entry for the type of one value. -/
def Func.retype (v : ValueId) (type : TypeId) (f : Func) : Func :=
  { f with values := f.values.modify v.index (Value.retype type) }

/-- **The program with another entry for the type of one value** of one function. -/
def Program.retype (p : Program) (i : FunctionId) (v : ValueId) (type : TypeId) : Program :=
  { p with functions := p.functions.modify i.index (Func.retype v type) }

variable {R : TypeId → TypeId → Prop} {p : Program} {f : Func} {i : FunctionId} {v : ValueId}
  {type : TypeId}

theorem Value.mirrors_of_type {w : Value} {type : Option TypeId} (h : Option.Rel R w.type type) :
    w.Mirrors id R { w with type := type } :=
  ⟨(ValueKind.rename_id w.kind).symm, h, rfl⟩

namespace Program

/-- A function mirrors what it becomes when types of values are replaced. -/
theorem mirrors_of_values {values : Array Value} (hf : f.Sound p)
    (hR : ∀ a, p.types.Has a → R a a)
    (hvalues : ∀ u : Nat, Option.Rel (Value.Mirrors id R) f.values[u]? values[u]?) :
    f.Mirrors id R { f with values := values } where
  id := rfl
  name := rfl
  package := rfl
  file := rfl
  synthetic := rfl
  signature := Signature.mirrors_self (fun x hx => hR _ (hf.paramTypes x hx))
    (fun a ha => hR a (hf.resultTypes a ha))
  params := rfl
  blocks := rfl
  values := fun u => hvalues u.index

/-- **A program mirrors itself with the type of a value replaced by a copy.** -/
theorem mirrors_retype (hp : p.Sound)
    (hcopy : ∀ f w a, p.function? i = some f → f.value? v = some w → w.type = some a →
      p.types.Copies a type) : p.Mirrors id p.types.Copies (p.retype i v type) := by
  have hrefl : ∀ a, p.types.Has a → p.types.Copies a a := fun _ => hp.types.copies_refl
  have hvalue : ∀ j f, p.function? j = some f → ∀ u w, f.value? u = some w →
      w.Mirrors id p.types.Copies w := by
    intro j f hf u w hw
    refine Value.mirrors_of_type ?_
    cases htype : w.type with
    | none => exact .none
    | some a => exact .some (hrefl a (((hp.functions j f hf).values u w hw).type a htype))
  have hself : ∀ (j : Nat) f, p.functions[j]? = some f → f.Mirrors id p.types.Copies f := by
    intro j f hf
    refine mirrors_of_values (hp.functions ⟨j⟩ f hf) hrefl (fun u => ?_)
    cases hw : f.values[u]? with
    | none => exact .none
    | some w => exact .some (hvalue ⟨j⟩ f hf ⟨u⟩ w hw)
  have hchange : ∀ f, p.functions[i.index]? = some f →
      f.Mirrors id p.types.Copies (f.retype v type) := by
    intro f hf
    refine mirrors_of_values (hp.functions i f hf) hrefl
      (optionRel_getElem?_modify (fun u w hw => hvalue i f hf ⟨u⟩ w hw) (fun w hw => ?_))
    refine Value.mirrors_of_type ?_
    cases htype : w.type with
    | none => exact .none
    | some a => exact .some (hcopy f w a hf hw htype)
  exact {
    package := rfl
    types := rfl
    functions := fun j => optionRel_getElem?_modify hself hchange j.index
    bijective := Function.bijective_id
    fixed := fun _ _ => rfl }

end Program

end Crosswalk
