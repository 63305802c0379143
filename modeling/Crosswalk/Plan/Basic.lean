import Crosswalk.Conversion
import Crosswalk.Matching

/-!
# Plans

A plan is a specification with every decision made: which field feeds which and
how, or how the elements of one slice become those of another. What is
generated for a mapping function, and what is reported of it, are both read off
its plan.
-/

namespace Crosswalk

/-- A matched pair of fields and how the one becomes the other. -/
structure PlannedField where
  /-- The fields. -/
  pair : FieldPair
  /-- How the value is converted. -/
  conversion : Conversion
deriving DecidableEq, Repr

/-- **What a generated function does.** -/
inductive PlanBody where
  /-- It assigns fields one by one; nothing feeds the unmatched ones. -/
  | record (fields : List PlannedField) (unmatched : List RecordField)
  /-- It converts the elements of a slice one by one. -/
  | elements (sourceElem destElem : TypeId) (conversion : Conversion)
deriving DecidableEq, Repr

/-- **Everything needed to write one mapping function.** -/
structure Plan where
  /-- What the function asks for. -/
  spec : MappingSpec
  /-- What it does. -/
  body : PlanBody
deriving DecidableEq, Repr

/-- The names of the destination fields that nothing feeds. -/
def Plan.unmatchedNames (plan : Plan) : List String :=
  match plan.body with
  | .record _ unmatched => unmatched.map RecordField.name
  | .elements .. => []

end Crosswalk
