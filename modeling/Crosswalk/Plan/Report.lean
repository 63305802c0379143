import Crosswalk.Plan.Basic
import Crosswalk.Types.Spelling

/-!
# Reports

A report shows a plan to the person who has to decide whether it is right: one
line that says what is mapped to what, and one line per destination field, or
one for the elements of a slice.
-/

namespace Crosswalk

/-- A step as a report shows it. -/
def CoercionStep.report (t : TypeTable) : CoercionStep → Lookup String
  | .addressOf => return "&"
  | .deref => return "*"
  | .convert type => return (← t.display type) ++ "()"

/-- A conversion as a report shows it. -/
def Conversion.report (t : TypeTable) : Conversion → Lookup String
  | .assign => return "assign"
  | .coerce steps complete => do
    let shown ← steps.mapM (CoercionStep.report t)
    let text := "coerce [" ++ String.intercalate ", " shown ++ "]"
    return if complete then text else text ++ " (incomplete)"
  | .delegate _ name .receiver => return "delegate ." ++ name ++ "()"
  | .delegate _ name .call => return "delegate " ++ name ++ "()"

/-- The lines of a report below the first. -/
def PlanBody.reportLines (t : TypeTable) : PlanBody → Lookup (List String)
  | .record fields unmatched => do
    let fed ← fields.mapM (fun f => do
      return "  " ++ f.pair.dest.name ++ " <- " ++ f.pair.source.name ++ ": "
        ++ (← f.conversion.report t))
    return fed ++ unmatched.map (fun f => "  " ++ f.name ++ ": no match")
  | .elements sourceElem destElem conversion => do
    return ["  [] " ++ (← t.display destElem) ++ " <- " ++ (← t.display sourceElem) ++ ": "
      ++ (← conversion.report t)]

/-- The lines of a report. -/
def Plan.reportLines (t : TypeTable) (plan : Plan) : Lookup (List String) := do
  let head := plan.spec.qualifiedName ++ ": " ++ (← t.display plan.spec.sourceType) ++ " -> "
    ++ (← t.display plan.spec.destType)
  return head :: (← plan.body.reportLines t)

/-- **The report of a plan.** -/
def Plan.report (t : TypeTable) (plan : Plan) : Lookup String := do
  return String.join ((← plan.reportLines t).map (fun line => line ++ "\n"))

end Crosswalk
