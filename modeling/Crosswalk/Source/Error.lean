/-!
# What cannot be written

A plan may be sound and still have no form in the target language: a type
without a spelling, two packages that would go by one name, a destination that
is no slice.
-/

namespace Crosswalk

/-- **Why a plan cannot be written.** -/
inductive EmitError where
  /-- The type has no spelling. -/
  | unsupportedType (type : String)
  /-- Two packages would be imported under one name. -/
  | importConflict (name first second : String)
  /-- The statements that a mapping of its form consists of do not apply. -/
  | unsupportedMapping (function reason : String)
deriving DecidableEq, Repr

namespace EmitError

/-- The text of the error. -/
def message : EmitError → String
  | .unsupportedType type => "Type " ++ type ++ " cannot be written in generated code"
  | .importConflict name first second =>
    "Packages `" ++ first ++ "` and `" ++ second ++ "` would both be imported as `" ++ name ++ "`"
  | .unsupportedMapping function reason => "Cannot generate `" ++ function ++ "`: " ++ reason

/-- The code under which the error is documented. -/
def code : EmitError → String
  | .unsupportedType _ => "typemapper::codegen::unsupported_type"
  | .importConflict .. => "typemapper::codegen::import_conflict"
  | .unsupportedMapping .. => "typemapper::codegen::unsupported_mapping"

/-- Advice, where there is any. -/
def help : EmitError → Option String
  | .importConflict .. =>
    some ("rename one of the packages, or move the mappings that use them "
      ++ "into separate files")
  | _ => none

end EmitError

end Crosswalk
