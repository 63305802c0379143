import Crosswalk.Program.Error

/-!
# What can be wrong with a mapping

A function that begins no mapping is not in error; it is left alone. Anything
below ends the whole run, because a part of the conversions a package needs is
worse than none.
-/

namespace Crosswalk

/-- **Why a run cannot go on.** The function concerned is given by its name in
messages. -/
inductive MappingError where
  /-- The argument of a marker is not of the form it should have. -/
  | malformedArgument (function marker : String) (argument : Nat) (reason : String)
  /-- A marker is called where, or as, it cannot be. -/
  | unexpectedCall (function marker reason : String)
  /-- The destination is a parameter whose changes its giver would not see. -/
  | invalidDestination (function binding type : String)
  /-- The function has results besides a destination and an error. -/
  | resultShape (function : String) (found : Nat)
  /-- A function to map nested values with cannot be used for that. -/
  | unresolvedDelegate (function target reason : String)
  /-- Neither two records nor two slices are mapped. -/
  | unsupportedShape (function sourceType destType : String)
  /-- The program is not well formed to begin with. -/
  | program (e : ProgramError)
deriving DecidableEq, Repr

namespace MappingError

/-- The text of the error. -/
def message : MappingError → String
  | .malformedArgument function marker argument reason =>
    "Malformed argument " ++ toString argument ++ " to `" ++ marker ++ "` in `" ++ function
      ++ "`: " ++ reason
  | .unexpectedCall function marker reason =>
    "Unexpected configuration call `" ++ marker ++ "` in `" ++ function ++ "`: " ++ reason
  | .invalidDestination function binding type =>
    "Destination `" ++ binding ++ "` of `" ++ function ++ "` has type " ++ type
      ++ " and cannot be passed as a parameter"
  | .resultShape function found =>
    "`" ++ function ++ "` may return only a destination and/or an error, found "
      ++ toString found ++ " results"
  | .unresolvedDelegate function target reason =>
    "`MapWith` in `" ++ function ++ "` refers to " ++ target ++ ", which " ++ reason
  | .unsupportedShape function sourceType destType =>
    "Cannot generate a mapping from " ++ sourceType ++ " to " ++ destType ++ " for `"
      ++ function ++ "`"
  | .program e => e.message

/-- The code under which the error is documented. -/
def code : MappingError → String
  | .malformedArgument .. => "typemapper::mapper::malformed_argument"
  | .unexpectedCall .. => "typemapper::mapper::unexpected_call"
  | .invalidDestination .. => "typemapper::mapper::invalid_destination"
  | .resultShape .. => "typemapper::mapper::result_shape"
  | .unresolvedDelegate .. => "typemapper::mapper::unresolved_delegate"
  | .unsupportedShape .. => "typemapper::mapper::unsupported_shape"
  | .program e => e.code

/-- Advice, where there is any. -/
def help : MappingError → Option String
  | .malformedArgument .. =>
    some ("marker arguments must be string literals, field selectors, function references, "
      ++ "or the source and destination variables")
  | .invalidDestination .. =>
    some "take the destination by pointer, or construct it inside the function and return it"
  | .unsupportedShape .. =>
    some "mappings are generated between two record types or between two slice types"
  | .program e => e.help
  | _ => none

end MappingError

end Crosswalk
