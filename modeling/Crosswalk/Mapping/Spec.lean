import Crosswalk.Ordered
import Crosswalk.Program.Basic

/-!
# Specifications

A mapping function says, by the calls in its body, what is to be mapped to what
and how. Its *specification* is everything those calls said. It is put together
once and only read afterwards.
-/

namespace Crosswalk

/-- **What one mapping function asks for.** -/
structure MappingSpec where
  /-- The mapping function. -/
  function : FunctionId
  /-- Its declared name. -/
  name : String
  /-- Its name in reports and messages. -/
  qualifiedName : String
  /-- The file it is declared in, if that is known. -/
  file : Option String
  /-- The type of the source. -/
  sourceType : TypeId
  /-- The type of the destination. -/
  destType : TypeId
  /-- The name of the source in the generated body. -/
  sourceBinding : String
  /-- The name of the destination in the generated body. -/
  destBinding : String
  /-- Whether the source is the receiver. -/
  sourceIsReceiver : Bool
  /-- Whether the function makes its destination itself. -/
  destIsPreconstructed : Bool
  /-- Whether the function returns its destination. -/
  destIsReturned : Bool
  /-- Whether the last result of the function is an error. -/
  errorIsReturned : Bool
  /-- The prefixes that field names may carry. -/
  recognizedPrefixes : OrderedSet String
  /-- The destination fields that stay as they are. -/
  ignoredDestFields : OrderedSet String
  /-- For destination fields, the source field that feeds them. -/
  manualFieldOverrides : OrderedMap String String
  /-- The mapping functions that nested values may be mapped with. -/
  delegateMappings : OrderedSet FunctionId
deriving DecidableEq, Repr, Inhabited

/-- **Whether a call of the function can stand for a value**: it makes and
returns its destination, and cannot fail. -/
def MappingSpec.isExpressionLike (s : MappingSpec) : Bool :=
  s.destIsPreconstructed && s.destIsReturned && !s.errorIsReturned

end Crosswalk
