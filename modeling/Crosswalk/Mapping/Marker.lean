/-!
# Markers

Five functions of the marker package have a meaning. What they do when called
does not matter: they are never run, only read.
-/

namespace Crosswalk

/-- **The functions by which a mapping is described.** -/
inductive Marker where
  /-- Begins a mapping of its first argument into its second. -/
  | createMap
  /-- Lists prefixes that field names may carry. -/
  | recognizePrefixes
  /-- Feeds its second argument, a field, from its first. -/
  | mapField
  /-- Lists destination fields to leave alone. -/
  | ignoreFields
  /-- Lists mapping functions for nested values. -/
  | mapWith
deriving DecidableEq, Repr

namespace Marker

/-- The declared name. -/
def name : Marker → String
  | .createMap => "CreateMap"
  | .recognizePrefixes => "RecognizePrefixes"
  | .mapField => "MapField"
  | .ignoreFields => "IgnoreFields"
  | .mapWith => "MapWith"

/-- All markers. -/
def all : List Marker := [.createMap, .recognizePrefixes, .mapField, .ignoreFields, .mapWith]

/-- The marker with a given name. -/
def ofName? (name : String) : Option Marker := all.find? (fun m => m.name = name)

/-- **How many arguments a call has.** A variadic marker has one, the packed
list. -/
def arity : Marker → Nat
  | .createMap | .mapField => 2
  | .recognizePrefixes | .ignoreFields | .mapWith => 1

@[simp] theorem ofName?_name (m : Marker) : ofName? m.name = some m := by
  cases m <;> decide

end Marker

end Crosswalk
