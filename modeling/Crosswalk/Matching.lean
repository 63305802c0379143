import Crosswalk.Mapping.Spec
import Crosswalk.Record
import Crosswalk.Types.Relations

/-!
# Matching fields

Every field of a destination record is fed by at most one field of the source
record. An override names that field outright. Otherwise it is the first source
field whose name and type both fit.

## Forms of a name

A name fits another when the two have a *form* in common: the name itself, or
what is left of it after a recognised prefix. A prefix may therefore stand on
either side, or on both.

## Types that fit

Only the destination may add a pointer: a value fits a pointer to it, while a
pointer fits no value. Names are taken off one at a time, on both sides at
once.
-/

namespace Crosswalk

/-- What is left of a name after a prefix. Neither the prefix nor the rest may
be empty. -/
def strippedForm (front name : String) : Option String :=
  if front = "" then none else (Text.stripStart? front name).filter (fun rest => rest ≠ "")

/-- **The forms of a name**: the name itself, and what each prefix leaves. -/
def nameForms (fronts : List String) (name : String) : OrderedSet String :=
  .ofList (name :: fronts.filterMap (fun front => strippedForm front name))

/-- Whether two names have a form in common. -/
def shareForm (fronts : List String) (a b : String) : Bool :=
  (nameForms fronts a).items.any (fun form => decide (form ∈ nameForms fronts b))

namespace TypeTable

/-- The walk of `compatible`. Each pair of entries is met at most once, so the
given number of steps is never used up when there is one per pair. -/
def compatibleFrom (t : TypeTable) : Nat → List (TypeId × TypeId) → TypeId → TypeId → Lookup Bool
  | 0, _, _, _ => .error .endless
  | n + 1, seen, src, dst => do
    if (src, dst) ∈ seen then return false
    let seen := (src, dst) :: seen
    if ← t.assignable src dst then return true
    if let some pointee ← t.pointee dst then
      t.compatibleFrom n seen src pointee
    else
      let srcInner ← t.unname src
      let dstInner ← t.unname dst
      if srcInner = src ∧ dstInner = dst then return false
      else t.compatibleFrom n seen srcInner dstInner

/-- **Whether a value of type `src` may feed a field of type `dst`.** -/
def compatible (t : TypeTable) (src dst : TypeId) : Lookup Bool :=
  t.compatibleFrom (t.size * t.size + 2) [] src dst

end TypeTable

/-- **What decides which field feeds which.** -/
structure Matcher where
  /-- Prefixes that names may carry. -/
  prefixes : OrderedSet String
  /-- Destination fields to leave alone. -/
  ignored : OrderedSet String
  /-- For destination fields, the source field that feeds them. -/
  overrides : OrderedMap String String
deriving DecidableEq, Repr

/-- A destination field and the source field that feeds it. -/
structure FieldPair where
  /-- Where the value comes from. -/
  source : RecordField
  /-- Where it goes. -/
  dest : RecordField
deriving DecidableEq, Repr

/-- **Which fields feed which**, in the order of the destination. -/
structure FieldMatch where
  /-- The fields that are fed. -/
  pairs : List FieldPair
  /-- The fields that nothing feeds. -/
  unmatched : List RecordField
deriving DecidableEq, Repr

/-- Whether every field is fed. -/
def FieldMatch.isComplete (m : FieldMatch) : Bool := m.unmatched.isEmpty

namespace Matcher

/-- The matcher that goes by names and types alone. -/
def empty : Matcher := ⟨.empty, .empty, .empty⟩

/-- The matcher a mapping function asks for. -/
def ofSpec (s : MappingSpec) : Matcher :=
  ⟨s.recognizedPrefixes, s.ignoredDestFields, s.manualFieldOverrides⟩

/-- The matcher with more prefixes. -/
def recognizePrefixes (m : Matcher) (fronts : List String) : Matcher :=
  { m with prefixes := m.prefixes.insertAll fronts }

/-- The matcher with more fields to leave alone. -/
def ignoreFields (m : Matcher) (names : List String) : Matcher :=
  { m with ignored := m.ignored.insertAll names }

/-- The matcher with one more override, or another in place of an old one. -/
def mapField (m : Matcher) (source dest : String) : Matcher :=
  { m with overrides := m.overrides.insert dest source }

/-- Whether nothing is to be written to a destination field. -/
def skips (m : Matcher) (dest : RecordField) : Bool :=
  dest.isBlank || decide (dest.name ∈ m.ignored)

/-- Whether a source field fits a destination field by name and by type. -/
def fits (m : Matcher) (t : TypeTable) (source dest : RecordField) : Lookup Bool :=
  if !source.isBlank && shareForm m.prefixes.items source.name dest.name then
    t.compatible source.type dest.type
  else return false

/-- **The source field that feeds a destination field.** An override is taken at
its word: it may name a field of any type, or none at all. -/
def findSource (m : Matcher) (t : TypeTable) (src : RecordType) (dest : RecordField) :
    Lookup (Option RecordField) :=
  match m.overrides.get? dest.name with
  | some name => return src.field name
  | none => src.fields.findM? (fun source => m.fits t source dest)

/-- Matches destination fields one after another. -/
def matchFields (m : Matcher) (t : TypeTable) (src : RecordType) :
    List RecordField → Lookup FieldMatch
  | [] => return ⟨[], []⟩
  | dest :: rest => do
    if m.skips dest then m.matchFields t src rest
    else
      let found ← m.findSource t src dest
      let others ← m.matchFields t src rest
      match found with
      | some source => return { others with pairs := ⟨source, dest⟩ :: others.pairs }
      | none => return { others with unmatched := dest :: others.unmatched }

/-- **Which fields of `src` feed which of `dst`.** -/
def matchRecords (m : Matcher) (t : TypeTable) (src dst : RecordType) : Lookup FieldMatch :=
  m.matchFields t src dst.fields

end Matcher

end Crosswalk
