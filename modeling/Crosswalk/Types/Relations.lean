import Crosswalk.Types.Layers

/-!
# Identity and assignability

Two entries are *identical* when they denote one type: named types by name and
package, literals part by part. A value is *assignable* to a type when the
language lets it stand there without a conversion.

Both are asked of entries, not of types, so neither may rely on equal types
having equal positions. The only use made of positions is that a type is
identical to itself, which is answered without looking it up.

## How deep identity looks

Identity descends through literals and stops at names. In a table without a
loop of literals no path of descents is longer than the table, so the descent
is given one step per entry and one more for a position past the end. A loop of
literals uses the steps up, and is an endless walk.
-/

namespace Crosswalk

/-- Whether two lists agree place by place, from left to right and no further
than the first disagreement or the end of the shorter list. -/
def agreeEach {α β : Type} (agree : α → β → Lookup Bool) : List α → List β → Lookup Bool
  | a :: as, b :: bs => do if ← agree a b then agreeEach agree as bs else return false
  | _, _ => .ok true

/-- Whether two lists have the same length and agree place by place. Lists of
different lengths are not looked into. -/
def agreeAll {α β : Type} (agree : α → β → Lookup Bool) (as : List α) (bs : List β) :
    Lookup Bool :=
  if as.length = bs.length then agreeEach agree as bs else .ok false

/-- The names of an interface's methods, in a fixed order. -/
def sortedNames (names : List String) : List String := names.mergeSort (fun a b => decide (a ≤ b))

namespace TypeTable

/-- The descent of `identical`, to at most the given depth. -/
def identicalTo (t : TypeTable) : Nat → TypeId → TypeId → Lookup Bool
  | 0, a, b => if a = b then .ok true else .error .endless
  | n + 1, a, b =>
    if a = b then .ok true
    else do
      let ka ← t.kind a
      let kb ← t.kind b
      match ka, kb with
      | .basic x, .basic y => return x = y
      | .named x p _, .named y q _ => return x = y && p = q
      | .pointer x, .pointer y => t.identicalTo n x y
      | .slice x, .slice y => t.identicalTo n x y
      | .array x l, .array y m => if l = m then t.identicalTo n x y else return false
      | .map k v, .map k' v' =>
        if ← t.identicalTo n k k' then t.identicalTo n v v' else return false
      | .struct fs, .struct gs =>
        agreeAll (fun f g =>
          if f.name = g.name ∧ f.embedded = g.embedded then t.identicalTo n f.type g.type
          else return false) fs gs
      | .interface ms, .interface ms' => return sortedNames ms = sortedNames ms'
      | .signature ps rs v, .signature ps' rs' v' =>
        if v = v' then
          if ← agreeAll (t.identicalTo n) ps ps' then agreeAll (t.identicalTo n) rs rs'
          else return false
        else return false
      | .tuple xs, .tuple ys => agreeAll (t.identicalTo n) xs ys
      | _, _ => return false

/-- **Whether two entries denote one type.** -/
def identical (t : TypeTable) (a b : TypeId) : Lookup Bool := t.identicalTo (t.size + 1) a b

/-- Whether every wanted method is among those at hand. -/
def coversMethods (wanted atHand : List String) : Bool :=
  wanted.all (fun m => decide (m ∈ atHand))

/-- **Whether a value of type `src` may be stored in a place of type `dst`**
without a conversion.

Methods are known of interfaces only, so a value that is not an interface
satisfies the empty interface and no other. -/
def assignable (t : TypeTable) (src dst : TypeId) : Lookup Bool := do
  if ← t.identical src dst then return true
  let srcUnder ← t.underlying src
  let dstUnder ← t.underlying dst
  if ← t.identical srcUnder dstUnder then
    if !(← t.isDefined src) then return true
    if !(← t.isDefined dst) then return true
  match ← t.kind dstUnder with
  | .interface wanted =>
    if wanted.isEmpty then return true
    match ← t.kind srcUnder with
    | .interface methods => return coversMethods wanted methods
    | _ => return false
  | dstKind =>
    match ← t.kind src with
    | .basic .untypedNil =>
      match dstKind with
      | .pointer _ | .slice _ | .map .. | .signature .. => return true
      | _ => return false
    | _ => return false

@[simp] theorem identicalTo_self (t : TypeTable) (n : Nat) (a : TypeId) :
    t.identicalTo n a a = .ok true := by
  cases n <;> simp [identicalTo]

@[simp] theorem identical_self (t : TypeTable) (a : TypeId) : t.identical a a = .ok true :=
  t.identicalTo_self _ a

@[simp] theorem assignable_self (t : TypeTable) (a : TypeId) : t.assignable a a = .ok true := by
  simp [assignable, bind, Except.bind, pure, Except.pure]

end TypeTable

end Crosswalk
