import Crosswalk.Text.Capital
import Mathlib.Data.List.Basic

/-!
# Lowercase letters

A character is a lowercase letter when Unicode counts it as one. Most lowercase letters have a
capital, and no capital begins with a lowercase letter. But some have none, such as the `ĸ` of
Greenlandic or the letters of mathematical alphabets, and these stay as they are
(`Text.capital_cases`). Writing a capital for the first letter of a name therefore does not
always rid the name of a lowercase letter in front.
-/

namespace Crosswalk.Text

/-- A run of lowercase letters: every character of the run is one, or every second. -/
structure LowercaseRun where
  /-- The first code point of the run. -/
  first : Nat
  /-- The last code point of the run. -/
  last : Nat
  /-- How far apart the code points of the run lie. -/
  step : Nat

/-- Whether a code point lies in a run. -/
def LowercaseRun.has (r : LowercaseRun) (n : Nat) : Bool :=
  r.first.ble n && n.ble r.last && ((n - r.first) % r.step).beq 0

end Crosswalk.Text
