/-!
# Numbers of limited width

Positions, places and lengths are stored in 32 or 64 bits, and so are integer
constants. What a document says is taken only if it fits.
-/

namespace Crosswalk.Width

/-- How many numbers 32 bits can tell apart. -/
def count32 : Nat := 4294967296

/-- How many numbers 64 bits can tell apart. -/
def count64 : Nat := 18446744073709551616

/-- **Whether an integer fits into 64 bits with a sign.** -/
def isInt64 (i : Int) : Bool :=
  decide (-9223372036854775808 ≤ i) && decide (i < 9223372036854775808)

end Crosswalk.Width
