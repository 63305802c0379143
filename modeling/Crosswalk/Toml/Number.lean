import Crosswalk.Toml.Text
import Crosswalk.Width

/-!
# Numbers

Integers have 64 bits and a sign, in whatever base they are written. A
floating-point number is kept as written; all that is asked of it is that it is
not so large as to round to infinity. Between two digits, and nowhere else, one
underscore may stand.
-/

namespace Crosswalk.Toml

namespace Scan

/-- Digits of some base with single underscores between them, at least one. -/
def digits (base : Nat) : Scan (List Char) := do
  let isDigit (c : Char) : Bool := (digit? base c).isSome
  let first ← one isDigit
  let rest ← many (one isDigit <|> (do char '_'; one isDigit))
  return first :: rest

/-- A sign, if there is one: whether the number is negative. -/
def sign : Scan Bool :=
  (do char '-'; return true) <|> (do char '+'; return false) <|> pure false

/-- A zero alone, or decimal digits that do not begin with one. -/
def plainDigits : Scan (List Char) := do
  if (← peek) = some '0' then
    char '0'
    return ['0']
  else digits 10

end Scan

/-- The integer with this sign and this absolute value, if it has 64 bits. -/
def int64? (negative : Bool) (magnitude : Nat) : Option Int :=
  let i : Int := if negative then -magnitude else magnitude
  if Width.isInt64 i then some i else none

namespace Scan

/-- An integer in another base than ten, after its mark. -/
def basedInteger (mark : Char) (base : Nat) : Scan Int := do
  chars ['0', mark]
  let cs ← digits base
  match (ofDigits? base cs).bind (int64? false) with
  | some i => return i
  | none => refuse

/-- A decimal integer. -/
def decimalInteger : Scan Int := do
  let negative ← sign
  let cs ← plainDigits
  match (ofDigits? 10 cs).bind (int64? negative) with
  | some i => return i
  | none => refuse

/-- **An integer.** -/
def integer : Scan Int := fun cs =>
  match cs with
  | '0' :: 'x' :: _ => basedInteger 'x' 16 cs
  | '0' :: 'o' :: _ => basedInteger 'o' 8 cs
  | '0' :: 'b' :: _ => basedInteger 'b' 2 cs
  | _ => decimalInteger cs

end Scan

/-- **Whether `mantissa * 10 ^ exponent` rounds to infinity** among the binary
floating-point numbers of 64 bits: whether it lies at least half a unit above
the largest of them. Numbers with a number of places far from the limit's are
decided by that alone, so no large power is ever taken. -/
def roundsToInfinity (mantissa : Nat) (exponent : Int) : Bool :=
  let places := (Nat.toDigits 10 mantissa).length + exponent
  if mantissa = 0 || places < 300 then false
  else if 320 < places then true
  else
    let limit := Nat.pow 2 1024 - Nat.pow 2 970
    match exponent with
    | .ofNat e => decide (limit ≤ mantissa * Nat.pow 10 e)
    | .negSucc e => decide (limit * Nat.pow 10 (e + 1) ≤ mantissa)

namespace Scan

/-- The digits after a point. -/
def fraction : Scan (List Char) := do
  char '.'
  digits 10

/-- An exponent with its mark. -/
def exponent : Scan Int := do
  let _ ← one (fun c => c = 'e' || c = 'E')
  let negative ← sign
  let n := (ofDigits? 10 (← digits 10)).getD 0
  return if negative then -n else n

/-- A floating-point number in digits: it has a fraction, an exponent or both. -/
def decimalFloat : Scan Unit := do
  let negative ← sign
  let whole ← plainDigits
  let fraction? ← optional fraction
  let exponent? ← if fraction?.isSome then optional exponent else some <$> exponent
  let decimals := fraction?.getD []
  let mantissa := (ofDigits? 10 (whole ++ decimals)).getD 0
  if !negative && roundsToInfinity mantissa (exponent?.getD 0 - decimals.length) then refuse
  else return ()

/-- Infinity, or what is no number. -/
def specialFloat : Scan Unit := do
  let _ ← sign
  chars ['i', 'n', 'f'] <|> chars ['n', 'a', 'n']

/-- **A floating-point number.** -/
def float : Scan String := lexeme (decimalFloat <|> specialFloat)

end Scan

end Crosswalk.Toml
