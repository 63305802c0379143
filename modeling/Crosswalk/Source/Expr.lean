import Crosswalk.Conversion
import Crosswalk.Source.Naming

/-!
# Expressions

A conversion is written around the expression for a source value. Most steps
only wrap what is there. The address of a value that is stored nowhere cannot
be taken; such a value is first put into a temporary variable.

## Parentheses

A dereference and the call of a method bind tighter than a unary operator in
front of their operand, so a unary operand is put in parentheses there. A type
is put in parentheses where its spelling would run into the operand of the
conversion.
-/

namespace Crosswalk

/-- **An expression of generated source.** -/
inductive Expr where
  /-- The source value, spelled as given. -/
  | source (text : String) (addressable unary : Bool)
  /-- A temporary variable. -/
  | temp (index : Nat)
  /-- The address of something stored. -/
  | addressOf (e : Expr)
  /-- What a pointer points to. -/
  | deref (e : Expr)
  /-- A conversion to a type that is spelled as given. -/
  | convert (type : String) (e : Expr)
  /-- A method called on a value. -/
  | method (e : Expr) (name : String)
  /-- A function called with a value. -/
  | call (name : String) (e : Expr)
deriving DecidableEq, Repr

namespace Expr

/-- A variable or a field: it is stored somewhere. -/
def place (text : String) : Expr := .source text true false

/-- A value without a place that could outlive the statement. -/
def value (text : String) : Expr := .source text false false

/-- Whether the address of the expression may be taken. -/
def isAddressable : Expr → Bool
  | .source _ addressable _ => addressable
  | .temp _ | .deref _ => true
  | _ => false

/-- Whether the expression begins with a unary operator. -/
def isUnary : Expr → Bool
  | .source _ _ unary => unary
  | .addressOf _ | .deref _ => true
  | _ => false

/-- A text in parentheses, if they are needed. -/
def parenthesize (needed : Bool) (text : String) : String :=
  if needed then "(" ++ text ++ ")" else text

/-- The name of a temporary variable. -/
def tempName (index : Nat) : String := "tmp" ++ toString index

/-- **The expression as text.** -/
def text : Expr → String
  | .source text _ _ => text
  | .temp index => tempName index
  | .addressOf e => "&" ++ e.text
  | .deref e => "*" ++ parenthesize e.isUnary e.text
  | .convert type e => type ++ "(" ++ e.text ++ ")"
  | .method e name => parenthesize e.isUnary e.text ++ "." ++ name ++ "()"
  | .call name e => name ++ "(" ++ e.text ++ ")"

end Expr

/-- A temporary variable and its value. -/
structure Temp where
  /-- The number of the variable. -/
  index : Nat
  /-- What it is defined as. -/
  value : Expr
deriving DecidableEq, Repr

/-- The definition of a temporary variable as text. -/
def Temp.text (t : Temp) : String := Expr.tempName t.index ++ " := " ++ t.value.text

/-- **An expression with the temporary variables it needs**, in the order in
which they are defined. -/
structure Lowered where
  /-- The temporary variables. -/
  temps : List Temp
  /-- The expression. -/
  expr : Expr
deriving DecidableEq, Repr

namespace TypeTable

/-- Whether the spelling of the type needs parentheses in a conversion. -/
def needsParens (t : TypeTable) (type : TypeId) : Bool :=
  match t.kind? type with
  | some (.pointer _) | some (.signature ..) => true
  | _ => false

/-- **One step of a coercion.** -/
def lowerStep (t : TypeTable) (home : String) (l : Lowered) : CoercionStep → Writing Lowered
  | .addressOf => do
    if l.expr.isAddressable then return { l with expr := .addressOf l.expr }
    let index ← Writing.freshTemp
    return ⟨l.temps ++ [⟨index, l.expr⟩], .addressOf (.temp index)⟩
  | .deref => return { l with expr := .deref l.expr }
  | .convert type => do
    let spelled ← t.spell home type
    return { l with expr := .convert (Expr.parenthesize (t.needsParens type) spelled) l.expr }

/-- The steps of a coercion, innermost first. -/
def lowerSteps (t : TypeTable) (home : String) : List CoercionStep → Lowered → Writing Lowered
  | [], l => return l
  | step :: rest, l => do t.lowerSteps home rest (← t.lowerStep home l step)

/-- **A conversion written around a source expression.** -/
def lower (t : TypeTable) (home : String) (conversion : Conversion) (source : Expr) :
    Writing Lowered :=
  match conversion with
  | .assign => return ⟨[], source⟩
  | .coerce steps _ => t.lowerSteps home steps ⟨[], source⟩
  | .delegate _ name .receiver => return ⟨[], .method source name⟩
  | .delegate _ name .call => return ⟨[], .call name source⟩

end TypeTable

end Crosswalk
