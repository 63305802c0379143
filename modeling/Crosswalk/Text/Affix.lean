/-!
# The start, the end and the last segment of a text

Recognised prefixes, file extensions and import paths all ask what is left of a
text once a given part is taken off one of its ends. The questions are answered
on lists of characters, where each has a one-line law.
-/

namespace Crosswalk.Text

/-- What follows `front` in `cs`, if `cs` starts with it. -/
def afterFront? : List Char → List Char → Option (List Char)
  | [], cs => some cs
  | _ :: _, [] => none
  | p :: ps, c :: cs => if p = c then afterFront? ps cs else none

theorem afterFront?_eq_some_iff {front cs rest : List Char} :
    afterFront? front cs = some rest ↔ cs = front ++ rest := by
  induction front generalizing cs with
  | nil => simp [afterFront?]
  | cons p ps ih =>
    cases cs with
    | nil => simp [afterFront?]
    | cons c cs =>
      simp only [afterFront?, List.cons_append, List.cons.injEq]
      split <;> rename_i h
      · rw [ih]; exact ⟨fun h' => ⟨h.symm, h'⟩, fun h' => h'.2⟩
      · exact ⟨fun h' => (nomatch h'), fun h' => absurd h'.1.symm h⟩

/-- What is left of `s` once `front` is taken off its start. -/
def stripStart? (front s : String) : Option String :=
  (afterFront? front.toList s.toList).map String.ofList

/-- What is left of `s` once `back` is taken off its end. -/
def stripEnd? (back s : String) : Option String :=
  (afterFront? back.toList.reverse s.toList.reverse).map (fun cs => String.ofList cs.reverse)

/-- Whether `s` ends in `back`. -/
def endsIn (back s : String) : Bool := (stripEnd? back s).isSome

/-- The part of a path after its last slash, or all of it if there is none. -/
def lastSegment (path : String) : String :=
  String.ofList (path.toList.reverse.takeWhile (fun c => c ≠ '/')).reverse

/-- Texts in the order of their code points, which is also the order of their
UTF-8 bytes. -/
def precedes (a b : String) : Bool := decide (a ≤ b)

end Crosswalk.Text
