/-!
# Paths

A path is kept as it was written, because messages quote it. It is a sequence of
segments between slashes, and some of those say nothing: an empty one, or a dot
that is not the very first. Going up from a path takes off the last segment that
says something.

## What going up does not do

It looks at the text of the path and not at any file system. A relative path
that has run out of segments has no further path above it, whatever folder it is
relative to.

## How long paths and names may be

A system that is asked for a path must be able to hold it: 4095 bytes of text at
most, none of them zero. A name between two slashes has 255 bytes at most. Bytes
are counted in UTF-8. Longer paths can be written down and joined all the same;
there is just nothing to be found where they lead.
-/

namespace Crosswalk

/-- What a path begins with. -/
inductive Path.Lead where
  /-- Nothing: the path begins with its first segment. -/
  | nothing
  /-- A dot, alone or in front of a slash. -/
  | dot
  /-- A slash: the path does not depend on the current folder. -/
  | root
deriving DecidableEq, Repr

/-- **A path**, as it was written. -/
structure Path where
  /-- What it begins with. -/
  lead : Path.Lead
  /-- What stands between its slashes, after the lead. -/
  segments : List String
deriving DecidableEq, Repr

namespace Path

/-- What the lead is as text. -/
def Lead.text : Lead → String
  | .nothing => ""
  | .dot => "."
  | .root => "/"

/-- The path as text. -/
def text (p : Path) : String := p.lead.text ++ String.intercalate "/" p.segments

/-- What stands between the slashes of a text. -/
def between : List Char → List (List Char)
  | [] => [[]]
  | '/' :: cs => [] :: between cs
  | c :: cs =>
    match between cs with
    | [] => [[c]]
    | segment :: rest => (c :: segment) :: rest

/-- The segments of a text, of which the empty text has none. -/
def segmentsOf (cs : List Char) : List String :=
  if cs.isEmpty then [] else (between cs).map String.ofList

/-- **The path that a text is.** -/
def ofString (s : String) : Path :=
  match s.toList with
  | '/' :: cs => ⟨.root, segmentsOf cs⟩
  | ['.'] => ⟨.dot, []⟩
  | '.' :: '/' :: cs => ⟨.dot, segmentsOf ('/' :: cs)⟩
  | cs => ⟨.nothing, segmentsOf cs⟩

/-- Whether there is no text at all. -/
def isEmpty (p : Path) : Bool := p.lead = .nothing && p.segments.isEmpty

/-- **What is reached from the folder `p` by the path `name`.** A path that begins
at the root is reached from everywhere alike. -/
def join (p : Path) (name : String) : Path :=
  match ofString name with
  | ⟨.root, segments⟩ => ⟨.root, segments⟩
  | _ =>
    let names := segmentsOf name.toList
    match p.lead, p.segments with
    | .dot, [] => ⟨.dot, "" :: names⟩
    | lead, segments =>
      if segments.getLast? = some "" then ⟨lead, segments.dropLast ++ names⟩
      else ⟨lead, segments ++ names⟩

/-! ## Limits -/

/-- **Whether a system can be asked for the path at all.** -/
def isPossible (p : Path) : Bool :=
  p.text.utf8ByteSize ≤ 4095 && p.text.toList.all (fun c => c ≠ '\x00')

/-- Whether a file or folder can have this name, as far as its length goes. -/
def isPossibleName (name : String) : Bool := name.utf8ByteSize ≤ 255

/-! ## Going up -/

/-- Whether a segment says something. -/
def isTelling (segment : String) : Bool := segment ≠ "" && segment ≠ "."

/-- The segments without those at the end that say nothing. -/
def trimmed (segments : List String) : List String :=
  (segments.reverse.dropWhile (fun s => !isTelling s)).reverse

theorem length_trimmed_le (segments : List String) :
    (trimmed segments).length ≤ segments.length := by
  unfold trimmed
  rw [List.length_reverse]
  exact Nat.le_trans (List.dropWhile_sublist _).length_le (Nat.le_of_eq List.length_reverse)

/-- **The path above**, if there is one. -/
def parent? (p : Path) : Option Path :=
  match trimmed p.segments with
  | [] => if p.lead = .dot then some ⟨.nothing, []⟩ else none
  | segment :: segments => some ⟨p.lead, trimmed (segment :: segments).dropLast⟩

/-- How often one can go up at most. -/
def height (p : Path) : Nat := p.segments.length + (if p.lead = .dot then 1 else 0)

theorem height_parent?_lt {p q : Path} (h : p.parent? = some q) : q.height < p.height := by
  unfold parent? at h
  split at h
  · split at h <;> rename_i hlead
    · obtain rfl := Option.some.inj h
      simp [height, hlead]
    · exact nomatch h
  · rename_i segment segments htrim
    obtain rfl := Option.some.inj h
    have hlen := length_trimmed_le p.segments
    have htop := length_trimmed_le (segment :: segments).dropLast
    rw [htrim, List.length_cons] at hlen
    rw [List.length_dropLast, List.length_cons] at htop
    simp only [height]
    omega

/-- **The path and every path above it**, the nearest first. -/
def upwards (p : Path) : List Path :=
  match _up : p.parent? with
  | some q => p :: q.upwards
  | none => [p]
termination_by p.height
decreasing_by exact height_parent?_lt _up

end Path

end Crosswalk
