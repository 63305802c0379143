import Crosswalk.Files.Tree
import Crosswalk.Proofs.Files.Path
import Crosswalk.Proofs.Ordered
import Crosswalk.Proofs.Outcome

/-!
# Where paths lead while a tree grows

A command that makes folders and writes files never takes anything away: what was a folder stays
one, and where there was something there still is. That is all that following a path depends on.
So a path goes on leading where it led (`FileTree.GrowsTo.follow`), whatever is written in the
meantime, and a path that named a location for something new leads there once it has been put
there (`FileTree.follow_of_locateNew`).
-/

namespace Crosswalk

namespace FileTree

variable {t u v : FileTree} {here there location current : Location} {p : Path}
  {segment last : String} {segments front rest : List String} {entry : Entry}

theorem hasFolder_iff : t.hasFolder location = true ↔ t.entry? location = some .folder :=
  decide_eq_true_iff

/-- **What there is after something was put somewhere**: it is there, and all else is as it
was. The root cannot be put anew. -/
theorem entry?_put (hne : location ≠ []) (l : Location) :
    entry? (t.put location entry) l = if l = location then some entry else t.entry? l := by
  unfold entry? put
  cases l with
  | nil => rw [if_neg (Ne.symm hne)]; rfl
  | cons name names => exact OrderedMap.get?_insert _ _ _

/-- **A tree that has grown into another**: folders are still folders, and nothing is gone. -/
structure GrowsTo (t u : FileTree) : Prop where
  /-- What was a folder is one. -/
  folder : ∀ l, t.hasFolder l = true → u.hasFolder l = true
  /-- Where there was something, there is something. -/
  entry : ∀ l, (t.entry? l).isSome = true → (u.entry? l).isSome = true

namespace GrowsTo

theorem refl (t : FileTree) : t.GrowsTo t := ⟨fun _ h => h, fun _ h => h⟩

theorem trans (h : t.GrowsTo u) (h' : u.GrowsTo v) : t.GrowsTo v :=
  ⟨fun l hl => h'.folder l (h.folder l hl), fun l hl => h'.entry l (h.entry l hl)⟩

/-- Putting something where there was no folder makes a tree grow. -/
theorem put (hne : location ≠ []) (hfree : t.hasFolder location = false) :
    t.GrowsTo (t.put location entry) where
  folder l hl := by
    have hother : l ≠ location := fun h => by rw [h, hfree] at hl; cases hl
    rw [hasFolder_iff, entry?_put hne, if_neg hother]
    exact hasFolder_iff.mp hl
  entry l hl := by
    rw [entry?_put hne]
    split
    · rfl
    · exact hl

end GrowsTo

/-! ## Going one segment at a time -/

/-- **Where one segment leads** from a location. -/
def step (t : FileTree) (here : Location) (segment : String) : Except LostWay Location :=
  if !t.hasFolder here then .error .blocked
  else if segment = "" || segment = "." then .ok here
  else if segment = ".." then .ok here.dropLast
  else if !Path.isPossibleName segment then .error .impossible
  else if (t.entry? (here ++ [segment])).isSome then .ok (here ++ [segment])
  else .error .missing

/-- Following segments is taking one step after another. -/
theorem follow_cons : t.follow here (segment :: segments)
    = t.step here segment >>= fun there => t.follow there segments := by
  unfold step
  rw [follow]
  split
  · rfl
  split
  · rfl
  split
  · rfl
  split
  · rfl
  split
  · rfl
  · rfl

theorem follow_append (here : Location) (segments rest : List String) :
    t.follow here (segments ++ rest)
      = t.follow here segments >>= fun there => t.follow there rest := by
  induction segments generalizing here with
  | nil => rfl
  | cons segment segments ih =>
    rw [List.cons_append, follow_cons, follow_cons, bind_assoc]
    simp only [ih]

/-- A name that two dots, a dot and nothing are not. -/
def IsName (segment : String) : Prop :=
  segment ≠ "" ∧ segment ≠ "." ∧ segment ≠ ".." ∧ Path.isPossibleName segment = true

/-- **A step** starts in a folder, and stays there, goes out of it, or goes to what there is of
that name. -/
theorem step_eq_ok_iff : t.step here segment = .ok there ↔ t.hasFolder here = true ∧
    (((segment = "" ∨ segment = ".") ∧ there = here) ∨ (segment = ".." ∧ there = here.dropLast) ∨
      (IsName segment ∧ (t.entry? (here ++ [segment])).isSome = true ∧
        there = here ++ [segment])) := by
  have hok : ∀ l : Location, (Except.ok l : Except LostWay Location) = .ok there ↔ there = l :=
    fun l => ⟨fun h => (Except.ok.inj h).symm, fun h => h ▸ rfl⟩
  unfold step IsName
  by_cases hfolder : t.hasFolder here = true
  · by_cases hstays : segment = "" ∨ segment = "."
    · rcases hstays with rfl | rfl <;> simp [hfolder, hok, -Except.ok.injEq]
    by_cases hout : segment = ".."
    · simp [hfolder, hout, hok, -Except.ok.injEq]
    obtain ⟨hempty, hdot⟩ := not_or.mp hstays
    by_cases hname : Path.isPossibleName segment = true
    · by_cases hthere : (t.entry? (here ++ [segment])).isSome = true
      · simp [hfolder, hempty, hdot, hout, hname, hthere, hok, -Except.ok.injEq]
      · simp [hfolder, hempty, hdot, hout, hname, hthere]
    · simp [hfolder, hempty, hdot, hout, hname]
  · simp [hfolder]

/-- A step to a name. -/
theorem step_of_isName (hfolder : t.hasFolder here = true) (hname : IsName segment) :
    t.step here segment = if (t.entry? (here ++ [segment])).isSome then .ok (here ++ [segment])
      else .error .missing := by
  obtain ⟨hempty, hdot, hdots, hpossible⟩ := hname
  simp [step, hfolder, hempty, hdot, hdots, hpossible]

/-- A step goes on leading where it led. -/
theorem GrowsTo.step (h : t.GrowsTo u) (hs : t.step here segment = .ok there) :
    u.step here segment = .ok there := by
  obtain ⟨hfolder, hs⟩ := step_eq_ok_iff.mp hs
  refine step_eq_ok_iff.mpr ⟨h.folder here hfolder, hs.imp_right (Or.imp_right ?_)⟩
  exact fun ⟨hname, hthere, hs⟩ => ⟨hname, h.entry _ hthere, hs⟩

/-- **A path goes on leading where it led.** -/
theorem GrowsTo.follow (h : t.GrowsTo u) (hf : t.follow here segments = .ok there) :
    u.follow here segments = .ok there := by
  induction segments generalizing here with
  | nil => exact hf
  | cons segment segments ih =>
    rw [follow_cons] at hf ⊢
    obtain ⟨next, hnext, hf⟩ := bind_eq_ok_iff.mp hf
    rw [h.step hnext, ok_bind]
    exact ih hf

/-- Segments that say nothing lead out of no folder. -/
theorem follow_of_empty (hfolder : t.hasFolder here = true) (hempty : ∀ s ∈ rest, s = "") :
    t.follow here rest = .ok here := by
  induction rest with
  | nil => rfl
  | cons segment rest ih =>
    obtain ⟨rfl, hrest⟩ := List.forall_mem_cons.mp hempty
    have hstays : t.step here "" = .ok here :=
      step_eq_ok_iff.mpr ⟨hfolder, .inl ⟨.inl rfl, rfl⟩⟩
    rw [follow_cons, hstays, ok_bind, ih hrest]

/-- Segments that say nothing lead nowhere else. -/
theorem eq_of_follow (h : t.follow here rest = .ok there) (hrest : ∀ s ∈ rest, s = "" ∨ s = ".") :
    there = here := by
  induction rest with
  | nil => exact (Except.ok.inj h).symm
  | cons s rest ih =>
    obtain ⟨hs, hrest⟩ := List.forall_mem_cons.mp hrest
    rw [follow_cons] at h
    obtain ⟨next, hnext, hthere⟩ := bind_eq_ok_iff.mp h
    rcases (step_eq_ok_iff.mp hnext).2 with ⟨-, rfl⟩ | ⟨rfl, -⟩ | ⟨⟨hempty, hdot, -⟩, -⟩
    · exact ih hthere hrest
    · exact absurd hs (by decide)
    · exact absurd hs (not_or.mpr ⟨hempty, hdot⟩)

/-- What says nothing at the end can be left off. -/
theorem follow_trimmed (h : t.follow here segments = .ok there) :
    t.follow here (Path.trimmed segments) = .ok there := by
  obtain ⟨rest, hsplit, hrest⟩ := Path.exists_trimmed segments
  rw [hsplit, follow_append] at h
  obtain ⟨inside, hinside, h⟩ := bind_eq_ok_iff.mp h
  obtain rfl := eq_of_follow h hrest
  exact hinside

/-- **The last segment that says something** is the name of what is reached, unless it leads out
again. -/
theorem follow_concat (h : t.follow here (front ++ [last]) = .ok there)
    (htelling : Path.isTelling last = true) (hdots : last ≠ "..") :
    ∃ inside, t.follow here front = .ok inside ∧ t.hasFolder inside = true ∧
      there = inside ++ [last] := by
  rw [follow_append] at h
  obtain ⟨inside, hinside, h⟩ := bind_eq_ok_iff.mp h
  rw [follow_cons] at h
  obtain ⟨next, hnext, h⟩ := bind_eq_ok_iff.mp h
  obtain rfl := Except.ok.inj h
  obtain ⟨hfolder, hstep⟩ := step_eq_ok_iff.mp hnext
  refine ⟨inside, hinside, hfolder, ?_⟩
  rcases hstep with ⟨rfl | rfl, -⟩ | ⟨hout, -⟩ | ⟨-, -, hthere⟩
  · exact absurd htelling (by decide)
  · exact absurd htelling (by decide)
  · exact absurd hout hdots
  · exact hthere

/-- In a folder an empty segment at the end makes no difference. -/
theorem follow_concat_empty_iff (hfolder : t.hasFolder there = true) :
    t.follow here (segments ++ [""]) = .ok there ↔ t.follow here segments = .ok there := by
  rw [follow_append]
  constructor
  · intro h
    obtain ⟨inside, hinside, h⟩ := bind_eq_ok_iff.mp h
    obtain rfl := eq_of_follow h (by decide)
    exact hinside
  · intro h
    rw [h]
    exact follow_of_empty hfolder (by decide)

/-! ## Locations for something new -/

/-- **A location for something new** is a name in a folder to which the other segments lead. -/
theorem locateNew_eq_ok (h : t.locateNew current p segments = .ok (some location)) :
    ∃ folder names name, segments = names ++ [name] ∧ location = folder ++ [name] ∧
      p.isPossible = true ∧ t.follow (origin current p) names = .ok folder ∧
      t.hasFolder folder = true ∧ name ≠ "." ∧ name ≠ ".." ∧ Path.isPossibleName name = true := by
  unfold locateNew at h
  cases hpossible : p.isPossible with
  | false =>
    rw [hpossible] at h
    cases h
  | true =>
    rw [hpossible] at h
    cases hlast : segments.getLast? with
    | none =>
      rw [hlast] at h
      cases h
    | some name =>
      rw [hlast] at h
      obtain ⟨folder, hfolder, h⟩ := bind_eq_ok_iff.mp h
      split at h
      · cases h
      · rename_i hhas
        split at h
        · cases h
        · rename_i hdots
          split at h
          · cases h
          · rename_i hname
            have hdots := not_or.mp (by simpa using hdots)
            refine ⟨folder, segments.dropLast, name, ?_, (Option.some.inj (Except.ok.inj h)).symm,
              rfl, hfolder, by simpa using hhas, hdots.1, hdots.2, by simpa using hname⟩
            obtain ⟨names, rfl⟩ := List.getLast?_eq_some_iff.mp hlast
            rw [List.dropLast_concat]

/-- **Once there is something at a location for something new**, the path leads there. -/
theorem follow_of_locateNew (h : t.locateNew current p segments = .ok (some location))
    (hname : location.getLast? ≠ some "") (hgrows : t.GrowsTo u)
    (hthere : (u.entry? location).isSome = true) :
    u.follow (origin current p) segments = .ok location := by
  obtain ⟨folder, names, name, rfl, rfl, -, hfolder, hhas, hdot, hdots, hpossible⟩ :=
    locateNew_eq_ok h
  have hname : IsName name :=
    ⟨fun h => hname (by rw [h, List.getLast?_concat]), hdot, hdots, hpossible⟩
  rw [follow_append, hgrows.follow hfolder, ok_bind, follow_cons,
    step_eq_ok_iff.mpr ⟨hgrows.folder _ hhas, .inr (.inr ⟨hname, hthere, rfl⟩)⟩, ok_bind]
  rfl

/-- A path goes on naming the location for something new that it named. -/
theorem GrowsTo.locateNew (h : t.GrowsTo u)
    (hnew : t.locateNew current p segments = .ok (some location)) :
    u.locateNew current p segments = .ok (some location) := by
  obtain ⟨folder, names, name, rfl, rfl, hpossible, hfolder, hhas, hdot, hdots, hname⟩ :=
    locateNew_eq_ok hnew
  unfold FileTree.locateNew
  rw [hpossible, List.getLast?_concat, List.dropLast_concat, h.follow hfolder]
  simp [h.folder folder hhas, hdot, hdots, hname]

/-- A location for something new is not the root. -/
theorem ne_nil_of_locateNew (h : t.locateNew current p segments = .ok (some location)) :
    location ≠ [] := by
  obtain ⟨folder, names, name, -, rfl, -⟩ := locateNew_eq_ok h
  simp

/-- The whole of a path leads where its segments lead, if it is one that can be asked for. -/
theorem locate_eq (hpossible : p.isPossible = true) (hne : p.isEmpty = false) :
    t.locate current p = t.follow (origin current p) p.segments := by
  unfold locate
  rw [hne, hpossible]
  rfl

end FileTree

end Crosswalk
