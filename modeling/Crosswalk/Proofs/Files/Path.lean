import Crosswalk.Files.Path
import Mathlib.Data.List.Chain

/-!
# Names in a folder, and folders above

A name without a slash is one segment, whatever else it is made of. Joined to the path of a
folder it stands behind the segments of that folder, give or take one at the end that says
nothing (`Path.exists_join_eq`). Going up from there takes the last segment off again that says
something, and whatever says nothing around it (`Path.parent?_cases`).
-/

namespace Crosswalk

namespace Path

variable {p q : Path} {name last : String} {cs : List Char} {segments front : List String}

/-- Without a slash there is one segment. -/
theorem between_of_not_mem (h : '/' ∉ cs) : between cs = [cs] := by
  induction cs with
  | nil => rfl
  | cons c cs ih =>
    have hslash : c ≠ '/' := fun hc => h (hc ▸ List.mem_cons_self)
    unfold between
    split
    · rename_i heq
      cases heq
    · rename_i heq
      exact absurd (List.cons.inj heq).1 hslash
    · rename_i heq
      obtain ⟨rfl, rfl⟩ := List.cons.inj heq
      rw [ih (List.not_mem_of_not_mem_cons h)]

theorem segmentsOf_of_not_mem (h : '/' ∉ name.toList) (hne : name ≠ "") :
    segmentsOf name.toList = [name] := by
  have hsome : name.toList.isEmpty = false := by simpa using hne
  unfold segmentsOf
  rw [hsome, between_of_not_mem h]
  simp

/-- Without a slash in front a path depends on the current folder. -/
theorem lead_ofString_ne_root (h : '/' ∉ name.toList) : (ofString name).lead ≠ .root := by
  unfold ofString
  split
  · rename_i heq
    exact absurd (heq ▸ List.mem_cons_self) h
  · nofun
  · nofun
  · nofun

/-- **A name in a folder** stands behind the segments of the folder. -/
theorem exists_join_eq (h : '/' ∉ name.toList) (hne : name ≠ "") (p : Path) :
    ∃ front, p.join name = ⟨p.lead, front ++ [name]⟩ ∧
      (front = p.segments ∨ p.segments = front ++ [""] ∨ front = p.segments ++ [""]) := by
  have hlead := lead_ofString_ne_root h
  unfold join
  rw [segmentsOf_of_not_mem h hne]
  split
  · rename_i heq
    rw [heq] at hlead
    exact absurd rfl hlead
  dsimp only
  split
  · rename_i hdot hnone
    exact ⟨[""], by rw [hdot]; rfl, .inr (.inr (by rw [hnone]; rfl))⟩
  · split
    · rename_i hlast
      obtain ⟨front, hfront⟩ := List.getLast?_eq_some_iff.mp hlast
      exact ⟨p.segments.dropLast, rfl, .inr (.inl (by rw [hfront, List.dropLast_concat]))⟩
    · exact ⟨p.segments, rfl, .inl rfl⟩

/-! ## Going up -/

/-- What is taken off at the end says nothing. -/
theorem exists_trimmed (segments : List String) :
    ∃ rest, segments = trimmed segments ++ rest ∧ ∀ s ∈ rest, s = "" ∨ s = "." := by
  refine ⟨(segments.reverse.takeWhile (fun s => !isTelling s)).reverse, ?_, fun s hs => ?_⟩
  · unfold trimmed
    rw [← List.reverse_append, List.takeWhile_append_dropWhile, List.reverse_reverse]
  · have hnot := List.all_eq_true.mp List.all_takeWhile s (List.mem_reverse.mp hs)
    by_cases hempty : s = ""
    · exact .inl hempty
    · exact .inr (by simpa [isTelling, hempty] using hnot)

theorem mem_of_mem_trimmed {s : String} (h : s ∈ trimmed segments) : s ∈ segments := by
  obtain ⟨rest, hsplit, -⟩ := exists_trimmed segments
  rw [hsplit]
  exact List.mem_append_left rest h

theorem isTelling_of_trimmed (h : trimmed segments = front ++ [last]) : isTelling last = true := by
  have hhead : (segments.reverse.dropWhile (fun s => !isTelling s)).head? = some last := by
    rw [← List.getLast?_reverse]
    show (trimmed segments).getLast? = some last
    rw [h, List.getLast?_concat]
  have hnot := List.head?_dropWhile_not (fun s => !isTelling s) segments.reverse
  rw [hhead] at hnot
  simpa using hnot

/-- **The path above** is without the last segment that says something, or without the dot. -/
theorem parent?_cases (p : Path) :
    (trimmed p.segments = [] ∧ p.parent? = if p.lead = .dot then some ⟨.nothing, []⟩ else none) ∨
      ∃ front last, trimmed p.segments = front ++ [last] ∧ isTelling last = true ∧
        p.parent? = some ⟨p.lead, trimmed front⟩ := by
  unfold parent?
  rcases List.eq_nil_or_concat (trimmed p.segments) with h | ⟨front, last, h⟩
  · rw [h]
    exact .inl ⟨rfl, rfl⟩
  · rw [List.concat_eq_append] at h
    refine .inr ⟨front, last, h, isTelling_of_trimmed h, ?_⟩
    rw [h]
    cases front with
    | nil => rfl
    | cons s front =>
      show some (Path.mk p.lead (trimmed (s :: (front ++ [last])).dropLast)) = _
      rw [← List.cons_append, List.dropLast_concat]

theorem upwards_of_parent? (h : p.parent? = some q) : p.upwards = p :: q.upwards := by
  rw [upwards]
  split
  · rename_i q' h'
    rw [Option.some.inj (h.symm.trans h')]
  · rename_i h'
    cases h.symm.trans h'

theorem upwards_of_top (h : p.parent? = none) : p.upwards = [p] := by
  rw [upwards]
  split
  · rename_i q' h'
    cases h.symm.trans h'
  · rfl

/-- Paths of which each is the one above the one before, until there is none. -/
theorem upwards_of_isChain {above : List Path}
    (h : List.IsChain (fun p q => p.parent? = some q) (p :: above))
    (htop : ∀ q ∈ (p :: above).getLast?, q.parent? = none) : p.upwards = p :: above := by
  induction above generalizing p with
  | nil => exact upwards_of_top (htop p rfl)
  | cons q above ih =>
    obtain ⟨hparent, h⟩ := List.isChain_cons_cons.mp h
    rw [upwards_of_parent? hparent, ih h htop]

end Path

end Crosswalk
