import Crosswalk.Proofs.Source.Mentions
import Mathlib.Data.List.Sort
import Mathlib.Data.String.Basic

/-!
# Packages imported in any order

A file imports packages in the order in which it comes to name them, and some of the attempts may
fail because the identifier of a package is taken. Whether one does is decided by the first
package of that identifier that was tried, its *leader*, whatever was tried in between: the
leaders are imported, and no others (`Imports.LedBy`).

So nothing depends on the order as long as all identifiers differ, and where two packages share
one, it is the later of them that fails, each time it is tried
(`Writing.importEach_in_any_order`).
-/

namespace Crosswalk

namespace Imports

variable {i : Imports} {tried rest paths : List String} {p q path : String}

/-! ## Paths in order -/

/-- The path goes to where it keeps the order. -/
theorem pairwise_insertPath (hnew : path ∉ paths) (h : paths.Pairwise (· < ·)) :
    (insertPath path paths).Pairwise (· < ·) := by
  induction paths with
  | nil => exact List.pairwise_singleton _ _
  | cons p ps ih =>
    obtain ⟨hfirst, hrest⟩ := List.pairwise_cons.mp h
    unfold insertPath
    split
    · rename_i hlt
      refine List.pairwise_cons.mpr ⟨fun q hq => ?_, h⟩
      rcases List.mem_cons.mp hq with rfl | hq
      · exact hlt
      · exact hlt.trans (hfirst q hq)
    · rename_i hlt
      have hle : p < path :=
        lt_of_le_of_ne (not_lt.mp hlt) (fun heq => hnew (heq ▸ List.mem_cons_self))
      have hnew' : path ∉ ps := fun hmem => hnew (List.mem_cons_of_mem p hmem)
      refine List.pairwise_cons.mpr ⟨fun q hq => ?_, ih hnew' hrest⟩
      rcases List.mem_cons.mp ((insertPath_perm path ps).mem_iff.mp hq) with rfl | hq
      · exact hle
      · exact hfirst q hq

/-! ## Leaders -/

/-- **The first path that goes by the identifier of `path`.** -/
def leader (tried : List String) (path : String) : Option String :=
  tried.find? (fun p => packageAlias p = packageAlias path)

/-- What leads a path goes by its identifier. -/
theorem leader_spec (h : leader tried path = some p) :
    p ∈ tried ∧ packageAlias p = packageAlias path := by
  unfold leader at h
  exact ⟨List.mem_of_find?_eq_some h, by simpa using List.find?_some h⟩

/-- Paths of one identifier have one leader. -/
theorem leader_congr (h : packageAlias p = packageAlias q) : leader tried p = leader tried q := by
  unfold leader
  rw [h]

theorem leader_eq_none_iff :
    leader tried path = none ↔ ∀ p ∈ tried, packageAlias p ≠ packageAlias path := by
  unfold leader
  rw [List.find?_eq_none]
  simp only [decide_eq_true_eq, ne_eq]

/-- **Whoever leads keeps to lead.** -/
theorem leader_append_of_some (h : leader tried path = some p) :
    leader (tried ++ rest) path = some p := by
  unfold leader at h ⊢
  rw [List.find?_append, h]
  rfl

/-- Another attempt with an identifier that is led changes no leader. -/
theorem leader_concat_of_some (h : leader tried path = some p) :
    leader (tried ++ [path]) q = leader tried q := by
  cases hq : leader tried q with
  | some first => exact leader_append_of_some hq
  | none =>
    refine leader_eq_none_iff.mpr (fun x hx heq => ?_)
    rcases List.mem_append.mp hx with hx | hx
    · exact leader_eq_none_iff.mp hq x hx heq
    · obtain rfl := List.mem_singleton.mp hx
      rw [leader_congr heq, hq] at h
      cases h

/-- The first path of its identifier leads itself, and changes no other leader. -/
theorem leader_concat_of_none (h : leader tried path = none) :
    leader (tried ++ [path]) q = some q ↔ q = path ∨ leader tried q = some q := by
  cases hq : leader tried q with
  | some first =>
    rw [leader_append_of_some hq, or_iff_right]
    rintro rfl
    cases h.symm.trans hq
  | none =>
    have hlast : leader (tried ++ [path]) q = leader [path] q := by
      unfold leader at hq ⊢
      rw [List.find?_append, hq, Option.none_or]
    rw [hlast, or_iff_left nofun]
    constructor
    · exact fun hpath => List.mem_singleton.mp (leader_spec hpath).1
    · rintro rfl
      exact List.find?_cons_of_pos (decide_eq_true rfl)

/-- Where no two paths share an identifier, all of them lead. -/
theorem leader_eq_self_iff (h : ∀ p ∈ tried, ∀ q ∈ tried, packageAlias p = packageAlias q → p = q) :
    leader tried path = some path ↔ path ∈ tried := by
  constructor
  · exact fun hled => (leader_spec hled).1
  · intro hmem
    cases hled : leader tried path with
    | none => exact absurd rfl (leader_eq_none_iff.mp hled path hmem)
    | some first =>
      obtain ⟨hfirst, heq⟩ := leader_spec hled
      exact congrArg some (h first hfirst path hmem heq)

/-- **The path that occurs later does not lead.** -/
theorem exists_leader_of_idxOf_lt (hne : p ≠ q) (heq : packageAlias p = packageAlias q)
    (hlt : tried.idxOf p < tried.idxOf q) : ∃ first, leader tried q = some first ∧ first ≠ q := by
  have hmem : p ∈ tried := List.idxOf_lt_length_iff.mp (hlt.trans_le List.idxOf_le_length)
  cases hled : leader tried q with
  | none => exact absurd heq (leader_eq_none_iff.mp hled p hmem)
  | some first =>
    refine ⟨first, rfl, ?_⟩
    rintro rfl
    -- before it there would be no path of its identifier
    obtain ⟨-, before, after, rfl, hbefore⟩ := List.find?_eq_some_iff_append.mp hled
    have hp : p ∉ before := fun hp => by simpa [heq] using hbefore p hp
    have hfirst : first ∉ before := fun hfirst => by simpa using hbefore first hfirst
    rw [List.idxOf_append_of_notMem hp, List.idxOf_append_of_notMem hfirst,
      List.idxOf_cons_self] at hlt
    exact absurd hlt (Nat.not_lt.mpr (Nat.le_add_right _ _))

/-- **What is answered to an attempt to import `path`**, if these were tried before. -/
def verdict (tried : List String) (path : String) : Checked EmitError String :=
  match leader tried path with
  | some first =>
    if first = path then .ok (packageAlias path)
    else .error (.cause (.importConflict (packageAlias path) first path))
  | none => .ok (packageAlias path)

theorem verdict_of_none (h : leader tried path = none) :
    verdict tried path = .ok (packageAlias path) := by
  unfold verdict
  rw [h]

theorem verdict_of_self (h : leader tried path = some path) :
    verdict tried path = .ok (packageAlias path) := by
  unfold verdict
  rw [h]
  exact if_pos rfl

theorem verdict_of_other (h : leader tried path = some p) (hne : p ≠ path) :
    verdict tried path = .error (.cause (.importConflict (packageAlias path) p path)) := by
  unfold verdict
  rw [h]
  exact if_neg hne

/-- **The verdict on an attempt is settled by then**: what is tried later does not matter, nor does
the attempt itself. -/
theorem verdict_append : verdict (tried ++ path :: rest) path = verdict tried path := by
  cases h : leader tried path with
  | some first =>
    unfold verdict
    rw [leader_append_of_some h, h]
  | none =>
    have hself : leader (tried ++ [path]) path = some path :=
      (leader_concat_of_none h).mpr (.inl rfl)
    rw [verdict_of_none h, List.append_cons]
    exact verdict_of_self (leader_append_of_some hself)

/-- **The imports after some attempts**: the leaders, in order. -/
structure LedBy (tried : List String) (i : Imports) : Prop where
  /-- What is imported leads its identifier. -/
  mem : ∀ p, p ∈ i.paths ↔ leader tried p = some p
  /-- The paths stand in order. -/
  inOrder : i.paths.Pairwise (· < ·)

namespace LedBy

theorem empty : LedBy [] Imports.empty :=
  ⟨fun _ => ⟨nofun, nofun⟩, .nil⟩

/-- No two leaders go by one identifier. -/
theorem eq_of_alias_eq (h : LedBy tried i) (hp : p ∈ i.paths) (hq : q ∈ i.paths)
    (heq : packageAlias p = packageAlias q) : p = q :=
  Option.some.inj (((h.mem p).mp hp).symm.trans ((leader_congr heq).trans ((h.mem q).mp hq)))

/-- A look for an identifier among the imports finds the leader. -/
theorem find?_eq_leader (h : LedBy tried i) (path : String) :
    leader i.paths path = leader tried path := by
  cases hled : leader tried path with
  | none =>
    refine leader_eq_none_iff.mpr (fun p hp heq => ?_)
    obtain ⟨hmem, -⟩ := leader_spec ((h.mem p).mp hp)
    exact leader_eq_none_iff.mp hled p hmem heq
  | some first =>
    obtain ⟨-, heq⟩ := leader_spec hled
    have hfirst : first ∈ i.paths := (h.mem first).mpr ((leader_congr heq).trans hled)
    cases hfound : leader i.paths path with
    | none => exact absurd heq (leader_eq_none_iff.mp hfound first hfirst)
    | some p =>
      obtain ⟨hp, heq'⟩ := leader_spec hfound
      exact congrArg some (h.eq_of_alias_eq hp hfirst (heq'.trans heq.symm))

/-- Another attempt with an identifier that is led changes nothing. -/
theorem concat_of_some (h : LedBy tried i) (hled : leader tried path = some p) :
    LedBy (tried ++ [path]) i :=
  ⟨fun q => by rw [h.mem, leader_concat_of_some hled], h.inOrder⟩

/-- **The first attempt with an identifier succeeds.** -/
theorem concat_of_none (h : LedBy tried i) (hled : leader tried path = none) :
    LedBy (tried ++ [path]) ⟨insertPath path i.paths⟩ := by
  have hnew : path ∉ i.paths := fun hmem => nomatch hled.symm.trans ((h.mem path).mp hmem)
  refine ⟨fun q => ?_, pairwise_insertPath hnew h.inOrder⟩
  rw [(insertPath_perm path i.paths).mem_iff, List.mem_cons, h.mem, leader_concat_of_none hled]

end LedBy

end Imports

namespace Writing

open Imports

/-- Tries to import a package. -/
def tryImport (path : String) (names : Names) : Checked EmitError String × Names :=
  match importPackage path names with
  | .ok name names => (.ok name, names)
  | .error e names => (.error e, names)

/-- **Tries to import packages one after another**, and goes on where that fails. -/
def importEach : List String → Names → List (Checked EmitError String) × Names
  | [], names => ([], names)
  | path :: paths, names =>
    let (answer, names) := tryImport path names
    let (answers, names) := importEach paths names
    (answer :: answers, names)

variable {tried l : List String} {path : String} {names : Names}

/-- **One attempt** gets the verdict on it, and leaves the leaders behind. -/
theorem tryImport_spec (h : LedBy tried names.imports) (path : String) :
    (tryImport path names).1 = verdict tried path ∧
      LedBy (tried ++ [path]) (tryImport path names).2.imports := by
  unfold tryImport importPackage Imports.add
  by_cases hmem : path ∈ names.imports.paths
  · have hled := (h.mem path).mp hmem
    rw [if_pos hmem, verdict_of_self hled]
    exact ⟨rfl, h.concat_of_some hled⟩
  · have hfind : names.imports.paths.find? (fun p => packageAlias p = packageAlias path)
        = leader tried path := h.find?_eq_leader path
    rw [if_neg hmem, hfind]
    cases hled : leader tried path with
    | none =>
      rw [verdict_of_none hled]
      exact ⟨rfl, h.concat_of_none hled⟩
    | some first =>
      have hne : first ≠ path := by
        rintro rfl
        exact hmem ((h.mem first).mpr hled)
      rw [verdict_of_other hled hne]
      exact ⟨rfl, h.concat_of_some hled⟩

/-- **Each attempt of a row gets the verdict on it**, and the row leaves the leaders behind. -/
theorem importEach_spec (h : LedBy tried names.imports) (l : List String) :
    (importEach l names).1 = l.map (verdict (tried ++ l)) ∧
      LedBy (tried ++ l) (importEach l names).2.imports := by
  induction l generalizing tried names with
  | nil => exact ⟨rfl, (List.append_nil tried).symm ▸ h⟩
  | cons path l ih =>
    obtain ⟨hanswer, hled⟩ := tryImport_spec h path
    obtain ⟨hanswers, hleds⟩ := ih hled
    rw [← List.append_cons] at hanswers hleds
    refine ⟨?_, hleds⟩
    rw [List.map_cons, verdict_append, ← hanswer, ← hanswers]
    rfl

/-- A failed attempt changes nothing. -/
theorem eq_of_importPackage_eq_error {e : Stop EmitError} {names' : Names}
    (h : importPackage path names = .error e names') : names' = names := by
  unfold importPackage at h
  split at h
  · cases h
  · exact (EStateM.Result.error.inj h).2.symm

theorem importEach_empty_spec (l : List String) :
    (importEach l .empty).1 = l.map (verdict l) ∧ LedBy l (importEach l .empty).2.imports := by
  have hempty : LedBy [] Names.empty.imports := LedBy.empty
  exact importEach_spec hempty l

/-- **What is left does not depend on the order**, nor on repetitions, if all identifiers
differ. -/
theorem paths_importEach_congr {l' : List String}
    (hapart : ∀ p ∈ l, ∀ q ∈ l, packageAlias p = packageAlias q → p = q)
    (hmem : ∀ p, p ∈ l' ↔ p ∈ l) :
    (importEach l' .empty).2.imports.paths = (importEach l .empty).2.imports.paths := by
  obtain ⟨-, hled⟩ := importEach_empty_spec l
  obtain ⟨-, hled'⟩ := importEach_empty_spec l'
  refine hled'.inOrder.eq_of_mem_iff hled.inOrder (fun p => ?_)
  rw [hled.mem, hled'.mem, leader_eq_self_iff hapart, leader_eq_self_iff, hmem]
  exact fun p hp q hq => hapart p ((hmem p).mp hp) q ((hmem q).mp hq)

/-- **The bookkeeping of imports does not depend on the order.** Packages of different identifiers
are all imported, each under its own, and leave the same imports behind in whatever order and how
often they are tried. Of two packages of one identifier, the one that occurs later for the first
time fails whenever it is tried. A failed attempt changes nothing, and whatever was tried, no two
packages are imported under one identifier. -/
theorem importEach_in_any_order :
    (∀ l : List String, (∀ p ∈ l, ∀ q ∈ l, packageAlias p = packageAlias q → p = q) →
      (importEach l .empty).1 = l.map (fun p => .ok (packageAlias p)) ∧
      ∀ l' : List String, (∀ p, p ∈ l' ↔ p ∈ l) →
        (importEach l' .empty).2.imports.specs = (importEach l .empty).2.imports.specs) ∧
    (∀ (l : List String) (p q : String), p ≠ q → packageAlias p = packageAlias q →
      l.idxOf p < l.idxOf q → ∃ first, first ≠ q ∧ ∀ k : Nat, l[k]? = some q →
        (importEach l .empty).1[k]?
          = some (.error (.cause (.importConflict (packageAlias q) first q)))) ∧
    (∀ path names e names', importPackage path names = .error e names' → names' = names) ∧
    ∀ l : List String, ∀ p ∈ (importEach l .empty).2.imports.paths,
      ∀ q ∈ (importEach l .empty).2.imports.paths, packageAlias p = packageAlias q → p = q := by
  refine ⟨fun l hapart => ⟨?_, fun l' hmem => ?_⟩, fun l p q hne heq hlt => ?_,
    fun path names e names' h => eq_of_importPackage_eq_error h, fun l p hp q hq => ?_⟩
  · rw [(importEach_empty_spec l).1]
    exact List.map_congr_left (fun p hp => verdict_of_self ((leader_eq_self_iff hapart).mpr hp))
  · exact congrArg (List.map Imports.spec) (paths_importEach_congr hapart hmem)
  · obtain ⟨first, hled, hfirst⟩ := exists_leader_of_idxOf_lt hne heq hlt
    refine ⟨first, hfirst, fun k hk => ?_⟩
    rw [(importEach_empty_spec l).1, List.getElem?_map, hk, Option.map_some,
      verdict_of_other hled hfirst]
  · exact (importEach_empty_spec l).2.eq_of_alias_eq hp hq

/-- A package of types and one of models can be imported in either order, two packages of types
cannot. -/
theorem importEach_types :
    (importEach ["example.com/a/types", "example.com/a/model", "example.com/a/types"]
        .empty).2.imports.specs
      = (importEach ["example.com/a/model", "example.com/a/types"] .empty).2.imports.specs ∧
    ∃ first, (importEach ["example.com/a/types", "example.com/b/types"] .empty).1[1]?
      = some (.error (.cause (.importConflict "types" first "example.com/b/types"))) := by
  obtain ⟨hapart, hshared, -⟩ := importEach_in_any_order
  refine ⟨(hapart _ (by decide +kernel)).2 _ (fun p => ?_), ?_⟩
  · simp only [List.mem_cons, List.not_mem_nil, or_false]
    tauto
  · obtain ⟨first, -, hfails⟩ := hshared ["example.com/a/types", "example.com/b/types"]
      "example.com/a/types" "example.com/b/types" (by decide) (by decide +kernel)
      (by decide +kernel)
    exact ⟨first, hfails 1 rfl⟩

end Writing

end Crosswalk
