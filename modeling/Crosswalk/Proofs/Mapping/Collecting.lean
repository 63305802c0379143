import Crosswalk.Proofs.Mapping.Safe

/-!
# What a packed list is read from

The values of a packed list are collected on a walk from its array. A store is taken if its
address has been come by before: the array itself, or a value that the walk has visited.
Each store is taken once, in the order of the walk (`UseIndex.Collects`).

The order of the walk is that of the program where the array is packed *in turn*: what is
stored by way of an earlier reader is listed before what is stored by way of a later one. It
is not otherwise. If all addresses are computed first and then stored to in another order,
the list comes back in the order of the addresses (`packProgram_out_of_turn`). And a store
is lost if the walk comes to it by the value that is stored before it comes by the address,
which can only happen where something made from the array is stored into it
(`UseIndex.Aloof`).
-/

namespace Crosswalk

/-- What is stored, if the instruction is a store. -/
def Use.stored? (u : Use) : Option ValueId :=
  match u.value.kind with
  | .store _ value => some value
  | _ => none

theorem Use.stored?_of_store {address value : ValueId} (u : Use)
    (h : u.value.kind = .store address value) : u.stored? = some value := by
  unfold stored?
  rw [h]

theorem Use.mem_operands_of_stored? {value : ValueId} (u : Use) (h : u.stored? = some value) :
    value ∈ u.value.kind.operands := by
  unfold stored? at h
  split at h
  · rename_i hkind
    rw [hkind, ← Option.some.inj h]
    exact List.mem_cons_of_mem _ List.mem_cons_self
  · cases h

/-- **The address of the store has been come by**: it is among the `derived` ones, or the
value of an instruction visited `before`. -/
def Use.Addressed (derived : List ValueId) (before : List Use) (u : Use) : Prop :=
  ∃ a v, u.value.kind = .store a v ∧
    (a ∈ derived ∨ ∃ w ∈ before, w.value.kind.producesValue = true ∧ w.user = a)

namespace UseIndex

variable {index : UseIndex} {f : Func} {base a v : ValueId} {u w : Use} {stores : List Use}

/-- **The address is derived from `base`**: it is `base`, or the value of an instruction
that reads `base` or another value derived from it. -/
def Derived (index : UseIndex) (base a : ValueId) : Prop :=
  a = base ∨ ∃ u, index.Reached base u ∧ u.value.kind.producesValue = true ∧ u.user = a

/-- **The instruction stores into the array at `base`.** -/
def StoresInto (index : UseIndex) (base : ValueId) (u : Use) : Prop :=
  u ∈ index.uses ∧ ∃ a v, u.value.kind = .store a v ∧ index.Derived base a

/-- **The store comes after its address** on the walk from `base`. -/
def Timely (index : UseIndex) (base : ValueId) (u : Use) : Prop :=
  ∃ before after, index.visits base = before ++ u :: after ∧ u.Addressed [base] before

/-- **What is collected for the array at `base`.** -/
structure Collects (index : UseIndex) (base : ValueId) (stores : List Use) : Prop where
  /-- The stores are in the order of the walk. -/
  walked : stores.Sublist (index.visits base)
  /-- None is taken twice. -/
  nodup : stores.Nodup
  /-- They are those that come after their addresses. -/
  mem_iff : ∀ u, u ∈ stores ↔ index.Timely base u

/-- **Nothing that comes from the array is stored into it.** -/
def Aloof (index : UseIndex) (base : ValueId) : Prop :=
  ∀ u a v, u ∈ index.uses → u.value.kind = .store a v → index.Derived base a →
    ¬ index.Derived base v

/-- The instruction `u` is listed before `w`. -/
def Precedes (index : UseIndex) (u w : Use) : Prop := index.uses.idxOf u < index.uses.idxOf w

/-- **The array is packed in turn**: among the readers of one derived value, what is stored
by way of an earlier one is listed before what is stored by way of a later one. -/
def InTurn (index : UseIndex) (base : ValueId) : Prop :=
  ∀ a, index.Derived base a →
    (index.readers a).Pairwise (index.Apart (index.StoresInto base) index.Precedes)

instance : Decidable (index.Precedes u w) :=
  inferInstanceAs (Decidable (index.uses.idxOf u < index.uses.idxOf w))

/-! ## Which stores are taken -/

theorem StoresInto.isSome_stored? (h : index.StoresInto base u) : u.stored?.isSome := by
  obtain ⟨-, a, v, hkind, -⟩ := h
  rw [u.stored?_of_store hkind]
  rfl

theorem StoresInto.next_eq_nil (h : index.StoresInto base u) : index.next u = [] := by
  obtain ⟨-, a, v, hkind, -⟩ := h
  unfold next
  rw [hkind]
  rfl

theorem StoresInto.reached (h : index.StoresInto base u) : index.Reached base u := by
  obtain ⟨hu, a, v, hkind, hderived⟩ := h
  have hread : u.reads a = true := by
    rw [reads_eq_true_iff, hkind]
    exact List.mem_cons_self
  rcases hderived with rfl | ⟨w, hw, hproduces, rfl⟩
  · exact .reader (mem_readers.mpr ⟨hu, hread⟩)
  · exact .next hw (mem_next_iff.mpr ⟨hproduces, hu, reads_eq_true_iff.mp hread⟩)

/-- **A store that comes after its address is one into the array.** -/
theorem Timely.storesInto (h : index.Timely base u) : index.StoresInto base u := by
  obtain ⟨before, after, hvisits, a, v, hkind, haddress⟩ := h
  have hreached : ∀ w ∈ before ++ u :: after, index.Reached base w :=
    fun w hw => reached_of_mem_visits (hvisits ▸ hw)
  refine ⟨(hreached u (List.mem_append_right _ List.mem_cons_self)).mem_uses, a, v, hkind, ?_⟩
  exact haddress.imp List.mem_singleton.mp (fun ⟨w, hw, hproduces, huser⟩ =>
    ⟨w, hreached w (List.mem_append_left _ hw), hproduces, huser⟩)

/-- **No store is lost** where nothing that comes from the array is stored into it. -/
theorem Aloof.timely (h : index.Aloof base) (hl : index.Lists f) (hu : index.StoresInto base u) :
    index.Timely base u := by
  have hvisit := (mem_visits_iff (fun _ hx _ hy => hl.eq_of_user_eq hx hy)).mpr hu.reached
  obtain ⟨before, after, hvisits⟩ := List.append_of_mem hvisit
  obtain ⟨huses, a, v, hkind, hderived⟩ := hu
  refine ⟨before, after, hvisits, a, v, hkind, ?_⟩
  have haloof := h u a v huses hkind hderived
  -- the walk comes to the store by its address or by what is stored
  rcases exists_before_of_visitsFrom _ hvisits with hread | ⟨w, hw, hread⟩
  · rw [mem_readers, reads_eq_true_iff, hkind] at hread
    have hcases : base = a ∨ base = v := by simpa [ValueKind.operands] using hread.2
    rcases hcases with heq | heq
    · exact .inl (List.mem_singleton.mpr heq.symm)
    · exact absurd (.inl heq.symm) haloof
  · obtain ⟨hproduces, -, hread⟩ := mem_next_iff.mp hread
    rw [hkind] at hread
    have hcases : w.user = a ∨ w.user = v := by simpa [ValueKind.operands] using hread
    rcases hcases with heq | heq
    · exact .inr ⟨w, hw, hproduces, heq⟩
    · have hreached : index.Reached base w :=
        reached_of_mem_visits (hvisits ▸ List.mem_append_left _ hw)
      exact absurd (.inr ⟨w, hreached, hproduces, heq⟩) haloof

namespace Collects

/-- **The list is complete** where nothing that comes from the array is stored into it. -/
theorem mem_iff_storesInto (h : index.Collects base stores) (hl : index.Lists f)
    (haloof : index.Aloof base) : u ∈ stores ↔ index.StoresInto base u :=
  (h.mem_iff u).trans ⟨Timely.storesInto, haloof.timely hl⟩

/-- **The list is in program order** where the array is packed in turn. -/
theorem pairwise_precedes (h : index.Collects base stores) (hturn : index.InTurn base) :
    stores.Pairwise index.Precedes := by
  have hvisits : (index.visits base).Pairwise
      (fun u w => index.StoresInto base u → index.StoresInto base w → index.Precedes u w) := by
    refine pairwise_visits (fun _ hu => hu.next_eq_nil) (hturn base (.inl rfl)) (fun u hu => ?_)
    unfold next
    split
    · rename_i hproduces
      exact hturn u.user (.inr ⟨u, hu, hproduces, rfl⟩)
    · exact .nil
  refine (hvisits.sublist h.walked).imp_of_mem (fun {u w} hu hw hprecedes => ?_)
  exact hprecedes ((h.mem_iff u).mp hu).storesInto ((h.mem_iff w).mp hw).storesInto

end Collects

end UseIndex

/-! ## What a walk collects -/

namespace Scope

open UseIndex

variable {s : Scope} {base v : ValueId} {u : Use} {derived stored : List ValueId} {l : List Use}
  {values : List ValueId}

/-- The stores among the visits `l` whose addresses are derived when they are visited. -/
def taken (derived : List ValueId) : List Use → List Use
  | [] => []
  | u :: l =>
    match u.value.kind with
    | .store address _ => if address ∈ derived then u :: taken derived l else taken derived l
    | kind => taken (if kind.producesValue then u.user :: derived else derived) l

theorem taken_cons_of_store {address value : ValueId} (h : u.value.kind = .store address value) :
    taken derived (u :: l)
      = if address ∈ derived then u :: taken derived l else taken derived l := by
  rw [taken, h]

theorem taken_cons_of_not_store (h : ∀ address value, u.value.kind ≠ .store address value) :
    taken derived (u :: l)
      = taken (if u.value.kind.producesValue then u.user :: derived else derived) l := by
  rw [taken]
  split
  · rename_i address value hkind
    exact absurd hkind (h address value)
  · rfl

theorem taken_sublist (derived : List ValueId) (l : List Use) : (taken derived l).Sublist l := by
  induction l generalizing derived with
  | nil => exact .slnil
  | cons u l ih =>
    by_cases hstore : ∃ address value, u.value.kind = .store address value
    · obtain ⟨address, value, hkind⟩ := hstore
      rw [taken_cons_of_store hkind]
      split
      · exact (ih derived).cons_cons u
      · exact (ih derived).cons u
    · rw [taken_cons_of_not_store (fun a v h => hstore ⟨a, v, h⟩)]
      exact (ih _).cons u

/-- **What is collected is what the taken stores store.** -/
theorem foldl_packStep_eq : (l.foldl packStep (derived, stored)).2
    = stored ++ (taken derived l).filterMap Use.stored? := by
  induction l generalizing derived stored with
  | nil => exact (List.append_nil _).symm
  | cons u l ih =>
    by_cases hstore : ∃ address value, u.value.kind = .store address value
    · obtain ⟨address, value, hkind⟩ := hstore
      rw [List.foldl_cons, packStep_of_store hkind, ih, taken_cons_of_store hkind]
      split
      · rw [List.filterMap_cons_some (u.stored?_of_store hkind), List.append_assoc]
        rfl
      · rfl
    · have hother := fun address value hkind => hstore ⟨address, value, hkind⟩
      rw [List.foldl_cons, packStep_of_not_store hother, ih, taken_cons_of_not_store hother]

theorem addressed_cons {w : Use} {before : List Use} : u.Addressed derived (w :: before) ↔
    u.Addressed (if w.value.kind.producesValue then w.user :: derived else derived) before := by
  refine exists_congr (fun a => exists_congr (fun v => and_congr_right (fun _ => ?_)))
  split
  · rename_i hproduces
    simp only [List.mem_cons, exists_eq_or_imp, hproduces, true_and, or_assoc]
    grind
  · rename_i hproduces
    simp only [List.mem_cons, exists_eq_or_imp, hproduces, Bool.false_eq_true, false_and, false_or]

/-- **A store is taken if its address has been come by.** -/
theorem mem_taken_iff : u ∈ taken derived l ↔
    ∃ before after, l = before ++ u :: after ∧ u.Addressed derived before := by
  induction l generalizing derived with
  | nil => simp [taken]
  | cons w l ih =>
    rw [exists_split_cons]
    simp only [addressed_cons (w := w)]
    by_cases hstore : ∃ address value, w.value.kind = .store address value
    · obtain ⟨address, value, hkind⟩ := hstore
      have hproduces : w.value.kind.producesValue = false := by
        rw [hkind]
        rfl
      have hfirst : u = w ∧ u.Addressed derived [] ↔ u = w ∧ address ∈ derived := by
        refine and_congr_right (fun heq => ?_)
        unfold Use.Addressed
        rw [heq, hkind]
        simp
      rw [taken_cons_of_store hkind, hproduces, if_neg Bool.false_ne_true, ← ih, hfirst]
      split
      · rename_i hmem
        rw [List.mem_cons, and_iff_left hmem]
      · rename_i hmem
        rw [or_iff_right (fun h => hmem h.2)]
    · have hfirst : ¬ (u = w ∧ u.Addressed derived []) := by
        rintro ⟨rfl, a, v, hkind, -⟩
        exact hstore ⟨a, v, hkind⟩
      rw [taken_cons_of_not_store (fun a v h => hstore ⟨a, v, h⟩), ih, or_iff_right hfirst]

/-- **The values stored into an array** are those of the stores collected for it. -/
theorem exists_collects (h : s.storedElements base = .ok values) :
    ∃ stores, s.index.Collects base stores ∧
      List.Forall₂ (fun u v => u.stored? = some v) stores values := by
  unfold storedElements at h
  obtain ⟨value, -, h⟩ := bind_eq_ok_iff.mp h
  split at h
  · cases h
  obtain rfl := Except.ok.inj h
  refine ⟨taken [base] (s.index.visits base), ⟨taken_sublist _ _, ?_, fun _ => mem_taken_iff⟩, ?_⟩
  · exact (List.Nodup.of_map _ (nodup_visits s.index base)).sublist (taken_sublist _ _)
  · rw [foldl_packStep_eq, List.nil_append]
    refine forall₂_filterMap (fun u hu => ?_)
    obtain ⟨-, -, -, a, v, hkind, -⟩ := mem_taken_iff.mp hu
    exact ⟨v, u.stored?_of_store hkind⟩

/-- Reading a slice over an array is reading what is stored into the array. -/
theorem packed_of_slice (h : s.function.kind? v = some (.slice base)) :
    s.packed v = s.storedElements base := by
  obtain ⟨value, hfound, hkind⟩ := value_of_kind? h
  unfold packed chainBound
  rw [packedTo, hfound, ok_bind, hkind]

end Scope

namespace Program

variable {p : Program} {f : Func}

/-- **What a packed list is read from.** In every function of a valid program, a slice over
an array is read from the stores whose addresses the walk from the array has come by, each
read once and in the order of the walk. Where nothing that comes from the array is stored
into it, these are all stores into the array; and where the array is packed in turn, their
order is that of the program. -/
theorem slice_list_collects {id : FunctionId} (hp : p.validate = .ok ())
    (hf : p.function? id = some f) :
    ∃ s, Scope.ofFunction p f = .ok s ∧
      ∀ {α : Type} (element : ValueId → Checked ShapeError α) (v base : ValueId) (xs : List α),
        f.kind? v = some (.slice base) → s.list element v = .ok xs →
          ∃ stores, s.index.Collects base stores ∧
            List.Forall₂ (fun u x => ∃ w, u.stored? = some w ∧ element w = .ok x) stores xs ∧
            (s.index.Aloof base → ∀ u, u ∈ stores ↔ s.index.StoresInto base u) ∧
            (s.index.InTurn base → stores.Pairwise s.index.Precedes) := by
  obtain ⟨s, hs, -, rfl, hlists, -⟩ := Scope.exists_ofFunction (tame_of_validate hp) hf
  refine ⟨s, hs, fun element v base xs hv hxs => ?_⟩
  unfold Scope.list at hxs
  rw [Scope.packed_of_slice hv] at hxs
  obtain ⟨values, hvalues, hxs⟩ := bind_eq_ok_iff.mp hxs
  obtain ⟨stores, hcollects, hstored⟩ := Scope.exists_collects hvalues
  refine ⟨stores, hcollects, ?_, fun haloof u => hcollects.mem_iff_storesInto hlists haloof,
    hcollects.pairwise_precedes⟩
  exact forall₂_trans (fun _ w _ hw hx => ⟨w, hw, hx⟩) hstored (mapM_eq_ok_iff.mp hxs)

/-! ## A pack of two greetings -/

/-- A function that packs two strings and whose instructions are listed in the given order.
The second of its stores goes to the first element. -/
def packFunction (listing : List ValueId) : Func where
  id := ⟨0⟩
  name := "Greet"
  package := "example.com/letters"
  file := some "letters.go"
  signature := ⟨none, [], [], false⟩
  params := []
  blocks := #[⟨⟨0⟩, listing, none⟩]
  values := #[⟨.const (.string "hello"), some ⟨0⟩, none⟩,
    ⟨.const (.string "goodbye"), some ⟨0⟩, none⟩,
    ⟨.const (.int 0), some ⟨5⟩, none⟩, ⟨.const (.int 1), some ⟨5⟩, none⟩,
    ⟨.alloc true, some ⟨2⟩, some "varargs"⟩, ⟨.indexAddr ⟨4⟩ ⟨2⟩, some ⟨3⟩, none⟩,
    ⟨.indexAddr ⟨4⟩ ⟨3⟩, some ⟨3⟩, none⟩, ⟨.store ⟨6⟩ ⟨1⟩, none, none⟩,
    ⟨.store ⟨5⟩ ⟨0⟩, none, none⟩, ⟨.slice ⟨4⟩, some ⟨4⟩, none⟩, ⟨.ret [], none, none⟩]
  synthetic := none

/-- A program of this function alone. -/
def packProgram (listing : List ValueId) : Program where
  package := "example.com/letters"
  types := ⟨#[.basic .string, .array ⟨0⟩ 2, .pointer ⟨1⟩, .pointer ⟨0⟩, .slice ⟨0⟩, .basic .int]⟩
  functions := #[packFunction listing]

/-- Each greeting is stored as soon as there is a place for it. -/
def inTurn : List ValueId := [⟨4⟩, ⟨5⟩, ⟨8⟩, ⟨6⟩, ⟨7⟩, ⟨9⟩, ⟨10⟩]

/-- Both places are made first, and the second greeting is stored before the first. -/
def outOfTurn : List ValueId := [⟨4⟩, ⟨5⟩, ⟨6⟩, ⟨7⟩, ⟨8⟩, ⟨9⟩, ⟨10⟩]

/-- The function with the index of its values. -/
def packScope (listing : List ValueId) : Scope where
  program := packProgram listing
  function := packFunction listing
  index := .ofUses (listing.map (fun id => ⟨id, ((packFunction listing).value? id).getD default⟩))

/-- The two greetings do not come from the array. -/
theorem packScope_aloof : (packScope inTurn).index.Aloof ⟨4⟩ := by
  have hstored : ∀ u ∈ (packScope inTurn).index.uses, ∀ v ∈ u.stored?, v ≠ ⟨4⟩ ∧
      ∀ w ∈ (packScope inTurn).index.uses, w.user ≠ v := by decide +kernel
  intro u a v hu hkind _ hv
  obtain ⟨hbase, husers⟩ := hstored u hu v (u.stored?_of_store hkind)
  rcases hv with rfl | ⟨w, hw, -, huser⟩
  · exact hbase rfl
  · exact husers w hw.mem_uses huser

/-- By each of the addresses one greeting is stored, and by the first one the first. -/
theorem packScope_inTurn : (packScope inTurn).index.InTurn ⟨4⟩ := by
  have hreaders : ∀ a ∈ ⟨4⟩ :: (packScope inTurn).index.uses.map Use.user,
      ((packScope inTurn).index.readers a).Pairwise (fun u w =>
        (∀ x ∈ (packScope inTurn).index.next u, (packScope inTurn).index.next x = []) ∧
        (∀ y ∈ (packScope inTurn).index.next w, (packScope inTurn).index.next y = []) ∧
        ∀ x ∈ u :: (packScope inTurn).index.next u, ∀ y ∈ w :: (packScope inTurn).index.next w,
          x.stored?.isSome → y.stored?.isSome → (packScope inTurn).index.Precedes x y) := by
    decide +kernel
  intro a ha
  have hmem : a ∈ ⟨4⟩ :: (packScope inTurn).index.uses.map Use.user := by
    rcases ha with rfl | ⟨w, hw, -, rfl⟩
    · exact List.mem_cons_self
    · exact List.mem_cons_of_mem _ (List.mem_map_of_mem hw.mem_uses)
  refine (hreaders a hmem).imp (fun {u w} h => ?_)
  obtain ⟨hu, hw, hprecedes⟩ := h
  refine UseIndex.apart_of_shallow hu hw (fun x hx y hy hxs hys => .inr ?_)
  exact hprecedes x hx y hy hxs.isSome_stored? hys.isSome_stored?

/-- In both orders the list comes back in the order of the places. -/
theorem packScope_list {listing : List ValueId} (h : listing = inTurn ∨ listing = outOfTurn) :
    (packScope listing).list (packScope listing).literalString ⟨9⟩
      = .ok ["hello", "goodbye"] := by
  have hslice : (packScope listing).packed ⟨9⟩ = (packScope listing).storedElements ⟨4⟩ :=
    Scope.packed_of_slice rfl
  have hvisits : ∃ l, (packScope listing).index.visits ⟨4⟩ = l ∧
      (l.foldl Scope.packStep ([⟨4⟩], [])).2 = [⟨0⟩, ⟨1⟩] := by
    rcases h with rfl | rfl
    · exact ⟨_, UseIndex.visits_of_visitsWithin (n := 6) rfl, by decide +kernel⟩
    · exact ⟨_, UseIndex.visits_of_visitsWithin (n := 6) rfl, by decide +kernel⟩
  obtain ⟨l, hl, hfold⟩ := hvisits
  have hstored : (packScope listing).storedElements ⟨4⟩ = .ok [⟨0⟩, ⟨1⟩] := by
    rw [← hfold, ← hl]
    rfl
  unfold Scope.list
  rw [hslice, hstored, ok_bind]
  rfl

/-- Stored one after the other, the greetings come back in their order. -/
theorem packProgram_in_turn : ∃ s stores,
    Scope.ofFunction (packProgram inTurn) (packFunction inTurn) = .ok s ∧
      s.list s.literalString ⟨9⟩ = .ok ["hello", "goodbye"] ∧
      List.Forall₂ (fun u x => ∃ w, u.stored? = some w ∧ s.literalString w = .ok x) stores
        ["hello", "goodbye"] ∧
      (∀ u, u ∈ stores ↔ s.index.StoresInto ⟨4⟩ u) ∧ stores.Pairwise s.index.Precedes := by
  have hvalid : (packProgram inTurn).validate = .ok () := by decide +kernel
  have hf : (packProgram inTurn).function? ⟨0⟩ = some (packFunction inTurn) := rfl
  obtain ⟨s, hs, hslice⟩ := slice_list_collects hvalid hf
  obtain rfl : packScope inTurn = s := Except.ok.inj hs
  have hlist := packScope_list (.inl rfl)
  obtain ⟨stores, -, hstored, hcomplete, hordered⟩ := hslice _ ⟨9⟩ ⟨4⟩ _ rfl hlist
  exact ⟨_, stores, hs, hlist, hstored, hcomplete packScope_aloof, hordered packScope_inTurn⟩

/-- **Stored out of turn, they do not**: they come back in the order of their places, and
the stores in the order of the program store other strings. -/
theorem packProgram_out_of_turn : (packProgram outOfTurn).validate = .ok () ∧
    ∃ s, Scope.ofFunction (packProgram outOfTurn) (packFunction outOfTurn) = .ok s ∧
      s.function.kind? ⟨9⟩ = some (.slice ⟨4⟩) ∧
      s.list s.literalString ⟨9⟩ = .ok ["hello", "goodbye"] ∧
      ¬ ∃ stores, List.Forall₂ (fun u x => ∃ w, u.stored? = some w ∧ s.literalString w = .ok x)
          stores ["hello", "goodbye"] ∧
        (∀ u, u ∈ stores ↔ s.index.StoresInto ⟨4⟩ u) ∧ stores.Pairwise s.index.Precedes := by
  refine ⟨by decide +kernel, packScope outOfTurn, rfl, rfl, packScope_list (.inr rfl), ?_⟩
  have hafter : ∀ u ∈ (packScope outOfTurn).index.uses, ∀ w ∈ (packScope outOfTurn).index.uses,
      ∀ a ∈ u.stored?, ∀ b ∈ w.stored?, (packScope outOfTurn).literalString a = .ok "hello" →
        (packScope outOfTurn).literalString b = .ok "goodbye" →
          ¬ (packScope outOfTurn).index.Precedes u w := by decide +kernel
  rintro ⟨stores, hstored, hmem, hordered⟩
  obtain _ | ⟨⟨a, ha, hello⟩, hrest⟩ := hstored
  obtain _ | ⟨⟨b, hb, hgoodbye⟩, -⟩ := hrest
  obtain ⟨hfirst, -⟩ := List.pairwise_cons.mp hordered
  have hu := ((hmem _).mp List.mem_cons_self).1
  have hw := ((hmem _).mp (List.mem_cons_of_mem _ List.mem_cons_self)).1
  exact hafter _ hu _ hw a ha b hb hello hgoodbye (hfirst _ List.mem_cons_self)

end Program

end Crosswalk
