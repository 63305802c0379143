import Crosswalk.Proofs.Types.Closed
import Crosswalk.Proofs.Types.Index

/-!
# Interning, stable and canonical

A table is asked for entries and answers where they stand. What it is asked for goes by several
names, one for each sort of entry (`TypeRequest`), but each comes to interning an entry; only
`error` takes two, since its declaration mentions its interface.

A table with an index can come about in two ways. Its entries are loaded, possibly with repetitions,
of which the index notes the first; or they are added one by one, as they are asked for. What the
two ways have in common is that the index tells where an entry stands first
(`IndexedTable.Indexes`), and since an index that does so is determined by the entries, a table is
at any time the one that would be loaded from its entries (`IndexedTable.Indexes.load_kinds`).
That is why it makes no difference whether a table has been written and read again in between.
-/

namespace Crosswalk

/-- **What a table is asked for**, by the sort of entry. -/
inductive TypeRequest where
  /-- Any entry. -/
  | intern (kind : TypeKind)
  /-- A predeclared type. -/
  | basic (b : BasicType)
  /-- The predeclared type of texts. -/
  | string
  /-- The predeclared type of integers. -/
  | int
  /-- The predeclared type of truth values. -/
  | bool
  /-- A pointer. -/
  | pointer (elem : TypeId)
  /-- A slice. -/
  | slice (elem : TypeId)
  /-- An array. -/
  | array (elem : TypeId) (length : Nat)
  /-- A map. -/
  | map (key value : TypeId)
  /-- The interface without methods. -/
  | emptyInterface
  /-- A struct without embedded fields. -/
  | record (fields : List (String × TypeId))
  /-- A declared type. -/
  | named (package : Option String) (name : String) (underlying : TypeId)
  /-- The predeclared type `error`. -/
  | error
  /-- A function type. -/
  | signature (params results : List TypeId) (variadic : Bool)
  /-- The results of a call that has several. -/
  | tuple (elems : List TypeId)
deriving DecidableEq, Repr

namespace TypeRequest

variable {σ τ : Type} {intern : σ → TypeKind → TypeId × σ} {intern' : τ → TypeKind → TypeId × τ}

/-- **How a request is served** by a table that interns entries. -/
def serve (intern : σ → TypeKind → TypeId × σ) (s : σ) : TypeRequest → TypeId × σ
  | .intern kind => intern s kind
  | .basic b => intern s (.basic b)
  | .string => intern s (.basic .string)
  | .int => intern s (.basic .int)
  | .bool => intern s (.basic .bool)
  | .pointer elem => intern s (.pointer elem)
  | .slice elem => intern s (.slice elem)
  | .array elem length => intern s (.array elem length)
  | .map key value => intern s (.map key value)
  | .emptyInterface => intern s (.interface [])
  | .record fields => intern s (TypeTable.plainStruct fields)
  | .named package name underlying => intern s (.named name package underlying)
  | .error =>
    let (under, s) := intern s (.interface ["Error"])
    intern s (.named "error" none under)
  | .signature params results variadic => intern s (.signature params results variadic)
  | .tuple elems => intern s (.tuple elems)

/-- Asking for `error` is what the table has a name for. -/
example (t : TypeTable) : error.serve TypeTable.intern t = t.internError := rfl

/-- The answers to requests that are made one after another, and the table in the end. -/
def serveAll (intern : σ → TypeKind → TypeId × σ) (s : σ) : List TypeRequest → List TypeId × σ
  | [] => ([], s)
  | r :: rs =>
    let (id, s) := r.serve intern s
    let (ids, s) := serveAll intern s rs
    (id :: ids, s)

/-- **A request is an entry that is interned**, or two where the second mentions the first. -/
theorem serve_cases (r : TypeRequest) :
    (∃ kind : TypeKind, ∀ {σ : Type} (intern : σ → TypeKind → TypeId × σ) (s : σ),
      r.serve intern s = intern s kind) ∨
    ∃ (first : TypeKind) (second : TypeId → TypeKind), ∀ {σ : Type}
      (intern : σ → TypeKind → TypeId × σ) (s : σ),
      r.serve intern s = intern (intern s first).2 (second (intern s first).1) := by
  cases r with
  | error => exact .inr ⟨.interface ["Error"], .named "error" none, fun _ _ => rfl⟩
  | _ => exact .inl ⟨_, fun _ _ => rfl⟩

/-- **Tables that intern alike serve alike**: the answers are the same, and the tables go on to
intern alike. -/
theorem serveAll_alike {R : σ → τ → Prop}
    (halike : ∀ s t kind, R s t → (intern s kind).1 = (intern' t kind).1 ∧
      R (intern s kind).2 (intern' t kind).2) {s : σ} {t : τ} (hR : R s t)
    (rs : List TypeRequest) :
    (serveAll intern s rs).1 = (serveAll intern' t rs).1 ∧
      R (serveAll intern s rs).2 (serveAll intern' t rs).2 := by
  induction rs generalizing s t with
  | nil => exact ⟨rfl, hR⟩
  | cons r rs ih =>
    have hone : (r.serve intern s).1 = (r.serve intern' t).1 ∧
        R (r.serve intern s).2 (r.serve intern' t).2 := by
      obtain ⟨kind, hserve⟩ | ⟨first, second, hserve⟩ := r.serve_cases
      · rw [hserve, hserve]
        exact halike s t kind hR
      · rw [hserve, hserve]
        obtain ⟨hid, hR⟩ := halike s t first hR
        rw [hid]
        exact halike _ _ _ hR
    obtain ⟨hids, hR⟩ := ih hone.2
    exact ⟨congrArg₂ List.cons hone.1 hids, hR⟩

/-- What interning an entry keeps up, requests do. -/
theorem serveAll_keeps {P : σ → Prop} (hkeeps : ∀ s kind, P s → P (intern s kind).2) {s : σ}
    (hs : P s) (rs : List TypeRequest) : P (serveAll intern s rs).2 := by
  have halike : ∀ s s' kind, s = s' ∧ P s → (intern s kind).1 = (intern s' kind).1 ∧
      (intern s kind).2 = (intern s' kind).2 ∧ P (intern s kind).2 := by
    rintro s _ kind ⟨rfl, hs⟩
    exact ⟨rfl, rfl, hkeeps s kind hs⟩
  exact (serveAll_alike (R := fun s s' => s = s' ∧ P s) halike ⟨rfl, hs⟩ rs).2.2

end TypeRequest

namespace IndexedTable

variable {t t' : IndexedTable} {kind : TypeKind} {id : TypeId}

/-- The table without its index. -/
def table (t : IndexedTable) : TypeTable := ⟨t.kinds⟩

/-- The answers to requests that are made one after another, and the table in the end. -/
abbrev serveAll (t : IndexedTable) (rs : List TypeRequest) : List TypeId × IndexedTable :=
  TypeRequest.serveAll intern t rs

/-! ## What interning leaves as it is -/

theorem intern_of_index (h : t.index kind = some id) : t.intern kind = (id, t) := by
  unfold intern
  rw [h]

theorem intern_of_index_none (h : t.index kind = none) : t.intern kind = (⟨t.kinds.size⟩,
    ⟨t.kinds.push kind, Function.update t.index kind (some ⟨t.kinds.size⟩)⟩) := by
  unfold intern
  rw [h]

/-- What is noted stays noted. -/
def Keeps (t t' : IndexedTable) : Prop :=
  ∀ kind id, t.index kind = some id → t'.index kind = some id

theorem keeps_intern (t : IndexedTable) (kind : TypeKind) : t.Keeps (t.intern kind).2 := by
  intro k id hk
  cases h : t.index kind with
  | some _ =>
    rw [intern_of_index h]
    exact hk
  | none =>
    rw [intern_of_index_none h]
    have hne : k ≠ kind := by
      rintro rfl
      cases hk.symm.trans h
    exact (Function.update_of_ne hne _ _).trans hk

/-- What was interned is noted where it was answered to be. -/
theorem index_intern (t : IndexedTable) (kind : TypeKind) :
    (t.intern kind).2.index kind = some (t.intern kind).1 := by
  cases h : t.index kind with
  | some _ =>
    rw [intern_of_index h]
    exact h
  | none =>
    rw [intern_of_index_none h]
    exact Function.update_self _ _ _

/-- **What was asked for once is found again**, and nothing is added for it. -/
theorem serve_again (r : TypeRequest) (h : (r.serve intern t).2.Keeps t') :
    r.serve intern t' = ((r.serve intern t).1, t') := by
  obtain ⟨kind, hserve⟩ | ⟨first, second, hserve⟩ := r.serve_cases
  · rw [hserve] at h ⊢
    rw [hserve, intern_of_index (h _ _ (index_intern t kind))]
  · rw [hserve] at h ⊢
    have hfirst := h _ _ (keeps_intern _ _ _ _ (index_intern t first))
    rw [hserve, intern_of_index hfirst, intern_of_index (h _ _ (index_intern _ _))]

theorem growsTo_intern (t : IndexedTable) (kind : TypeKind) :
    t.table.GrowsTo (t.intern kind).2.table := by
  cases h : t.index kind with
  | some _ =>
    rw [intern_of_index h]
    exact .refl _
  | none =>
    rw [intern_of_index_none h]
    exact TypeTable.growsTo_push t.table kind

namespace Indexes

/-- **The index is determined by the entries.** -/
theorem load_kinds (h : t.Indexes) : load t.kinds = t := by
  have hindex : (load t.kinds).index = t.index :=
    funext (fun kind => (indexes_load t.kinds kind).trans (h kind).symm)
  cases t
  exact congrArg (mk _) hindex

theorem index_eq_none_iff (h : t.Indexes) : t.index kind = none ↔ kind ∉ t.kinds := by
  rw [h kind, Option.map_eq_none_iff, Array.findIdx?_eq_none_iff]
  constructor
  · intro hnone hmem
    simpa using hnone kind hmem
  · rintro hmem k hk
    exact decide_eq_false (fun heq => hmem (heq ▸ hk))

/-- **The position answered is the first** at which the entry stands. -/
theorem first_intern (h : t.Indexes) (kind : TypeKind) :
    (t.intern kind).2.table.kind? (t.intern kind).1 = some kind ∧
      ∀ id, id.index < (t.intern kind).1.index → (t.intern kind).2.table.kind? id ≠ some kind := by
  have hindex := (h.intern kind kind).symm.trans (index_intern t kind)
  obtain ⟨i, hi, hanswer⟩ := Option.map_eq_some_iff.mp hindex
  obtain ⟨hlt, heq, hbefore⟩ := Array.findIdx?_eq_some_iff_getElem.mp hi
  rw [← hanswer]
  refine ⟨Array.getElem?_eq_some_iff.mpr ⟨hlt, of_decide_eq_true heq⟩, fun id hid hk => ?_⟩
  obtain ⟨_, hsame⟩ := Array.getElem?_eq_some_iff.mp hk
  exact hbefore id.index hid (decide_eq_true hsame)

/-- An entry is added where it is missing, and nowhere else. -/
theorem kinds_intern (h : t.Indexes) (kind : TypeKind) :
    (t.intern kind).2.kinds = if kind ∈ t.kinds then t.kinds else t.kinds.push kind := by
  split
  · rename_i hmem
    cases hindex : t.index kind with
    | some id => rw [intern_of_index hindex]
    | none => exact absurd hmem (h.index_eq_none_iff.mp hindex)
  · rename_i hmem
    rw [intern_of_index_none (h.index_eq_none_iff.mpr hmem)]

theorem nodup_intern (h : t.Indexes) (hnodup : t.kinds.toList.Nodup) (kind : TypeKind) :
    (t.intern kind).2.kinds.toList.Nodup := by
  rw [h.kinds_intern kind]
  split
  · exact hnodup
  · rename_i hmem
    rw [Array.toList_push, List.nodup_append_comm]
    exact List.nodup_cons.mpr ⟨fun hin => hmem (Array.mem_toList_iff.mp hin), hnodup⟩

theorem serveAll (h : t.Indexes) (rs : List TypeRequest) : (t.serveAll rs).2.Indexes :=
  TypeRequest.serveAll_keeps (P := Indexes) (fun _ kind hs => hs.intern kind) h rs

/-- **Searching the entries comes to the same** as asking the index. -/
theorem serveAll_table (h : t.Indexes) (rs : List TypeRequest) :
    TypeRequest.serveAll TypeTable.intern t.table rs =
      ((t.serveAll rs).1, (t.serveAll rs).2.table) := by
  have halike : ∀ (s : IndexedTable) (u : TypeTable) kind, s.Indexes ∧ u = s.table →
      (s.intern kind).1 = (u.intern kind).1 ∧
        (s.intern kind).2.Indexes ∧ (u.intern kind).2 = (s.intern kind).2.table := by
    rintro s _ kind ⟨hs, rfl⟩
    obtain ⟨hid, hkinds⟩ := hs.intern_eq kind
    exact ⟨hid, hs.intern kind, congrArg TypeTable.mk hkinds.symm⟩
  obtain ⟨hids, -, htable⟩ := TypeRequest.serveAll_alike halike ⟨h, rfl⟩ rs
  exact Prod.ext hids.symm htable

end Indexes

/-- **Interning is stable and canonical** in a table. -/
structure Canonical (t : IndexedTable) : Prop where
  /-- Whatever is asked for, an entry stays where it is. -/
  stays : ∀ rs, t.table.GrowsTo (t.serveAll rs).2.table
  /-- An entry is answered to be where it stands first, -/
  first : ∀ kind, (t.intern kind).2.table.kind? (t.intern kind).1 = some kind ∧
    ∀ id, id.index < (t.intern kind).1.index → (t.intern kind).2.table.kind? id ≠ some kind
  /-- and it is added at the end if it is missing. -/
  adds : ∀ kind, (t.intern kind).2.kinds = if kind ∈ t.kinds then t.kinds else t.kinds.push kind
  /-- What has been asked for once is answered as before, and nothing is added for it. -/
  again : ∀ r rs, r.serve intern (t.serveAll (r :: rs)).2 =
    ((r.serve intern t).1, (t.serveAll (r :: rs)).2)
  /-- The table that is loaded from the entries serves as this one does, -/
  reloads : ∀ rs, (load t.kinds).serveAll rs = t.serveAll rs
  /-- and so does the one that has no index. -/
  searches : ∀ rs, TypeRequest.serveAll TypeTable.intern t.table rs =
    ((t.serveAll rs).1, (t.serveAll rs).2.table)

theorem Indexes.canonical (h : t.Indexes) : t.Canonical where
  stays := TypeRequest.serveAll_keeps (P := fun s => t.table.GrowsTo s.table)
    (fun s kind hs => hs.trans (growsTo_intern s kind)) (.refl _)
  first := h.first_intern
  adds := h.kinds_intern
  again r rs := serve_again r (TypeRequest.serveAll_keeps
    (P := fun s => (r.serve IndexedTable.intern t).2.Keeps s)
    (fun s kind hs k id hk => keeps_intern s kind k id (hs k id hk)) (fun _ _ hk => hk) rs)
  reloads rs := by rw [h.load_kinds]
  searches := h.serveAll_table

/-- **Interning is stable and canonical**, however a table came about: loaded from entries with any
repetitions, and asked for whatever else since. A table that began without entries never holds one
entry twice. -/
theorem interning_canonical (kinds : Array TypeKind) (rs : List TypeRequest) :
    ((load kinds).serveAll rs).2.Canonical ∧ ((load #[]).serveAll rs).2.kinds.toList.Nodup := by
  refine ⟨((indexes_load kinds).serveAll rs).canonical, ?_⟩
  have hnodup := TypeRequest.serveAll_keeps
    (P := fun s : IndexedTable => s.Indexes ∧ s.kinds.toList.Nodup)
    (fun _ kind hs => ⟨hs.1.intern kind, hs.1.nodup_intern hs.2 kind⟩)
    ⟨indexes_load #[], List.nodup_nil⟩ rs
  exact hnodup.2

/-- Of two entries for one type the first is answered, but a pointer to the second is another entry
than a pointer to the first. -/
example : ((load #[.basic .string, .basic .string, .pointer ⟨1⟩]).serveAll
    [.string, .pointer ⟨0⟩, .pointer ⟨1⟩, .error, .error]).1 = [⟨0⟩, ⟨3⟩, ⟨2⟩, ⟨5⟩, ⟨5⟩] := by
  decide

end IndexedTable

end Crosswalk
