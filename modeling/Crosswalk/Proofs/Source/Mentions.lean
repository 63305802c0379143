import Crosswalk.Proofs.Source.Writing
import Crosswalk.Proofs.Types.Shown
import Mathlib.Data.Set.Lattice

/-!
# What the spelling of a type mentions

A type is spelled from what stands in it, and nothing of a named type is spelled but its name.
So the packages a file comes to import on the way are those of the named types that are met
when one descends into literals, unless they are the package that is generated
(`TypeTable.Mentions`). It is these and no others, each stands in the text under the identifier
of its package, and no identifier stands for two packages (`TypeTable.spellTo_eq_ok`).

Two steps of the descent are not into a part. The last parameter of a variadic function is not
spelled as it is declared but by what it takes any number of, and a declaration is not entered
at all.
-/

namespace Crosswalk

/-! ## Imports that grow -/

namespace Imports

variable {i i' i'' : Imports} {added more : Set String} {path : String}

/-- **No two packages go by one name.** -/
def Apart (i : Imports) : Prop := i.paths.Pairwise (fun p q => packageAlias p ≠ packageAlias q)

/-- **Packages are imported besides**: just these, and none under a name that is taken. -/
structure Grows (added : Set String) (i i' : Imports) : Prop where
  /-- What is imported. -/
  mem : ∀ path, path ∈ i'.paths ↔ path ∈ i.paths ∨ path ∈ added
  /-- Names stay apart. -/
  apart : i.Apart → i'.Apart

theorem Grows.refl (i : Imports) : Grows ∅ i i := ⟨by simp, id⟩

theorem Grows.trans (h : Grows added i i') (h' : Grows more i' i'') :
    Grows (added ∪ more) i i'' :=
  ⟨fun path => by rw [h'.mem, h.mem, Set.mem_union, or_assoc], fun hi => h'.apart (h.apart hi)⟩

theorem insertPath_perm (path : String) (paths : List String) :
    (insertPath path paths).Perm (path :: paths) := by
  induction paths with
  | nil => exact .refl _
  | cons p ps ih =>
    unfold insertPath
    split
    · exact .refl _
    · exact (ih.cons p).trans (.swap path p ps)

/-- **Importing a package** succeeds only if its name is not taken. -/
theorem grows_of_add (h : i.add path = .ok i') : Grows {path} i i' := by
  unfold add at h
  split at h
  · rename_i hmem
    obtain rfl := Except.ok.inj h
    refine ⟨fun p => ?_, id⟩
    rw [Set.mem_singleton_iff, or_iff_left_of_imp]
    rintro rfl
    exact hmem
  · split at h
    · cases h
    · rename_i hfind
      obtain rfl := Except.ok.inj h
      have hfree : ∀ p ∈ i.paths, packageAlias p ≠ packageAlias path := by simpa using hfind
      have hperm := insertPath_perm path i.paths
      refine ⟨fun p => ?_, fun hi => ?_⟩
      · rw [hperm.mem_iff, List.mem_cons, Set.mem_singleton_iff, or_comm]
      · refine (hperm.pairwise_iff Ne.symm).mpr (List.pairwise_cons.mpr ⟨?_, hi⟩)
        exact fun p hp => (hfree p hp).symm

end Imports

/-- **A foreign type as it is written**: the identifier of its package, a dot and its name. -/
def qualified (package name : String) : String := packageAlias package ++ "." ++ name

namespace TypeTable

variable {t : TypeTable} {home package name text : String} {id a b : TypeId} {k : TypeKind}
  {S T : Set TypeId}
  {names names' names'' : Names} {texts texts' : List String}

/-! ## What is mentioned -/

/-- A named type that is declared outside of the package that is generated. -/
def Foreign (t : TypeTable) (home package name : String) (id : TypeId) : Prop :=
  package ≠ home ∧ ∃ underlying, t.kind? id = some (.named name (some package) underlying)

/-- **A foreign named type is spelled in the type.** -/
def Mentions (t : TypeTable) (home : String) (id : TypeId) (package name : String) : Prop :=
  ∃ b, Relation.ReflTransGen t.Shows id b ∧ t.Foreign home package name b

/-- What is mentioned is the type itself or in what stands in it. -/
theorem mentions_iff : t.Mentions home id package name ↔
    t.Foreign home package name id ∨ ∃ b, t.Shows id b ∧ t.Mentions home b package name := by
  constructor
  · rintro ⟨b, hb, hforeign⟩
    rcases hb.cases_head with rfl | ⟨c, hc, hb⟩
    · exact .inl hforeign
    · exact .inr ⟨c, hc, b, hb, hforeign⟩
  · rintro (h | ⟨b, hb, c, hc, hforeign⟩)
    · exact ⟨id, .refl, h⟩
    · exact ⟨c, .head hb hc, hforeign⟩

/-- What is not named mentions what is mentioned in what it shows. -/
theorem mentions_iff_of_isBare (hk : t.kind? id = some k) (hbare : k.IsBare) :
    t.Mentions home id package name ↔ ∃ b, t.ShownIn k b ∧ t.Mentions home b package name := by
  have hlocal : ¬ t.Foreign home package name id := by
    rintro ⟨-, u, hu⟩
    obtain rfl := Option.some.inj (hk.symm.trans hu)
    cases hbare
  rw [mentions_iff, or_iff_right hlocal]
  constructor
  · rintro ⟨b, ⟨k', hk', hb⟩, hm⟩
    obtain rfl := Option.some.inj (hk.symm.trans hk')
    exact ⟨b, hb, hm⟩
  · rintro ⟨b, hb, hm⟩
    exact ⟨b, ⟨k, hk, hb⟩, hm⟩

/-- What is named mentions itself at most. -/
theorem mentions_iff_of_named {declared : String} {declaredIn : Option String} {u : TypeId}
    (hk : t.kind? id = some (.named declared declaredIn u)) :
    t.Mentions home id package name ↔
      package ≠ home ∧ declaredIn = some package ∧ declared = name := by
  have hshows : ∀ b, ¬ t.Shows id b := by
    rintro b ⟨k, hk', hb⟩
    obtain rfl := Option.some.inj (hk.symm.trans hk')
    exact hb
  rw [mentions_iff]
  simp [hshows, Foreign, hk, and_comm]

/-- The packages of what some types mention. -/
def packagesOf (t : TypeTable) (home : String) (S : Set TypeId) : Set String :=
  {package | ∃ a ∈ S, ∃ name, t.Mentions home a package name}

theorem packagesOf_union :
    t.packagesOf home (S ∪ T) = t.packagesOf home S ∪ t.packagesOf home T := by
  ext package
  simp only [packagesOf, Set.mem_union, Set.mem_ofPred_eq, or_and_right, exists_or]

/-- **What is left behind by spelling some types**: their packages are imported, no number is
used up, and what they mention stands in one of the texts. -/
structure Spells (t : TypeTable) (home : String) (S : Set TypeId) (names : Names)
    (texts : List String) (names' : Names) : Prop where
  /-- The imports. -/
  imports : names.imports.Grows (t.packagesOf home S) names'.imports
  /-- The number of the next temporary variable. -/
  nextTemp : names'.nextTemp = names.nextTemp
  /-- The texts. -/
  occurs : ∀ a ∈ S, ∀ package name, t.Mentions home a package name →
    ∃ text ∈ texts, Occurs (qualified package name) text

namespace Spells

/-- Nothing is spelled. -/
theorem nothing (names : Names) (texts : List String) : t.Spells home ∅ names texts names := by
  refine ⟨?_, rfl, by simp⟩
  have hempty : t.packagesOf home ∅ = ∅ := by simp [packagesOf]
  rw [hempty]
  exact .refl _

/-- Texts one after another. -/
theorem append (h : t.Spells home S names texts names')
    (h' : t.Spells home T names' texts' names'') :
    t.Spells home (S ∪ T) names (texts ++ texts') names'' := by
  refine ⟨?_, h'.nextTemp.trans h.nextTemp, fun a ha package name hm => ?_⟩
  · rw [packagesOf_union]
    exact h.imports.trans h'.imports
  · rcases ha with ha | ha
    · obtain ⟨text, htext, hocc⟩ := h.occurs a ha package name hm
      exact ⟨text, List.mem_append_left _ htext, hocc⟩
    · obtain ⟨text, htext, hocc⟩ := h'.occurs a ha package name hm
      exact ⟨text, List.mem_append_right _ htext, hocc⟩

/-- What the texts are put into. -/
theorem into (h : t.Spells home S names texts names')
    (hin : ∀ text ∈ texts, ∃ text' ∈ texts', Occurs text text') :
    t.Spells home S names texts' names' := by
  refine ⟨h.imports, h.nextTemp, fun a ha package name hm => ?_⟩
  obtain ⟨text, htext, hocc⟩ := h.occurs a ha package name hm
  obtain ⟨text', htext', hocc'⟩ := hin text htext
  exact ⟨text', htext', hocc.trans hocc'⟩

/-- **A type that is not named** is spelled from what it shows. -/
theorem of_isBare (hk : t.kind? id = some k) (hbare : k.IsBare)
    (h : t.Spells home {b | t.ShownIn k b} names texts names')
    (hin : ∀ inner ∈ texts, Occurs inner text) : t.Spells home {id} names [text] names' := by
  have hmentions : ∀ package name, t.Mentions home id package name ↔
      ∃ b, t.ShownIn k b ∧ t.Mentions home b package name :=
    fun package name => mentions_iff_of_isBare hk hbare
  refine ⟨?_, h.nextTemp, ?_⟩
  · have hsame : t.packagesOf home {id} = t.packagesOf home {b | t.ShownIn k b} := by
      ext package
      simp only [packagesOf, Set.mem_singleton_iff, exists_eq_left, Set.mem_ofPred_eq, hmentions]
      exact ⟨fun ⟨name, b, hb, hm⟩ => ⟨b, hb, name, hm⟩, fun ⟨b, hb, name, hm⟩ => ⟨name, b, hb, hm⟩⟩
    rw [hsame]
    exact h.imports
  · rintro a rfl package name hm
    obtain ⟨b, hb, hm⟩ := (hmentions package name).mp hm
    obtain ⟨inner, hinner, hocc⟩ := h.occurs b hb package name hm
    exact ⟨text, List.mem_cons_self, hocc.trans (hin inner hinner)⟩

/-- A type that shows no other. -/
theorem of_leaf (hk : t.kind? id = some k) (hbare : k.IsBare) (hshown : ∀ b, ¬ t.ShownIn k b)
    (names : Names) (text : String) : t.Spells home {id} names [text] names := by
  have hempty : {b | t.ShownIn k b} = ∅ := by
    ext b
    simp [hshown]
  have hnothing : t.Spells home {b | t.ShownIn k b} names [] names := by
    rw [hempty]
    exact nothing names []
  exact .of_isBare hk hbare hnothing nofun

/-- A named type that is not foreign mentions nothing. -/
theorem of_local {declared : String} {declaredIn : Option String} {u : TypeId}
    (hk : t.kind? id = some (.named declared declaredIn u))
    (hlocal : ∀ package, declaredIn = some package → package = home) (names : Names)
    (text : String) : t.Spells home {id} names [text] names := by
  have hmentions : ∀ package name, ¬ t.Mentions home id package name := by
    intro package name hm
    obtain ⟨hne, hin, -⟩ := (mentions_iff_of_named hk).mp hm
    exact hne (hlocal package hin)
  have hempty : t.packagesOf home {id} = ∅ := by
    ext package
    simp [packagesOf, hmentions]
  refine ⟨?_, rfl, ?_⟩
  · rw [hempty]
    exact .refl _
  · rintro a rfl package name hm
    exact absurd hm (hmentions package name)

/-- **A foreign named type** is spelled by its name, after the name its package goes by. -/
theorem of_foreign {u : TypeId} (hk : t.kind? id = some (.named name (some package) u))
    (hforeign : package ≠ home) (hgrows : names.imports.Grows {package} names'.imports)
    (htemp : names'.nextTemp = names.nextTemp) :
    t.Spells home {id} names [qualified package name] names' := by
  have hmentions : ∀ p n, t.Mentions home id p n ↔ package = p ∧ name = n := by
    intro p n
    rw [mentions_iff_of_named hk, Option.some.injEq]
    refine ⟨fun h => h.2, fun h => ⟨?_, h⟩⟩
    exact h.1 ▸ hforeign
  refine ⟨?_, htemp, ?_⟩
  · have hset : t.packagesOf home {id} = {package} := by
      ext p
      simp [packagesOf, hmentions, eq_comm]
    rw [hset]
    exact hgrows
  · rintro a rfl p n hm
    obtain ⟨rfl, rfl⟩ := (hmentions p n).mp hm
    exact ⟨_, List.mem_cons_self, .refl _⟩

/-- **What is of given types, one after another.** -/
theorem mapM {α : Type} (type : α → TypeId) {f : α → Writing String} {as : List α}
    (hf : ∀ a ∈ as, ∀ names text names', f a names = .ok text names' →
      t.Spells home {type a} names [text] names')
    (h : as.mapM f names = .ok texts names') :
    t.Spells home {id | id ∈ as.map type} names texts names' := by
  induction as generalizing names texts with
  | nil =>
    rw [List.mapM_nil] at h
    obtain ⟨rfl, rfl⟩ := Writing.pure_eq_ok_iff.mp h
    simpa using nothing (t := t) names []
  | cons a as ih =>
    rw [List.mapM_cons] at h
    obtain ⟨text, between, htext, h⟩ := Writing.bind_eq_ok_iff.mp h
    obtain ⟨rest, between', hrest, h⟩ := Writing.bind_eq_ok_iff.mp h
    obtain ⟨rfl, rfl⟩ := Writing.pure_eq_ok_iff.mp h
    have hfirst := hf a List.mem_cons_self _ _ _ htext
    have hset : {id | id ∈ (a :: as).map type} = {type a} ∪ {id | id ∈ as.map type} := by
      ext id
      simp
    rw [hset]
    exact hfirst.append (ih (fun b hb => hf b (List.mem_cons_of_mem a hb)) hrest)

/-- **The parameters of a function.** The last one of a variadic function is spelled by what it
takes any number of. -/
theorem params {spell : TypeId → Writing String} {variadic : Bool} {params : List TypeId}
    (hspell : ∀ id names text names', spell id names = .ok text names' →
      t.Spells home {id} names [text] names')
    (h : spellParams spell (fun p => liftM (t.restElem p)) variadic params names
      = .ok texts names') :
    t.Spells home {id | t.ShownParam variadic params id} names texts names' := by
  induction params generalizing names texts with
  | nil =>
    obtain ⟨rfl, rfl⟩ := Writing.pure_eq_ok_iff.mp h
    simpa [ShownParam] using nothing (t := t) names []
  | cons p params ih =>
    cases params with
    | nil =>
      unfold spellParams at h
      split at h
      · rename_i hvariadic
        obtain ⟨elem, between, hlookup, h⟩ := Writing.bind_eq_ok_iff.mp h
        obtain ⟨helem, rfl⟩ := Writing.liftM_eq_ok_iff.mp hlookup
        obtain ⟨text, between', htext, h⟩ := Writing.bind_eq_ok_iff.mp h
        obtain ⟨rfl, rfl⟩ := Writing.pure_eq_ok_iff.mp h
        have hset : {id | t.ShownParam variadic [p] id} = {elem} := by
          ext id
          simp only [ShownParam, hvariadic, if_true, List.dropLast_singleton, List.not_mem_nil,
            false_or, List.getLast?_singleton, Option.some.injEq, exists_eq_left', helem,
            Except.ok.injEq, Set.mem_ofPred_eq, Set.mem_singleton_iff]
          exact eq_comm
        rw [hset]
        refine (hspell _ _ _ _ htext).into (fun text' htext' => ⟨_, List.mem_cons_self, ?_⟩)
        obtain rfl := List.mem_singleton.mp htext'
        exact (Occurs.refl _).append_left _
      · rename_i hplain
        obtain ⟨text, between, htext, h⟩ := Writing.bind_eq_ok_iff.mp h
        obtain ⟨rfl, rfl⟩ := Writing.pure_eq_ok_iff.mp h
        have hset : {id | t.ShownParam variadic [p] id} = {p} := by
          ext id
          simp [ShownParam, hplain]
        rw [hset]
        exact hspell _ _ _ _ htext
    | cons q params =>
      obtain ⟨text, between, htext, h⟩ := Writing.bind_eq_ok_iff.mp h
      obtain ⟨rest, between', hrest, h⟩ := Writing.bind_eq_ok_iff.mp h
      obtain ⟨rfl, rfl⟩ := Writing.pure_eq_ok_iff.mp h
      have hset : {id | t.ShownParam variadic (p :: q :: params) id}
          = {p} ∪ {id | t.ShownParam variadic (q :: params) id} := by
        ext id
        cases variadic <;> simp [ShownParam, or_assoc]
      rw [hset]
      exact (hspell _ _ _ _ htext).append (ih hrest)

end Spells

/-- **Importing a package** answers the name it goes by. -/
theorem importPackage_eq_ok (h : Writing.importPackage package names = .ok text names') :
    text = packageAlias package ∧ names.imports.Grows {package} names'.imports ∧
      names'.nextTemp = names.nextTemp := by
  unfold Writing.importPackage at h
  split at h
  · rename_i imports himports
    obtain ⟨rfl, rfl⟩ := EStateM.Result.ok.inj h
    exact ⟨rfl, Imports.grows_of_add himports, rfl⟩
  · cases h

theorem unsupported_ne_ok :
    (t.unsupported id : Writing String) names ≠ .ok text names' := by
  intro h
  obtain ⟨shown, between, -, h⟩ := Writing.bind_eq_ok_iff.mp h
  cases h

/-- **Spelling a type** imports the packages of what it mentions, and no others, and what it
mentions stands in the text under the names of these packages. -/
theorem spellTo_eq_ok {n : Nat} (h : t.spellTo home n id names = .ok text names') :
    t.Spells home {id} names [text] names' := by
  induction n generalizing id names text names' with
  | zero => cases h
  | succ n ih =>
    -- a type that shows one other
    have hone : ∀ k b before, t.kind? id = some k → k.IsBare → (∀ c, t.ShownIn k c ↔ c = b) →
        (do return before ++ (← t.spellTo home n b) : Writing String) names = .ok text names' →
        t.Spells home {id} names [text] names' := by
      intro k b before hk hbare hshown h
      obtain ⟨inner, between, hinner, h⟩ := Writing.bind_eq_ok_iff.mp h
      obtain ⟨rfl, rfl⟩ := Writing.pure_eq_ok_iff.mp h
      have hset : {c | t.ShownIn k c} = {b} := by
        ext c
        exact hshown c
      refine .of_isBare hk hbare (hset ▸ ih hinner) ?_
      exact List.forall_mem_singleton.mpr ((Occurs.refl inner).append_left before)
    rw [spellTo] at h
    cases hk : t.kind? id with
    | none =>
      rw [hk] at h
      exact absurd h unsupported_ne_ok
    | some k =>
      rw [hk] at h
      cases k with
      | basic b =>
        cases b with
        | untypedNil => exact absurd h unsupported_ne_ok
        | _ =>
          obtain ⟨-, rfl⟩ := Writing.pure_eq_ok_iff.mp h
          exact .of_leaf hk rfl nofun names text
      | pointer elem => exact hone _ elem "*" hk rfl (fun _ => List.mem_singleton) h
      | slice elem => exact hone _ elem "[]" hk rfl (fun _ => List.mem_singleton) h
      | array elem length => exact hone _ elem _ hk rfl (fun _ => List.mem_singleton) h
      | named declared declaredIn underlying =>
        cases declaredIn with
        | none =>
          obtain ⟨-, rfl⟩ := Writing.pure_eq_ok_iff.mp h
          exact .of_local hk nofun names text
        | some declaredIn =>
          dsimp only at h
          split at h
          · rename_i hhome
            obtain ⟨-, rfl⟩ := Writing.pure_eq_ok_iff.mp h
            exact .of_local hk (fun p hp => Option.some.inj hp ▸ hhome) names text
          · rename_i hforeign
            obtain ⟨called, between, hcalled, h⟩ := Writing.bind_eq_ok_iff.mp h
            obtain ⟨rfl, rfl⟩ := Writing.pure_eq_ok_iff.mp h
            obtain ⟨rfl, hgrows, htemp⟩ := importPackage_eq_ok hcalled
            exact .of_foreign hk hforeign hgrows htemp
      | map key value =>
        obtain ⟨keyText, between, hkey, h⟩ := Writing.bind_eq_ok_iff.mp h
        obtain ⟨valueText, between', hvalue, h⟩ := Writing.bind_eq_ok_iff.mp h
        obtain ⟨rfl, rfl⟩ := Writing.pure_eq_ok_iff.mp h
        have hset : {b | t.ShownIn (.map key value) b} = {key} ∪ {value} := by
          ext b
          exact List.mem_pair
        refine .of_isBare hk rfl (hset ▸ (ih hkey).append (ih hvalue)) ?_
        refine List.forall_mem_cons.mpr ⟨?_, List.forall_mem_singleton.mpr ?_⟩
        · exact (((Occurs.refl keyText).append_left _).append_right _).append_right _
        · exact (Occurs.refl valueText).append_left _
      | struct fields =>
        obtain ⟨spelled, between, hspelled, h⟩ := Writing.bind_eq_ok_iff.mp h
        obtain ⟨rfl, rfl⟩ := Writing.pure_eq_ok_iff.mp h
        have hin : ∀ inner ∈ spelled, Occurs inner
            ("struct\x7b " ++ String.intercalate "; " spelled ++ " \x7d") := fun inner hinner =>
          (((Occurs.refl inner).of_mem hinner).append_left _).append_right _
        refine .of_isBare hk rfl
          (Spells.mapM Member.type (fun f _ names text names' hf => ?_) hspelled) hin
        obtain ⟨type, between, htype, hf⟩ := Writing.bind_eq_ok_iff.mp hf
        obtain ⟨rfl, rfl⟩ := Writing.pure_eq_ok_iff.mp hf
        refine (ih htype).into (List.forall_mem_singleton.mpr ⟨_, List.mem_cons_self, ?_⟩)
        split
        · exact .refl type
        · exact (Occurs.refl type).append_left _
      | interface methods =>
        dsimp only at h
        split at h
        · obtain ⟨-, rfl⟩ := Writing.pure_eq_ok_iff.mp h
          exact .of_leaf hk rfl nofun names text
        · exact absurd h unsupported_ne_ok
      | signature params results variadic =>
        obtain ⟨ps, between, hps, h⟩ := Writing.bind_eq_ok_iff.mp h
        obtain ⟨rs, between', hrs, h⟩ := Writing.bind_eq_ok_iff.mp h
        obtain ⟨rfl, rfl⟩ := Writing.pure_eq_ok_iff.mp h
        have hset : {b | t.ShownIn (.signature params results variadic) b}
            = {b | t.ShownParam variadic params b} ∪ {b | b ∈ results.map (fun r => r)} := by
          rw [List.map_id']
          rfl
        have hspells := (Spells.params (fun _ _ _ _ => ih) hps).append
          (Spells.mapM (fun r => r) (fun _ _ _ _ _ => ih) hrs)
        exact .of_isBare hk rfl (hset ▸ hspells) occurs_functionSpelling
      | tuple elems => exact absurd h unsupported_ne_ok

end TypeTable

end Crosswalk
