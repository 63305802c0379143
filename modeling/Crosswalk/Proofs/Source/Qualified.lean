import Crosswalk.Proofs.Source.Mentions

/-!
# How foreign types are named

Wherever a foreign named type is spelled, and however often, it is written as the identifier of
its package, a dot and its name. To say this, spelling is done over with the way foreign types
are written left open (`TypeTable.spelling`). Generated files are spelled in this one way
(`TypeTable.spelling_of_spell`), and what is left open makes a difference for those types only
that are mentioned (`TypeTable.spelling_congr`).
-/

namespace Crosswalk

/-- **What writing answers, if it answers**, is in `y`, whatever names are used up. -/
def Writing.Answers {α : Type} (x : Writing α) (y : Option α) : Prop :=
  ∀ names a names', x names = .ok a names' → y = some a

namespace Writing.Answers

variable {α β : Type}

theorem pure (a : α) : (Pure.pure a : Writing α).Answers (Pure.pure a) := by
  intro names b names' h
  rw [(pure_eq_ok_iff.mp h).1]
  rfl

theorem bind {x : Writing α} {y : Option α} {f : α → Writing β} {g : α → Option β}
    (h : x.Answers y) (hf : ∀ a, (f a).Answers (g a)) : (x >>= f).Answers (y >>= g) := by
  intro names b names' hb
  obtain ⟨a, between, ha, hb⟩ := bind_eq_ok_iff.mp hb
  obtain rfl := h _ _ _ ha
  exact hf a _ _ _ hb

theorem of_lookup (x : Lookup α) : (liftM x : Writing α).Answers x.toOption := by
  intro names a names' h
  rw [(liftM_eq_ok_iff.mp h).1]
  rfl

theorem importPackage (path : String) :
    (Writing.importPackage path).Answers (some (packageAlias path)) := by
  intro names text names' h
  rw [(TypeTable.importPackage_eq_ok h).1]

/-- Every member of a list in turn. -/
theorem mapM {f : α → Writing β} {g : α → Option β} (h : ∀ a, (f a).Answers (g a)) (as : List α) :
    (as.mapM f).Answers (as.mapM g) := by
  induction as with
  | nil => exact .pure []
  | cons a as ih =>
    rw [List.mapM_cons, List.mapM_cons]
    exact (h a).bind (fun _ => ih.bind (fun _ => .pure _))

theorem spellParams {spell : TypeId → Writing String} {spell' : TypeId → Option String}
    {rest : TypeId → Writing TypeId} {rest' : TypeId → Option TypeId}
    (h : ∀ p, (spell p).Answers (spell' p)) (hrest : ∀ p, (rest p).Answers (rest' p))
    (variadic : Bool) (params : List TypeId) :
    (Crosswalk.spellParams spell rest variadic params).Answers
      (Crosswalk.spellParams spell' rest' variadic params) := by
  induction params with
  | nil => exact .pure []
  | cons p params ih =>
    cases params with
    | nil =>
      cases variadic with
      | true => exact (hrest p).bind (fun e => (h e).bind (fun _ => .pure _))
      | false => exact (h p).bind (fun _ => .pure _)
    | cons q params => exact (h p).bind (fun _ => ih.bind (fun _ => .pure _))

end Writing.Answers

namespace TypeTable

variable (t : TypeTable) (home : String) (write : String → String → String)

/-- The descent of `spelling`, to at most the given depth. -/
def spellingTo : Nat → TypeId → Option String
  | 0, _ => none
  | n + 1, id =>
    match t.kind? id with
    | none => none
    | some (.basic .untypedNil) => none
    | some (.basic b) => return b.spelling
    | some (.named name none _) => return name
    | some (.named name (some package) _) =>
      return if package = home then name else write package name
    | some (.pointer elem) => return "*" ++ (← spellingTo n elem)
    | some (.slice elem) => return "[]" ++ (← spellingTo n elem)
    | some (.array elem length) => return "[" ++ toString length ++ "]" ++ (← spellingTo n elem)
    | some (.map key value) => do
      let key ← spellingTo n key
      return "map[" ++ key ++ "]" ++ (← spellingTo n value)
    | some (.struct fields) => do
      let spelled ← fields.mapM (fun f => do
        let type ← spellingTo n f.type
        return if f.embedded then type else f.name ++ " " ++ type)
      return "struct\x7b " ++ String.intercalate "; " spelled ++ " \x7d"
    | some (.interface methods) => if methods.isEmpty then return "interface\x7b\x7d" else none
    | some (.signature params results variadic) => do
      let ps ← spellParams (spellingTo n) (fun p => (t.restElem p).toOption) variadic params
      return functionSpelling ps (← results.mapM (spellingTo n))
    | some (.tuple _) => none

/-- **The spelling of a type when foreign types are written by `write`**, if there is one. -/
def spelling (id : TypeId) : Option String := t.spellingTo home write (t.size + 1) id

variable {t home write} {names names' : Names} {id : TypeId} {text : String}

theorem spellTo_answers (n : Nat) (id : TypeId) :
    (t.spellTo home n id).Answers (t.spellingTo home qualified n id) := by
  induction n generalizing id with
  | zero => exact fun _ _ _ h => nomatch h
  | succ n ih =>
    have hunsupported : (t.unsupported id : Writing String).Answers none :=
      fun _ _ _ h => absurd h unsupported_ne_ok
    rw [spellTo, spellingTo]
    cases hk : t.kind? id with
    | none => exact hunsupported
    | some k =>
      cases k with
      | basic b =>
        cases b with
        | untypedNil => exact hunsupported
        | _ => exact .pure _
      | named name package underlying =>
        cases package with
        | none => exact .pure _
        | some package =>
          by_cases hhome : package = home
          · simp only [if_pos hhome]
            exact .pure _
          · simp only [if_neg hhome]
            have hwritten := (Writing.Answers.importPackage package).bind
              (fun called => .pure (called ++ "." ++ name))
            exact hwritten
      | pointer elem | slice elem | array elem length => exact (ih elem).bind (fun _ => .pure _)
      | map key value => exact (ih key).bind (fun _ => (ih value).bind (fun _ => .pure _))
      | struct fields =>
        refine (Writing.Answers.mapM (fun f => ?_) fields).bind (fun _ => .pure _)
        exact (ih f.type).bind (fun _ => .pure _)
      | interface methods =>
        dsimp only
        split
        · exact .pure _
        · exact hunsupported
      | signature params results variadic =>
        refine (Writing.Answers.spellParams ih (fun p => .of_lookup _) variadic params).bind
          (fun _ => ?_)
        exact (Writing.Answers.mapM ih results).bind (fun _ => .pure _)
      | tuple elems => exact hunsupported

/-- **Each foreign type is written by the identifier of its package**, wherever it stands. -/
theorem spelling_of_spell (h : t.spell home id names = .ok text names') :
    t.spelling home qualified id = some text :=
  spellTo_answers _ id _ _ _ h

/-! ## The foreign types that are written -/

variable {write' : String → String → String}

theorem mapM_congr {α β : Type} {f g : α → Option β} (as : List α) (h : ∀ a ∈ as, f a = g a) :
    as.mapM f = as.mapM g := by
  induction as with
  | nil => rfl
  | cons a as ih =>
    obtain ⟨hfirst, hrest⟩ := List.forall_mem_cons.mp h
    rw [List.mapM_cons, List.mapM_cons, hfirst, ih hrest]

theorem spellParams_congr {spell spell' : TypeId → Option String} {variadic : Bool}
    {params : List TypeId} (h : ∀ b, t.ShownParam variadic params b → spell b = spell' b) :
    spellParams spell (fun p => (t.restElem p).toOption) variadic params
      = spellParams spell' (fun p => (t.restElem p).toOption) variadic params := by
  induction params with
  | nil => rfl
  | cons p params ih =>
    cases params with
    | nil =>
      cases variadic with
      | false =>
        have hp : spell p = spell' p := h p (by simp [ShownParam])
        simp only [spellParams, Bool.false_eq_true, if_false, hp]
      | true =>
        simp only [spellParams, if_true]
        cases he : t.restElem p with
        | error fault => rfl
        | ok elem =>
          have helem : spell elem = spell' elem := h elem (by simp [ShownParam, he])
          show (spell elem >>= fun text => pure ["..." ++ text]) = _
          rw [helem]
          rfl
    | cons q params =>
      have hp : spell p = spell' p := h p (by cases variadic <;> simp [ShownParam])
      have hrest := ih (fun b hb => h b (shownParam_cons_cons.mpr (.inr hb)))
      rw [spellParams, spellParams, hp, hrest]

theorem spellingTo_congr {n : Nat} (h : ∀ package name, t.Mentions home id package name →
    write package name = write' package name) :
    t.spellingTo home write n id = t.spellingTo home write' n id := by
  induction n generalizing id with
  | zero => rfl
  | succ n ih =>
    have hshown : ∀ k, t.kind? id = some k → k.IsBare → ∀ b, t.ShownIn k b →
        t.spellingTo home write n b = t.spellingTo home write' n b := by
      intro k hk hbare b hb
      refine ih (fun package name hm => h package name ?_)
      exact (mentions_iff_of_isBare hk hbare).mpr ⟨b, hb, hm⟩
    rw [spellingTo, spellingTo]
    cases hk : t.kind? id with
    | none => rfl
    | some k =>
      have hpart := hshown k hk
      cases k with
      | basic b => cases b <;> rfl
      | named name package underlying =>
        cases package with
        | none => rfl
        | some package =>
          by_cases hhome : package = home
          · simp only [if_pos hhome]
          · simp only [if_neg hhome]
            rw [h package name ((mentions_iff_of_named hk).mpr ⟨hhome, rfl, rfl⟩)]
      | pointer elem | slice elem | array elem length =>
        dsimp only
        rw [hpart rfl elem (by simp [ShownIn, TypeKind.parts])]
      | map key value =>
        dsimp only
        rw [hpart rfl key (by simp [ShownIn, TypeKind.parts]),
          hpart rfl value (by simp [ShownIn, TypeKind.parts])]
      | struct fields =>
        have hfields := mapM_congr fields
          (f := fun f => t.spellingTo home write n f.type >>= fun type =>
            pure (if f.embedded then type else f.name ++ " " ++ type))
          (g := fun f => t.spellingTo home write' n f.type >>= fun type =>
            pure (if f.embedded then type else f.name ++ " " ++ type))
          (fun f hf => by rw [hpart rfl f.type (List.mem_map_of_mem hf)])
        dsimp only
        rw [hfields]
      | interface methods => rfl
      | signature params results variadic =>
        have hparams := spellParams_congr (fun b hb => hpart rfl b (.inl hb))
        have hresults := mapM_congr results (fun b hb => hpart rfl b (.inr hb))
        dsimp only
        rw [hparams, hresults]
      | tuple elems => rfl

/-- **Only those foreign types are written that are mentioned.** -/
theorem spelling_congr (h : ∀ package name, t.Mentions home id package name →
    write package name = write' package name) :
    t.spelling home write id = t.spelling home write' id :=
  spellingTo_congr h

end TypeTable

end Crosswalk
