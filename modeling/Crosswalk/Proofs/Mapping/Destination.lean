import Crosswalk.Proofs.Mapping.Variables

/-!
# Who sees what is written to a destination

A destination is read back to the value that it comes from. Either the function makes that
value, or it is given it, and then what is written has to reach the giver. The check looks at
the type of what was handed to the marker, which need not be the type of the parameter: loads
on the way take pointers off, and a local puts its own type in the place of the type of what
it holds.

Taking a pointer off never makes a type one through which a giver sees, so the check is
enough wherever a local on the way is typed as a place for what it holds, and is passed by
what it holds (`Scope.Reads`). Whoever passes the address of such a local passes a pointer of
his own, of which the giver knows nothing.
-/

namespace Crosswalk

/-! ## Types through which a giver sees -/

namespace TypeTable

variable {t : TypeTable} {id pointee : TypeId}

theorem isReferenceShaped_of_pointer (hk : t.kind? id = some (.pointer pointee)) :
    t.isReferenceShaped id = .ok true := by
  have hpeel : t.peelNames id = .ok ⟨[], id⟩ := by
    unfold peelNames
    rw [peelNamesUpTo, kind_of_kind? hk]
    rfl
  unfold isReferenceShaped
  rw [hpeel, ok_bind, kind_of_kind? hk]
  rfl

/-- **A giver who sees through the pointee sees through the pointer.** -/
theorem isReferenceShaped_of_deref (hderef : t.deref id = .ok pointee)
    (h : t.isReferenceShaped pointee = .ok true) : t.isReferenceShaped id = .ok true := by
  obtain ⟨found, hfound, hderef⟩ := bind_eq_ok_iff.mp hderef
  obtain rfl := Except.ok.inj hderef
  obtain ⟨k, hk, -⟩ := bind_eq_ok_iff.mp hfound
  rw [kind_eq_ok_iff] at hk
  obtain rfl := Except.ok.inj ((pointee_of_kind? hk).symm.trans hfound)
  cases hpointee : k.pointee? with
  | none =>
    rw [hpointee] at h
    exact h
  | some e =>
    obtain rfl := TypeKind.pointee?_eq_some hpointee
    exact isReferenceShaped_of_pointer hk

end TypeTable

/-! ## Where a destination comes from -/

namespace Scope

variable {s : Scope} {v w : ValueId} {n : Nat} {b : Binding} {type : TypeId}

/-- **Whether a function made what a variable holds** is told by the value at the end of its
chain. -/
theorem ReadAs.exists_end (h : s.ReadAs v b) :
    ∃ w, Relation.ReflTransGen s.Link v w ∧
      (b.constructed = true ∧ s.Made w ∨ b.constructed = false ∧ s.Given w) := by
  induction h with
  | constant hv => exact ⟨_, .refl, .inl ⟨rfl, .constant (Func.kind?_of_value? hv)⟩⟩
  | parameter hv => exact ⟨_, .refl, .inr ⟨rfl, _, Func.kind?_of_value? hv⟩⟩
  | place hv hstored => exact ⟨_, .refl, .inl ⟨rfl, .place (Func.kind?_of_value? hv) hstored⟩⟩
  | held hv hstored h ih =>
    obtain ⟨w, hchain, hend⟩ := ih
    exact ⟨w, .head (.stored (Func.kind?_of_value? hv) hstored) hchain, hend⟩
  | boxed hk h ih =>
    obtain ⟨w, hchain, hend⟩ := ih
    exact ⟨w, .head (.boxed hk) hchain, hend⟩
  | loaded hk h hderef ih =>
    obtain ⟨w, hchain, hend⟩ := ih
    exact ⟨w, .head (.loaded hk) hchain, hend⟩

theorem exists_end_of_bindingTo (h : s.bindingTo n v = .ok b) :
    ∃ w, Relation.ReflTransGen s.Link v w ∧
      (b.constructed = true ∧ s.Made w ∨ b.constructed = false ∧ s.Given w) :=
  (readAs_of_bindingTo h).exists_end

/-- What is loaded has the type behind that of its address. -/
theorem exists_of_bindingTo_of_loaded {inner : ValueId}
    (hk : s.function.kind? v = some (.unOp .deref inner)) (hb : s.bindingTo (n + 1) v = .ok b) :
    ∃ read, s.bindingTo n inner = .ok read ∧ s.program.types.deref read.type = .ok b.type := by
  obtain ⟨value, hvalue, hkind⟩ := value_of_kind? hk
  rw [bindingTo, hvalue, ok_bind, hkind] at hb
  obtain ⟨read, hread, hb⟩ := bind_eq_ok_iff.mp hb
  obtain ⟨type, htype, hb⟩ := bind_eq_ok_iff.mp hb
  obtain rfl := Except.ok.inj hb
  exact ⟨read, hread, liftM_eq_ok_iff.mp htype⟩

/-- No variable is read in no steps. -/
theorem exists_succ_of_bindingTo (hb : s.bindingTo n v = .ok b) : ∃ m, n = m + 1 := by
  cases n with
  | zero => cases hb
  | succ m => exact ⟨m, rfl⟩

/-- A local is read at its own type, whatever it holds. -/
theorem type_of_bindingTo_of_alloc {heap : Bool} {placeType : TypeId} {name : Option String}
    (hv : s.function.value? v = some ⟨.alloc heap, some placeType, name⟩)
    (hb : s.bindingTo n v = .ok b) : b.type = placeType := by
  obtain ⟨n, rfl⟩ := exists_succ_of_bindingTo hb
  rw [bindingTo, value_eq_ok_iff.mpr hv, ok_bind] at hb
  obtain ⟨type, htype, hb⟩ := bind_eq_ok_iff.mp hb
  obtain rfl := Except.ok.inj htype
  split at hb
  · obtain ⟨read, -, hb⟩ := bind_eq_ok_iff.mp hb
    obtain rfl := Except.ok.inj hb
    rfl
  · obtain rfl := Except.ok.inj hb
    rfl

/-- **The parameter at `w` is passed on to `v`**, where it is read at a type. A local on the
way is passed by what it holds, and is typed as a place for that. -/
inductive Reads (s : Scope) (w : ValueId) : ValueId → TypeId → Prop
  /-- The parameter itself. -/
  | given {i : Nat} {type : TypeId} {name : Option String}
      (hw : s.function.value? w = some ⟨.parameter i, some type, name⟩) : Reads s w w type
  /-- Put into an interface. -/
  | boxed {v inner : ValueId} {type : TypeId}
      (hk : s.function.kind? v = some (.makeInterface inner)) (h : Reads s w inner type) :
      Reads s w v type
  /-- Loaded through. -/
  | loaded {v inner : ValueId} {type pointee : TypeId}
      (hk : s.function.kind? v = some (.unOp .deref inner)) (h : Reads s w inner type)
      (hderef : s.program.types.deref type = .ok pointee) : Reads s w v pointee
  /-- Stored in a local, and loaded from it. -/
  | held {v place stored : ValueId} {heap : Bool} {type placeType : TypeId} {name : Option String}
      (hk : s.function.kind? v = some (.unOp .deref place))
      (hplace : s.function.value? place = some ⟨.alloc heap, some placeType, name⟩)
      (hstored : s.storedInto place = some stored) (h : Reads s w stored type)
      (hderef : s.program.types.deref placeType = .ok type) : Reads s w v type

namespace Reads

/-- **A giver who sees through what is passed on sees through the parameter.** -/
theorem isReferenceShaped (h : s.Reads w v type)
    (hshaped : s.program.types.isReferenceShaped type = .ok true) :
    ∃ value own, s.function.value? w = some value ∧ value.type = some own ∧
      s.program.types.isReferenceShaped own = .ok true := by
  induction h with
  | given hw => exact ⟨_, _, hw, rfl, hshaped⟩
  | boxed hk h ih => exact ih hshaped
  | loaded hk h hderef ih => exact ih (TypeTable.isReferenceShaped_of_deref hderef hshaped)
  | held hk hplace hstored h hderef ih => exact ih hshaped

/-- The type that a parameter is read at is that of the variable. -/
theorem type_eq (h : s.Reads w v type) (hb : s.bindingTo n v = .ok b) : b.type = type := by
  obtain ⟨n, rfl⟩ := exists_succ_of_bindingTo hb
  induction h generalizing n b with
  | given hw =>
    obtain ⟨value, hvalue, hb⟩ := bind_eq_ok_iff.mp hb
    obtain rfl := Option.some.inj ((value_eq_ok_iff.mp hvalue).symm.trans hw)
    obtain rfl := Except.ok.inj hb
    rfl
  | boxed hk h ih =>
    rw [bindingTo_of_boxed hk] at hb
    obtain ⟨n, rfl⟩ := exists_succ_of_bindingTo hb
    exact ih n hb
  | loaded hk h hderef ih =>
    obtain ⟨read, hread, htype⟩ := exists_of_bindingTo_of_loaded hk hb
    obtain ⟨n, rfl⟩ := exists_succ_of_bindingTo hread
    rw [ih n hread] at htype
    exact Except.ok.inj (htype.symm.trans hderef)
  | held hk hplace hstored h hderef ih =>
    obtain ⟨read, hread, htype⟩ := exists_of_bindingTo_of_loaded hk hb
    rw [type_of_bindingTo_of_alloc hplace hread] at htype
    exact Except.ok.inj (htype.symm.trans hderef)

end Reads

end Scope

namespace Program

variable {p : Program} {settings : Settings} {id : FunctionId} {spec : MappingSpec}

/-- **What is written to a destination is not lost on whoever gave it.** When a function of a
valid program is read for a specification, either it makes the destination itself, and what
it does with it is its own affair; or it is given it, and then the destination is of a type
through which the giver sees. The same holds of the type of the parameter itself, wherever
the parameter is what is passed on, and not the address of a local that it was put in. -/
theorem destination_made_or_shared (h : p.validate = .ok ())
    (hspec : p.interpret settings id = .ok (some spec)) :
    ∃ f r source dest rest w, p.function? id = some f ∧ Reading.ofFunction p settings f = .ok r ∧
      r.Opens [source, dest] rest ∧ Relation.ReflTransGen r.scope.Link dest w ∧
      (spec.destIsPreconstructed = true ∧ r.scope.Made w ∨
        spec.destIsPreconstructed = false ∧ r.scope.Given w ∧
          p.types.isReferenceShaped spec.destType = .ok true ∧
          ∀ type, r.scope.Reads w dest type → type = spec.destType ∧
            ∃ value own, f.value? w = some value ∧ value.type = some own ∧
              p.types.isReferenceShaped own = .ok true) := by
  obtain ⟨f, r, hf, hr, hprogram, hfunction, haccepts⟩ := exists_accepts_of_interpret h hspec
  cases haccepts with
  | @mk args rest first additions hopens hfirst hrest hshown =>
    obtain @⟨a, b, source, dest, returned, fails, hs, hd, hgives⟩ := hfirst
    obtain ⟨w, hchain, hend⟩ := Scope.exists_end_of_bindingTo hd
    refine ⟨f, r, a, b, rest, w, hf, hr, hopens, hchain, ?_⟩
    rw [Reading.foldl_apply_eq]
    refine hend.imp (fun hmade => hmade) (fun hgiven => ?_)
    -- what the function is given was checked
    have hshaped : r.types.isReferenceShaped dest.type = .ok true :=
      hshown.resolve_left (fun hmade => nomatch hgiven.1.symm.trans hmade)
    have htypes : r.types = p.types := congrArg Program.types hprogram
    refine ⟨hgiven.1, hgiven.2, htypes ▸ hshaped, fun type hreads => ?_⟩
    obtain rfl := hreads.type_eq hd
    refine ⟨rfl, ?_⟩
    rw [← hfunction, ← hprogram]
    exact hreads.isReferenceShaped hshaped

/-- Whoever gives a card sees it filled. -/
theorem cardProgram_destination_shared : cardProgram.validate = .ok () ∧
    ∃ (r : Reading) (spec : MappingSpec) (dest w : ValueId),
      cardProgram.interpret {} ⟨1⟩ = .ok (some spec) ∧
      Relation.ReflTransGen r.scope.Link dest w ∧ r.scope.Given w ∧
      cardProgram.types.isReferenceShaped spec.destType = .ok true := by
  have hvalid : cardProgram.validate = .ok () := by decide +kernel
  have hcomputed : answersWith (Option.any (fun spec => !spec.destIsPreconstructed))
      (cardProgram.interpret {} ⟨1⟩) = true := by decide +kernel
  obtain ⟨found, hfound, hany⟩ := exists_of_answersWith hcomputed
  obtain ⟨spec, rfl, hpassed⟩ := (Option.any_eq_true _ _).mp hany
  obtain ⟨f, r, source, dest, rest, w, -, -, -, hchain, hmade | ⟨-, hgiven, hshaped, -⟩⟩ :=
    destination_made_or_shared hvalid hfound
  · rw [hmade.1] at hpassed
    cases hpassed
  · exact ⟨hvalid, r, spec, dest, w, hfound, hchain, hgiven, hshaped⟩

/-- The program of the cards with a mapping that makes a card, fills it, and gives nothing
back. -/
def scratchProgram : Program where
  package := cardProgram.package
  types := cardProgram.types
  functions := #[
    .external ⟨0⟩ "CreateMap" "github.com/paultyng/go-typemapper" ⟨none, [], [], false⟩,
    { id := ⟨1⟩
      name := "Scratch"
      package := "example.com/cards"
      file := some "cards.go"
      signature := ⟨none, [⟨"contact", ⟨2⟩⟩], [], false⟩
      params := [⟨0⟩]
      blocks := #[⟨⟨0⟩, [⟨1⟩, ⟨2⟩, ⟨3⟩, ⟨4⟩, ⟨6⟩, ⟨7⟩], none⟩]
      values := #[⟨.parameter 0, some ⟨2⟩, some "contact"⟩, ⟨.alloc false, some ⟨4⟩, some "card"⟩,
        ⟨.unOp .deref ⟨1⟩, some ⟨3⟩, none⟩, ⟨.makeInterface ⟨0⟩, some ⟨5⟩, none⟩,
        ⟨.makeInterface ⟨2⟩, some ⟨5⟩, none⟩, ⟨.functionRef ⟨0⟩, some ⟨6⟩, none⟩,
        ⟨.call ⟨5⟩ [⟨3⟩, ⟨4⟩], none, none⟩, ⟨.ret [], none, none⟩]
      synthetic := none }]

/-- **A destination that a function makes need not be seen by anyone**: it may be dropped. -/
theorem scratchProgram_destination_dropped : ∃ spec, scratchProgram.validate = .ok () ∧
    scratchProgram.interpret {} ⟨1⟩ = .ok (some spec) ∧ spec.destIsReturned = false ∧
    spec.destIsPreconstructed = true := by
  have hcomputed : answersWith (Option.any (fun spec =>
        decide (spec.destIsReturned = false ∧ spec.destIsPreconstructed = true)))
      (scratchProgram.interpret {} ⟨1⟩) = true := by decide +kernel
  obtain ⟨found, hfound, hany⟩ := exists_of_answersWith hcomputed
  obtain ⟨spec, rfl, hdropped⟩ := (Option.any_eq_true _ _).mp hany
  exact ⟨spec, by decide +kernel, hfound, of_decide_eq_true hdropped⟩

end Program

end Crosswalk
