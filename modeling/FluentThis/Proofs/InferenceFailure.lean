import FluentThis.Proofs.Inference
/-!
When inference fails. It fails on a signature that has lost its type to return, if one of the active generators wants to
compare that type with a builder. The receiver takes on a qualifier before the generators are asked, but only from a
type to return. Main statement: inference fails in these cases and no others, and the signature comes back as it was
given.
-/

namespace FluentThis

namespace Signature

/-- The signature is one of a builder of the generator, so that the generator compares the type to return with this
builder. The superclass matters to AutoValue when the type itself is not tagged. -/
inductive IsOfBuilder (h : Host) (s : Signature) : Generator → Prop where
  | tagged (carries : h.carries s.enclosing autoValueBuilder = true) : IsOfBuilder h s .autoValue
  | inherited {parent : ElementId} (superclass : h.superclass s.enclosing = .declared parent)
      (carries : h.carries parent autoValueBuilder = true) : IsOfBuilder h s .autoValue
  | generated (marked : h.carries s.enclosing lombokGenerated = true ∨ h.carries s.element lombokGenerated = true)
      (named : builderSuffix.toList <:+ (h.simpleName s.enclosing).toList) : IsOfBuilder h s .lombok

end Signature

namespace Host

variable {h : Host} {s : Signature}

theorem isSome_autoValueBuilder?_iff {id : ElementId} :
    (h.autoValueBuilder? id).isSome = true ↔
      h.carries id autoValueBuilder = true ∨
        ∃ parent, h.superclass id = .declared parent ∧ h.carries parent autoValueBuilder = true := by
  unfold autoValueBuilder?
  by_cases hc : h.carries id autoValueBuilder = true
  · simp [hc]
  · simp [hc, Option.any_eq_true, TypeIdentity.element?_eq_some_iff]

theorem isLombokBuilder_iff :
    h.isLombokBuilder s = true ↔
      (h.carries s.enclosing lombokGenerated = true ∨ h.carries s.element lombokGenerated = true) ∧
        builderSuffix.toList <:+ (h.simpleName s.enclosing).toList := by
  simp [isLombokBuilder]

/-- A generator has a builder to compare with exactly when the signature is one of its builders. -/
theorem isSome_builder?_iff (g : Generator) : (h.builder? g s).isSome = true ↔ s.IsOfBuilder h g := by
  cases g with
  | autoValue =>
      show (h.autoValueBuilder? s.enclosing).isSome = true ↔ _
      rw [isSome_autoValueBuilder?_iff]
      constructor
      · intro hb
        rcases hb with hc | ⟨parent, hp, hc⟩
        · exact .tagged hc
        · exact .inherited hp hc
      · intro hb
        cases hb with
        | tagged hc => exact .inl hc
        | inherited hp hc => exact .inr ⟨_, hp, hc⟩
  | lombok =>
      have hsome : (h.builder? .lombok s).isSome = true ↔ h.isLombokBuilder s = true := by
        rw [builder?]
        split <;> simp_all
      rw [hsome, isLombokBuilder_iff]
      constructor
      · intro hb
        exact .generated hb.1 hb.2
      · intro hb
        cases hb with
        | generated hm hn => exact ⟨hm, hn⟩

end Host

namespace Signature

variable {gs : GeneratorSet} {h : Host} {s : Signature}

theorem isCandidate_iff : s.isCandidate = true ↔ s.kind ≠ .constructor ∧ s.receiver.isSome = true := by
  simp [isCandidate]

theorem needsReturns_iff :
    s.needsReturns gs h = true ↔ s.isCandidate = true ∧ ∃ g ∈ gs, s.IsOfBuilder h g := by
  simp only [needsReturns, Bool.and_eq_true, List.any_eq_true, GeneratorSet.mem_toList, Host.isSome_builder?_iff]

/-- Without a type to return there is nothing that the receiver could take on. -/
theorem propagate_of_lost (hs : s.returns = none) : s.propagate = s := by
  rw [propagate, hs, if_neg]
  simp

/-- Inference fails on a signature exactly when it is that of a method with a receiver, the type to return is lost, and
an active generator takes it for a method of one of its builders. It fails with that type missing, told by the method's
owner and name, and leaves the signature as it is. -/
theorem infer_eq_error_iff (gs : GeneratorSet) (h : Host) (s s' : Signature) (e : Failure) :
    s.infer gs h = (.error e, s') ↔
      (s.kind ≠ .constructor ∧ s.receiver.isSome = true ∧ s.returns = none ∧ ∃ g ∈ gs, s.IsOfBuilder h g) ∧
        e = .missingReturnType (h.qualifiedName s.enclosing ++ "#" ++ s.name) ∧ s' = s := by
  cases hs : s.returns with
  | some t => simp [infer_of_returns hs]
  | none =>
      have hsettled : s.settled none = s := propagate_of_lost hs
      have hneeds : s.needsReturns gs h = true ↔
          s.kind ≠ .constructor ∧ s.receiver.isSome = true ∧ ∃ g ∈ gs, s.IsOfBuilder h g := by
        rw [needsReturns_iff, isCandidate_iff, and_assoc]
      rw [infer_of_lost hs, hsettled]
      by_cases hn : s.needsReturns gs h = true
      · obtain ⟨hkind, hreceiver, hbuilder⟩ := hneeds.1 hn
        rw [if_pos hn]
        constructor
        · intro heq
          cases heq
          exact ⟨⟨hkind, hreceiver, rfl, hbuilder⟩, rfl, rfl⟩
        · rintro ⟨_, rfl, rfl⟩
          rfl
      · rw [if_neg hn]
        constructor
        · intro heq
          cases heq
        · rintro ⟨⟨hkind, hreceiver, _, hbuilder⟩, _⟩
          exact absurd (hneeds.2 ⟨hkind, hreceiver, hbuilder⟩) hn

end Signature

end FluentThis
