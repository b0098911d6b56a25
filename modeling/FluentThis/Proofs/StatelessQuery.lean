import FluentThis.Program.Building
import FluentThis.Proofs.StoreCoherence
/-!
Asking about a signature without a store. The query looks for a generator as inference does, but it takes any
signature, so it can find one for a constructor or a static method, which a store never does. Main statement: for all
other signatures the two agree, and for those they differ exactly where the type to return is the builder.
-/

namespace FluentThis

namespace GeneratorSet

variable {gs : GeneratorSet} {h : Host} {s : Signature}

/-- With a type to return, the query has an answer. -/
theorem recognizes_of_returns {t : QualifiedType} (ht : s.returns = some t) :
    gs.recognizes h s = .ok (gs.toList.any (·.returnsBuilder h s t)) := by
  rw [recognizes, recognizer?, Generator.firstRecognizing_of_returns ht, Except.map, List.isSome_find?]

/-- Without a type to return, the query fails or finds nothing. -/
theorem recognizes_of_lost (hs : s.returns = none) :
    gs.recognizes h s =
      if gs.toList.any (fun g => (h.builder? g s).isSome) then .error (.missingReturnType (h.mention s))
      else .ok false := by
  rw [recognizes, recognizer?, Generator.firstRecognizing_of_lost hs]
  split <;> rfl

/-- What the query looks at: the type to return is the builder for which an active generator wrote the method. The
receiver makes no difference. -/
theorem recognizes_iff :
    gs.recognizes h s = .ok true ↔
      ∃ g ∈ gs, ∃ builder, h.builder? g s = some builder ∧
        s.returns.map (·.identity) = some (.declared builder) := by
  cases hs : s.returns with
  | some t => simp [recognizes_of_returns hs, List.any_eq_true, Generator.returnsBuilder_iff, mem_toList]
  | none =>
      rw [recognizes_of_lost hs]
      split <;> simp

end GeneratorSet

namespace Host

variable {gs : GeneratorSet} {h : Host} {id : ElementId} {s : Signature}

/-- Inference asks the same as the query, of candidates alone. -/
theorem isSome_recognizer?_iff (hs : h.signature id = .ok s) :
    (h.recognizer? gs id).isSome = true ↔ s.isCandidate = true ∧ gs.recognizes h s = .ok true := by
  cases ht : s.returns with
  | some t =>
      rw [recognizer?_of_ok (inferred_of_returns hs ht gs), Signature.recognizer?, List.isSome_find?,
        GeneratorSet.recognizes_of_returns ht, GeneratorSet.toList, List.any_filter]
      cases hc : s.isCandidate <;> simp [Signature.isRecognizedBy, hc]
  | none =>
      have hnone : h.recognizer? gs id = none := by
        rw [recognizer?, inferred_of_lost hs ht]
        split <;> rfl
      simp [hnone, GeneratorSet.recognizes_iff, ht]

/-- Where inference on a candidate does not fail, neither does the query. -/
theorem recognizes_of_inferred {a : Signature} (hs : h.signature id = .ok s) (hc : s.isCandidate = true)
    (ha : h.inferredSignature gs id = .ok a) : ∃ answer, gs.recognizes h s = .ok answer := by
  cases ht : s.returns with
  | some t => exact ⟨_, GeneratorSet.recognizes_of_returns ht⟩
  | none =>
      have hneeds : s.needsReturns gs h = false := by
        rw [inferredSignature, inferred_of_lost hs ht] at ha
        cases hn : s.needsReturns gs h with
        | false => rfl
        | true => simp [hn, Except.map] at ha
      rw [Signature.needsReturns, hc, Bool.true_and] at hneeds
      exact ⟨false, by rw [GeneratorSet.recognizes_of_lost ht, hneeds, if_neg Bool.false_ne_true]⟩

end Host

/-- What the query takes for a method that returns its receiver though it has no receiver that it could return. -/
structure Signature.IsMistaken (gs : GeneratorSet) (h : Host) (s : Signature) : Prop where
  withoutReceiver : s.isCandidate = false
  returnsBuilder : ∃ g ∈ gs, ∃ builder, h.builder? g s = some builder ∧
    s.returns.map (·.identity) = some (.declared builder)

theorem Host.autoValueBuilder?_eq_self_iff {h : Host} {id : ElementId} :
    h.autoValueBuilder? id = some id ↔ h.carries id autoValueBuilder = true := by
  unfold autoValueBuilder?
  split
  · simp_all
  · simp_all [Option.filter_eq_some_iff]

/-- A constructor returns the type around it, so the query mistakes the constructors of all builders. -/
theorem Signature.isMistaken_constructor_iff {gs : GeneratorSet} {h : Host} {id type : ElementId} :
    (constructor id type).IsMistaken gs h ↔
      Generator.autoValue ∈ gs ∧ h.carries type autoValueBuilder = true ∨
        Generator.lombok ∈ gs ∧ h.isLombokBuilder (constructor id type) = true := by
  have hmistaken : (constructor id type).IsMistaken gs h ↔
      ∃ g ∈ gs, h.builder? g (constructor id type) = some type := by
    refine ⟨?_, ?_⟩
    · rintro ⟨_, g, hg, builder, hbuilder, hreturns⟩
      cases hreturns
      exact ⟨g, hg, hbuilder⟩
    · rintro ⟨g, hg, hbuilder⟩
      exact ⟨rfl, g, hg, type, hbuilder, rfl⟩
  have hautoValue : h.builder? .autoValue (constructor id type) = some type ↔
      h.carries type autoValueBuilder = true := Host.autoValueBuilder?_eq_self_iff
  have hlombok : h.builder? .lombok (constructor id type) = some type ↔
      h.isLombokBuilder (constructor id type) = true := by
    rw [Host.builder?, Option.ite_none_right_eq_some]
    exact and_iff_left rfl
  rw [hmistaken, ← hautoValue, ← hlombok]
  refine ⟨?_, ?_⟩
  · rintro ⟨_ | _, hg, hbuilder⟩
    · exact .inl ⟨hg, hbuilder⟩
    · exact .inr ⟨hg, hbuilder⟩
  · rintro (⟨hg, hbuilder⟩ | ⟨hg, hbuilder⟩)
    · exact ⟨_, hg, hbuilder⟩
    · exact ⟨_, hg, hbuilder⟩

namespace SignatureStore

/-- A store that has annotated one element remembers the generator that inference found for it. -/
theorem recognizer?_empty_signature {gs : GeneratorSet} {h : Host} {id : ElementId} {a : Signature}
    (ha : (empty.signature gs h id).1 = .ok a) :
    (empty.signature gs h id).2.recognizer? id = h.recognizer? gs id := by
  rw [empty_signature] at ha
  obtain ⟨_, ht⟩ := (coherent_empty gs h).signature id
  have hm : id ∈ annotated ([] ++ [(id, h.inferredSignature gs id)]) := mem_annotated.2 ⟨a, by simp [ha]⟩
  rw [ht.recognizer?_eq, if_pos hm]

/-- The query and a new store, about an element whose signature is declared and can be inferred. They agree on every
method that is called on a receiver. A constructor or a static method is recognized by no store, and the query agrees
with that unless the type to return is the builder that a generator wrote it for. -/
theorem query_agrees (h : Host) (gs : GeneratorSet) (id : ElementId) (s a : Signature)
    (hs : h.signature id = .ok s) (ha : (empty.signature gs h id).1 = .ok a) :
    let recognized := (empty.signature gs h id).2.recognizer? id
    (s.isCandidate = true → gs.recognizes h s = .ok recognized.isSome) ∧
    (s.isCandidate = false → recognized = none) ∧
    ((gs.recognizes h s = .ok true ↔ recognized.isSome = true) ↔ ¬s.IsMistaken gs h) := by
  intro recognized
  have hrecognized : recognized.isSome = true ↔ s.isCandidate = true ∧ gs.recognizes h s = .ok true := by
    rw [← Host.isSome_recognizer?_iff hs, ← recognizer?_empty_signature ha]
  refine ⟨?_, ?_, ?_⟩
  · intro hc
    rw [empty_signature] at ha
    obtain ⟨answer, hanswer⟩ := Host.recognizes_of_inferred hs hc ha
    rw [hanswer] at hrecognized ⊢
    simp only [hc, true_and, Except.ok.injEq] at hrecognized
    rw [Bool.eq_iff_iff.2 hrecognized]
  · intro hc
    rw [← Option.not_isSome_iff_eq_none, hrecognized, hc]
    simp
  · rw [hrecognized]
    refine ⟨?_, ?_⟩
    · rintro hagree ⟨hc, hbuilder⟩
      have hcandidate := (hagree.1 (GeneratorSet.recognizes_iff.2 hbuilder)).1
      rw [hc] at hcandidate
      cases hcandidate
    · intro hmistaken
      have hcandidate (hq : gs.recognizes h s = .ok true) : s.isCandidate = true := by
        cases hc : s.isCandidate with
        | true => rfl
        | false => exact absurd ⟨hc, GeneratorSet.recognizes_iff.1 hq⟩ hmistaken
      exact ⟨fun hq => ⟨hcandidate hq, hq⟩, And.right⟩

/-- A builder of Lombok with a constructor, a method that returns it and a static method that returns it. -/
def petBuilder : Source where
  types := [
    { name := "a.PetBuilder", annotations := [.named lombokGenerated]
      methods := [
        { kind := .constructor },
        { name := "set", returns := "a.PetBuilder" },
        { name := "of", isStatic := true, returns := "a.PetBuilder" }] }]

/-- The method of this builder, as it is declared. -/
def petSetter : Signature := .method ⟨2⟩ ⟨0⟩ "set" { identity := .declared ⟨0⟩ }

theorem query_agrees_petBuilder :
    Program.ofSource petBuilder = .ok petBuilder.program ∧
      petBuilder.program.host.signature ⟨2⟩ = .ok petSetter ∧
      (empty.signature .all petBuilder.program.host ⟨2⟩).1 = .ok petSetter.recognize ∧
      GeneratorSet.all.recognizes petBuilder.program.host petSetter = .ok true ∧
      (empty.signature .all petBuilder.program.host ⟨2⟩).2.recognizer? ⟨2⟩ = some .lombok := by
  have hs : petBuilder.program.host.signature ⟨2⟩ = .ok petSetter := rfl
  have ha : (empty.signature .all petBuilder.program.host ⟨2⟩).1 = .ok petSetter.recognize := rfl
  have hlombok : (empty.signature .all petBuilder.program.host ⟨2⟩).2.recognizer? ⟨2⟩ = some .lombok := rfl
  obtain ⟨hagree, _, _⟩ := query_agrees petBuilder.program.host .all ⟨2⟩ petSetter petSetter.recognize hs ha
  have hquery := hagree rfl
  rw [hlombok] at hquery
  exact ⟨rfl, hs, ha, hquery, hlombok⟩

/-- The query takes the constructor for a method that returns its receiver. -/
theorem query_mistakes_constructor :
    Program.ofSource petBuilder = .ok petBuilder.program ∧
      petBuilder.program.host.signature ⟨1⟩ = .ok (.constructor ⟨1⟩ ⟨0⟩) ∧
      (empty.signature .all petBuilder.program.host ⟨1⟩).1 = .ok (.constructor ⟨1⟩ ⟨0⟩) ∧
      GeneratorSet.all.recognizes petBuilder.program.host (.constructor ⟨1⟩ ⟨0⟩) = .ok true ∧
      (empty.signature .all petBuilder.program.host ⟨1⟩).2.recognizer? ⟨1⟩ = none :=
  ⟨rfl, rfl, rfl, rfl, rfl⟩

end SignatureStore

end FluentThis
