import FluentThis.Proofs.ReportEntries
/-!
Reports under two sets of active generators, one inside the other. Taking generators away takes away what they
recognized; a method that two generators know can pass from the first to the second. Main statement: a report that
succeeds for the larger set does so for the smaller one, and its entries narrow one by one.
-/

namespace FluentThis

/-- What becomes of the entry `wide` when only the generators of `gs` stay active. -/
structure Entry.Narrows (gs : GeneratorSet) (wide narrow : Entry) : Prop where
  owner : narrow.owner = wide.owner
  name : narrow.name = wide.name
  kind : narrow.kind = wide.kind
  returnType : narrow.returnType = wide.returnType
  kept : (∀ g, wide.generator = some g → g ∈ gs) → narrow = wide
  recognized : ∀ g, narrow.generator = some g →
    ∃ g', wide.generator = some g' ∧ Generator.all.idxOf g' ≤ Generator.all.idxOf g
  returnsThis : narrow.returnsThis = true → wide.returnsThis = true

theorem Entry.Narrows.refl (gs : GeneratorSet) (e : Entry) : Narrows gs e e where
  owner := rfl
  name := rfl
  kind := rfl
  returnType := rfl
  kept := fun _ => rfl
  recognized := fun g hg => ⟨g, hg, Nat.le_refl _⟩
  returnsThis := id

/-- The entries of one signature under two recognizers. -/
theorem Entry.narrows_ofSignature {S : GeneratorSet} {h : Host} {s : Signature} {t : QualifiedType}
    {wide narrow : Option Generator} (ht : s.returns = some t)
    (hkept : (∀ g, wide = some g → g ∈ S) → narrow = wide)
    (hrec : ∀ g, narrow = some g → ∃ g', wide = some g' ∧ Generator.all.idxOf g' ≤ Generator.all.idxOf g) :
    Narrows S (ofSignature h (s.settled wide) wide) (ofSignature h (s.settled narrow) narrow) where
  owner := by simp [ofSignature]
  name := by simp [ofSignature]
  kind := by simp [ofSignature]
  returnType := by rw [returnType_settled, returnType_settled]
  kept := by
    intro hw
    rw [hkept hw]
  recognized := hrec
  returnsThis := by
    intro hn
    simp only [Entry.returnsThis, ofSignature, Signature.returnQualifier_settled ht, beq_iff_eq] at hn ⊢
    cases narrow with
    | none =>
        cases wide with
        | none => exact hn
        | some g => rfl
    | some g =>
        obtain ⟨g', rfl, _⟩ := hrec g rfl
        rfl

namespace Generator

variable {p q : Generator → Bool} {gs : List Generator} {g : Generator}

/-- A search under a weaker condition ends no later. -/
theorem find?_weaken (hpq : ∀ g, p g = true → q g = true) (hg : gs.find? p = some g) :
    ∃ g', gs.find? q = some g' ∧ gs.idxOf g' ≤ gs.idxOf g := by
  induction gs with
  | nil => cases hg
  | cons a gs ih =>
      by_cases ha : q a = true
      · exact ⟨a, by rw [List.find?_cons, ha], by rw [List.idxOf_cons_self]; exact Nat.zero_le _⟩
      · have hpa : p a = false := Bool.eq_false_iff.2 fun hp => ha (hpq a hp)
        rw [List.find?_cons, hpa] at hg
        obtain ⟨g', hg', hle⟩ := ih hg
        have hne : a ≠ g := by
          rintro rfl
          exact ha (hpq a (List.find?_some hg))
        have hne' : a ≠ g' := by
          rintro rfl
          exact ha (List.find?_some hg')
        refine ⟨g', by rw [List.find?_cons, Bool.eq_false_iff.2 ha]; exact hg', ?_⟩
        rw [List.idxOf_cons_ne _ hne, List.idxOf_cons_ne _ hne']
        omega

/-- A search under a stronger condition finds the same if that meets the condition. -/
theorem find?_strengthen (hpq : ∀ g, p g = true → q g = true) (hg : ∀ g, gs.find? q = some g → p g = true) :
    gs.find? p = gs.find? q := by
  induction gs with
  | nil => rfl
  | cons a gs ih =>
      rw [List.find?_cons, List.find?_cons]
      rw [List.find?_cons] at hg
      cases ha : q a with
      | true =>
          rw [ha] at hg
          rw [hg a rfl]
      | false =>
          have hpa : p a = false := Bool.eq_false_iff.2 fun hp => by simp [hpq a hp] at ha
          rw [ha] at hg
          rw [hpa]
          exact ih hg

end Generator

section

variable {S T : GeneratorSet} (hST : ∀ g ∈ S, g ∈ T) {h : Host}

include hST

theorem Signature.isRecognizedBy_weaken (s : Signature) (t : QualifiedType) (g : Generator)
    (hg : s.isRecognizedBy S h t g = true) : s.isRecognizedBy T h t g = true := by
  simp only [isRecognizedBy, Bool.and_eq_true] at hg ⊢
  exact ⟨hg.1, hST g hg.2.1, hg.2.2⟩

theorem Signature.recognizer?_weaken {s : Signature} {t : QualifiedType} {g : Generator}
    (hg : s.recognizer? S h t = some g) :
    ∃ g', s.recognizer? T h t = some g' ∧ Generator.all.idxOf g' ≤ Generator.all.idxOf g :=
  Generator.find?_weaken (s.isRecognizedBy_weaken hST t) hg

theorem Signature.recognizer?_strengthen {s : Signature} {t : QualifiedType}
    (hg : ∀ g, s.recognizer? T h t = some g → g ∈ S) : s.recognizer? S h t = s.recognizer? T h t := by
  refine Generator.find?_strengthen (s.isRecognizedBy_weaken hST t) ?_
  intro g hf
  have hq := List.find?_some hf
  simp only [isRecognizedBy, Bool.and_eq_true] at hq ⊢
  exact ⟨hq.1, hg g hf, hq.2.2⟩

theorem Signature.needsReturns_weaken {s : Signature} (hS : s.needsReturns S h = true) :
    s.needsReturns T h = true := by
  simp only [needsReturns, Bool.and_eq_true, List.any_eq_true, GeneratorSet.mem_toList] at hS ⊢
  obtain ⟨hc, g, hg, hb⟩ := hS
  exact ⟨hc, g, hST g hg, hb⟩

/-- No generator matches a signature on which another one fails, so the larger set fails on it too. -/
theorem GeneratorSet.recognizer?_fails {s : Signature} {g : Generator} {e : Failure} (hg : g ∈ S)
    (he : g.recognizes h s = .error e) : T.recognizer? h s = .error e := by
  cases hs : s.returns with
  | some t => simp [Generator.recognizes_of_returns hs] at he
  | none =>
      rw [Generator.recognizes_of_lost hs] at he
      split at he
      · rename_i hb
        have hany : (T.toList.any fun g => (h.builder? g s).isSome) = true :=
          List.any_eq_true.2 ⟨g, GeneratorSet.mem_toList.2 (hST g hg), hb⟩
        rw [recognizer?, Generator.firstRecognizing_of_lost hs, if_pos hany]
        cases he
        rfl
      · cases he

/-- One entry under both sets. -/
theorem Host.entry_narrows {id : ElementId} {wide : Entry} (he : h.entry T id = .ok wide) :
    ∃ narrow, h.entry S id = .ok narrow ∧ Entry.Narrows S wide narrow := by
  cases hs : h.signature id with
  | error e => simp [entry, inferred, hs, Except.map] at he
  | ok s =>
      cases ht : s.returns with
      | none =>
          rw [entry, inferred_of_lost hs ht] at he
          have hT : ¬s.needsReturns T h = true := by
            intro hT
            simp [hT, Except.map] at he
          have hS : ¬s.needsReturns S h = true := fun hS => hT (Signature.needsReturns_weaken hST hS)
          rw [if_neg hT] at he
          refine ⟨wide, ?_, Entry.Narrows.refl S wide⟩
          rw [entry, inferred_of_lost hs ht, if_neg hS]
          exact he
      | some t =>
          rw [entry, inferred_of_returns hs ht] at he
          cases he
          refine ⟨_, by rw [entry, inferred_of_returns hs ht]; rfl, ?_⟩
          exact Entry.narrows_ofSignature ht (Signature.recognizer?_strengthen hST)
            fun g hg => Signature.recognizer?_weaken hST hg

theorem Host.entries_narrow {ids : List ElementId} {wide : List Entry}
    (hw : List.Forall₂ (fun id e => h.entry T id = .ok e) ids wide) :
    ∃ narrow, List.Forall₂ (fun id e => h.entry S id = .ok e) ids narrow ∧
      List.Forall₂ (Entry.Narrows S) wide narrow := by
  induction hw with
  | nil => exact ⟨[], .nil, .nil⟩
  | cons he _ ih =>
      obtain ⟨narrow, hnarrow, hall⟩ := ih
      obtain ⟨e, he', hn⟩ := Host.entry_narrows hST he
      exact ⟨e :: narrow, .cons he' hnarrow, .cons hn hall⟩

end

namespace Report

/-- Disabling generators removes only what they inferred. If the report succeeds with the generators of `T`, it does
so with those of a smaller set `S`, with the same executables in the same order, and every entry narrows. A generator
of `S` that fails on a signature makes `T` fail on it. -/
theorem narrows_of_subset (S T : GeneratorSet) (hST : ∀ g ∈ S, g ∈ T) (h : Host) :
    (∀ wide, ofHost T h = .ok wide →
      ∃ narrow, ofHost S h = .ok narrow ∧ List.Forall₂ (Entry.Narrows S) wide.entries narrow.entries) ∧
    ∀ s g e, g ∈ S → g.recognizes h s = .error e → T.recognizer? h s = .error e := by
  refine ⟨?_, fun s g e hg he => GeneratorSet.recognizer?_fails hST hg he⟩
  intro wide hw
  obtain ⟨narrow, hnarrow, hall⟩ := Host.entries_narrow hST (ofHost_eq_ok_iff.1 hw)
  exact ⟨⟨narrow⟩, ofHost_eq_ok_iff.2 hnarrow, hall⟩

/-- A builder that both generators know, with a method and a constructor that has lost the type it returns. -/
def twiceGenerated : Host where
  kind id := if id = ⟨0⟩ then .classType else if id = ⟨1⟩ then .method else .constructor
  simpleName _ := "Builder"
  qualifiedName _ := "a.Pet.Builder"
  enclosing _ := some ⟨0⟩
  superclass _ := .noType
  annotations _ := [⟨autoValueBuilder, true⟩, ⟨lombokGenerated, false⟩]
  executables := [⟨1⟩, ⟨2⟩]
  signature id :=
    .ok (if id = ⟨1⟩ then .method id ⟨0⟩ "set" { identity := .declared ⟨0⟩ }
      else (Signature.constructor id ⟨0⟩).withReturns none)

theorem narrows_of_subset_twiceGenerated :
    (∀ g ∈ GeneratorSet.all.erase .autoValue, g ∈ GeneratorSet.all) ∧
      (∃ wide narrow, ofHost .all twiceGenerated = .ok wide ∧
        ofHost (GeneratorSet.all.erase .autoValue) twiceGenerated = .ok narrow ∧
        wide.entries.map (·.generator) = [some .autoValue, none] ∧
        narrow.entries.map (·.generator) = [some .lombok, none] ∧
        List.Forall₂ (Entry.Narrows (GeneratorSet.all.erase .autoValue)) wide.entries narrow.entries) ∧
      GeneratorSet.all.recognizer? twiceGenerated ((Signature.constructor ⟨2⟩ ⟨0⟩).withReturns none) =
        .error (.missingReturnType "a.Pet.Builder#<init>") := by
  have hST : ∀ g ∈ GeneratorSet.all.erase .autoValue, g ∈ GeneratorSet.all := fun g _ => GeneratorSet.mem_all g
  obtain ⟨hnarrows, hfails⟩ := narrows_of_subset (GeneratorSet.all.erase .autoValue) .all hST twiceGenerated
  refine ⟨hST, ?_, hfails _ .lombok _ rfl rfl⟩
  obtain ⟨narrow, hn, hall⟩ := hnarrows _ rfl
  refine ⟨_, narrow, rfl, hn, rfl, ?_, hall⟩
  cases hn
  rfl

end Report

end FluentThis
