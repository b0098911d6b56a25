import FluentThis.Proofs.ReportEntries
/-!
Two ways through a program: one collects the entries of a report, the other the signatures of all executables. Both
ask the same store for the same elements, so they come to the same end. Main statement: they fail with one failure at
one executable, or each entry mirrors the signature at its place and names the generator that inference found for it.
-/

namespace FluentThis

namespace Traversal

variable {α β : Type} {f : α → Except Failure β}

/-- What stands at a position depends on the member at that position alone. -/
theorem getElem?_of_forall₂ {xs : List α} {ys : List β} (h : List.Forall₂ (fun x y => f x = .ok y) xs ys) (i : Nat) :
    ys[i]? = xs[i]?.bind fun x => (f x).toOption := by
  induction h generalizing i with
  | nil => rfl
  | cons hx _ ih =>
      cases i with
      | zero => simp [hx, Except.toOption]
      | succ i => simpa using ih i

end Traversal

namespace Host

variable {h : Host} {gs : GeneratorSet} {id : ElementId} {s : Signature} {g : Option Generator}

/-- An element is inferred by inference on its declared signature. -/
theorem inferred_eq_ok_iff :
    h.inferred gs id = .ok (s, g) ↔ ∃ declared, h.signature id = .ok declared ∧ declared.infer gs h = (.ok g, s) := by
  unfold inferred
  cases h.signature id with
  | error e => simp
  | ok declared =>
      rcases hi : declared.infer gs h with ⟨_ | g', s'⟩
      · simp [hi]
      · simp [hi, and_comm]

end Host

/-- The entry of an executable repeats its inferred signature `s` in names, and tells the generator that inference on
its declared signature came back with. -/
structure Entry.Mirrors (gs : GeneratorSet) (h : Host) (id : ElementId) (s : Signature) (e : Entry) : Prop where
  owner : e.owner = h.qualifiedName s.enclosing
  name : e.name = s.name
  kind : e.kind = s.kind
  returnType : e.returnType = s.returns.map (·.identity.display h.qualifiedName)
  returnQualifier : e.returnQualifier = s.returns.bind (·.qualifier)
  receiverQualifier : e.receiverQualifier = s.receiver.bind (·.qualifier)
  inferred : ∃ declared, h.signature id = .ok declared ∧ declared.infer gs h = (.ok e.generator, s)

theorem Entry.mirrors_of_inferred {gs : GeneratorSet} {h : Host} {id : ElementId} {s : Signature}
    {g : Option Generator} (hi : h.inferred gs id = .ok (s, g)) : Mirrors gs h id s (ofSignature h s g) where
  owner := rfl
  name := rfl
  kind := rfl
  returnType := rfl
  returnQualifier := rfl
  receiverQualifier := rfl
  inferred := Host.inferred_eq_ok_iff.1 hi

namespace Report

open SignatureStore

/-- Collecting entries leaves the store as inferring the signatures does. -/
theorem gather_store (gs : GeneratorSet) (h : Host) (ids : List ElementId) (t : SignatureStore) :
    (gather gs h ids t).2 = (t.signatures gs h ids).2 := by
  induction ids generalizing t with
  | nil => rfl
  | cons id ids ih =>
      rw [gather, SignatureStore.signatures]
      rcases t.signature gs h id with ⟨_ | s, t'⟩
      · rfl
      · have hrest := ih t'
        rcases hg : gather gs h ids t' with ⟨_ | _, u⟩ <;> rcases hs : t'.signatures gs h ids with ⟨_ | _, u'⟩ <;>
          simpa [hg, hs] using hrest

section

variable {gs : GeneratorSet} {h : Host}

/-- What both ways find where inference succeeds for every executable. -/
theorem found_of_inferred {found : List (Signature × Option Generator)}
    (hall : List.Forall₂ (fun id x => h.inferred gs id = .ok x) h.executables found) :
    ofHost gs h = .ok ⟨found.map fun x => Entry.ofSignature h x.1 x.2⟩ ∧
      (empty.allSignatures gs h).1 = .ok (found.map Prod.fst) := by
  refine ⟨?_, ?_⟩
  · rw [ofHost_eq_ok_iff, List.forall₂_map_right_iff]
    refine hall.imp fun id x hx => ?_
    rw [Host.entry, hx]
    rfl
  · rw [allSignatures, ((coherent_empty gs h).signatures h.executables).1, Traversal.mapM_eq_ok_iff,
      List.forall₂_map_right_iff]
    exact hall.imp fun id x hx => Host.inferredSignature_of_ok hx

/-- Where both ways end if inference fails for the first time at `id`. -/
theorem failed_of_inferred {start rest : List ElementId} {id : ElementId} {e : Failure}
    (hids : h.executables = start ++ id :: rest) (hstart : ∀ a ∈ start, ∃ x, h.inferred gs a = .ok x)
    (he : h.inferred gs id = .error e) :
    ofHost gs h = .error e ∧ (empty.allSignatures gs h).1 = .error e ∧
      (empty.allSignatures gs h).2.requests.head? = some id := by
  have hsignatures : ∀ a ∈ start, ∃ s, h.inferredSignature gs a = .ok s := by
    intro a ha
    obtain ⟨x, hx⟩ := hstart a ha
    exact ⟨x.1, Host.inferredSignature_of_ok hx⟩
  have hentries : ∀ a ∈ start, ∃ entry, h.entry gs a = .ok entry := by
    intro a ha
    obtain ⟨x, hx⟩ := hstart a ha
    exact ⟨_, by rw [Host.entry, hx]; rfl⟩
  have hentry : h.entry gs id = .error e := by
    rw [Host.entry, he]
    rfl
  have hsignature := Host.inferredSignature_of_error he
  refine ⟨?_, ?_, ?_⟩
  · rw [ofHost_eq, hids, Traversal.mapM_of_failing hentries hentry]
    rfl
  · rw [allSignatures, ((coherent_empty gs h).signatures h.executables).1, hids,
      Traversal.mapM_of_failing hsignatures hsignature]
  · obtain ⟨_, made, hrequests, _⟩ := (coherent_empty gs h).signatures_failing rest hsignatures hsignature
    rw [allSignatures, hids, hrequests]
    rfl

end

/-- Collecting a report and inferring all signatures with a new store agree on every host, also on one that lists an
executable several times. They leave the same store behind. Either both fail with the same failure, which is that of
the first executable that fails by itself, and neither asks for anything after it; or both succeed, each entry mirrors
the signature at its position, and an executable that is listed again has the same entry again. -/
theorem report_agrees (gs : GeneratorSet) (h : Host) :
    (gather gs h h.executables empty).2 = (empty.allSignatures gs h).2 ∧
      ((∃ start id rest e, h.executables = start ++ id :: rest ∧
          (∀ a ∈ start, ∃ s, (empty.signature gs h a).1 = .ok s) ∧ (empty.signature gs h id).1 = .error e ∧
          ofHost gs h = .error e ∧ (empty.allSignatures gs h).1 = .error e ∧
          (empty.allSignatures gs h).2.requests.head? = some id) ∨
        ∃ r ss, ofHost gs h = .ok r ∧ (empty.allSignatures gs h).1 = .ok ss ∧
          ss.length = h.executables.length ∧ r.entries.length = ss.length ∧
          (∀ (i : Nat) id s e, h.executables[i]? = some id → ss[i]? = some s → r.entries[i]? = some e →
            Entry.Mirrors gs h id s e) ∧
          ∀ i j : Nat, h.executables[i]? = h.executables[j]? → r.entries[i]? = r.entries[j]? ∧ ss[i]? = ss[j]?) := by
  refine ⟨gather_store gs h h.executables empty, ?_⟩
  simp only [empty_signature]
  cases hinferred : h.executables.mapM (h.inferred gs) with
  | ok found =>
      right
      have hall := Traversal.mapM_eq_ok_iff.1 hinferred
      obtain ⟨hreport, hsignatures⟩ := found_of_inferred hall
      have hfound (i : Nat) : found[i]? = h.executables[i]?.bind fun id => (h.inferred gs id).toOption :=
        Traversal.getElem?_of_forall₂ hall i
      refine ⟨_, _, hreport, hsignatures, ?_, ?_, ?_, ?_⟩
      · rw [List.length_map, hall.length_eq]
      · rw [List.length_map, List.length_map]
      · intro i id s e hid hs he
        rw [List.getElem?_map, Option.map_eq_some_iff] at hs he
        obtain ⟨x, hx, rfl⟩ := hs
        obtain ⟨x', hx', rfl⟩ := he
        rw [hx] at hx'
        cases hx'
        rw [hfound, hid, Option.bind_some] at hx
        cases hi : h.inferred gs id with
        | error e =>
            rw [hi] at hx
            cases hx
        | ok y =>
            rw [hi] at hx
            cases hx
            exact Entry.mirrors_of_inferred hi
      · intro i j hij
        simp only [List.getElem?_map, hfound, hij, and_self]
  | error e =>
      left
      obtain ⟨start, id, rest, hids, hstart, he⟩ := Traversal.mapM_eq_error_iff.1 hinferred
      obtain ⟨hreport, hsignatures, hlast⟩ := failed_of_inferred hids hstart he
      refine ⟨start, id, rest, e, hids, ?_, Host.inferredSignature_of_error he, hreport, hsignatures, hlast⟩
      intro a ha
      obtain ⟨x, hx⟩ := hstart a ha
      exact ⟨x.1, Host.inferredSignature_of_ok hx⟩

end Report

end FluentThis
