import FluentThis.Proofs.StoreCoherence
import FluentThis.Report.Basic
/-!
A report entry by entry. The store behind a report leaves no trace in it: each entry is what inference makes of one
element, and the report fails with the first of them that fails.
-/

namespace FluentThis

/-- The entry of an element, with nothing remembered from other elements. -/
def Host.entry (h : Host) (gs : GeneratorSet) (id : ElementId) : Except Failure Entry :=
  (h.inferred gs id).map fun x => Entry.ofSignature h x.1 x.2

/-- Inference changes no type, so the entry names the type that is declared. -/
theorem Entry.returnType_settled (h : Host) (s : Signature) (g : Option Generator) :
    (ofSignature h (s.settled g) g).returnType = s.returns.map (·.identity.display h.qualifiedName) := by
  have hid := congrArg (Option.map (·.display h.qualifiedName)) (s.settled_identity g)
  simp only [Option.map_map, Function.comp_def] at hid
  exact hid

namespace Report

open SignatureStore

theorem gather_eq {gs : GeneratorSet} {h : Host} {log : List Attempt} {t : SignatureStore}
    (ht : Coherent gs h log t) (ids : List ElementId) : (gather gs h ids t).1 = ids.mapM (h.entry gs) := by
  induction ids generalizing log t with
  | nil => rfl
  | cons id ids ih =>
      obtain ⟨hr, ht'⟩ := ht.signature id
      rw [gather, Traversal.mapM_cons_eq, ← ih ht']
      rcases hc : t.signature gs h id with ⟨result, t'⟩
      rw [hc] at hr ht'
      cases hi : h.inferred gs id with
      | error e =>
          have he : result = .error e := hr.trans (Host.inferredSignature_of_error hi)
          rw [he, Host.entry, hi]
          rfl
      | ok x =>
          have hx := Host.inferredSignature_of_ok hi
          have hs : result = .ok x.1 := hr.trans hx
          -- the generator is looked up after the signature, when the attempt is already in the log
          have hg : t'.recognizer? id = x.2 := by
            have hm : id ∈ annotated (log ++ [(id, h.inferredSignature gs id)]) := by
              rw [mem_annotated]
              exact ⟨x.1, by simp [hx]⟩
            rw [ht'.recognizer?_eq, if_pos hm, Host.recognizer?_of_ok hi]
          rw [hs, Host.entry, hi]
          simp only [hg, Except.map]
          rcases gather gs h ids t' with ⟨_ | _, _⟩ <;> rfl

/-- The report on a host, without a store. -/
theorem ofHost_eq (gs : GeneratorSet) (h : Host) :
    ofHost gs h = (h.executables.mapM (h.entry gs)).map Report.mk := by
  rw [ofHost, gather_eq (coherent_empty gs h)]

/-- A report succeeds exactly when every entry does, and then it holds them in the order of the host. -/
theorem ofHost_eq_ok_iff {gs : GeneratorSet} {h : Host} {r : Report} :
    ofHost gs h = .ok r ↔ List.Forall₂ (fun id e => h.entry gs id = .ok e) h.executables r.entries := by
  rw [ofHost_eq, ← Traversal.mapM_eq_ok_iff]
  cases h.executables.mapM (h.entry gs) with
  | error e => simp [Except.map]
  | ok es =>
      cases r
      simp [Except.map]

end Report

end FluentThis
