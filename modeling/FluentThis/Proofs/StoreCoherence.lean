import FluentThis.Proofs.Inference
import FluentThis.Proofs.Traversal
import FluentThis.SignatureStore
import Mathlib.Data.List.Dedup
/-!
A store answers as if it remembered nothing. Every sequence of calls is covered, with hosts on which some elements
fail. Main statement: after any calls the answers are those of an empty store, each element that was inferred has been
requested from the host once, and each element that fails once for each attempt.
-/

namespace FluentThis

/-- What can be asked of a store. -/
inductive StoreCall where
  | signature (id : ElementId)
  | allSignatures
  | recognizer (id : ElementId)
  | size
  deriving DecidableEq, Repr

/-- What a store answers. -/
inductive StoreAnswer where
  | signature (result : Except Failure Signature)
  | signatures (result : Except Failure (List Signature))
  | recognizer (generator : Option Generator)
  | size (count : Nat)

namespace SignatureStore

/-- The answer to one call, and the store after it. -/
def answer (gs : GeneratorSet) (h : Host) (t : SignatureStore) : StoreCall → StoreAnswer × SignatureStore
  | .signature id => (.signature (t.signature gs h id).1, (t.signature gs h id).2)
  | .allSignatures => (.signatures (t.allSignatures gs h).1, (t.allSignatures gs h).2)
  | .recognizer id => (.recognizer (t.recognizer? id), t)
  | .size => (.size t.size, t)

/-- The answers to several calls, one after the other, and the store after them. -/
def run (gs : GeneratorSet) (h : Host) : List StoreCall → SignatureStore → List StoreAnswer × SignatureStore
  | [], t => ([], t)
  | call :: calls, t =>
    let (a, t) := t.answer gs h call
    let (as, t) := run gs h calls t
    (a :: as, t)

/-- One attempt at a signature, with its outcome. -/
abbrev Attempt := ElementId × Except Failure Signature

/-- The attempts that are made for several signatures in order. None is made after one that fails. -/
def attempts (gs : GeneratorSet) (h : Host) : List ElementId → SignatureStore → List Attempt
  | [], _ => []
  | id :: ids, t =>
    match t.signature gs h id with
    | (.error e, _) => [(id, .error e)]
    | (.ok s, t) => (id, .ok s) :: attempts gs h ids t

/-- The attempts that a call makes, directly or for all executables. -/
def made (gs : GeneratorSet) (h : Host) (t : SignatureStore) : StoreCall → List Attempt
  | .signature id => t.attempts gs h [id]
  | .allSignatures => t.attempts gs h h.executables
  | .recognizer _ => []
  | .size => []

/-- All attempts that a sequence of calls makes. -/
def history (gs : GeneratorSet) (h : Host) : List StoreCall → SignatureStore → List Attempt
  | [], _ => []
  | call :: calls, t => t.made gs h call ++ history gs h calls (t.answer gs h call).2

/-- The elements at which an attempt succeeded, once for each such attempt. -/
def annotated (log : List Attempt) : List ElementId := (log.filter (·.2.toBool)).map Prod.fst

theorem mem_annotated {log : List Attempt} {id : ElementId} :
    id ∈ annotated log ↔ ∃ s, (id, .ok s) ∈ log := by
  simp only [annotated, List.mem_map, List.mem_filter, Prod.exists]
  refine ⟨?_, ?_⟩
  · rintro ⟨_, result, ⟨hm, hr⟩, rfl⟩
    cases result with
    | error e => cases hr
    | ok s => exact ⟨s, hm⟩
  · rintro ⟨s, hm⟩
    exact ⟨id, .ok s, ⟨hm, rfl⟩, rfl⟩

theorem lookup_eq_none_iff {α : Type} {l : List (ElementId × α)} {id : ElementId} :
    l.lookup id = none ↔ id ∉ l.map Prod.fst := by
  rw [List.lookup_eq_none_iff]
  refine ⟨?_, ?_⟩
  · intro h hm
    obtain ⟨p, hp, rfl⟩ := List.mem_map.1 hm
    simpa using h p hp
  · intro h p hp
    have hne : id ≠ p.1 := fun he => h (he ▸ List.mem_map_of_mem hp)
    simpa using hne

/-- Asking the host, in terms of the inference that it leads to. -/
theorem request_eq (gs : GeneratorSet) (h : Host) (id : ElementId) (t : SignatureStore) :
    t.request gs h id =
      match h.inferred gs id with
      | .error e => (.error e, { t with requests := id :: t.requests })
      | .ok (s, g) =>
        (.ok s, { known := (id, s) :: t.known
                  recognized := (g.map fun g => (id, g)).toList ++ t.recognized
                  requests := id :: t.requests }) := by
  unfold request Host.inferred
  cases h.signature id with
  | error e => rfl
  | ok declared =>
      rcases hi : declared.infer gs h with ⟨_ | (_ | g), s⟩ <;> simp [hi]

theorem attempts_singleton (gs : GeneratorSet) (h : Host) (t : SignatureStore) (id : ElementId) :
    t.attempts gs h [id] = [(id, (t.signature gs h id).1)] := by
  rw [attempts]
  rcases t.signature gs h id with ⟨e | s, t'⟩ <;> rfl

/-- After an attempt that succeeds the others are made. -/
theorem attempts_cons_ok {gs : GeneratorSet} {h : Host} {t : SignatureStore} {id : ElementId} {s : Signature}
    (hs : (t.signature gs h id).1 = .ok s) (ids : List ElementId) :
    t.attempts gs h (id :: ids) = (id, .ok s) :: (t.signature gs h id).2.attempts gs h ids := by
  rw [attempts]
  rcases hc : t.signature gs h id with ⟨e | s', t'⟩ <;> simp_all

theorem signatures_cons_ok {gs : GeneratorSet} {h : Host} {t : SignatureStore} {id : ElementId} {s : Signature}
    (hs : (t.signature gs h id).1 = .ok s) (ids : List ElementId) :
    (t.signatures gs h (id :: ids)).2 = ((t.signature gs h id).2.signatures gs h ids).2 := by
  rw [signatures]
  rcases hc : t.signature gs h id with ⟨e | s', t'⟩
  · simp [hc] at hs
  · rcases hcs : t'.signatures gs h ids with ⟨_ | _, _⟩ <;> simp [hcs]

/-- What a store holds after the attempts of `log`, the earliest first. -/
structure Coherent (gs : GeneratorSet) (h : Host) (log : List Attempt) (t : SignatureStore) : Prop where
  outcome : ∀ id result, (id, result) ∈ log → result = h.inferredSignature gs id
  known : ∀ id s, t.known.lookup id = some s ↔ (id, .ok s) ∈ log
  distinct : (t.known.map Prod.fst).Nodup
  recognized : ∀ id g, t.recognized.lookup id = some g ↔ id ∈ annotated log ∧ h.recognizer? gs id = some g
  once : ∀ id ∈ annotated log, t.requests.count id = 1
  each : ∀ id, id ∉ annotated log → t.requests.count id = (log.map Prod.fst).count id

/-- Before any attempt nothing is held. -/
theorem coherent_empty (gs : GeneratorSet) (h : Host) : Coherent gs h [] empty where
  outcome := by simp
  known := by simp [empty]
  distinct := by simp [empty]
  recognized := by simp [empty, annotated]
  once := by simp [annotated]
  each := by simp [empty]

namespace Coherent

variable {gs : GeneratorSet} {h : Host} {log : List Attempt} {t : SignatureStore}

theorem lookup_eq_none (ht : Coherent gs h log t) {id : ElementId} :
    t.known.lookup id = none ↔ id ∉ annotated log := by
  rw [mem_annotated, Option.eq_none_iff_forall_ne_some]
  simp [ht.known]

theorem not_mem_annotated (ht : Coherent gs h log t) {id : ElementId} {e : Failure}
    (he : h.inferredSignature gs id = .error e) : id ∉ annotated log := by
  intro hm
  obtain ⟨s, hs⟩ := mem_annotated.1 hm
  have hr := ht.outcome id _ hs
  rw [he] at hr
  cases hr

/-- An attempt at what is remembered changes nothing. -/
theorem again (ht : Coherent gs h log t) {id : ElementId} {s : Signature} (hm : (id, .ok s) ∈ log) :
    Coherent gs h (log ++ [(id, .ok s)]) t := by
  have hlog (a : Attempt) : a ∈ log ++ [(id, .ok s)] ↔ a ∈ log := by
    simp only [List.mem_append, List.mem_singleton, or_iff_left_iff_imp]
    rintro rfl
    exact hm
  have hann (i : ElementId) : i ∈ annotated (log ++ [(id, .ok s)]) ↔ i ∈ annotated log := by
    simp only [mem_annotated, hlog]
  refine ⟨?_, ?_, ht.distinct, ?_, ?_, ?_⟩
  · intro i result hi
    exact ht.outcome i result ((hlog _).1 hi)
  · intro i s'
    rw [ht.known, hlog]
  · intro i g
    rw [ht.recognized, hann]
  · intro i hi
    exact ht.once i ((hann i).1 hi)
  · intro i hi
    have hi' : i ∉ annotated log := fun ha => hi ((hann i).2 ha)
    have hne : id ≠ i := by
      rintro rfl
      exact hi' (mem_annotated.2 ⟨s, hm⟩)
    rw [ht.each i hi']
    simp [List.count_append, hne]

/-- An attempt that fails is one more request and leaves nothing behind. -/
theorem failing (ht : Coherent gs h log t) {id : ElementId} {e : Failure}
    (he : h.inferredSignature gs id = .error e) :
    Coherent gs h (log ++ [(id, .error e)]) { t with requests := id :: t.requests } := by
  have hann (i : ElementId) : i ∈ annotated (log ++ [(id, .error e)]) ↔ i ∈ annotated log := by
    simp [mem_annotated]
  have hne (i : ElementId) (hi : i ∈ annotated log) : id ≠ i := by
    rintro rfl
    exact ht.not_mem_annotated he hi
  refine ⟨?_, ?_, ht.distinct, ?_, ?_, ?_⟩
  · intro i result hi
    rcases List.mem_append.1 hi with hi | hi
    · exact ht.outcome i result hi
    · cases List.mem_singleton.1 hi
      exact he.symm
  · intro i s
    simp [ht.known]
  · intro i g
    rw [hann]
    exact ht.recognized i g
  · intro i hi
    have hi' := (hann i).1 hi
    rw [List.count_cons_of_ne (hne i hi')]
    exact ht.once i hi'
  · intro i hi
    have hi' : i ∉ annotated log := fun ha => hi ((hann i).2 ha)
    have hc := ht.each i hi'
    simp only [List.map_append, List.map_singleton, List.count_append, List.count_cons, List.count_nil, hc]
    omega

/-- The first attempt at an element that can be inferred is its only request, and what it gives is remembered. -/
theorem first (ht : Coherent gs h log t) {id : ElementId} {s : Signature} {g : Option Generator}
    (hs : h.inferred gs id = .ok (s, g)) (hn : id ∉ annotated log) :
    Coherent gs h (log ++ [(id, .ok s)])
      { known := (id, s) :: t.known
        recognized := (g.map fun g => (id, g)).toList ++ t.recognized
        requests := id :: t.requests } := by
  have hsig := Host.inferredSignature_of_ok hs
  have hgen := Host.recognizer?_of_ok hs
  have hnew : id ∉ log.map Prod.fst := by
    intro hm
    obtain ⟨a, ha, rfl⟩ := List.mem_map.1 hm
    have hr := ht.outcome a.1 a.2 ha
    rw [hsig] at hr
    exact hn (mem_annotated.2 ⟨s, hr ▸ ha⟩)
  have hold (s' : Signature) : (id, .ok s') ∉ log := fun hm => hn (mem_annotated.2 ⟨s', hm⟩)
  have hann (i : ElementId) : i ∈ annotated (log ++ [(id, .ok s)]) ↔ i = id ∨ i ∈ annotated log := by
    simp [mem_annotated, exists_or, or_comm]
  refine ⟨?_, ?_, ?_, ?_, ?_, ?_⟩
  · intro i result hi
    rcases List.mem_append.1 hi with hi | hi
    · exact ht.outcome i result hi
    · cases List.mem_singleton.1 hi
      exact hsig.symm
  · intro i s'
    by_cases hi : i = id
    · subst hi
      simp [hold, eq_comm]
    · simp [List.lookup_cons, beq_eq_false_iff_ne.mpr hi, hi, ht.known]
  · exact List.nodup_cons.2 ⟨lookup_eq_none_iff.1 (ht.lookup_eq_none.2 hn), ht.distinct⟩
  · intro i g'
    have hl : t.recognized.lookup id = none := by
      rw [Option.eq_none_iff_forall_ne_some]
      intro g' hg
      exact hn ((ht.recognized id g').1 hg).1
    rw [hann]
    by_cases hi : i = id
    · subst hi
      cases g <;> simp [hl, hgen]
    · have hr := ht.recognized i g'
      cases g <;> simp [List.lookup_cons, beq_eq_false_iff_ne.mpr hi, hi, hr]
  · intro i hi
    rcases (hann i).1 hi with rfl | hi
    · rw [List.count_cons_self, ht.each i hn, List.count_eq_zero_of_not_mem hnew]
    · have hne : id ≠ i := by
        rintro rfl
        exact hn hi
      rw [List.count_cons_of_ne hne]
      exact ht.once i hi
  · intro i hi
    rw [hann, not_or] at hi
    have hne : id ≠ i := fun he => hi.1 he.symm
    rw [List.count_cons_of_ne hne, ht.each i hi.2]
    simp [List.count_append, hne]

/-- One attempt: the answer is that of inference, and the store stays coherent with the attempts made. -/
theorem signature (ht : Coherent gs h log t) (id : ElementId) :
    (t.signature gs h id).1 = h.inferredSignature gs id ∧
      Coherent gs h (log ++ [(id, h.inferredSignature gs id)]) (t.signature gs h id).2 := by
  cases hk : t.known.lookup id with
  | some s =>
      have hm := (ht.known id s).1 hk
      rw [signature_known hk, ← ht.outcome id _ hm]
      exact ⟨rfl, ht.again hm⟩
  | none =>
      have hn := ht.lookup_eq_none.1 hk
      rw [signature_fresh hk, request_eq]
      cases hi : h.inferred gs id with
      | error e =>
          have he := Host.inferredSignature_of_error hi
          rw [he]
          exact ⟨rfl, ht.failing he⟩
      | ok result =>
          obtain ⟨s, g⟩ := result
          rw [Host.inferredSignature_of_ok hi]
          exact ⟨rfl, ht.first hi hn⟩

/-- Several attempts: they end at the first element that fails, as inference on one after the other does. -/
theorem signatures (ht : Coherent gs h log t) (ids : List ElementId) :
    (t.signatures gs h ids).1 = ids.mapM (h.inferredSignature gs) ∧
      Coherent gs h (log ++ t.attempts gs h ids) (t.signatures gs h ids).2 := by
  induction ids generalizing log t with
  | nil => exact ⟨rfl, by simpa [attempts, SignatureStore.signatures] using ht⟩
  | cons id ids ih =>
      obtain ⟨hr, ht'⟩ := ht.signature id
      rw [← hr] at ht'
      rw [List.mapM_cons, ← hr, SignatureStore.signatures, attempts]
      rcases hc : t.signature gs h id with ⟨e | s, t'⟩
      · rw [hc] at ht'
        exact ⟨rfl, ht'⟩
      · rw [hc] at ht'
        obtain ⟨hrs, ht''⟩ := ih ht'
        rw [List.append_assoc] at ht''
        simp only [← hrs]
        rcases hcs : t'.signatures gs h ids with ⟨e | ss, t''⟩
        · rw [hcs] at ht''
          exact ⟨rfl, ht''⟩
        · rw [hcs] at ht''
          exact ⟨rfl, ht''⟩

/-- One attempt adds one request or none. -/
theorem signature_requests (gs : GeneratorSet) (h : Host) (t : SignatureStore) (id : ElementId) :
    (t.signature gs h id).2.requests = t.requests ∨ (t.signature gs h id).2.requests = id :: t.requests := by
  cases hk : t.known.lookup id with
  | some s => exact Or.inl (by rw [signature_known hk])
  | none =>
      right
      rw [signature_fresh hk, request_eq]
      cases h.inferred gs id <;> rfl

/-- An element that fails is requested at every attempt. -/
theorem signature_failing (ht : Coherent gs h log t) {id : ElementId} {e : Failure}
    (he : h.inferredSignature gs id = .error e) :
    t.signature gs h id = (.error e, { t with requests := id :: t.requests }) := by
  have hn := ht.not_mem_annotated he
  rw [signature_fresh (ht.lookup_eq_none.2 hn), request_eq, Host.inferred_of_inferredSignature_error he]

/-- The first element that fails is the last one attempted and the last one requested. -/
theorem signatures_failing (ht : Coherent gs h log t) {start : List ElementId} {id : ElementId} {e : Failure}
    (rest : List ElementId) (hok : ∀ a ∈ start, ∃ s, h.inferredSignature gs a = .ok s)
    (he : h.inferredSignature gs id = .error e) :
    t.attempts gs h (start ++ id :: rest) =
        start.map (fun a => (a, h.inferredSignature gs a)) ++ [(id, .error e)] ∧
      ∃ made, (t.signatures gs h (start ++ id :: rest)).2.requests = id :: made ++ t.requests ∧ made ⊆ start := by
  induction start generalizing log t with
  | nil =>
      rw [List.nil_append, attempts, SignatureStore.signatures, ht.signature_failing he]
      exact ⟨rfl, [], rfl, List.Subset.refl _⟩
  | cons a start ih =>
      obtain ⟨s, hs⟩ := hok a (List.mem_cons_self ..)
      obtain ⟨hr, ht'⟩ := ht.signature a
      have hs' := hr.trans hs
      obtain ⟨hmade, made, hreq, hsub⟩ := ih ht' fun b hb => hok b (List.mem_cons_of_mem _ hb)
      rw [List.cons_append, attempts_cons_ok hs', signatures_cons_ok hs', hmade, hreq]
      refine ⟨by simp [hs], ?_⟩
      rcases signature_requests gs h t a with hreq | hreq
      · exact ⟨made, by rw [hreq], fun b hb => List.mem_cons_of_mem _ (hsub hb)⟩
      · refine ⟨made ++ [a], by simp [hreq], ?_⟩
        intro b hb
        rcases List.mem_append.1 hb with hb | hb
        · exact List.mem_cons_of_mem _ (hsub hb)
        · cases List.mem_singleton.1 hb
          exact List.mem_cons_self ..

end Coherent

/-- A store that is asked first gives what inference gives. -/
theorem empty_signature (gs : GeneratorSet) (h : Host) (id : ElementId) :
    (empty.signature gs h id).1 = h.inferredSignature gs id :=
  ((coherent_empty gs h).signature id).1

/-- What a call answers after the attempts of `log`. Signatures are those that a fresh store gives. -/
def answerAfter (gs : GeneratorSet) (h : Host) (log : List Attempt) : StoreCall → StoreAnswer
  | .signature id => .signature (empty.signature gs h id).1
  | .allSignatures => .signatures (h.executables.mapM fun id => (empty.signature gs h id).1)
  | .recognizer id => .recognizer (if id ∈ annotated log then h.recognizer? gs id else none)
  | .size => .size (annotated log).dedup.length

namespace Coherent

variable {gs : GeneratorSet} {h : Host} {log : List Attempt} {t : SignatureStore}

theorem recognizer?_eq (ht : Coherent gs h log t) (id : ElementId) :
    t.recognizer? id = if id ∈ annotated log then h.recognizer? gs id else none := by
  apply Option.ext
  intro g
  change t.recognized.lookup id = some g ↔ _
  rw [ht.recognized]
  split <;> simp_all

/-- The size counts the elements that are remembered, each once. -/
theorem size_eq (ht : Coherent gs h log t) : t.size = (annotated log).dedup.length := by
  have hmem (id : ElementId) : id ∈ t.known.map Prod.fst ↔ id ∈ (annotated log).dedup := by
    rw [List.mem_dedup, ← not_iff_not, ← lookup_eq_none_iff, ht.lookup_eq_none]
  have hperm := (List.perm_ext_iff_of_nodup ht.distinct (List.nodup_dedup _)).2 hmem
  rw [size, ← hperm.length_eq, List.length_map]

/-- One call: it answers as after the attempts so far, and its own attempts are added to them. -/
theorem answer (ht : Coherent gs h log t) (call : StoreCall) :
    (t.answer gs h call).1 = answerAfter gs h log call ∧
      Coherent gs h (log ++ t.made gs h call) (t.answer gs h call).2 := by
  cases call with
  | signature id =>
      obtain ⟨hr, ht'⟩ := ht.signature id
      refine ⟨by rw [SignatureStore.answer, answerAfter, hr, empty_signature], ?_⟩
      rw [made, attempts_singleton, hr]
      exact ht'
  | allSignatures =>
      obtain ⟨hr, ht'⟩ := ht.signatures h.executables
      refine ⟨?_, ht'⟩
      simp only [SignatureStore.answer, answerAfter, allSignatures, empty_signature, hr]
  | recognizer id =>
      refine ⟨by rw [SignatureStore.answer, answerAfter, ht.recognizer?_eq], ?_⟩
      rwa [made, List.append_nil]
  | size =>
      refine ⟨by rw [SignatureStore.answer, answerAfter, ht.size_eq], ?_⟩
      rwa [made, List.append_nil]

/-- Any number of calls. -/
theorem run (ht : Coherent gs h log t) (calls : List StoreCall) :
    Coherent gs h (log ++ history gs h calls t) (SignatureStore.run gs h calls t).2 := by
  induction calls generalizing log t with
  | nil => simpa [history, SignatureStore.run] using ht
  | cons call calls ih =>
      have ht' := ih (ht.answer call).2
      rwa [List.append_assoc] at ht'

end Coherent

theorem length_run (gs : GeneratorSet) (h : Host) (calls : List StoreCall) (t : SignatureStore) :
    (run gs h calls t).1.length = calls.length := by
  induction calls generalizing t with
  | nil => rfl
  | cons call calls ih => simp [run, ih]

theorem run_append (gs : GeneratorSet) (h : Host) (before after : List StoreCall) (t : SignatureStore) :
    (run gs h (before ++ after) t).1 = (run gs h before t).1 ++ (run gs h after (run gs h before t).2).1 := by
  induction before generalizing t with
  | nil => rfl
  | cons call before ih => simp [run, ih]

/-- The answer to a call in the middle of others is the one that the store gives at that moment. -/
theorem getElem?_run (gs : GeneratorSet) (h : Host) (before : List StoreCall) (call : StoreCall)
    (after : List StoreCall) (t : SignatureStore) :
    (run gs h (before ++ call :: after) t).1[before.length]? =
      some ((run gs h before t).2.answer gs h call).1 := by
  rw [run_append, List.getElem?_append_right (Nat.le_of_eq (length_run ..)), length_run]
  simp [run]

/-- Coherence of a store over every sequence of calls. Each answer is the one that the attempts before it determine,
as if every signature were asked of a fresh store; a request for all signatures stops at the first element that fails
and requests nothing after it; what was inferred has been requested once and is remembered, and what was not has been
requested at each attempt and is not. -/
theorem run_is_coherent (gs : GeneratorSet) (h : Host) (calls : List StoreCall) :
    let fresh := fun id => (empty.signature gs h id).1
    let t := (run gs h calls empty).2
    let log := history gs h calls empty
    (∀ before call after, calls = before ++ call :: after →
      (run gs h calls empty).1[before.length]? =
        some (answerAfter gs h (history gs h before empty) call)) ∧
    (∀ id result, (id, result) ∈ log → result = fresh id) ∧
    (∀ start id rest e, h.executables = start ++ id :: rest →
      (∀ a ∈ start, ∃ s, fresh a = .ok s) → fresh id = .error e →
      (t.allSignatures gs h).1 = .error e ∧
      t.made gs h .allSignatures = start.map (fun a => (a, fresh a)) ++ [(id, .error e)] ∧
      (∀ a ∈ start, (t.allSignatures gs h).2.known.lookup a = (fresh a).toOption) ∧
      ∃ made, (t.allSignatures gs h).2.requests = id :: made ++ t.requests ∧ made ⊆ start) ∧
    (∀ id ∈ annotated log, t.requests.count id = 1 ∧ ∃ s, fresh id = .ok s ∧ t.known.lookup id = some s) ∧
    (∀ id, id ∉ annotated log →
      t.requests.count id = (log.map Prod.fst).count id ∧ t.known.lookup id = none) ∧
    t.size = (annotated log).dedup.length ∧
    (∀ id g, t.recognizer? id = some g ↔
      id ∈ annotated log ∧
        ∃ declared, h.signature id = .ok declared ∧ (declared.infer gs h).1 = .ok (some g)) := by
  intro fresh t log
  have hfresh (id : ElementId) : fresh id = h.inferredSignature gs id := empty_signature gs h id
  have ht : Coherent gs h log t := by simpa using (coherent_empty gs h).run calls
  refine ⟨?_, ?_, ?_, ?_, ?_, ht.size_eq, ?_⟩
  · rintro before call after rfl
    have hb := (coherent_empty gs h).run before
    rw [List.nil_append] at hb
    rw [getElem?_run, (hb.answer call).1]
  · intro id result hm
    rw [hfresh, ht.outcome id result hm]
  · intro start id rest e hx hok he
    simp only [hfresh] at hok he ⊢
    obtain ⟨hr, ht'⟩ := ht.signatures h.executables
    obtain ⟨hmade, hreq⟩ := ht.signatures_failing rest hok he
    rw [← hx] at hmade hreq
    refine ⟨?_, hmade, ?_, hreq⟩
    · rw [allSignatures, hr, hx, Traversal.mapM_of_failing hok he]
    · intro a ha
      obtain ⟨s, hs⟩ := hok a ha
      rw [hs]
      refine (ht'.known a s).2 (List.mem_append_right _ ?_)
      rw [hmade, ← hs]
      exact List.mem_append_left _ (List.mem_map_of_mem ha)
  · intro id hm
    obtain ⟨s, hs⟩ := mem_annotated.1 hm
    refine ⟨ht.once id hm, s, ?_, (ht.known id s).2 hs⟩
    rw [hfresh, ← ht.outcome id _ hs]
  · exact fun id hn => ⟨ht.each id hn, ht.lookup_eq_none.2 hn⟩
  · intro id g
    rw [← Host.recognizer?_eq_some_iff]
    exact ht.recognized id g

/-- A host that lists an executable twice, and between its two places one whose signature is lost. -/
def damaged : Host where
  kind _ := .method
  simpleName _ := "Pet"
  qualifiedName _ := "a.Pet"
  enclosing _ := some ⟨0⟩
  superclass _ := .noType
  annotations _ := []
  executables := [⟨1⟩, ⟨2⟩, ⟨1⟩]
  signature id :=
    if id = ⟨1⟩ then .ok (.method id ⟨0⟩ "self" { identity := .declared ⟨0⟩ })
    else .error (.program (.unknownElement id))

theorem run_is_coherent_damaged :
    let t := (run .all damaged [.allSignatures, .signature ⟨2⟩, .signature ⟨1⟩] empty).2
    t.requests.count ⟨1⟩ = 1 ∧ t.requests.count ⟨2⟩ = 2 ∧ t.known.lookup ⟨2⟩ = none ∧ t.size = 1 ∧
      (t.allSignatures .all damaged).1 = .error (.program (.unknownElement ⟨2⟩)) := by
  obtain ⟨_, _, hstop, honce, heach, hsize, _⟩ :=
    run_is_coherent .all damaged [.allSignatures, .signature ⟨2⟩, .signature ⟨1⟩]
  have hlost := heach ⟨2⟩ (by decide)
  have hall := hstop [⟨1⟩] ⟨2⟩ [⟨1⟩] (.program (.unknownElement ⟨2⟩)) rfl (fun a ha => ?_) rfl
  · exact ⟨(honce ⟨1⟩ (by decide)).1, hlost.1, hlost.2, hsize, hall.1⟩
  · rw [List.mem_singleton.1 ha]
    exact ⟨_, rfl⟩

end SignatureStore

end FluentThis
