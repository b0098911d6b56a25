import FluentThis.Proofs.ProgramInference
import FluentThis.Proofs.WorkspaceReading
/-!
What a check can run into. Once a program is built nothing fails any more and no method is lost, so all that stops a
check is for the user to mend: a file, a list of generators or the text of a program.
-/

namespace FluentThis

/-- The name of the type that a method of `t` returns. -/
def DeclaredMethod.returnText (s : Source) (t : DeclaredType) (m : DeclaredMethod) : String :=
  match m.kind with
  | .constructor => t.trimmedName
  | .method => (s.scope.resolve m.returns).display s.typeName

namespace Program

theorem display_eq_returnText {s : Source} {d : Declaration} (hm : d ∈ s.declarations) :
    (d.returned s).display s.typeName = d.method.returnText s d.type := by
  rw [Declaration.returned, DeclaredMethod.returnIdentity, DeclaredMethod.returnText]
  cases d.method.kind with
  | constructor => simp [TypeIdentity.display, Source.typeName, (Source.mem_declarations hm).1]
  | method => rfl

/-- The declared signature of every executable is there and has a type to return. -/
theorem signature_of_mem_executableIds {p : Program} {id : ElementId} (hid : id ∈ p.executableIds) :
    ∃ declared, p.host.signature id = .ok declared ∧ declared.returns.isSome = true := by
  simp only [executableIds, List.mem_map, List.mem_range] at hid
  obtain ⟨i, hi, rfl⟩ := hid
  have hel : p.element? ⟨p.types.length + i⟩ = some (.executable p.executables[i]) := by
    simp [element?, hi]
  exact ⟨p.executables[i].signature ⟨p.types.length + i⟩, by simp [host, signature, hel], by simp⟩

/-- What the entries of a report say of a built program apart from what is inferred. -/
theorem report_names (gs : GeneratorSet) (s : Source) :
    ∃ r, Report.ofHost gs s.program.host = .ok r ∧
      r.entries.map (fun e => (e.owner, e.name, e.kind, e.returnType)) =
        s.types.flatMap fun t => t.methods.map fun m =>
          (t.trimmedName, m.elementName, m.kind, some (m.returnText s t)) := by
  have hentry : ∀ d ∈ s.declarations, ∀ id, s.program.element? id = some (.executable (d.element s)) →
      ∃ e, s.program.host.entry gs id = .ok e ∧
        (d.type.trimmedName, d.method.elementName, d.method.kind, some (d.method.returnText s d.type)) =
          (e.owner, e.name, e.kind, e.returnType) := by
    intro d hm id hd
    obtain ⟨e, he, hi⟩ := Declaration.infers_entry hm hd gs
    refine ⟨e, he, ?_⟩
    rw [hi.owner, hi.name, hi.kind, hi.returnType, display_eq_returnText hm]
  obtain ⟨r, hr, hall⟩ := report_of_entries hentry
  refine ⟨r, hr, ?_⟩
  rw [← Source.map_declarations s]
  have hmap := List.forall₂_map_left_iff.2 (List.forall₂_map_right_iff.2 hall)
  rw [List.forall₂_eq_eq_eq] at hmap
  exact hmap.symm

end Program

namespace CommandFailure

/-- The failure is for the user to mend; nothing inside the program is blamed. -/
def IsUsers (e : CommandFailure) : Prop :=
  ∃ undertaking cause, e = .failed undertaking cause ∧ cause.isUserError = true ∧
    undertaking ≠ some .trustProgram

end CommandFailure

theorem GeneratorSet.isUserError_of_eraseAll {gs : GeneratorSet} {parts : List String} {e : Failure}
    (he : gs.eraseAll parts = .error e) : e.isUserError = true := by
  induction parts generalizing gs with
  | nil => cases he
  | cons part parts ih =>
      rw [eraseAll, Generator.ofText] at he
      cases hn : Generator.named? part with
      | none =>
          rw [hn] at he
          cases he
          rfl
      | some g =>
          rw [hn] at he
          exact ih he

theorem Settings.isUserError_of_generators {settings : Settings} {e : Failure}
    (he : settings.generators = .error e) : e.isUserError = true := by
  unfold generators GeneratorSet.disabling at he
  cases hd : settings.disabled with
  | none =>
      rw [hd] at he
      cases he
  | some list =>
      rw [hd] at he
      exact GeneratorSet.isUserError_of_eraseAll he

theorem Program.isUserError_of_ofSource {s : Source} {e : Failure} (he : ofSource s = .error e) :
    e.isUserError = true := by
  unfold ofSource at he
  split at he
  · cases he
    rfl
  · cases he

/-- A text makes a program by way of a source, or the text is at fault. -/
theorem Program.ofText_cases (p : Path) (text : String) :
    (∃ s, ofText p text = ofSource s) ∨ ∃ e, ofText p text = .error e ∧ e.isUserError = true := by
  unfold ofText
  split
  · unfold ofJson
    cases Source.ofJson text with
    | ok s => exact .inl ⟨s, rfl⟩
    | error fault => exact .inr ⟨_, rfl, rfl⟩
  · unfold ofToml
    cases Source.ofToml text with
    | ok s => exact .inl ⟨s, rfl⟩
    | error fault => exact .inr ⟨_, rfl, rfl⟩

namespace Workspace

variable {w : Workspace} {p : Path}

theorem isUserError_of_config {e : Failure} (he : w.config p = .error e) : e.isUserError = true := by
  unfold config at he
  cases ht : w.text p with
  | error cause =>
      rw [ht] at he
      cases he
      rfl
  | ok text =>
      simp only [ht] at he
      cases hc : Config.ofToml text with
      | error fault =>
          rw [hc] at he
          cases he
          rfl
      | ok config =>
          rw [hc] at he
          cases he

/-- A file makes a program by way of a source, or the file is at fault. -/
theorem program_cases (w : Workspace) (p : Path) :
    (∃ s, w.program p = Program.ofSource s) ∨ ∃ e, w.program p = .error e ∧ e.isUserError = true := by
  unfold program
  cases w.text p with
  | error cause => exact .inr ⟨_, rfl, rfl⟩
  | ok text => exact Program.ofText_cases p text

end Workspace

namespace CheckRequest

open CommandFailure

variable {r : CheckRequest} {w : Workspace} {e : CommandFailure}

theorem isUsers_explain {cause : Failure} (h : cause.isUserError = true) : (explain cause).IsUsers := by
  refine ⟨none, cause, ?_, h, Option.some_ne_none _ |>.symm⟩
  rw [explain, if_pos h]

theorem isUsers_of_settingsIn (he : r.settingsIn w = .error e) : e.IsUsers := by
  unfold settingsIn at he
  cases hc : r.config with
  | none =>
      rw [hc] at he
      cases he
  | some p =>
      rw [hc] at he
      cases hw : w.config p with
      | error cause =>
          simp only [hw] at he
          cases he
          exact ⟨_, cause, rfl, Workspace.isUserError_of_config hw, by simp⟩
      | ok config =>
          simp only [hw] at he
          cases he

/-- Each step on the way to a report either fails for the user to mend or hands on to the next one, and the report
itself, which comes last, cannot fail. -/
theorem isUsers_of_reportIn (he : r.reportIn w = .error e) : e.IsUsers := by
  unfold reportIn at he
  cases hs : r.settingsIn w with
  | error cause =>
      rw [hs] at he
      cases he
      exact isUsers_of_settingsIn hs
  | ok settings =>
      simp only [hs] at he
      cases hg : settings.generators with
      | error cause =>
          simp only [hg] at he
          cases he
          exact isUsers_explain (Settings.isUserError_of_generators hg)
      | ok gs =>
          simp only [hg] at he
          obtain ⟨s, hp⟩ | ⟨cause, hp, hu⟩ := w.program_cases r.program
          · simp only [hp] at he
            cases ho : Program.ofSource s with
            | error cause =>
                simp only [ho] at he
                cases he
                exact ⟨_, cause, rfl, Program.isUserError_of_ofSource ho, by simp⟩
            | ok program =>
                obtain ⟨report, hr, _⟩ := Program.report_names gs s
                simp only [ho, Program.eq_program_of_ofSource ho, hr] at he
                cases he
          · simp only [hp] at he
            cases he
            exact ⟨_, cause, rfl, hu, by simp⟩

end CheckRequest

namespace Program

/-- Checking a program loses nothing. A report on a built program is made, whatever generators are active, and has
one entry for each declaration of a method, in order, with what is declared. No executable is without a signature or
without a type to return, so a check that stops before its report is there does so for the user to mend. -/
theorem checking_loses_nothing (s : Source) (p : Program) (gs : GeneratorSet) (hp : ofSource s = .ok p) :
    (∃ r, Report.ofHost gs p.host = .ok r ∧
      r.entries.map (fun e => (e.owner, e.name, e.kind, e.returnType)) =
        s.types.flatMap fun t => t.methods.map fun m =>
          (t.trimmedName, m.elementName, m.kind, some (m.returnText s t))) ∧
    (∀ id ∈ p.host.executables, ∃ declared, p.host.signature id = .ok declared ∧ declared.returns.isSome = true) ∧
    ∀ (request : CheckRequest) (w : Workspace) (e : CommandFailure),
      ((request.report : StateM Workspace (Except CommandFailure Report)) w).1 = .error e → e.IsUsers := by
  refine ⟨?_, fun id hid => signature_of_mem_executableIds hid, ?_⟩
  · rw [eq_program_of_ofSource hp]
    exact report_names gs s
  · intro request w e he
    rw [CheckRequest.report_run] at he
    exact CheckRequest.isUsers_of_reportIn he

theorem checking_loses_nothing_builders :
    ofSource builders = .ok builders.program ∧
      ∃ r, Report.ofHost .all builders.program.host = .ok r ∧
        r.entries.map (fun e => (e.owner, e.name, e.kind, e.returnType)) =
          [("a.Pet.Builder", "set", .method, some "a.Pet.Builder"),
            ("a.Pet.Builder", "set", .method, some "a.Pet.Builder[]"),
            ("a.Pet.Builder", "<init>", .constructor, some "a.Pet.Builder"),
            ("a.Made.Builder", "set", .method, some "a.Pet.Builder"),
            ("a.Made.Builder", "self", .method, some "a.Made.Builder"),
            ("a.Made.Builder", "of", .method, some "a.Pet.Builder")] := by
  have hp : ofSource builders = .ok builders.program := rfl
  obtain ⟨⟨r, hr, hmap⟩, _⟩ := checking_loses_nothing builders builders.program .all hp
  exact ⟨hp, r, hr, hmap⟩

end Program

end FluentThis
