import FluentThis.Proofs.WorkspaceReading
/-!
What a search for the configuration finds. A file that holds no configuration is passed over, in whatever way it fails
to. Main statements: the search answers with the nearest file that holds one, and with the defaults exactly when no
file does.
-/

namespace FluentThis

namespace Workspace

variable (w : Workspace)

/-- There is no such file, or it cannot be read, or no configuration is in it. -/
def Unusable (p : Path) : Prop := ∃ e, w.config p = .error e

/-- The nearest of several files that holds a configuration. -/
inductive Nearest : List Path → Path → Config → Prop where
  | here {p : Path} {config : Config} (farther : List Path) (usable : w.config p = .ok config) :
      Nearest (p :: farther) p config
  | past {q p : Path} {farther : List Path} {config : Config} (unusable : w.Unusable q)
      (nearest : Nearest farther p config) : Nearest (q :: farther) p config

variable {w}

theorem not_unusable_of_ok {p : Path} {config : Config} (h : w.config p = .ok config) : ¬w.Unusable p := by
  intro hp
  obtain ⟨e, he⟩ := hp
  cases h.symm.trans he

theorem firstConfig_of_unusable {p : Path} (h : w.Unusable p) (farther : List Path) :
    w.firstConfig (p :: farther) = w.firstConfig farther := by
  obtain ⟨e, he⟩ := h
  rw [firstConfig, he]

theorem firstConfig_of_ok {p : Path} {config : Config} (h : w.config p = .ok config) (farther : List Path) :
    w.firstConfig (p :: farther) = ⟨config, some p⟩ := by
  rw [firstConfig, h]

/-- The search ends at the nearest file that holds a configuration. -/
theorem firstConfig_eq_file_iff {ps : List Path} {p : Path} {config : Config} :
    w.firstConfig ps = ⟨config, some p⟩ ↔ w.Nearest ps p config := by
  constructor
  · intro h
    induction ps with
    | nil => cases h
    | cons q farther ih =>
        cases hq : w.config q with
        | error e =>
            have hunusable : w.Unusable q := ⟨e, hq⟩
            rw [firstConfig_of_unusable hunusable] at h
            exact .past hunusable (ih h)
        | ok found =>
            rw [firstConfig_of_ok hq] at h
            cases h
            exact .here farther hq
  · intro h
    induction h with
    | here farther usable => exact firstConfig_of_ok usable farther
    | past unusable nearest ih =>
        rw [firstConfig_of_unusable unusable]
        exact ih

/-- The search ends without a file exactly when none of the files holds a configuration. -/
theorem firstConfig_eq_defaults_iff {ps : List Path} : w.firstConfig ps = .defaults ↔ ∀ p ∈ ps, w.Unusable p := by
  induction ps with
  | nil => simp [firstConfig]
  | cons p farther ih =>
      rw [List.forall_mem_cons]
      cases hp : w.config p with
      | error e =>
          have hunusable : w.Unusable p := ⟨e, hp⟩
          rw [firstConfig_of_unusable hunusable, ih]
          exact (and_iff_right hunusable).symm
      | ok config =>
          rw [firstConfig_of_ok hp]
          constructor
          · intro h
            cases h
          · intro h
            exact absurd h.1 (not_unusable_of_ok hp)

/-- Some file is the nearest that holds a configuration, or no file holds one. -/
theorem nearest_or_unusable (w : Workspace) (ps : List Path) :
    (∃ p config, w.Nearest ps p config) ∨ ∀ p ∈ ps, w.Unusable p := by
  induction ps with
  | nil => exact .inr fun p hp => absurd hp List.not_mem_nil
  | cons q farther ih =>
      cases hq : w.config q with
      | ok config => exact .inl ⟨q, config, .here farther hq⟩
      | error e =>
          rcases ih with ⟨p, config, hp⟩ | hnone
          · exact .inl ⟨p, config, .past ⟨e, hq⟩ hp⟩
          · exact .inr (List.forall_mem_cons.2 ⟨⟨e, hq⟩, hnone⟩)

end Workspace

end FluentThis
