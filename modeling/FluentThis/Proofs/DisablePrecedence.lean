import FluentThis.Proofs.CheckStages
import FluentThis.Proofs.ConfigSearch
import FluentThis.Proofs.HiddenFiles
/-!
Which list of disabled generators counts for a check: that of the command line, or else that of the environment, or else
that of the configuration that is named, or else that of the nearest one. Main statement: this is the list that the
report is made with, a configuration that is named has to load even if its list does not count, and the configurations
that a search would look at have no part in a check that is given a list and names none.
-/

namespace FluentThis

namespace CheckRequest

variable {r : CheckRequest} {w : Workspace}

/-- The report of a check with the given list of disabled generators, or the first failure on the way to it. -/
def reportDisabling (r : CheckRequest) (w : Workspace) (list : Option String) : Except CommandFailure Report :=
  match GeneratorSet.disabling list with
  | .error e => .error (explain e)
  | .ok generators =>
    match w.program r.program with
    | .error e => .error (.failed (some (.loadProgram r.program)) e)
    | .ok program => (Report.ofHost generators program.host).mapError explain

theorem reportIn_of_settingsIn {settings : Settings} (h : r.settingsIn w = .ok settings) :
    r.reportIn w = r.reportDisabling w settings.disabled := by
  rw [reportIn, h]
  rfl

theorem reportIn_of_unusable {p : Path} {e : Failure} (hconfig : r.config = some p) (he : w.config p = .error e) :
    r.reportIn w = .error (.failed (some (.loadConfig p)) e) := by
  have hsettings : r.settingsIn w = .error (.failed (some (.loadConfig p)) e) := by
    rw [settingsIn, hconfig]
    dsimp only
    rw [he]
  rw [reportIn, hsettings]

/-- A configuration that does not fail has its part in the list, or none if the request has a list. -/
theorem reportIn_of_usable (h : ∀ p, r.config = some p → ¬w.Unusable p) :
    r.reportIn w = r.reportDisabling w (r.disabledIn w) := by
  rcases settingsIn_cases r w with ⟨e, hs, hfirst⟩ | ⟨settings, hs, hdisabled, _⟩
  · cases hfirst.fails with
    | config named unusable => exact absurd ⟨_, unusable⟩ (h _ named)
  · rw [reportIn_of_settingsIn hs, hdisabled]

theorem reportIn_of_disabled {list : String} (hconfig : r.config = none) (hdisabled : r.disabled = some list) :
    r.reportIn w = r.reportDisabling w (some list) := by
  have hlist : r.disabledIn w = some list := by
    rw [disabledIn, hdisabled]
    rfl
  rw [← hlist]
  apply reportIn_of_usable
  intro p hp
  rw [hconfig] at hp
  cases hp

variable {here : Workspace} {hidden : Place → Prop} {list : String}

/-- A check with a list of its own and no named configuration asks for its program only. -/
theorem blind_report (hconfig : r.config = none) (hdisabled : r.disabled = some list)
    (hprogram : here.Avoids hidden r.program) :
    Workspace.Blind here hidden (r.report : StateM Workspace (Except CommandFailure Report)) := by
  apply Workspace.Blind.of_reads r.report_run
  intro w w' hhere hagrees
  rw [reportIn_of_disabled hconfig hdisabled, reportIn_of_disabled hconfig hdisabled]
  unfold reportDisabling
  rw [hagrees.program (hprogram.of_sameSystem hhere)]

theorem blind_run (hconfig : r.config = none) (hdisabled : r.disabled = some list)
    (hprogram : here.Avoids hidden r.program) (houtput : ∀ p, r.output = some p → here.Avoids hidden p) (marks : Bool) :
    Workspace.Blind here hidden (r.run marks : StateM Workspace (Except CommandFailure Unit)) := by
  apply Workspace.Blind.bind (blind_report hconfig hdisabled hprogram)
  intro result
  cases result with
  | error e => exact .pure here hidden _
  | ok report =>
      dsimp only
      split
      · next p hp => exact .bind (.writeFile (houtput p hp) _) fun written => .pure here hidden _
      · exact .bind (.print here hidden _) fun u => .pure here hidden _

end CheckRequest

namespace CommandLine

/-- The arguments of a check in an environment that may have a list of disabled generators. -/
def CheckArguments.within (a : CheckArguments) (environment : Option String) : CheckArguments :=
  { a with disabled := a.disabled.or environment }

def Invocation.within (environment : Option String) : Invocation → Invocation
  | .check a => .check (a.within environment)
  | .init force => .init force

section

variable (environment : Option String)

theorem parseCheck_eq (words : List String) :
    parseCheck environment words = (parseCheck none words).map (Invocation.within environment) := by
  unfold parseCheck
  simp only [bind, Except.bind]
  cases Progress.words [.disable, .config, .format, .output, .plain, .help] [.program] {} words with
  | error e => rfl
  | ok value =>
      dsimp only
      cases value .program with
      | none => rfl
      | some program => simp [Except.map, Invocation.within, CheckArguments.within, pure, Except.pure]

theorem parseInit_eq (words : List String) :
    (parseInit words).map (Invocation.within environment) = parseInit words := by
  unfold parseInit
  simp only [bind, Except.bind]
  cases Progress.words [.force, .help] [] {} words <;> rfl

theorem parseWords_eq (escaped : Bool) (words : List String) :
    parseWords environment escaped words = (parseWords none escaped words).map (Invocation.within environment) := by
  induction words generalizing escaped with
  | nil => rfl
  | cons word rest ih =>
      cases escaped with
      | true => rfl
      | false =>
          simp only [parseWords]
          split
          · exact parseCheck_eq environment rest
          · exact (parseInit_eq environment rest).symm
          · rfl
          · split
            · exact ih true
            · rfl
            · split
              · rfl
              · exact ih false

/-- The environment has a part in nothing but the list of disabled generators. -/
theorem parse_eq (words : List String) :
    parse environment words = (parse none words).map (Invocation.within environment) :=
  parseWords_eq environment false words

end

namespace CheckArguments

/-- Which list of disabled generators counts, if any: the first in this order that there is. -/
inductive Counts (a : CheckArguments) (environment : Option String) (w : Workspace) : Option String → Prop where
  | given {list : String} (given : a.disabled = some list) : Counts a environment w (some list)
  | environment {list : String} (notGiven : a.disabled = none) (inherited : environment = some list) :
      Counts a environment w (some list)
  | named {p : String} {config : Config} (unlisted : a.disabled.or environment = none) (named : a.config = some p)
      (usable : w.config ⟨p⟩ = .ok config) : Counts a environment w config.checker.disabled
  | nearest {place : Place} {p : Path} {config : Config} (unlisted : a.disabled.or environment = none)
      (unnamed : a.config = none) (here : w.directory = some place)
      (nearest : w.Nearest (Config.candidates (Workspace.pathOf place)) p config) :
      Counts a environment w config.checker.disabled
  | nowhere (unlisted : a.disabled.or environment = none) (unnamed : a.config = none)
      (unusable : ∀ place, w.directory = some place →
        ∀ p ∈ Config.candidates (Workspace.pathOf place), w.Unusable p) : Counts a environment w none

variable {a : CheckArguments} {environment : Option String} {w : Workspace}

theorem Counts.disabledIn_eq {list : Option String} (h : a.Counts environment w list) :
    (a.within environment).request.disabledIn w = list := by
  unfold CheckRequest.disabledIn
  cases h with
  | given given => simp [within, request, given]
  | environment notGiven inherited => simp [within, request, notGiven, inherited]
  | named unlisted named usable => simp [within, request, unlisted, named, usable, Except.toOption]
  | nearest unlisted unnamed here nearest =>
      have hfound := Workspace.firstConfig_eq_file_iff.2 nearest
      simp [within, request, unlisted, unnamed, Workspace.configHere, here, hfound]
  | nowhere unlisted unnamed unusable =>
      have hdefaults : w.configHere = .defaults := by
        unfold Workspace.configHere
        cases hd : w.directory with
        | none => rfl
        | some place => exact Workspace.firstConfig_eq_defaults_iff.2 (unusable place hd)
      simp [within, request, unlisted, unnamed, hdefaults, Config.Loaded.defaults]

/-- Without a list on the command line or in the environment, a search decides if no configuration is named. -/
theorem exists_counts_of_unnamed (hunlisted : a.disabled.or environment = none) (hunnamed : a.config = none) :
    ∃ list, a.Counts environment w list := by
  cases hd : w.directory with
  | none =>
      refine ⟨_, .nowhere hunlisted hunnamed fun place hplace => ?_⟩
      rw [hd] at hplace
      cases hplace
  | some place =>
      rcases w.nearest_or_unusable (Config.candidates (Workspace.pathOf place)) with ⟨p, config, hp⟩ | hnone
      · exact ⟨_, .nearest hunlisted hunnamed hd hp⟩
      · refine ⟨_, .nowhere hunlisted hunnamed fun other hother => ?_⟩
        rw [hd] at hother
        cases hother
        exact hnone

/-- If the configuration that is named loads, some list counts, or that there is none does. -/
theorem exists_counts (h : ∀ p, a.config = some p → ¬w.Unusable ⟨p⟩) (environment : Option String) :
    ∃ list, a.Counts environment w list := by
  cases hgiven : a.disabled with
  | some list => exact ⟨_, .given hgiven⟩
  | none =>
      cases environment with
      | some list => exact ⟨_, .environment hgiven rfl⟩
      | none =>
          have hunlisted : a.disabled.or none = none := by rw [hgiven, Option.or_none]
          cases hnamed : a.config with
          | none => exact exists_counts_of_unnamed hunlisted hnamed
          | some p =>
              cases hp : w.config ⟨p⟩ with
              | error e => exact absurd ⟨e, hp⟩ (h p hnamed)
              | ok config => exact ⟨_, .named hunlisted hnamed hp⟩

end CheckArguments

section

variable {environment : Option String} {words : List String} {a : CheckArguments} {marks : Bool}

theorem blind_run {here : Workspace} {hidden : Place → Prop} (hparse : parse environment words = .ok (.check a))
    (h : Workspace.Blind here hidden (a.request.run marks : StateM Workspace (Except CommandFailure Unit))) :
    Workspace.Blind here hidden (run environment marks words : StateM Workspace Outcome) := by
  unfold run
  rw [hparse]
  apply Workspace.Blind.bind h
  intro result
  cases result <;> exact .pure here hidden _

end

/-- Where a search from the working directory looks for a configuration: at the places of its files, and where their
ways end, which is elsewhere if there are links. -/
def Searched (w : Workspace) (place : Place) : Prop :=
  ∃ start, w.directory = some start ∧
    ∃ p ∈ Config.candidates (Workspace.pathOf start), Workspace.names p = place ∨ (w.trail p).getLast? = some place

/-- A check that names a configuration fails if that does not load, whatever lists it is given. If it does not fail so,
exactly one list counts, and the report is the one that is made with it. A check that is given a list and names no
configuration cannot tell workspaces apart that differ only where its own paths do not pass, such as where a search would
look for a configuration: it ends with the same outcome, prints the same and writes the same. -/
theorem check_disabled_precedence {words : List String} {a : CheckArguments}
    (hparse : parse none words = .ok (.check a)) (environment : Option String) (marks : Bool) :
    let check : StateM Workspace Outcome := run environment marks words
    let report : StateM Workspace (Except CommandFailure Report) := (a.within environment).request.report
    parse environment words = .ok (.check (a.within environment)) ∧
      (∀ w p e, a.config = some p → w.config ⟨p⟩ = .error e →
        check w = (⟨1, some (CommandFailure.failed (some (.loadConfig ⟨p⟩)) e).complaint⟩, w)) ∧
      (∀ w, (∀ p, a.config = some p → ¬w.Unusable ⟨p⟩) →
        ∃ list, a.Counts environment w list ∧ (∀ other, a.Counts environment w other → other = list) ∧
          report w = ((a.within environment).request.reportDisabling w list, w)) ∧
      ∀ hidden w w', a.config = none → a.disabled.or environment ≠ none →
        Workspace.AgreesOff hidden w w' → w.Avoids hidden ⟨a.program⟩ →
        (∀ p, a.output = some p → w.Avoids hidden ⟨p⟩) →
        Workspace.RunsAlike hidden w w' (check w) (check w') ∧
          ∀ p, a.output = some p → (check w').2.read ⟨p⟩ = (check w).2.read ⟨p⟩ := by
  intro check report
  have hwithin : parse environment words = .ok (.check (a.within environment)) := by
    rw [parse_eq, hparse]
    rfl
  constructor
  · exact hwithin
  constructor
  · intro w p e hconfig he
    have hnamed : (a.within environment).request.config = some ⟨p⟩ := by
      simp [CheckArguments.within, CheckArguments.request, hconfig]
    have hreport := CheckRequest.reportIn_of_unusable hnamed he
    exact run_check hwithin marks (CheckRequest.run_error hreport marks)
  constructor
  · intro w husable
    obtain ⟨list, hlist⟩ := CheckArguments.exists_counts husable environment
    refine ⟨list, hlist, fun other hother => ?_, ?_⟩
    · rw [← hother.disabledIn_eq, hlist.disabledIn_eq]
    · have hnamed (p : Path) (hp : (a.within environment).request.config = some p) : ¬w.Unusable p := by
        obtain ⟨text, htext, rfl⟩ := Option.map_eq_some_iff.1 hp
        exact husable text htext
      have hreport := CheckRequest.report_run (a.within environment).request w
      rw [CheckRequest.reportIn_of_usable hnamed, hlist.disabledIn_eq] at hreport
      exact hreport
  · intro hidden w w' hconfig hgiven hagrees hprogram houtput
    obtain ⟨list, hlist⟩ := Option.ne_none_iff_exists'.1 hgiven
    have hunnamed : (a.within environment).request.config = none := by
      simp [CheckArguments.within, CheckArguments.request, hconfig]
    have hwritten (p : Path) (hp : (a.within environment).request.output = some p) : w.Avoids hidden p := by
      obtain ⟨text, htext, rfl⟩ := Option.map_eq_some_iff.1 hp
      exact houtput text htext
    have hblind := CheckRequest.blind_run hunnamed hlist hprogram hwritten marks
    have halike := blind_run hwithin hblind w w' (.refl w) hagrees
    exact ⟨halike, fun p hp => halike.agrees.read ((houtput p hp).of_sameSystem halike.same)⟩

/-- A program without types at the root, and a configuration with the given text beside it. -/
def configured (text : String) : Workspace where
  tree := FileTree.set { entries := [(["m.toml"], .file ByteArray.empty)] } [".returnsrcvr.toml"] (.file text.toUTF8)
  directory := some []

theorem searched_configured_iff {text : String} {place : Place} :
    Searched (configured text) place ↔ place = [".returnsrcvr.toml"] := by
  have hcandidates : Config.candidates (Workspace.pathOf []) = [⟨"/.returnsrcvr.toml"⟩] := by decide +kernel
  have hnames : Workspace.names ⟨"/.returnsrcvr.toml"⟩ = [".returnsrcvr.toml"] := by decide +kernel
  have hsystem : Workspace.SameSystem { directory := some [] } (configured text) := ⟨rfl, rfl, rfl, rfl⟩
  have htrail : (configured text).trail ⟨"/.returnsrcvr.toml"⟩ =
      [[], [".returnsrcvr.toml"], [".returnsrcvr.toml"]] := by
    rw [hsystem.trail]
    decide +kernel
  constructor
  · rintro ⟨start, hstart, p, hp, hplace⟩
    cases hstart
    rw [hcandidates, List.mem_singleton] at hp
    subst hp
    rw [hnames, htrail] at hplace
    rcases hplace with hplace | hplace
    · exact hplace.symm
    · cases hplace
      rfl
  · rintro rfl
    refine ⟨[], rfl, ⟨"/.returnsrcvr.toml"⟩, ?_, .inl hnames⟩
    rw [hcandidates]
    exact List.mem_singleton_self _

theorem agreesOff_configured (text text' : String) :
    Workspace.AgreesOff (Searched (configured text)) (configured text) (configured text') := by
  refine ⟨rfl, rfl, rfl, rfl, fun place hplace => ⟨?_, rfl⟩⟩
  have hne : place ≠ [".returnsrcvr.toml"] := fun heq => hplace (searched_configured_iff.2 heq)
  exact (FileTree.entry?_set_of_ne _ hne _).trans (FileTree.entry?_set_of_ne _ hne _).symm

/-- A list is given on the command line and another one in the environment, and the configuration has a third. -/
theorem check_disabled_precedence_configured :
    let check (words : List String) : StateM Workspace Outcome := run (some "autovalue") true words
    let given : CheckArguments := ⟨"m.toml", some "lombok", none, .text, some "r.txt", false⟩
    let words := ["check", "m.toml", "-o", "r.txt", "--disable-framework-support", "lombok"]
    let broken := configured "[checker"
    let sound := configured "[checker]\ndisable_framework_support = \"autovalue,lombok\""
    parse none words = .ok (.check given) ∧ given.Counts (some "autovalue") sound (some "lombok") ∧
      ((given.within (some "autovalue")).request.report : StateM Workspace (Except CommandFailure Report)) sound =
        ((given.within (some "autovalue")).request.reportDisabling sound (some "lombok"), sound) ∧
      Workspace.RunsAlike (Searched broken) broken sound (check words broken) (check words sound) ∧
      (check words sound).2.read ⟨"r.txt"⟩ = (check words broken).2.read ⟨"r.txt"⟩ ∧
      (check (words ++ ["--config", ".returnsrcvr.toml"]) broken).1.exitCode = 1 := by
  intro check given words broken sound
  have hwords : parse none words = .ok (.check given) := by decide +kernel
  obtain ⟨_, _, hlists, halike⟩ := check_disabled_precedence hwords (some "autovalue") true
  have hcounts : given.Counts (some "autovalue") sound (some "lombok") := .given rfl
  obtain ⟨list, _, honly, hreport⟩ := hlists sound (by rintro p ⟨⟩)
  rw [← honly _ hcounts] at hreport
  have havoids {p : Path} (hp : [".returnsrcvr.toml"] ∉ broken.trail p) : broken.Avoids (Searched broken) p := by
    intro place hplace hsearched
    rw [searched_configured_iff.1 hsearched] at hplace
    exact hp hplace
  have hprogram : broken.Avoids (Searched broken) ⟨"m.toml"⟩ := havoids (by decide +kernel)
  have houtput : broken.Avoids (Searched broken) ⟨"r.txt"⟩ := havoids (by decide +kernel)
  have hagrees : Workspace.AgreesOff (Searched broken) broken sound := agreesOff_configured _ _
  obtain ⟨hruns, hread⟩ := halike (Searched broken) broken sound rfl (by decide) hagrees hprogram (by rintro p ⟨⟩; exact houtput)
  have hnaming : parse none (words ++ ["--config", ".returnsrcvr.toml"]) =
      .ok (.check { given with config := some ".returnsrcvr.toml" }) := by decide +kernel
  have hmalformed : broken.config ⟨".returnsrcvr.toml"⟩ = .error (.configuration ".returnsrcvr.toml" .malformed) := by
    decide +kernel
  obtain ⟨_, hfails, _⟩ := check_disabled_precedence hnaming (some "autovalue") true
  have hfail := hfails broken _ _ rfl hmalformed
  exact ⟨hwords, hcounts, hreport, hruns, hread "r.txt" rfl, congrArg (·.1.exitCode) hfail⟩

end CommandLine

end FluentThis
