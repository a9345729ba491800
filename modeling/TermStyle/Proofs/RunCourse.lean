import TermStyle.Proofs.LeadingFlags
import TermStyle.Proofs.SettlingOutcome
import TermStyle.Proofs.TreeShape

/-! The course of a run. The first reading refuses the command line, or its flags settle the settings; then a tier is in
force, and the second reading shows a help text, refuses, or comes to a command, which is performed. -/

namespace TermStyle.Proofs.RunCourse
open CommandLine ActionRun StylerRun FlagValues SettlingOutcome TierPrecedence TreeShape LeadingFlags

section Steps

variable {given words : List String} {before after middle : Session} {flags full : Parsed} {settings : Settings}
  {command : Command} {globals : Globals} {tier : Tier} {columns : Int}

/-- What becomes of settings that were settled, or of the failure to settle them. -/
def unfolding (words : List String) : Except Failure Settings × Session → Except Failure Ending × Session
  | (.ok settings, session) => outcome (Perform.settled words settings) session
  | (.error (.problem problem), session) => outcome (Perform.reported problem) session
  | (.error failure, session) => (.error failure, session)

theorem run_accepted (accepted : (Program.preliminary (Program.columns before.world.env)).parse
    (Perform.preliminaryWords (DefaultCommand.insert given)) = .ok flags) :
    outcome (Perform.run given) before =
      unfolding (DefaultCommand.insert given) (outcome (Perform.configure (.ofParsed flags)) before) := by
  simp only [Perform.run, outcome_bind, outcome_world, andThen_ok, accepted]
  rw [outcome_tryCatch, outcome_bind]
  cases outcome (Perform.configure (.ofParsed flags)) before with
  | mk result session =>
    cases result with
    | ok settings => rfl
    | error failure => cases failure <;> rfl

theorem run_refused {stop : Stop} (refused : (Program.preliminary (Program.columns before.world.env)).parse
    (Perform.preliminaryWords (DefaultCommand.insert given)) = .error stop) :
    outcome (Perform.run given) before = outcome (Perform.stopped stop) before := by
  simp only [Perform.run, outcome_bind, outcome_world, andThen_ok, refused]

theorem settled_run (inForce : middle.styler.tier = some tier) (words : List String) (settings : Settings) :
    outcome (Perform.settled words settings) middle =
      match (Program.tree tier (Program.columns middle.world.env)).parse words with
      | .error stop => outcome (Perform.stopped stop) middle
      | .ok parsed => outcome (Perform.perform settings (Program.tree tier (Program.columns middle.world.env)) parsed) middle := by
  simp only [Perform.settled, outcome_bind, level_kept inForce, andThen_ok, outcome_world]
  split <;> simp_all

theorem parse_alike {other : Tier} {width : Int} (read : (Program.tree tier columns).parse words = .ok full) :
    (Program.tree other width).parse words = .ok full := by
  obtain ⟨read, taken⟩ := parse_ok_iff.mp read
  have alike : Alike (Program.tree tier columns) (Program.tree other width) :=
    .node rfl rfl (branches_alike tier other columns width)
  exact parse_ok_iff.mpr ⟨read_alike _ alike read, taken⟩

def carriedOut (globals : Globals) (command : Command) : Action Ending := Perform.reportingProblems do
  let settings ← Perform.configure globals
  Perform.interruptible do
    Perform.command settings globals command
    return ⟨0, false⟩

theorem outcome_reporting (action : Action Ending) (session : Session) :
    outcome (Perform.reportingProblems action) session = match outcome action session with
      | (.error (.problem problem), after) => outcome (Perform.reported problem) after
      | other => other := by
  unfold Perform.reportingProblems
  rw [outcome_tryCatch]
  cases outcome action session with
  | mk result after =>
    cases result with
    | ok ending => rfl
    | error failure => cases failure <;> rfl

theorem run_carriedOut (accepted : (Program.preliminary (Program.columns before.world.env)).parse
      (Perform.preliminaryWords (DefaultCommand.insert given)) = .ok flags)
    (read : (Program.tree tier columns).parse (DefaultCommand.insert given) = .ok full)
    (asked : Command.ofParsed? full = some command) :
    outcome (Perform.run given) before = outcome (carriedOut (.ofParsed full) command) before := by
  have same := TwoReadings.globals_agree accepted read
  rw [run_accepted accepted, same, carriedOut, outcome_reporting, outcome_bind]
  cases configuring : outcome (Perform.configure (.ofParsed flags)) before with
  | mk result middle =>
    cases result with
    | error failure => cases failure <;> rfl
    | ok settings =>
      obtain ⟨other, inForce⟩ := (configure_returns configuring).2
      simp only [unfolding, settled_run inForce, parse_alike read, Perform.perform, asked, andThen_ok, outcome_reporting, same]

end Steps

section Ways

/-- The first reading accepts the flags, they settle the settings, and a tier is in force from then on. -/
structure Configured (given : List String) (before : Session) (flags : Parsed) (settings : Settings) (middle : Session)
    (tier : Tier) : Prop where
  accepted : (Program.preliminary (Program.columns before.world.env)).parse
    (Perform.preliminaryWords (DefaultCommand.insert given)) = .ok flags
  configured : Returns (Perform.configure (.ofParsed flags)) before settings middle
  inForce : middle.styler.tier = some tier

/-- A reading stops the run, in one of the two sessions in which there is a reading. -/
inductive Stops (given : List String) (before : Session) (stop : Stop) : Session → Prop
  | first (refused : (Program.preliminary (Program.columns before.world.env)).parse
      (Perform.preliminaryWords (DefaultCommand.insert given)) = .error stop) : Stops given before stop before
  | second {flags settings middle tier} (configured : Configured given before flags settings middle tier)
      (refused : (Program.tree tier (Program.columns middle.world.env)).parse (DefaultCommand.insert given) = .error stop) :
      Stops given before stop middle

/-- The run comes to a command, which is performed in the session with a tier in force. -/
structure Performs (given : List String) (before : Session) (globals : Globals) (settings : Settings) (command : Command)
    (middle : Session) (tier : Tier) : Prop where
  flagged : ∃ flags, Configured given before flags settings middle tier ∧ globals = .ofParsed flags
  asked : ∃ full, (Program.tree tier (Program.columns middle.world.env)).parse (DefaultCommand.insert given) = .ok full ∧
    Command.ofParsed? full = some command

/-- The run comes to a problem, which is then reported in the given session. -/
inductive ComesTo (given : List String) (before : Session) (problem : Problem) : Session → Prop
  | settling {flags session} (accepted : (Program.preliminary (Program.columns before.world.env)).parse
        (Perform.preliminaryWords (DefaultCommand.insert given)) = .ok flags)
      (failed : outcome (Perform.configure (.ofParsed flags)) before = (.error (.problem problem), session)) :
      ComesTo given before problem session
  | performing {globals settings command middle tier session}
      (performs : Performs given before globals settings command middle tier)
      (failed : outcome (Perform.command settings globals command) middle = (.error (.problem problem), session)) :
      ComesTo given before problem session

def helped (tree : CommandLine.Tree) (session : Session) : Session :=
  { session with world := { session.world with output := session.world.output ++ Help.render tree } }

/-- Every way that a run can take, with what comes of it. -/
inductive Course (given : List String) (before : Session) : Except Failure Ending × Session → Prop
  | stopped {stop session} (stops : Stops given before stop session) : Course given before (outcome (Perform.stopped stop) session)
  | reported {problem session} (comes : ComesTo given before problem session) :
      Course given before (outcome (Perform.reported problem) session)
  | unsettled {flags failure session} (accepted : (Program.preliminary (Program.columns before.world.env)).parse
        (Perform.preliminaryWords (DefaultCommand.insert given)) = .ok flags)
      (failed : outcome (Perform.configure (.ofParsed flags)) before = (.error failure, session))
      (quiet : ∀ problem, failure ≠ .problem problem) : Course given before (.error failure, session)
  | unnamed {flags settings middle tier full} (configured : Configured given before flags settings middle tier)
      (read : (Program.tree tier (Program.columns middle.world.env)).parse (DefaultCommand.insert given) = .ok full)
      (unasked : Command.ofParsed? full = none) :
      Course given before (.ok ⟨1, false⟩, helped (Program.tree tier (Program.columns middle.world.env)) middle)
  | performed {globals settings command middle tier after} (performs : Performs given before globals settings command middle tier)
      (returned : Returns (Perform.command settings globals command) middle () after) :
      Course given before (.ok ⟨0, false⟩, after)
  | cancelled {globals settings command middle tier session} (performs : Performs given before globals settings command middle tier)
      (failed : outcome (Perform.command settings globals command) middle = (.error .interrupt, session)) :
      Course given before (outcome (Action.report "\nOperation cancelled by user" >>= fun _ => pure ⟨130, false⟩) session)
  | broken {globals settings command middle tier fault session} (performs : Performs given before globals settings command middle tier)
      (failed : outcome (Perform.command settings globals command) middle = (.error (.fault fault), session)) :
      Course given before (.error (.fault fault), session)

variable {given : List String} {before middle session : Session}

theorem Configured.run {flags : Parsed} {settings : Settings} {tier : Tier}
    (configured : Configured given before flags settings middle tier) :
    outcome (Perform.run given) before =
      match (Program.tree tier (Program.columns middle.world.env)).parse (DefaultCommand.insert given) with
      | .error stop => outcome (Perform.stopped stop) middle
      | .ok parsed => outcome (Perform.perform settings (Program.tree tier (Program.columns middle.world.env)) parsed) middle := by
  rw [run_accepted configured.accepted, configured.configured, unfolding, settled_run configured.inForce]

theorem Stops.run {stop : Stop} (stops : Stops given before stop session) :
    outcome (Perform.run given) before = outcome (Perform.stopped stop) session := by
  cases stops with
  | first refused => exact run_refused refused
  | second configured refused => rw [configured.run, refused]

theorem Performs.inForce {globals : Globals} {settings : Settings} {command : Command} {tier : Tier}
    (performs : Performs given before globals settings command middle tier) : middle.styler.tier = some tier := by
  obtain ⟨⟨_, configured, _⟩, _⟩ := performs
  exact configured.inForce

theorem Performs.run {globals : Globals} {settings : Settings} {command : Command} {tier : Tier}
    (performs : Performs given before globals settings command middle tier) :
    outcome (Perform.run given) before = match outcome (Perform.command settings globals command) middle with
      | (.ok _, after) => (.ok ⟨0, false⟩, after)
      | (.error .interrupt, after) => outcome (Action.report "\nOperation cancelled by user" >>= fun _ => pure ⟨130, false⟩) after
      | (.error (.problem problem), after) => outcome (Perform.reported problem) after
      | (.error (.fault fault), after) => (.error (.fault fault), after) := by
  obtain ⟨⟨flags, configured, rfl⟩, full, read, asked⟩ := performs
  rw [configured.run, read]
  simp only [Perform.perform, asked, TwoReadings.globals_agree configured.accepted read, outcome_reporting]
  simp only [Perform.interruptible, outcome_bind, outcome_tryCatch]
  cases outcome (Perform.command settings (.ofParsed flags) command) middle with
  | mk result after =>
    cases result with
    | ok done => rfl
    | error failure => cases failure <;> rfl

theorem ComesTo.run {problem : Problem} (comes : ComesTo given before problem session) :
    outcome (Perform.run given) before = outcome (Perform.reported problem) session := by
  cases comes with
  | settling accepted failed => rw [run_accepted accepted, failed, unfolding]
  | performing performs failed => rw [performs.run, failed]

/-- The cases are the two readings and what settling and the command come to. -/
theorem run_course (given : List String) (before : Session) : Course given before (outcome (Perform.run given) before) := by
  cases accepted : (Program.preliminary (Program.columns before.world.env)).parse
      (Perform.preliminaryWords (DefaultCommand.insert given)) with
  | error stop =>
    rw [run_refused accepted]
    exact .stopped (.first accepted)
  | ok flags =>
    cases configuring : outcome (Perform.configure (.ofParsed flags)) before with
    | mk result middle =>
      cases result with
      | error failure =>
        cases failure with
        | problem problem =>
          have comes : ComesTo given before problem middle := .settling accepted configuring
          rw [comes.run]
          exact .reported comes
        | fault fault =>
          rw [run_accepted accepted, configuring]
          exact .unsettled accepted configuring (by simp)
        | interrupt =>
          rw [run_accepted accepted, configuring]
          exact .unsettled accepted configuring (by simp)
      | ok settings =>
        obtain ⟨tier, inForce⟩ := (configure_returns configuring).2
        have configured : Configured given before flags settings middle tier := ⟨accepted, configuring, inForce⟩
        cases read : (Program.tree tier (Program.columns middle.world.env)).parse (DefaultCommand.insert given) with
        | error stop =>
          rw [configured.run, read]
          exact .stopped (.second configured read)
        | ok full =>
          cases asked : Command.ofParsed? full with
          | none =>
            rw [configured.run, read]
            simp only [Perform.perform, asked]
            exact .unnamed configured read asked
          | some command =>
            have performs : Performs given before (.ofParsed flags) settings command middle tier :=
              ⟨⟨flags, configured, rfl⟩, full, read, asked⟩
            rw [performs.run]
            cases running : outcome (Perform.command settings (.ofParsed flags) command) middle with
            | mk result after =>
              cases result with
              | ok done => exact .performed performs running
              | error failure =>
                cases failure with
                | problem problem => exact .reported (.performing performs running)
                | fault fault => exact .broken performs running
                | interrupt => exact .cancelled performs running

end Ways

end TermStyle.Proofs.RunCourse
