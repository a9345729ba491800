import TermStyle.Proofs.TierPrecedence

/-! What settling the settings and performing a command are made of. They note records, put a tier in force, change what
logging lets through and at which tier, show texts, and may write a file or talk to the console. A relation between
sessions that holds across these steps holds across the whole, whatever comes of it. -/

namespace TermStyle.Proofs.RunFrame
open CommandLine Log ActionRun TierPrecedence

/-- Sessions are related across the steps that settle the settings, but for those that talk to the console. -/
structure Settling (related : Session → Session → Prop) : Prop where
  noted : ∀ records, Leads related (Action.note records)
  styled : ∀ session tier detections, related session { session with styler := { session.styler with tier, detections } }
  restricted : ∀ session level,
    related session { session with world := { session.world with log := session.world.log.setLevel level } }
  painted : ∀ session tier, related session { session with world := { session.world with log := session.world.log.setTier tier } }

section Settling

variable {related : Session → Session → Prop} [IsPreorder Session related] (settling : Settling related)

include settling

theorem noted_leads (result : Noted (Except Fault α)) : Leads related (Action.noted result) :=
  leads_bind (settling.noted _) fun _ => leads_lift _

theorem ask_leads : Leads related Styler.ask := by
  refine leads_bind (fun session => refl session) fun session => ?_
  refine leads_bind (fun session => settling.styled session session.styler.tier _) fun _ => ?_
  split
  · exact leads_bind leads_world fun _ => leads_bind (noted_leads settling _) fun _ => leads_pure _
  · exact leads_pure _

theorem level_leads : Leads related Styler.level := by
  refine leads_bind (fun session => refl session) fun session => ?_
  split
  · exact leads_pure _
  · refine leads_bind (ask_leads settling) fun value => leads_bind (leads_lift _) fun tier => ?_
    exact leads_bind (fun session => settling.styled session (some tier) session.styler.detections) fun _ => leads_pure _

theorem setLevel_leads (value : Value) : Leads related (Styler.setLevel value) :=
  leads_bind (leads_lift _) fun tier session => settling.styled session (some tier) session.styler.detections

theorem loadIn_leads (path : Option String) : Leads related (Settings.loadIn path) :=
  leads_bind leads_world fun _ => leads_bind (settling.noted _) fun _ => leads_ofExcept _

theorem restrict_leads (level : Value) : Leads related (Setup.restrict level) :=
  leads_bind (leads_lift _) fun level session => settling.restricted session level

theorem paint_leads (tier : Value) : Leads related (Setup.paint tier) := by
  refine leads_bind leads_world fun world => ?_
  split
  · exact leads_bind (leads_lift _) fun tier session => settling.painted session tier
  · exact leads_pure _

theorem resolve_leads (settings : Settings) : Leads related (settings.resolve do return .int (← Styler.level).level) := by
  unfold Settings.resolve
  split
  · exact leads_lift _
  · split
    · exact leads_pure _
    · refine leads_bind (leads_bind (level_leads settling) fun _ => leads_pure _) fun value => ?_
      exact leads_bind (leads_lift _) fun _ => leads_pure _

theorem apply_leads (settings : Settings) : Leads related settings.apply := by
  unfold Settings.apply
  split
  · exact leads_pure _
  · refine leads_bind (fun session => settling.styled session none session.styler.detections) fun _ => ?_
    refine leads_bind (resolve_leads settling settings) fun tier => ?_
    exact leads_bind (setLevel_leads settling _) fun _ => settling.noted _

variable (enabled : Leads related (Platform.Console.enable true none))

include enabled

theorem enableConsole_leads : Leads related Perform.enableConsole := by
  refine leads_bind leads_world fun world => leads_bind (level_leads settling) fun tier => ?_
  split
  · exact leads_bind enabled fun _ => settling.noted _
  · exact leads_pure _

theorem following_leads (settings : Settings) : Leads related (following settings) :=
  leads_bind (level_leads settling) fun _ => leads_bind (paint_leads settling _) fun _ =>
    leads_bind (enableConsole_leads settling enabled) fun _ => leads_pure _

theorem configure_leads (globals : Globals) : Leads related (Perform.configure globals) := by
  refine leads_bind (loadIn_leads settling _) fun settings => ?_
  refine leads_bind (restrict_leads settling _) fun _ => leads_bind (apply_leads settling settings) fun _ => ?_
  dsimp only
  split
  · exact leads_bind (setLevel_leads settling _) fun _ => following_leads settling enabled settings
  · split
    · exact following_leads settling enabled settings
    · exact leads_bind (setLevel_leads settling _) fun _ => following_leads settling enabled settings

end Settling

/-- Sessions are related across what is shown. -/
def Showing (related : Session → Session → Prop) : Prop :=
  ∀ session output errors, related session { session with world := { session.world with output, errors } }

section Showing

variable {related : Session → Session → Prop} (showing : Showing related)

include showing

theorem print_leads (text : String) : Leads related (Action.print text) := fun session => showing session _ session.world.errors

theorem report_leads (text : String) : Leads related (Action.report text) := fun session => showing session session.world.output _

theorem stopped_leads (stop : Stop) : Leads related (Perform.stopped stop) := by
  cases stop with
  | help text => exact fun session => showing session _ session.world.errors
  | refused usage program message => exact fun session => showing session session.world.output _

theorem initSettings_leads [IsPreorder Session related]
    (stored : ∀ path content, Leads related (Action.onStore (Store.install path content))) (path : String) (mode level : Value)
    (force : Bool) : Leads related (Perform.initSettings path mode level force) := by
  refine leads_bind leads_world fun world => leads_bind (leads_lift _) fun there => ?_
  have making (settings : Settings) (path : String) : Leads related (do
      settings.save path
      Action.print ("Created config file: " ++ path)
      Action.print "\nGenerated configuration:"
      Action.print (Perform.ruler '-' 30)
      Action.print settings.document) :=
    leads_bind (stored _ _) fun _ => leads_bind (print_leads showing _) fun _ => leads_bind (print_leads showing _) fun _ =>
      leads_bind (print_leads showing _) fun _ => print_leads showing _
  dsimp only
  split
  · exact leads_bind (leads_throw _) fun _ => leads_bind (leads_ofExcept _) fun settings => making settings _
  · exact leads_bind (leads_ofExcept _) fun settings => making settings _

end Showing

/-- Sessions are related across the steps of a command, but for writing a file. -/
structure Performing (related : Session → Session → Prop) : Prop extends Settling related where
  shown : Showing related

section Performing

variable {related : Session → Session → Prop} [IsPreorder Session related] (performing : Performing related)

include performing

theorem rendered_leads (result : Noted (Except Numeral.Error String)) : Leads related (Styler.rendered result) :=
  noted_leads performing.toSettling _

theorem compile_leads (directives : String) : Leads related (Styler.compile directives) :=
  leads_bind (level_leads performing.toSettling) fun _ => rendered_leads performing _

theorem apply_text_leads (text : String) (groups : List String) : Leads related (Styler.apply text groups) :=
  leads_bind (leads_bind (compile_leads performing _) fun _ => leads_pure _) fun _ => leads_pure _

theorem format_leads (template : String) : Leads related (Styler.format template) := by
  refine leads_bind leads_world fun world => ?_
  have rendering : Leads related (do return (← Styler.rawFormat template) ++ Sequence.reset.render) :=
    leads_bind (leads_bind (level_leads performing.toSettling) fun _ => rendered_leads performing _) fun _ => leads_pure _
  split
  · exact leads_bind (leads_throw _) fun _ => rendering
  · exact rendering

theorem emphasized_leads (emphasis : String → Tier → String) (text : String) : Leads related (Styler.emphasized emphasis text) :=
  leads_bind (level_leads performing.toSettling) fun _ => leads_pure _

theorem listAttributes_leads : Leads related Perform.listAttributes := by
  refine leads_bind (emphasized_leads performing _ _) fun _ => leads_bind (print_leads performing.shown _) fun _ => ?_
  refine leads_forM fun entry => ?_
  refine leads_bind (apply_text_leads performing _ _) fun _ => leads_bind (emphasized_leads performing _ _) fun _ => ?_
  exact print_leads performing.shown _

theorem detect_leads (explain : Bool) : Leads related (Perform.detect explain) := by
  refine leads_bind leads_world fun world => leads_bind (noted_leads performing.toSettling _) fun finding => ?_
  refine leads_bind (level_leads performing.toSettling) fun tier => ?_
  split
  · exact print_leads performing.shown _
  · refine leads_bind (print_leads performing.shown _) fun _ => leads_bind (print_leads performing.shown _) fun _ => ?_
    split
    · exact print_leads performing.shown _
    · exact leads_pure _

theorem showSettings_leads (settings : Settings) (path : Option String) : Leads related (Perform.showSettings settings path) := by
  refine leads_bind (print_leads performing.shown _) fun _ => leads_bind (print_leads performing.shown _) fun _ => ?_
  refine leads_bind (print_leads performing.shown _) fun _ => leads_bind (print_leads performing.shown _) fun _ => ?_
  refine leads_bind (print_leads performing.shown _) fun _ => leads_bind (level_leads performing.toSettling) fun tier => ?_
  refine leads_bind (print_leads performing.shown _) fun _ => leads_bind leads_world fun world => ?_
  split
  · refine leads_bind (leads_pure _) fun file => ?_
    cases file <;> exact print_leads performing.shown _
  · refine leads_bind (leads_lift _) fun file => ?_
    cases file <;> exact print_leads performing.shown _

theorem reported_leads (problem : Problem) : Leads related (Perform.reported problem) := by
  refine leads_bind (performing.noted _) fun _ => ?_
  have telling : Leads related (do
      Action.report (← Styler.emphasized Emphasis.error ("Error: " ++ problem.text))
      return (⟨1, false⟩ : Ending)) :=
    leads_bind (emphasized_leads performing _ _) fun _ => leads_bind (report_leads performing.shown _) fun _ => leads_pure _
  split
  · exact leads_bind (leads_throw _) fun _ => telling
  · exact telling

theorem reportingProblems_leads {action : Action Ending} (leads : Leads related action) :
    Leads related (Perform.reportingProblems action) := by
  unfold Perform.reportingProblems
  refine leads_tryCatch leads fun failure => ?_
  cases failure with
  | problem problem => exact reported_leads performing problem
  | interrupt | fault => exact leads_throw _

theorem interruptible_leads {action : Action Ending} (leads : Leads related action) :
    Leads related (Perform.interruptible action) := by
  refine leads_bind (leads_tryCatch (leads_bind leads fun _ => leads_pure _) fun failure => ?_) fun early => ?_
  · cases failure with
    | interrupt => exact leads_bind (report_leads performing.shown _) fun _ => leads_pure _
    | problem | fault => exact leads_bind (leads_throw _) fun _ => leads_pure _
  · cases early <;> exact leads_pure _

variable (stored : ∀ path content, Leads related (Action.onStore (Store.install path content)))

include stored

theorem command_leads (settings : Settings) (globals : Globals) (command : Command) :
    Leads related (Perform.command settings globals command) := by
  cases command with
  | both text attributes =>
    exact leads_bind (apply_text_leads performing _ _) fun _ => leads_bind (format_leads performing _) fun _ =>
      print_leads performing.shown _
  | format template => exact leads_bind (format_leads performing _) fun _ => print_leads performing.shown _
  | apply text attributes => exact leads_bind (apply_text_leads performing _ _) fun _ => print_leads performing.shown _
  | detect explain => exact detect_leads performing explain
  | attributes => exact listAttributes_leads performing
  | showSettings => exact showSettings_leads performing settings globals.config
  | initSettings path mode level force => exact initSettings_leads performing.shown stored path mode level force

theorem perform_leads (settings : Settings) (tree : CommandLine.Tree) (parsed : Parsed) :
    Leads related (Perform.perform settings tree parsed) := by
  unfold Perform.perform
  split
  · exact leads_bind (fun session => performing.shown session _ session.world.errors) fun _ => leads_pure _
  · refine reportingProblems_leads performing (interruptible_leads performing ?_)
    exact leads_bind (command_leads performing stored _ _ _) fun _ => leads_pure _

theorem settled_leads (words : List String) (settings : Settings) : Leads related (Perform.settled words settings) := by
  refine leads_bind (level_leads performing.toSettling) fun tier => leads_bind leads_world fun world => ?_
  dsimp only
  split
  · exact stopped_leads performing.shown _
  · exact perform_leads performing stored _ _ _

end Performing

end TermStyle.Proofs.RunFrame
