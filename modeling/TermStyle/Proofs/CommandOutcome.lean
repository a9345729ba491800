import TermStyle.Proofs.ActionFailure
import TermStyle.Proofs.CombinedModes

/-! When commands fail, once a tier is in force. Styling fails on numbers that are too long, and where the user
interrupts it; detection, the search for settings and the writing of them fail in their own ways. Listing the
attributes never fails. -/

namespace TermStyle.Proofs.CommandOutcome
open CommandLine Log ActionRun ActionFailure Logging StylerRun TemplateText Settings

def applied? : Command → Option (List String)
  | .both _ attributes | .apply _ attributes => some attributes
  | _ => none

def expanded? : Command → Option String
  | .both text _ => some text
  | .format template => some template
  | _ => none

def compiled (tier : Tier) (words : List String) : Except Numeral.Error String :=
  (Compile.text (" ".intercalate words) tier.level).value

def expansion (tier : Tier) (template : String) : Except Numeral.Error String :=
  ((Template.ofText template).expand tier.level).value

/-- The attributes of the command, if it has any, can be compiled. -/
def Applies (tier : Tier) (command : Command) : Prop :=
  ∀ words, applied? command = some words → ∃ front, compiled tier words = .ok front

/-- There is room for a new settings file: the name is free or may be taken over. -/
def Free (store : Store) (name : String) (force : Bool) : Prop :=
  isThere store name = .ok false ∨ isThere store name = .ok true ∧ force = true

def normal (path : String) : String := (Store.Path.ofText path).text

/-- The settings that a new file is to hold. -/
def chosen (mode level : Value) : Settings := { standard with colorMode := mode, level }

/-- How a command fails at a tier. -/
inductive Breaks (tier : Tier) (globals : Globals) (world : World) : Command → Failure → Prop
  | unapplied {command words error} (styled : applied? command = some words) (failed : compiled tier words = .error error) :
      Breaks tier globals world command (.fault (.numeral error))
  | interrupted {command template} (asked : expanded? command = some template) (applies : Applies tier command)
      (interrupting : world.interrupting = true) : Breaks tier globals world command .interrupt
  | unexpanded {command template error} (asked : expanded? command = some template) (applies : Applies tier command)
      (calm : world.interrupting = false) (failed : expansion tier template = .error error) :
      Breaks tier globals world command (.fault (.numeral error))
  | undetected {explain fault} (failed : detected world = .error fault) :
      Breaks tier globals world (.detect explain) (.fault fault)
  | unfound {fault} (unnamed : globals.config.filter (!·.isEmpty) = none) (failed : find world.store world.env = .error fault) :
      Breaks tier globals world .showSettings (.fault fault)
  | unsought {path mode level force fault} (failed : isThere world.store (normal path) = .error fault) :
      Breaks tier globals world (.initSettings path mode level force) (.fault fault)
  | taken {path mode level} (there : isThere world.store (normal path) = .ok true) :
      Breaks tier globals world (.initSettings path mode level false) (.problem (Perform.alreadyThere (normal path)))
  | invalid {path mode level force failure} (free : Free world.store (normal path) force)
      (wrong : (chosen mode level).validate = .error failure) :
      Breaks tier globals world (.initSettings path mode level force) failure
  | unwritten {path mode level force settings error} (free : Free world.store (normal path) force)
      (valid : (chosen mode level).validate = .ok settings)
      (failed : ((Store.install (normal path) settings.document.toUTF8).on world.store).1 = .error error) :
      Breaks tier globals world (.initSettings path mode level force) (.fault (.store error))

variable {tier : Tier} {session : Session} {failure : Failure}

section Styling

theorem print_sure (text : String) : Sure (Action.print text) := sure_inWorld _

theorem compile_fails (inForce : session.styler.tier = some tier) (directives : String) :
    Fails (Styler.compile directives) session failure ↔
      ∃ error, (Compile.text directives tier.level).value = .error error ∧ failure = .fault (.numeral error) := by
  have level : Returns Styler.level session tier session := level_kept inForce
  rw [Styler.compile, fails_behind level, rendered_fails (text_bare _ _)]

theorem apply_fails (inForce : session.styler.tier = some tier) (text : String) (words : List String) :
    Fails (Styler.apply text [" ".intercalate words]) session failure ↔
      ∃ error, compiled tier words = .error error ∧ failure = .fault (.numeral error) := by
  rw [Styler.apply, fails_bind_sure fun _ => sure_pure _, Styler.rawApply, fails_bind_sure fun _ => sure_pure _,
    compile_fails inForce, String.intercalate_singleton]
  rfl

theorem apply_run (inForce : session.styler.tier = some tier) (text : String) {words : List String} {front : String}
    (found : compiled tier words = .ok front) :
    Returns (Styler.apply text [" ".intercalate words]) session (front ++ text ++ Sequence.reset.render)
      (emitted (Compile.text (" ".intercalate words) tier.level).records session) := by
  refine apply_returns.mpr ⟨front, ?_, rfl⟩
  rw [String.intercalate_singleton]
  exact compile_returns.mpr ⟨tier, session, level_kept inForce, found, rfl⟩

theorem format_fails (inForce : session.styler.tier = some tier) (template : String) :
    Fails (Styler.format template) session failure ↔
      (session.world.interrupting = true ∧ failure = .interrupt) ∨
      session.world.interrupting = false ∧ ∃ error, expansion tier template = .error error ∧ failure = .fault (.numeral error) := by
  have level : Returns Styler.level session tier session := level_kept inForce
  cases interrupting : session.world.interrupting with
  | true => simp [Fails, format_interrupted interrupting, eq_comm]
  | false =>
    have same : Fails (Styler.format template) session failure ↔
        Fails (Styler.rawFormat template >>= fun body => pure (body ++ Sequence.reset.render)) session failure := by
      rw [Fails, format_calm interrupting]
      rfl
    rw [same, fails_bind_sure fun _ => sure_pure _, Styler.rawFormat, fails_behind level, rendered_fails (expand_bare _ _)]
    simp [expansion]

end Styling

section Serving

/-- Where the tier is in force, the action ends well and leaves it in force. -/
def Serves (tier : Tier) (action : Action α) : Prop :=
  ∀ before, before.styler.tier = some tier → ∃ value after, Returns action before value after ∧ after.styler.tier = some tier

variable {action : Action α}

theorem Serves.unfailing (serves : Serves tier action) (inForce : session.styler.tier = some tier) :
    ¬ Fails action session failure := by
  obtain ⟨_, _, returned, _⟩ := serves session inForce
  exact returns_unfailing returned

theorem fails_bind_serves {next : α → Action β}
    (keeps : ∀ value after, Returns action session value after → after.styler.tier = some tier)
    (rest : ∀ value, Serves tier (next value)) : Fails (action >>= next) session failure ↔ Fails action session failure := by
  rw [fails_bind, or_iff_left]
  rintro ⟨value, after, returned, failed⟩
  exact (rest value).unfailing (keeps value after returned) failed

theorem serves_pure (value : α) : Serves tier (pure value : Action α) := fun before inForce => ⟨value, before, rfl, inForce⟩

theorem serves_bind {next : α → Action β} (first : Serves tier action) (rest : ∀ value, Serves tier (next value)) :
    Serves tier (action >>= next) := by
  intro before inForce
  obtain ⟨value, middle, returned, still⟩ := first before inForce
  obtain ⟨last, after, further, kept⟩ := rest value middle still
  exact ⟨last, after, returns_bind.mpr ⟨value, middle, returned, further⟩, kept⟩

theorem serves_print (text : String) : Serves tier (Action.print text) := fun _ inForce => ⟨(), _, outcome_inWorld _ _, inForce⟩

theorem serves_level {next : Tier → Action β} (rest : Serves tier (next tier)) : Serves tier (Styler.level >>= next) := by
  intro before inForce
  obtain ⟨last, after, further, kept⟩ := rest before inForce
  exact ⟨last, after, returns_bind.mpr ⟨tier, before, level_kept inForce, further⟩, kept⟩

theorem serves_emphasized (emphasis : String → Tier → String) (text : String) :
    Serves tier (Styler.emphasized emphasis text) := serves_level (serves_pure _)

theorem serves_apply (text : String) {words : List String} (readable : ∃ front, compiled tier words = .ok front) :
    Serves tier (Styler.apply text [" ".intercalate words]) := by
  intro before inForce
  obtain ⟨front, found⟩ := readable
  exact ⟨_, _, apply_run inForce text found, inForce⟩

theorem serves_forM {items : List β} {each : β → Action Unit} (serves : ∀ item ∈ items, Serves tier (each item)) :
    Serves tier (items.forM each) := by
  induction items with
  | nil => exact serves_pure _
  | cons item rest ih =>
    exact serves_bind (serves item (by simp)) fun _ => ih fun later member => serves later (by simp [member])

def isShort (token : String) : Bool :=
  match Directive.parse? token with
  | some directive => directive.args.all (·.toList.length ≤ Numeral.digitLimit)
  | none => true

theorem short_readable {token : String} (short : isShort token = true) (level : Int) : ¬ CompileOutcome.Unreadable level token := by
  rintro ⟨spec, args, known, _, _, arg, member, overlong⟩
  unfold Compile.read at known
  unfold isShort at short
  cases parsed : Directive.parse? token with
  | none => simp [parsed] at known
  | some directive =>
    simp only [parsed] at known short
    split at known
    · cases known
    · cases known
      have fits := List.all_eq_true.mp short arg member
      exact absurd overlong.long (by simpa using fits)

theorem previews_short : (Attribute.table.all fun entry =>
    (Text.Blank.words (Perform.preview entry.1 entry.2).2).all isShort) = true := by decide +kernel

/-- Every attribute that is listed has a preview that can be compiled. -/
theorem previews_compile (tier : Tier) {entry : String × Attribute} (member : entry ∈ Attribute.table) :
    ∃ front, compiled tier [(Perform.preview entry.1 entry.2).2] = .ok front := by
  have short := List.all_eq_true.mp previews_short entry member
  rw [compiled, String.intercalate_singleton]
  exact ⟨_, CompileOutcome.text_returns fun token listed => short_readable (List.all_eq_true.mp short token listed) tier.level⟩

theorem listAttributes_serves (tier : Tier) : Serves tier Perform.listAttributes := by
  refine serves_bind (serves_emphasized _ _) fun title => serves_bind (serves_print _) fun _ => ?_
  refine serves_forM fun (name, spec) member => ?_
  have sample := serves_apply "sample" (previews_compile tier member)
  rw [String.intercalate_singleton] at sample
  exact serves_bind sample fun _ => serves_bind (serves_emphasized _ _) fun _ => serves_print _

end Serving

section Commands

variable {settings : Settings} {globals : Globals}

theorem both_fails (inForce : session.styler.tier = some tier) (text : String) (attributes : List String) :
    Fails (Perform.command settings globals (.both text attributes)) session failure ↔
      (∃ error, compiled tier attributes = .error error ∧ failure = .fault (.numeral error)) ∨
      (∃ front, compiled tier attributes = .ok front) ∧
        (session.world.interrupting = true ∧ failure = .interrupt ∨
          session.world.interrupting = false ∧ ∃ error, expansion tier text = .error error ∧ failure = .fault (.numeral error)) := by
  cases readable : compiled tier attributes with
  | error error =>
    have failed := (apply_fails inForce text attributes).mpr ⟨error, readable, rfl⟩
    rw [Perform.command, fails_bind, apply_fails inForce, readable, or_iff_left, or_iff_left]
    · rintro ⟨⟨_, impossible⟩, _⟩
      cases impossible
    · rintro ⟨_, _, applied, _⟩
      exact returns_unfailing applied failed
  | ok front =>
    have still := (emitted_logged (Compile.text (" ".intercalate attributes) tier.level).records session).interrupting
    have framed := expand_framed (CombinedModes.compiled_opens_none readable) CombinedModes.reset_closes_none text tier.level
    have applied := apply_run inForce text readable
    have behind : Fails (Perform.command settings globals (.both text attributes)) session failure ↔
        Fails (Styler.format (front ++ text ++ Sequence.reset.render))
          (emitted (Compile.text (" ".intercalate attributes) tier.level).records session) failure := by
      rw [Perform.command, fails_behind applied, fails_bind_sure print_sure]
    have body : expansion tier (front ++ text ++ Sequence.reset.render) =
        (expansion tier text).map fun body => front ++ body ++ Sequence.reset.render := congrArg Noted.value framed
    have inForceStill : (emitted (Compile.text (" ".intercalate attributes) tier.level).records session).styler.tier = some tier :=
      inForce
    rw [behind, format_fails inForceStill, still, body]
    cases expansion tier text <;> simp [Except.map]

theorem explain_bare (env : Environment) (onWindows : Bool) (version : Option Version) :
    ∀ record ∈ (Detection.explain env onWindows version).records, record.args = [] := detect_bare env onWindows version

theorem detect_fails (inForce : session.styler.tier = some tier) (explain : Bool) :
    Fails (Perform.command settings globals (.detect explain)) session failure ↔
      ∃ fault, detected session.world = .error fault ∧ failure = .fault fault := by
  have world : Returns Action.world session session.world session := rfl
  have found : detected session.world = (Detection.explain session.world.detection.env session.world.detection.onWindows
    session.world.detection.version).value.map (·.tier) := rfl
  have rest (finding : Detection.Finding) : Serves tier (do
      let tier ← Styler.level
      if !explain then Action.print (toString tier.level)
      else
        Action.print s!"detected: {finding.tier.level} ({finding.tier.label})"
        Action.print s!"rule:     {finding.ruleName}"
        if tier != finding.tier then Action.print s!"in effect: {tier.level} ({tier.label}, overridden)") := by
    refine serves_level ?_
    split
    · exact serves_print _
    · refine serves_bind (serves_print _) fun _ => serves_bind (serves_print _) fun _ => ?_
      split
      · exact serves_print _
      · exact serves_pure _
  rw [Perform.command, Perform.detect, fails_behind world, fails_bind_serves ?_ rest, noted_fails (explain_bare _ _ _), found]
  · cases (Detection.explain session.world.detection.env session.world.detection.onWindows
      session.world.detection.version).value <;> simp [Except.map]
  · intro finding after returned
    rw [Returns, noted_run (explain_bare _ _ _)] at returned
    cases (Prod.mk.inj returned).2
    exact inForce

/-- Nothing was done but printing. -/
def Shown (before after : Session) : Prop := after = { before with world := { before.world with output := after.world.output } }

theorem Shown.prints {shown : Session} (shows : Shown session shown) {text : String} {next : Action Unit} {claim : Prop}
    (rest : ∀ after, Shown session after → (Fails next after failure ↔ claim)) :
    Fails (Action.print text >>= fun _ => next) shown failure ↔ claim := by
  have run : Returns (Action.print text) shown () { shown with world := shown.world.print text } := outcome_inWorld _ _
  rw [fails_behind run]
  apply rest
  rw [shows]
  rfl

theorem showSettings_fails (inForce : session.styler.tier = some tier) :
    Fails (Perform.command settings globals .showSettings) session failure ↔
      globals.config.filter (!·.isEmpty) = none ∧
        ∃ fault, find session.world.store session.world.env = .error fault ∧ failure = .fault fault := by
  refine Shown.prints (rfl : Shown session session) fun _ shown => shown.prints fun _ shown => shown.prints fun _ shown => ?_
  refine shown.prints fun _ shown => shown.prints fun middle shown => ?_
  have level : Returns Styler.level middle tier middle := level_kept (by rw [shown]; exact inForce)
  rw [fails_behind level]
  refine shown.prints fun last shown => ?_
  have world : Returns Action.world last last.world last := rfl
  rw [fails_behind world]
  dsimp only
  split
  next path named =>
    have given : Returns (pure (some path)) last (some path) last := rfl
    rw [fails_behind given]
    exact iff_of_false (returns_unfailing (outcome_inWorld _ last)) (by simp [named])
  next unnamed =>
    rw [fails_bind_sure (fun file => by cases file <;> exact print_sure _), fails_lift, shown]
    simp [unnamed]

theorem onStore_fails {change : Store.Change Unit} : Fails (Action.onStore change) session failure ↔
    ∃ error, (change.on session.world.store).1 = .error error ∧ failure = .fault (.store error) := by
  rw [Fails, outcome_onStore]
  cases (change.on session.world.store).1 with
  | error error => simp [eq_comm]
  | ok done => simp

theorem save_fails : Fails (settings.save path) session failure ↔
    ∃ error, ((Store.install path settings.document.toUTF8).on session.world.store).1 = .error error ∧
      failure = .fault (.store error) := onStore_fails

def announce (name : String) (settings : Settings) : Action Unit := do
  Action.print ("Created config file: " ++ name)
  Action.print "\nGenerated configuration:"
  Action.print (Perform.ruler '-' 30)
  Action.print settings.document

def make (name : String) (wanted : Settings) : Action Unit := do
  let settings ← MonadExcept.ofExcept wanted.validate
  settings.save name
  announce name settings

/-- A new file is made unless its name cannot be looked up, or is taken and not to be taken over. -/
theorem initSettings_run (path : String) (mode level : Value) (force : Bool) (session : Session) :
    outcome (Perform.initSettings path mode level force) session =
      andThen ((isThere session.world.store (normal path)).mapError .fault, session) fun there after =>
        if there && !force then (.error (.problem (Perform.alreadyThere (normal path))), after)
        else outcome (make (normal path) (chosen mode level)) after := by
  simp only [Perform.initSettings, outcome_bind, outcome_world, andThen_ok, outcome_lift]
  refine congrArg _ (funext fun there => funext fun after => ?_)
  cases there && !force <;> rfl

theorem announce_sure (name : String) (settings : Settings) : Sure (announce name settings) :=
  sure_bind (print_sure _) fun _ => sure_bind (print_sure _) fun _ => sure_bind (print_sure _) fun _ => print_sure _

theorem make_fails {wanted : Settings} : Fails (make path wanted) session failure ↔
    wanted.validate = .error failure ∨ ∃ settings, wanted.validate = .ok settings ∧
      ∃ error, ((Store.install path settings.document.toUTF8).on session.world.store).1 = .error error ∧
        failure = .fault (.store error) := by
  rw [make, fails_bind, fails_ofExcept]
  refine or_congr_right ?_
  simp only [Returns, outcome_ofExcept, Prod.mk.injEq, fails_bind_sure fun _ => announce_sure _ _, save_fails]
  constructor
  · rintro ⟨settings, _, ⟨valid, rfl⟩, unsaved⟩
    exact ⟨settings, valid, unsaved⟩
  · rintro ⟨settings, valid, unsaved⟩
    exact ⟨settings, session, ⟨valid, rfl⟩, unsaved⟩

theorem initSettings_fails (path : String) (mode level : Value) (force : Bool) :
    Fails (Perform.command settings globals (.initSettings path mode level force)) session failure ↔
      (∃ fault, isThere session.world.store (normal path) = .error fault ∧ failure = .fault fault) ∨
      (isThere session.world.store (normal path) = .ok true ∧ force = false ∧
        failure = .problem (Perform.alreadyThere (normal path))) ∨
      Free session.world.store (normal path) force ∧
        ((chosen mode level).validate = .error failure ∨ ∃ settings, (chosen mode level).validate = .ok settings ∧
          ∃ error, ((Store.install (normal path) settings.document.toUTF8).on session.world.store).1 = .error error ∧
            failure = .fault (.store error)) := by
  rw [Perform.command, Fails, initSettings_run, ← make_fails, Fails]
  cases there : isThere session.world.store (normal path) with
  | error fault => simp [Free, there, Except.mapError, @eq_comm Failure failure]
  | ok known =>
    cases known with
    | false => simp [Free, there, Except.mapError]
    | true => cases force <;> simp [Free, there, Except.mapError, @eq_comm Failure failure]

end Commands

/-- A command fails at the tier in force in these ways and no other. -/
theorem command_fails (inForce : session.styler.tier = some tier) (settings : Settings) (globals : Globals) (command : Command) :
    Fails (Perform.command settings globals command) session failure ↔ Breaks tier globals session.world command failure := by
  cases command with
  | both text attributes =>
    rw [both_fails inForce]
    have applies : Applies tier (.both text attributes) ↔ ∃ front, compiled tier attributes = .ok front := by
      simp [Applies, applied?]
    constructor
    · rintro (⟨error, failed, rfl⟩ | ⟨fine, ⟨interrupting, rfl⟩ | ⟨calm, error, failed, rfl⟩⟩)
      · exact .unapplied rfl failed
      · exact .interrupted rfl (applies.mpr fine) interrupting
      · exact .unexpanded rfl (applies.mpr fine) calm failed
    · intro breaks
      cases breaks with
      | unapplied styled failed =>
        cases styled
        exact Or.inl ⟨_, failed, rfl⟩
      | interrupted asked fine interrupting => exact Or.inr ⟨applies.mp fine, Or.inl ⟨interrupting, rfl⟩⟩
      | unexpanded asked fine calm failed =>
        cases asked
        exact Or.inr ⟨applies.mp fine, Or.inr ⟨calm, _, failed, rfl⟩⟩
  | format template =>
    have applies : Applies tier (.format template) := nofun
    rw [Perform.command, fails_bind_sure print_sure, format_fails inForce]
    constructor
    · rintro (⟨interrupting, rfl⟩ | ⟨calm, error, failed, rfl⟩)
      · exact .interrupted rfl applies interrupting
      · exact .unexpanded rfl applies calm failed
    · intro breaks
      cases breaks with
      | unapplied styled => cases styled
      | interrupted _ _ interrupting => exact Or.inl ⟨interrupting, rfl⟩
      | unexpanded asked _ calm failed =>
        cases asked
        exact Or.inr ⟨calm, _, failed, rfl⟩
  | apply text attributes =>
    rw [Perform.command, fails_bind_sure print_sure, apply_fails inForce]
    constructor
    · rintro ⟨error, failed, rfl⟩
      exact .unapplied rfl failed
    · intro breaks
      cases breaks with
      | unapplied styled failed =>
        cases styled
        exact ⟨_, failed, rfl⟩
      | interrupted asked => cases asked
      | unexpanded asked => cases asked
  | detect explain =>
    rw [detect_fails inForce]
    constructor
    · rintro ⟨fault, failed, rfl⟩
      exact .undetected failed
    · intro breaks
      cases breaks with
      | unapplied styled => cases styled
      | interrupted asked => cases asked
      | unexpanded asked => cases asked
      | undetected failed => exact ⟨_, failed, rfl⟩
  | attributes =>
    refine iff_of_false ((listAttributes_serves tier).unfailing inForce) fun breaks => ?_
    cases breaks with
    | unapplied styled => cases styled
    | interrupted asked => cases asked
    | unexpanded asked => cases asked
  | showSettings =>
    rw [showSettings_fails inForce]
    constructor
    · rintro ⟨unnamed, fault, failed, rfl⟩
      exact .unfound unnamed failed
    · intro breaks
      cases breaks with
      | unapplied styled => cases styled
      | interrupted asked => cases asked
      | unexpanded asked => cases asked
      | unfound unnamed failed => exact ⟨unnamed, _, failed, rfl⟩
  | initSettings path mode level force =>
    rw [initSettings_fails]
    constructor
    · rintro (⟨fault, failed, rfl⟩ | ⟨there, rfl, rfl⟩ | ⟨free, wrong | ⟨settings, valid, error, failed, rfl⟩⟩)
      · exact .unsought failed
      · exact .taken there
      · exact .invalid free wrong
      · exact .unwritten free valid failed
    · intro breaks
      cases breaks with
      | unapplied styled => cases styled
      | interrupted asked => cases asked
      | unexpanded asked => cases asked
      | unsought failed => exact Or.inl ⟨_, failed, rfl⟩
      | taken there => exact Or.inr (Or.inl ⟨there, rfl, rfl⟩)
      | invalid free wrong => exact Or.inr (Or.inr ⟨free, Or.inl wrong⟩)
      | unwritten free valid failed => exact Or.inr (Or.inr ⟨free, Or.inr ⟨_, valid, _, failed, rfl⟩⟩)

end TermStyle.Proofs.CommandOutcome
