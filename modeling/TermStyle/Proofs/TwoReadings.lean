import TermStyle.CommandLine.Perform
import TermStyle.Proofs.ActionRun
import TermStyle.Proofs.FlagWalks
import TermStyle.Proofs.StylerRun
import TermStyle.Proofs.WordRoles

/-! A command line is read twice: what stands before the command, to settle the settings, and all of it, to find out what
to do. The second reading has a flag for help besides, and a menu; for the global flags both come to the same values. -/

namespace TermStyle.Proofs.TwoReadings
open CommandLine Reading ActionRun ExceptSteps FlagValues FlagWalks StylerRun WordRoles

section Agreement

def plain (words : List String) : List String := words.filter fun word => !Program.helpFlag.names.contains word

def wholeFlags : List Flag := Program.helpFlag :: Program.globalFlags

theorem global_long {flag : Flag} {name : String} (named : (flag, name) ∈ Word.named Program.globalFlags) :
    Flag.isShort name = false := by
  have long : ∀ name ∈ (Word.named Program.globalFlags).map Prod.snd, Flag.isShort name = false := by decide
  exact long name (List.mem_map_of_mem named)

theorem walk_stops {back : List String} (stops : ∀ text ∈ back.head?, DefaultCommand.isFlag text = false)
    {state next : State} {words command : List Word} (unfilled : state.unfilled = []) (free : state.waiting = none)
    (worded : Word.ofTexts wholeFlags back = .ok words) (walked : walk wholeFlags true words state = .ok (next, command)) :
    next.values = state.values := by
  cases back with
  | nil =>
    cases worded
    unfold walk at walked
    rw [free] at walked
    cases walked
    exact offered_values unfilled
  | cons text back =>
    obtain ⟨role, later, bare, rfl⟩ : ∃ role later, (role = .argument ∨ role = .separator) ∧ words = ⟨text, role⟩ :: later := by
      have ending := stops text rfl
      by_cases separator : text = Word.separatorText
      · rw [Word.ofTexts, if_pos separator] at worded
        cases worded
        exact ⟨_, _, Or.inr rfl, rfl⟩
      · obtain ⟨role, later, read, _, rfl⟩ := ofTexts_cons worded separator
        have undashed : text.startsWith "-" = false := by
          simpa [DefaultCommand.isFlag, separator] using ending
        rw [Word.roleOf, undashed] at read
        cases read
        exact ⟨_, _, Or.inl rfl, rfl⟩
    cases walk_takes walked with
    | value awaited => simp [free] at awaited
    | unknown _ role => rcases bare with rfl | rfl <;> cases role
    | flag _ role => rcases bare with rfl | rfl <;> cases role
    | command _ _ _ same =>
      cases same
      rfl
    | argument _ _ alone further =>
      obtain rfl := alone rfl
      unfold walk at further
      dsimp only at further
      rw [free] at further
      cases further
      exact offered_values unfilled

theorem walk_helping {name text : String} {attached : Option String} {later : List Word} {state : State} {menu : Bool}
    {result : State × List Word} :
    walk wholeFlags menu (⟨text, .flag Program.helpFlag name attached⟩ :: later) state ≠ .ok result := by
  intro walked
  cases walk_takes walked with
  | value _ role => cases role
  | unknown _ role => cases role
  | flag _ role used =>
    cases role
    exact useFlag_helping rfl used
  | command _ bare => rcases bare with role | role <;> cases role
  | argument _ bare => rcases bare with role | role <;> cases role

variable {front back : List String} {small big final other : State} {chosen : String}

/-- At a word that is the same to both, two readings that are abreast stay abreast, unless the first has a word left over. -/
theorem step_abreast {text : String} {role : Role} {smallWords bigWords rest command : List Word}
    (read : Word.roleOf Program.globalFlags text = .ok role) (abreast : Abreast chosen small big)
    (smallWalked : walk Program.globalFlags false (⟨text, role⟩ :: smallWords) small = .ok (final, rest))
    (taken : final.extras = []) (bigWalked : walk wholeFlags true (⟨text, role⟩ :: bigWords) big = .ok (other, command)) :
    ∃ smallNext bigNext, Abreast chosen smallNext bigNext ∧
      walk Program.globalFlags false smallWords smallNext = .ok (final, rest) ∧
      walk wholeFlags true bigWords bigNext = .ok (other, command) := by
  cases walk_takes smallWalked with
  | value awaited argument stored smallFurther =>
    cases walk_takes bigWalked with
    | value alsoAwaited _ alsoStored bigFurther =>
      rw [abreast.waiting, awaited] at alsoAwaited
      cases alsoAwaited
      have free : Abreast chosen { small with waiting := none } { big with waiting := none } :=
        ⟨abreast.values, rfl, abreast.extras, abreast.smallIdle, abreast.bigIdle⟩
      obtain ⟨next, same, beside⟩ := store_abreast free stored
      rw [alsoStored] at same
      cases same
      exact ⟨_, _, beside, smallFurther, bigFurther⟩
    | unknown free | flag free | command free | argument free => simp [abreast.waiting, awaited] at free
  | flag free role used smallFurther =>
    cases role
    cases walk_takes bigWalked with
    | value awaited => simp [abreast.waiting, free] at awaited
    | unknown _ role => cases role
    | flag _ role alsoUsed bigFurther =>
      cases role
      rw [flushed_idle abreast.smallIdle] at used
      rw [flushed_idle abreast.bigIdle] at alsoUsed
      obtain ⟨next, same, beside⟩ := useFlag_abreast abreast (global_long (roleOf_named read)) used wholeFlags
      rw [alsoUsed] at same
      cases same
      exact ⟨_, _, beside, smallFurther, bigFurther⟩
    | command _ bare | argument _ bare => rcases bare with role | role <;> cases role
  | unknown _ _ further =>
    refine absurd taken (walk_cluttered ?_ further)
    rw [flushed_idle abreast.smallIdle]
    exact ⟨abreast.smallIdle.2, Or.inl (by simp)⟩
  | command _ _ given => cases given
  | argument _ _ _ further =>
    refine absurd taken (walk_cluttered ?_ further)
    exact ⟨abreast.smallIdle.2, Or.inr (by simp)⟩

/-- Nothing takes a separator among the words before the command. -/
theorem walk_separated {words rest : List Word} (abreast : Abreast chosen small big)
    (walked : walk Program.globalFlags false (⟨Word.separatorText, .separator⟩ :: words) small = .ok (final, rest)) :
    final.extras ≠ [] := by
  cases walk_takes walked with
  | value _ role => cases role
  | unknown _ role => cases role
  | flag _ role => cases role
  | command _ _ given => cases given
  | argument _ _ _ further =>
    refine walk_cluttered ?_ further
    exact ⟨abreast.smallIdle.2, Or.inr (by simp)⟩

/-- Two readings that see the same words before the command stay abreast to its end, and leave the same values. -/
theorem walks_agree {smallWords bigWords rest command : List Word}
    (stops : ∀ text ∈ back.head?, DefaultCommand.isFlag text = false) (abreast : Abreast chosen small big)
    (smallWorded : Word.ofTexts Program.globalFlags (plain front) = .ok smallWords)
    (smallWalked : walk Program.globalFlags false smallWords small = .ok (final, rest)) (taken : final.extras = [])
    (bigWorded : Word.ofTexts wholeFlags (front ++ back) = .ok bigWords)
    (bigWalked : walk wholeFlags true bigWords big = .ok (other, command)) :
    ∀ field, field ≠ chosen → other.values.lookup field = final.values.lookup field := by
  induction front generalizing small big smallWords bigWords with
  | nil =>
    cases smallWorded
    unfold walk at smallWalked
    split at smallWalked
    · cases smallWalked
    next free =>
      cases smallWalked
      have kept := walk_stops stops abreast.bigIdle.2 (abreast.waiting.trans free) bigWorded bigWalked
      rw [kept, offered_values abreast.smallIdle.2]
      exact abreast.values
  | cons text front ih =>
    by_cases helping : text ∈ Program.helpFlag.names
    · -- Only the second reading sees a wish for help, and it does not get past it.
      have bare : text ≠ Word.separatorText := by
        rintro rfl
        revert helping
        decide
      obtain ⟨role, later, read, _, rfl⟩ := ofTexts_cons bigWorded bare
      rw [wholeFlags, helpWord_role helping] at read
      cases read
      exact absurd bigWalked walk_helping
    have seen : plain (text :: front) = text :: plain front := by simp [plain, helping]
    rw [seen] at smallWorded
    by_cases separator : text = Word.separatorText
    · rw [Word.ofTexts, if_pos separator, separator] at smallWorded
      cases smallWorded
      exact absurd taken (walk_separated abreast smallWalked)
    obtain ⟨role, smallLater, read, smallOthers, rfl⟩ := ofTexts_cons smallWorded separator
    obtain ⟨_, bigLater, grown, bigOthers, rfl⟩ := ofTexts_cons bigWorded separator
    rcases roleOf_grown read grown with rfl | ⟨_, _, rfl⟩
    · obtain ⟨_, _, beside, smallFurther, bigFurther⟩ := step_abreast read abreast smallWalked taken bigWalked
      exact ih beside smallOthers smallFurther bigOthers bigFurther
    · exact absurd bigWalked walk_helping

end Agreement

section Fields

mutual
/-- The fields that the reading of a grammar may fill, those of its commands included. -/
def fields : CommandLine.Tree → List String
  | .node grammar menu branches =>
    grammar.flags.map (·.field) ++ grammar.operands.map (·.name) ++ (menu.map (·.field)).toList ++ branchFields branches

def branchFields : List (String × CommandLine.Tree) → List String
  | [] => []
  | (_, tree) :: branches => fields tree ++ branchFields branches
end

/-- A reading is that of the grammar itself, in front of which a command may put values of its own. -/
inductive Reads (grammar : Grammar) (menu : Option Menu) (branches : List (String × CommandLine.Tree)) (texts : List String)
    (parsed : Parsed) : Prop
  | bare {result} (read : Reading.ofTexts grammar menu texts = .ok result) (values : parsed.values = result.values)
      (extras : parsed.extras = result.extras)
  | command {result choice name rest found} (read : Reading.ofTexts grammar menu texts = .ok result)
      (given : menu = some choice) (branch : CommandLine.Tree.readBranch branches name rest = some (.ok found))
      (values : parsed.values = found.values ++ (choice.field, .text name) :: result.values)
      (extras : parsed.extras = result.extras ++ found.extras)

theorem read_reads {grammar : Grammar} {menu : Option Menu} {branches : List (String × CommandLine.Tree)}
    {texts : List String} {parsed : Parsed} (accepted : (CommandLine.Tree.node grammar menu branches).read texts = .ok parsed) :
    Reads grammar menu branches texts parsed := by
  rw [CommandLine.Tree.read] at accepted
  split at accepted
  · cases accepted
  next result read =>
    split at accepted
    next choice name rest _ =>
      split at accepted
      · cases accepted
      · cases accepted
      next found branch =>
        cases accepted
        exact .command read rfl branch rfl rfl
    · cases accepted
      exact .bare read rfl rfl

theorem read_command {grammar : Grammar} {choice : Menu} {branches : List (String × CommandLine.Tree)} {texts rest : List String}
    {values : List (String × Value)} {extras : List String} {name : String} {found : Parsed}
    (read : Reading.ofTexts grammar (some choice) texts = .ok ⟨values, extras, name :: rest⟩)
    (branch : CommandLine.Tree.readBranch branches name rest = some (.ok found)) :
    (CommandLine.Tree.node grammar (some choice) branches).read texts =
      .ok ⟨name :: found.path, found.values ++ (choice.field, .text name) :: values, extras ++ found.extras⟩ := by
  rw [CommandLine.Tree.read, read]
  simp only [branch]

theorem reading_fields {grammar : Grammar} {menu : Option Menu} {texts : List String} {result : Reading.Result}
    (read : Reading.ofTexts grammar menu texts = .ok result) (branches : List (String × CommandLine.Tree)) :
    ∀ entry ∈ result.values, entry.1 ∈ fields (.node grammar menu branches) := by
  intro entry listed
  rw [fields]
  simp only [List.mem_append]
  cases reading_accounted read entry listed with
  | flag member => exact Or.inl (Or.inl (Or.inl (List.mem_map_of_mem member)))
  | operand member => exact Or.inl (Or.inl (Or.inr (List.mem_map_of_mem member)))
  | menu given => exact Or.inl (Or.inr (by simp [given]))

mutual
theorem read_fields (tree : CommandLine.Tree) {texts : List String} {parsed : Parsed}
    (accepted : tree.read texts = .ok parsed) : ∀ entry ∈ parsed.values, entry.1 ∈ fields tree := by
  match tree with
  | .node grammar menu branches =>
    cases read_reads accepted with
    | bare read values =>
      rw [values]
      exact reading_fields read branches
    | @command _ choice _ _ _ read given branch values =>
      intro entry listed
      rw [values] at listed
      rcases List.mem_append.mp listed with deeper | own
      · rw [fields]
        exact List.mem_append_right _ (readBranch_fields branches branch entry deeper)
      · rcases List.mem_cons.mp own with rfl | earlier
        · rw [fields]
          simp [given]
        · exact reading_fields read branches entry earlier
termination_by structural tree

theorem readBranch_fields (branches : List (String × CommandLine.Tree)) {name : String} {texts : List String} {parsed : Parsed}
    (accepted : CommandLine.Tree.readBranch branches name texts = some (.ok parsed)) :
    ∀ entry ∈ parsed.values, entry.1 ∈ branchFields branches := by
  match branches with
  | [] => cases accepted
  | (branch, tree) :: branches =>
    intro entry listed
    rw [branchFields, List.mem_append]
    rw [CommandLine.Tree.readBranch] at accepted
    split at accepted
    · exact Or.inl (read_fields tree (Option.some.inj accepted) entry listed)
    · exact Or.inr (readBranch_fields branches accepted entry listed)
termination_by structural branches
end

end Fields

section Readings

theorem split_append (words : List String) : (DefaultCommand.split words).1 ++ (DefaultCommand.split words).2 = words := by
  fun_induction DefaultCommand.split words with
  | case1 => rfl
  | case2 word rest => rfl
  | case3 word rest _ _ front back same ih => simpa [same] using ih
  | case4 word => rfl
  | case5 word _ _ value rest front back same ih => simpa [same] using ih

theorem split_stops (words : List String) :
    ∀ text ∈ (DefaultCommand.split words).2.head?, DefaultCommand.isFlag text = false := by
  fun_induction DefaultCommand.split words with
  | case1 => nofun
  | case2 word rest bare =>
    rintro text ⟨⟩
    simpa using bare
  | case3 word rest _ _ front back same ih => simpa [same] using ih
  | case4 word => nofun
  | case5 word _ _ value rest front back same ih => simpa [same] using ih

def globalFields : List String := Program.globalFlags.map (·.field)

theorem command_fields {tier : Tier} {columns : Int} {field : String} (global : field ∈ globalFields) :
    field ∉ "command" :: branchFields (Program.branches tier columns) := by
  have listed : branchFields (Program.branches tier columns) = ["help", "text", "attributes", "help", "template", "help",
    "text", "attributes", "help", "explain", "help", "help", "config_command", "help", "help", "color_mode", "init_level",
    "force", "config_path"] := rfl
  rw [listed]
  revert field
  decide

theorem start_abreast (tier : Tier) (columns width : Int) :
    Abreast "command"
      ⟨(Program.preliminary columns).grammar.defaults, [], [], [], none⟩
      ⟨("command", .null) :: (Program.tree tier width).grammar.defaults, [], [], [], none⟩ := by
  refine ⟨?_, rfl, rfl, ⟨rfl, rfl⟩, ⟨rfl, rfl⟩⟩
  intro field other
  rw [List.lookup_cons, beq_false_of_ne other]
  rfl

theorem reading_walk {grammar : Grammar} {menu : Option Menu} {texts : List String} {result : Reading.Result}
    (read : Reading.ofTexts grammar menu texts = .ok result) :
    ∃ words final command, Word.ofTexts grammar.flags texts = .ok words ∧
      walk grammar.flags menu.isSome words ⟨(menu.map fun menu => (menu.field, Value.null)).toList ++ grammar.defaults, [],
        grammar.operands, [], none⟩ = .ok (final, command) ∧
      result.values = final.values ∧ result.extras = final.extras := by
  obtain ⟨words, worded, walking⟩ := bind_ok_iff.mp read
  obtain ⟨⟨final, command⟩, walked, checking⟩ := bind_ok_iff.mp walking
  obtain ⟨_, _, made⟩ := bind_ok_iff.mp checking
  cases made
  exact ⟨words, final, command, mapError_ok_iff.mp worded, walked, rfl, rfl⟩

theorem lookup_apart {entries : List (String × Value)} {field : String} (apart : ∀ entry ∈ entries, entry.1 ≠ field) :
    entries.lookup field = none :=
  List.lookup_eq_none_iff.mpr fun entry member => bne_iff_ne.mpr (apart entry member).symm

theorem lookup_behind {front back : List (String × Value)} {field : String} (apart : ∀ entry ∈ front, entry.1 ≠ field) :
    (front ++ back).lookup field = back.lookup field := by
  rw [List.lookup_append, lookup_apart apart, Option.none_or]

theorem lookup_ahead {front back : List (String × Value)} {field : String} (apart : ∀ entry ∈ back, entry.1 ≠ field) :
    (front ++ back).lookup field = front.lookup field := by
  rw [List.lookup_append, lookup_apart apart, Option.or_none]

variable {columns width : Int} {tier : Tier} {words : List String} {flags full : Parsed}

/-- What the first reading makes of the global flags, the second makes of them too. -/
theorem readings_agree (accepted : (Program.preliminary columns).parse (Perform.preliminaryWords words) = .ok flags)
    (read : (Program.tree tier width).parse words = .ok full) : ∀ field ∈ globalFields, full.get field = flags.get field := by
  intro field global
  obtain ⟨accepted, taken⟩ := parse_ok_iff.mp accepted
  obtain ⟨read, _⟩ := parse_ok_iff.mp read
  obtain ⟨small, accepted, values, extras⟩ : ∃ small, Reading.ofTexts (Program.preliminary columns).grammar none
      (Perform.preliminaryWords words) = .ok small ∧ flags.values = small.values ∧ flags.extras = small.extras := by
    cases read_reads accepted with
    | bare read values extras => exact ⟨_, read, values, extras⟩
    | command _ given => cases given
  obtain ⟨big, front, read, whole, apart⟩ : ∃ big front, Reading.ofTexts (Program.tree tier width).grammar
      (Program.tree tier width).menu words = .ok big ∧ full.values = front ++ big.values ∧
      ∀ entry ∈ front, entry.1 ∈ "command" :: branchFields (Program.branches tier width) := by
    cases read_reads read with
    | bare read values => exact ⟨_, [], read, values, nofun⟩
    | @command _ _ name _ found read given branch values =>
      cases given
      refine ⟨_, found.values ++ [("command", .text name)], read, by simpa using values, ?_⟩
      intro entry listed
      rcases List.mem_append.mp listed with deeper | own
      · exact List.mem_cons_of_mem _ (readBranch_fields _ branch entry deeper)
      · rw [List.mem_singleton.mp own]
        exact List.mem_cons_self
  have away := @command_fields tier width field global
  obtain ⟨smallWords, smallFinal, smallRest, smallWorded, smallWalked, smallValues, smallExtras⟩ := reading_walk accepted
  obtain ⟨bigWords, bigFinal, bigRest, bigWorded, bigWalked, bigValues, _⟩ := reading_walk read
  rw [← split_append words] at bigWorded
  have noMenu : field ≠ "command" := fun same => away (same ▸ List.mem_cons_self)
  have agree := walks_agree (split_stops words) (start_abreast tier columns width) smallWorded smallWalked
    (smallExtras ▸ extras ▸ taken) bigWorded bigWalked field noMenu
  have behind : ∀ entry ∈ front, entry.1 ≠ field := by
    intro entry member same
    rw [← same] at away
    exact away (apart entry member)
  unfold Parsed.get
  rw [whole, lookup_behind behind, values, bigValues, smallValues, agree]

theorem globals_agree (accepted : (Program.preliminary columns).parse (Perform.preliminaryWords words) = .ok flags)
    (read : (Program.tree tier width).parse words = .ok full) : Globals.ofParsed full = Globals.ofParsed flags := by
  have agree := readings_agree accepted read
  have level := agree "level" (by decide)
  have noColor := agree "no_color" (by decide)
  have config := agree "config" (by decide)
  have logLevel := agree "log_level" (by decide)
  simp only [Globals.ofParsed, Parsed.isSet, Parsed.text?, level, noColor, config, logLevel]

end Readings

section Run

def performing (settings : Settings) (globals : Globals) (command : Command) : Action Ending :=
  Perform.reportingProblems <| Perform.interruptible do
    Perform.command settings globals command
    return ⟨0, false⟩

/-- The run gets as far as a command: the first reading settles the settings, and the second asks for the command. -/
structure Reaches (given : List String) (before : Session) (flags : Parsed) (settings : Settings) (full : Parsed)
    (command : Command) (after : Session) : Prop where
  accepted : (Program.preliminary (Program.columns before.world.env)).parse
    (Perform.preliminaryWords (DefaultCommand.insert given)) = .ok flags
  settled : ∃ middle tier, Returns (Perform.configure (.ofParsed flags)) before settings middle ∧
    Returns Styler.level middle tier after ∧
    (Program.tree tier (Program.columns after.world.env)).parse (DefaultCommand.insert given) = .ok full
  asked : Command.ofParsed? full = some command

variable {given : List String} {before after : Session} {flags full : Parsed} {settings : Settings} {command : Command}

theorem Reaches.run (reaches : Reaches given before flags settings full command after) :
    outcome (Perform.run given) before = outcome (performing settings (.ofParsed full) command) after := by
  obtain ⟨middle, tier, configured, level, read⟩ := reaches.settled
  have later : outcome (Perform.settled (DefaultCommand.insert given) settings) middle =
      outcome (performing settings (.ofParsed full) command) after := by
    simp only [Perform.settled, outcome_bind, show outcome Styler.level middle = _ from level, andThen_ok, outcome_world,
      read, Perform.perform, reaches.asked]
    rfl
  simp only [Perform.run, outcome_bind, outcome_world, andThen_ok, reaches.accepted]
  rw [outcome_tryCatch, outcome_bind, show outcome (Perform.configure (.ofParsed flags)) before = _ from configured]
  exact later

theorem stopped_early {stop : Stop} {ending : Ending} (ended : Returns (Perform.stopped stop) before ending after) :
    ending.early = true := by
  cases stop with
  | help text =>
    cases ended
    rfl
  | refused usage program message =>
    cases ended
    rfl

theorem reported_failing {problem : Problem} {ending : Ending} (ended : Returns (Perform.reported problem) before ending after) :
    ending.code = 1 := by
  obtain ⟨_, _, _, ended⟩ := returns_bind.mp ended
  split at ended
  · obtain ⟨_, _, thrown, _⟩ := returns_bind.mp ended
    cases thrown
  · obtain ⟨_, _, _, ended⟩ := returns_bind.mp ended
    obtain ⟨_, _, _, ended⟩ := returns_bind.mp ended
    obtain ⟨rfl, _⟩ := returns_pure.mp ended
    rfl

/-- A run that ends well, other than with a help text, has come to a command. -/
theorem reaches_of_success (ended : Returns (Perform.run given) before ⟨0, false⟩ after) :
    ∃ flags settings full command reached, Reaches given before flags settings full command reached := by
  obtain ⟨_, _, ⟨⟩, ended⟩ := returns_bind.mp ended
  split at ended
  · cases stopped_early ended
  next flags accepted =>
    obtain ⟨configured, middle, tried, ended⟩ := returns_bind.mp ended
    unfold Returns at tried
    rw [outcome_tryCatch, outcome_bind] at tried
    cases configuring : outcome (Perform.configure (.ofParsed flags)) before with
    | mk result left =>
      rw [configuring] at tried
      cases result with
      | error failure =>
        cases failure with
        | problem problem =>
          cases tried
          cases reported_failing ended
        | fault fault => cases tried
        | interrupt => cases tried
      | ok settings =>
        cases tried
        obtain ⟨tier, reached, level, ended⟩ := returns_bind.mp ended
        obtain ⟨_, _, ⟨⟩, ended⟩ := returns_bind.mp ended
        dsimp only at ended
        split at ended
        · cases stopped_early ended
        next full read =>
          unfold Perform.perform at ended
          split at ended
          · cases ended
          next command asked =>
            exact ⟨flags, settings, full, command, reached, accepted, ⟨_, tier, configuring, level, read⟩, asked⟩

/-- Where a command runs, both readings have the same global flags, and so does the command. -/
theorem global_flags_agree (reaches : Reaches given before flags settings full command after) :
    (∀ field ∈ globalFields, full.get field = flags.get field) ∧ Globals.ofParsed full = Globals.ofParsed flags ∧
    outcome (Perform.run given) before = outcome (performing settings (.ofParsed flags) command) after := by
  obtain ⟨middle, tier, _, _, read⟩ := reaches.settled
  have same := globals_agree reaches.accepted read
  exact ⟨readings_agree reaches.accepted read, same, same ▸ reaches.run⟩

/-- The level stands both before the command and behind it, where it means something else. -/
def doubled : List String := ["--level", "1", "config", "init", "--level", "2"]

def doubledFlags : Parsed where
  path := []
  values := [("level", .int 1), ("level", .null), ("no_color", .bool false), ("config", .null), ("log_level", .null)]
  extras := []

def doubledOwn : List (String × Value) := [
  ("config_path", .text "huecode.yml"), ("init_level", .int 2), ("color_mode", .text "auto"), ("init_level", .null),
  ("force", .bool false), ("config_path", .text "huecode.yml")]

def doubledFull : Parsed where
  path := ["config", "init"]
  values := doubledOwn ++ [("config_command", .text "init"), ("config_command", .null), ("command", .text "config"),
    ("level", .int 1), ("command", .null), ("level", .null), ("no_color", .bool false), ("config", .null), ("log_level", .null)]
  extras := []

private theorem level_dashed : "--level".startsWith "-" = true := by decide +kernel

theorem doubled_accepted (columns : Int) :
    (Program.preliminary columns).parse ["--level", "1"] = .ok doubledFlags := by
  have bare : "1".startsWith "-" = false := by decide +kernel
  simp only [Program.preliminary, CommandLine.Tree.parse, CommandLine.Tree.read, Reading.ofTexts, Word.ofTexts, Word.roleOf,
    level_dashed, bare]
  rfl

private theorem doubled_inner (columns : Int) :
    (Program.initTree columns).read ["--level", "2"] = .ok ⟨[], doubledOwn, []⟩ := by
  obtain ⟨flag, same⟩ : ∃ flag, (Program.initTree columns).grammar.flags[2]? = some flag := ⟨_, rfl⟩
  have bare : "2".startsWith "-" = false := by decide +kernel
  have words : Word.ofTexts (Program.initTree columns).grammar.flags ["--level", "2"] =
      .ok [⟨"--level", .flag flag "--level" none⟩, ⟨"2", .argument⟩] := by
    cases same
    simp only [Word.ofTexts, Word.roleOf, level_dashed, bare]
    rfl
  cases same
  change (CommandLine.Tree.node (Program.initTree columns).grammar none []).read _ = _
  simp only [CommandLine.Tree.read, Reading.ofTexts, words]
  rfl

private theorem doubled_middle (tier : Tier) (columns : Int) :
    (Program.settingsTree tier columns).read ["init", "--level", "2"] =
      .ok ⟨["init"], doubledOwn ++ [("config_command", .text "init"), ("config_command", .null)], []⟩ := by
  have init : "init".startsWith "-" = false := by decide +kernel
  have two : "2".startsWith "-" = false := by decide +kernel
  have unknown : Word.guessed [Program.helpFlag] "--level" = .ok .unknown := by
    have none : Word.candidates [Program.helpFlag] "--level" = [] := List.isEmpty_iff.mp (by decide +kernel)
    have negative : Word.isNegative "--level" = false := by decide +kernel
    have spaced : "--level".contains ' ' = false := by simp
    simp only [Word.guessed, none, negative, spaced]
    rfl
  have words : Word.ofTexts (Program.settingsTree tier columns).grammar.flags ["init", "--level", "2"] =
      .ok [⟨"init", .argument⟩, ⟨"--level", .unknown⟩, ⟨"2", .argument⟩] := by
    change Word.ofTexts [Program.helpFlag] _ = _
    simp only [Word.ofTexts, Word.roleOf, level_dashed, init, two, unknown]
    rfl
  have read : Reading.ofTexts (Program.settingsTree tier columns).grammar (Program.settingsTree tier columns).menu
      ["init", "--level", "2"] = .ok ⟨[("config_command", .null)], [], ["init", "--level", "2"]⟩ := by
    simp only [Reading.ofTexts, words]
    rfl
  have branch : CommandLine.Tree.readBranch (Program.settingsTree tier columns).branches "init" ["--level", "2"] =
      some (.ok ⟨[], doubledOwn, []⟩) := by
    change CommandLine.Tree.readBranch [("show", _), ("init", Program.initTree columns)] _ _ = _
    simp only [CommandLine.Tree.readBranch, doubled_inner]
    rfl
  exact read_command read branch

theorem doubled_read (tier : Tier) (columns : Int) : (Program.tree tier columns).parse doubled = .ok doubledFull := by
  obtain ⟨flag, same⟩ : ∃ flag, Program.globalFlags.head? = some flag := ⟨_, rfl⟩
  have bare : ∀ text ∈ ["1", "2", "config", "init"], text.startsWith "-" = false := by decide +kernel
  have one := bare "1" (by simp)
  have two := bare "2" (by simp)
  have config := bare "config" (by simp)
  have init := bare "init" (by simp)
  have words : Word.ofTexts (Program.tree tier columns).grammar.flags doubled =
      .ok [⟨"--level", .flag flag "--level" none⟩, ⟨"1", .argument⟩, ⟨"config", .argument⟩, ⟨"init", .argument⟩,
        ⟨"--level", .flag flag "--level" none⟩, ⟨"2", .argument⟩] := by
    cases same
    simp only [doubled, Word.ofTexts, Word.roleOf, level_dashed, one, two, config, init]
    rfl
  have known : Reading.ofTexts (Program.tree tier columns).grammar (Program.tree tier columns).menu doubled =
      .ok ⟨[("level", .int 1), ("command", .null), ("level", .null), ("no_color", .bool false), ("config", .null),
        ("log_level", .null)], [], ["config", "init", "--level", "2"]⟩ := by
    simp only [Reading.ofTexts, words]
    cases same
    rfl
  have branch : CommandLine.Tree.readBranch (Program.tree tier columns).branches "config" ["init", "--level", "2"] =
      some (.ok ⟨["init"], doubledOwn ++ [("config_command", .text "init"), ("config_command", .null)], []⟩) := by
    change CommandLine.Tree.readBranch (Program.branches tier columns) _ _ = _
    simp only [Program.branches, CommandLine.Tree.readBranch, doubled_middle]
    rfl
  have read : (Program.tree tier columns).read doubled = .ok doubledFull := read_command known branch
  rw [CommandLine.Tree.parse, read]
  rfl

theorem doubled_inserted : DefaultCommand.insert doubled = doubled ∧ Perform.preliminaryWords doubled = ["--level", "1"] := by
  have one : "1".startsWith "-" = false := by decide +kernel
  have config : "config".startsWith "-" = false := by decide +kernel
  simp only [DefaultCommand.insert, Perform.preliminaryWords, doubled, DefaultCommand.split, DefaultCommand.isFlag,
    level_dashed, one, config]
  exact ⟨rfl, rfl⟩

theorem global_flags_agree_doubled : ∃ settings after, Reaches doubled (plainSession .truecolor) doubledFlags settings doubledFull
      (.initSettings "huecode.yml" (.text "auto") (.int 2) false) after ∧
    doubledFull.get "level" = .int 1 ∧ doubledFull.get "init_level" = .int 2 := by
  have inserted := doubled_inserted
  have accepted : (Program.preliminary (Program.columns (plainSession .truecolor).world.env)).parse
      (Perform.preliminaryWords (DefaultCommand.insert doubled)) = .ok doubledFlags := by
    rw [inserted.1, inserted.2]
    exact doubled_accepted _
  obtain ⟨settings, middle, tier, after, configured, level⟩ : ∃ settings middle tier after,
      Returns (Perform.configure (.ofParsed doubledFlags)) (plainSession .truecolor) settings middle ∧
      Returns Styler.level middle tier after := ⟨_, _, _, _, rfl, rfl⟩
  have read : (Program.tree tier (Program.columns after.world.env)).parse (DefaultCommand.insert doubled) = .ok doubledFull := by
    rw [inserted.1]
    exact doubled_read _ _
  have reaches : Reaches doubled (plainSession .truecolor) doubledFlags settings doubledFull
      (.initSettings "huecode.yml" (.text "auto") (.int 2) false) after :=
    ⟨accepted, ⟨middle, tier, configured, level, read⟩, rfl⟩
  obtain ⟨agree, _, _⟩ := global_flags_agree reaches
  exact ⟨settings, after, reaches, agree "level" (by decide), rfl⟩

end Run

end TermStyle.Proofs.TwoReadings
