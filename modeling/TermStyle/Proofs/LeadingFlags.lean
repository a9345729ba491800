import TermStyle.Proofs.TwoReadings

/-! The flags that a command line begins with, each with its value. A reading takes them one after the other and keeps one
value for each. What an accepted reading begins with are flags, up to a word that can be a command. -/

namespace TermStyle.Proofs.LeadingFlags
open CommandLine Reading ExceptSteps FlagValues FlagWalks WordRoles TwoReadings

/-- The role of a word among others, where the separator has one of its own. -/
def Plays (flags : List Flag) (text : String) (role : Role) : Prop :=
  text ≠ Word.separatorText ∧ Word.roleOf flags text = .ok role

/-- What a flag keeps of its value. -/
inductive Kept (kind : Kind) (text : String) : Value → Prop
  | read {value} (whole : text ≠ Word.separatorText) (read : kind.read text = .ok value) : Kept kind text value
  | separated (same : text = Word.separatorText) : Kept kind text (.list [])

/-- The words of one flag, and the value they leave under its field. -/
inductive Said (flags : List Flag) : List String → String × Value → Prop
  | switched {text name flag} (role : Plays flags text (.flag flag name none)) (effect : flag.effect = .switch) :
      Said flags [text] (flag.field, .bool true)
  | attached {text name flag kind mark behind value} (role : Plays flags text (.flag flag name (some behind)))
      (effect : flag.effect = .store kind mark) (kept : Kept kind behind value) : Said flags [text] (flag.field, value)
  | apart {text name flag kind mark next value} (role : Plays flags text (.flag flag name none))
      (effect : flag.effect = .store kind mark) (bare : Plays flags next .argument) (kept : Kept kind next value) :
      Said flags [text, next] (flag.field, value)

/-- A run of flags, with what they leave in the order in which they stand. -/
inductive Leading (flags : List Flag) : List String → List (String × Value) → Prop
  | nil : Leading flags [] []
  | cons {words rest entry entries} (said : Said flags words entry) (more : Leading flags rest entries) :
      Leading flags (words ++ rest) (entry :: entries)

variable {flags : List Flag} {menu : Bool} {text : String} {texts rest words : List String} {role : Role}
  {state next final : State} {flag : Flag} {command : List Word} {entry : String × Value} {entries : List (String × Value)}

theorem store_kept {kind : Kind} {value : Value} (kept : Kept kind text value) :
    store state flag kind text = .ok (state.set flag.field value) := by
  unfold store
  cases kept with
  | separated same => rw [if_pos same]
  | read whole read => rw [if_neg whole, read]

theorem kept_of_store {kind : Kind} (stored : store state flag kind text = .ok next) :
    ∃ value, Kept kind text value ∧ next = state.set flag.field value := by
  unfold store at stored
  split at stored
  next same =>
    cases stored
    exact ⟨_, .separated same, rfl⟩
  next whole =>
    split at stored
    next value read =>
      cases stored
      exact ⟨value, .read whole read, rfl⟩
    · cases stored

def reading (flags : List Flag) (menu : Bool) (texts : List String) (state : State) : Except Halt (State × List Word) := do
  walk flags menu (← (Word.ofTexts flags texts).mapError .refused) state

theorem reading_cons (plays : Plays flags text role) (rest : List String) :
    reading flags menu (text :: rest) state = (do
      let later ← (Word.ofTexts flags rest).mapError .refused
      walk flags menu (⟨text, role⟩ :: later) state) := by
  unfold reading
  rw [Word.ofTexts, if_neg plays.1, plays.2]
  cases Word.ofTexts flags rest with
  | error message => rfl
  | ok later => rfl

theorem reading_plays (read : reading flags menu (text :: rest) state = .ok (final, command))
    (other : text ≠ Word.separatorText) :
    ∃ role later, Plays flags text role ∧ Word.ofTexts flags rest = .ok later ∧
      walk flags menu (⟨text, role⟩ :: later) state = .ok (final, command) := by
  obtain ⟨words, worded, walked⟩ := bind_ok_iff.mp read
  obtain ⟨role, later, plays, others, rfl⟩ := ofTexts_cons (mapError_ok_iff.mp worded) other
  exact ⟨role, later, ⟨other, plays⟩, others, walked⟩

theorem reading_ok {later : List Word} (worded : Word.ofTexts flags texts = .ok later)
    (walked : walk flags menu later state = .ok (final, command)) : reading flags menu texts state = .ok (final, command) :=
  bind_ok_iff.mpr ⟨later, mapError_ok_iff.mpr worded, walked⟩

/-- Nothing is waited for, and no arguments are left to be offered. -/
structure Idle (state : State) : Prop where
  waiting : state.waiting = none
  stretch : state.stretch = []

theorem Idle.set (idle : Idle state) (field : String) (value : Value) : Idle (state.set field value) :=
  ⟨idle.waiting, idle.stretch⟩

theorem Idle.flushed (idle : Idle state) : state.flushed = state := by
  simp [State.flushed, idle.stretch]

theorem walk_flag {name : String} {attached : Option String} {later : List Word} (idle : Idle state)
    (used : useFlag flags state flag name attached = .ok next) :
    walk flags menu (⟨text, .flag flag name attached⟩ :: later) state = walk flags menu later next := by
  rw [walk, idle.waiting]
  simp only [idle.flushed, used]
  rfl

theorem reading_said (said : Said flags words entry) (idle : Idle state) (rest : List String) :
    reading flags menu (words ++ rest) state = reading flags menu rest (state.set entry.1 entry.2) := by
  cases said with
  | @switched text name flag role effect =>
    have acted : useFlag flags state flag name none = .ok (state.set flag.field (.bool true)) := by
      simp only [useFlag, act, effect]
    rw [List.singleton_append, reading_cons role]
    simp only [walk_flag idle acted]
    rfl
  | @attached text name flag kind mark behind value role effect kept =>
    have used : useFlag flags state flag name (some behind) = .ok (state.set flag.field value) :=
      (useFlag_storing effect).trans (store_kept kept)
    rw [List.singleton_append, reading_cons role]
    simp only [walk_flag idle used]
    rfl
  | @apart text name flag kind mark value left role effect bare kept =>
    have acted : useFlag flags state flag name none = .ok { state with waiting := some (flag, kind) } := by
      simp only [useFlag, act, effect]
    rw [List.cons_append, List.singleton_append, reading_cons role]
    simp only [walk_flag idle acted]
    change reading flags menu (value :: rest) { state with waiting := some (flag, kind) } = _
    rw [reading_cons bare]
    have free : { state with waiting := none } = state := by rw [← idle.waiting]
    simp only [walk, free, store_kept kept]
    rfl

def said (entries : List (String × Value)) (state : State) : State := { state with values := entries.reverse ++ state.values }

theorem said_cons (entry : String × Value) (entries : List (String × Value)) (state : State) :
    said (entry :: entries) state = said entries (state.set entry.1 entry.2) := by
  simp [said, State.set]

theorem Idle.said (idle : Idle state) (entries : List (String × Value)) : Idle (said entries state) :=
  ⟨idle.waiting, idle.stretch⟩

theorem reading_leading (leading : Leading flags words entries) (idle : Idle state) (rest : List String) :
    reading flags menu (words ++ rest) state = reading flags menu rest (said entries state) := by
  induction leading generalizing state with
  | nil => rfl
  | @cons words more entry entries one _ ih =>
    rw [List.append_assoc, reading_said one idle, ih (idle.set _ _), said_cons]

theorem Leading.append {more : List String} {others : List (String × Value)} (leading : Leading flags words entries)
    (later : Leading flags more others) : Leading flags (words ++ more) (entries ++ others) := by
  induction leading with
  | nil => exact later
  | cons said _ ih =>
    rw [List.append_assoc, List.cons_append]
    exact .cons said ih

theorem Leading.fields (leading : Leading flags words entries) : ∀ entry ∈ entries, ∃ flag ∈ flags, entry.1 = flag.field := by
  induction leading with
  | nil => exact List.forall_mem_nil _
  | cons said _ ih =>
    refine List.forall_mem_cons.mpr ⟨?_, ih⟩
    cases said with
    | switched role | attached role | apart role => exact ⟨_, (mem_named.mp (roleOf_named role.2)).1, rfl⟩

theorem store_extras {kind : Kind} (stored : store state flag kind text = .ok next) : next.extras = state.extras :=
  (store_beside stored).extras

theorem offered_extras (state : State) : state.extras <+: state.offered.extras := List.prefix_append _ _

theorem flushed_extras (state : State) : state.extras <+: state.flushed.extras := by
  unfold State.flushed
  split
  · exact List.prefix_refl _
  · exact offered_extras state

theorem walk_extras {words : List Word} (walked : walk flags menu words state = .ok (final, command)) :
    state.extras <+: final.extras := by
  induction words generalizing state with
  | nil =>
    unfold walk at walked
    split at walked
    · cases walked
    · cases walked
      exact offered_extras state
  | cons word words ih =>
    cases walk_takes walked with
    | value _ _ stored further =>
      have kept := ih further
      rwa [store_extras stored] at kept
    | unknown _ _ further => exact ((flushed_extras state).trans (List.prefix_append _ _)).trans (ih further)
    | flag _ _ used further =>
      have kept := ih further
      rw [(useFlag_beside used).extras] at kept
      exact (flushed_extras state).trans kept
    | command _ _ _ same =>
      cases same
      exact List.prefix_refl _
    | argument _ _ _ further =>
      have kept := ih further
      exact kept

theorem guessed_separator : Word.guessed flags text ≠ .ok .separator := by
  unfold Word.guessed
  split
  · nofun
  · split <;> nofun
  · nofun

/-- Flags that are called by more than a letter, or show the help. -/
def Spoken (flags : List Flag) : Prop :=
  ∀ flag name, (flag, name) ∈ Word.named flags → flag.effect = .help ∨ Flag.isShort name = false

theorem globalFlags_spoken : Spoken Program.globalFlags := fun _ _ named => Or.inr (global_long named)

theorem wholeFlags_spoken : Spoken wholeFlags := by
  intro flag name named
  obtain ⟨member, called⟩ := mem_named.mp named
  rcases List.mem_cons.mp member with rfl | global
  · exact Or.inl rfl
  · exact globalFlags_spoken flag name (mem_named.mpr ⟨global, called⟩)

/-- The word that ends a run of flags: none, or one that can be a command or an argument. -/
def Ended (flags : List Flag) (texts : List String) : Prop :=
  ∀ text ∈ texts.head?, text = Word.separatorText ∨ Plays flags text .argument

theorem Plays.ended (plays : Plays flags text role) (bare : role = .argument ∨ role = .separator) (rest : List String) :
    Ended flags (text :: rest) := by
  rintro _ ⟨⟩
  rcases bare with rfl | rfl
  · exact Or.inr plays
  · cases roleOf_earns plays.2 with
    | guessed _ _ _ _ guess => exact absurd guess guessed_separator

/-- A reading that leaves nothing over begins with flags, each with its value. The induction is on the number of words,
since a flag may take two of them. -/
theorem leading_of_reading (spoken : Spoken flags) (idle : Idle state)
    (read : reading flags menu texts state = .ok (final, command)) (taken : final.extras = []) :
    ∃ front back entries, texts = front ++ back ∧ Leading flags front entries ∧ Ended flags back ∧
      reading flags menu back (said entries state) = .ok (final, command) := by
  induction length : texts.length using Nat.strongRecOn generalizing texts state with
  | ind count ih =>
    subst length
    cases texts with
    | nil => exact ⟨[], [], [], rfl, .nil, nofun, read⟩
    | cons text rest =>
      by_cases separator : text = Word.separatorText
      · refine ⟨[], text :: rest, [], rfl, .nil, ?_, read⟩
        rintro _ ⟨⟩
        exact Or.inl separator
      obtain ⟨role, later, plays, worded, walked⟩ := reading_plays read separator
      have onward {one : List String} {entry : String × Value} {more : List String} (said : Said flags one entry)
          (whole : text :: rest = one ++ more) (shorter : more.length < (text :: rest).length) :
          ∃ front back entries, text :: rest = front ++ back ∧ Leading flags front entries ∧ Ended flags back ∧
            reading flags menu back (LeadingFlags.said entries state) = .ok (final, command) := by
        have further := read
        rw [whole, reading_said said idle] at further
        obtain ⟨front, back, entries, same, leading, ended, remaining⟩ := ih _ shorter (idle.set _ _) further rfl
        refine ⟨one ++ front, back, entry :: entries, ?_, .cons said leading, ended, ?_⟩
        · rw [whole, same, List.append_assoc]
        · rw [said_cons]
          exact remaining
      cases walk_takes walked with
      | value awaited => simp [idle.waiting] at awaited
      | unknown _ _ further =>
        have kept := walk_extras further
        simp [taken] at kept
      | @flag flag name attached next _ same used further =>
        cases same
        rw [idle.flushed] at used
        have named := roleOf_named plays.2
        have long : Flag.isShort name = false := by
          rcases spoken flag name named with helps | long
          · exact absurd used (useFlag_helping helps)
          · exact long
        rcases useFlag_long long used with ⟨rfl, acted⟩ | ⟨behind, kind, mark, rfl, effect, stored⟩
        · cases effect : flag.effect with
          | help => exact absurd used (useFlag_helping effect)
          | switch => exact onward (.switched plays effect) rfl (by simp)
          | store kind mark =>
            simp only [act, effect, Except.ok.injEq] at acted
            subst acted
            cases rest with
            | nil =>
              cases worded
              simp [walk, expected, refuse] at further
            | cons value rest =>
              have nextRead := reading_ok worded further
              by_cases separator : value = Word.separatorText
              · rw [Word.ofTexts, if_pos separator] at worded
                cases worded
                cases walk_takes further with
                | value _ role => cases role
                | unknown free | flag free | command free | argument free => cases free
              obtain ⟨role, others, plays', _, walked'⟩ := reading_plays nextRead separator
              cases walk_takes walked' with
              | value awaited argument stored =>
                cases awaited
                obtain ⟨left, kept, _⟩ := kept_of_store stored
                have bare : Plays flags value .argument := argument ▸ plays'
                have shorter (words : List String) : words.length < (text :: value :: words).length := by
                  simp only [List.length_cons]
                  omega
                exact onward (.apart plays effect bare kept) rfl (shorter _)
              | unknown free | flag free | command free | argument free => cases free
        · obtain ⟨value, kept, _⟩ := kept_of_store stored
          exact onward (.attached plays effect kept) rfl (by simp)
      | command _ bare =>
        exact ⟨[], text :: rest, [], rfl, .nil, plays.ended bare rest, read⟩
      | argument _ bare => exact ⟨[], text :: rest, [], rfl, .nil, plays.ended bare rest, read⟩

section Readings

def start (grammar : Grammar) (menu : Option Menu) : State :=
  ⟨(menu.map fun menu => (menu.field, Value.null)).toList ++ grammar.defaults, [], grammar.operands, [], none⟩

theorem start_idle (grammar : Grammar) (menu : Option Menu) : Idle (start grammar menu) := ⟨rfl, rfl⟩

theorem ofTexts_ok_iff {grammar : Grammar} {menu : Option Menu} {result : Reading.Result} :
    Reading.ofTexts grammar menu texts = .ok result ↔ ∃ final command,
      reading grammar.flags menu.isSome texts (start grammar menu) = .ok (final, command) ∧
      required final.unfilled = .ok () ∧ result = ⟨final.values, final.extras, command.map (·.text)⟩ := by
  constructor
  · intro read
    obtain ⟨words, worded, walking⟩ := bind_ok_iff.mp read
    obtain ⟨⟨final, command⟩, walked, checking⟩ := bind_ok_iff.mp walking
    obtain ⟨_, filled, made⟩ := bind_ok_iff.mp checking
    cases made
    exact ⟨final, command, bind_ok_iff.mpr ⟨words, worded, walked⟩, filled, rfl⟩
  · rintro ⟨final, command, read, filled, rfl⟩
    obtain ⟨words, worded, walked⟩ := bind_ok_iff.mp read
    refine bind_ok_iff.mpr ⟨words, worded, bind_ok_iff.mpr ⟨(final, command), walked, ?_⟩⟩
    exact bind_ok_iff.mpr ⟨(), filled, rfl⟩

theorem ofTexts_halted {grammar : Grammar} {menu : Option Menu} {halt : Halt}
    (halted : reading grammar.flags menu.isSome texts (start grammar menu) = .error halt) :
    Reading.ofTexts grammar menu texts = .error halt := by
  unfold reading at halted
  unfold Reading.ofTexts
  cases worded : (Word.ofTexts grammar.flags texts).mapError Halt.refused with
  | error other =>
    rw [worded] at halted
    cases halted
    rfl
  | ok words =>
    rw [worded] at halted
    change walk grammar.flags menu.isSome words (start grammar menu) = _ at halted
    change (walk grammar.flags menu.isSome words (start grammar menu) >>= _) = _
    rw [halted]
    rfl

/-- A word of another flag than the one for help is the same to a grammar without help. -/
theorem Plays.shrunk {name : String} {attached : Option String} (plays : Plays wholeFlags text (.flag flag name attached))
    (other : flag.effect ≠ .help) : Plays Program.globalFlags text (.flag flag name attached) := by
  refine ⟨plays.1, roleOf_shrunk plays.2 ?_⟩
  rintro _ _ ⟨⟩
  exact other rfl

theorem Said.shrunk (said : Said wholeFlags words entry) : Said Program.globalFlags words entry := by
  cases said with
  | switched role effect => exact .switched (role.shrunk (by simp [effect])) effect
  | attached role effect kept => exact .attached (role.shrunk (by simp [effect])) effect kept
  | apart role effect bare kept =>
    exact .apart (role.shrunk (by simp [effect])) effect ⟨bare.1, roleOf_shrunk bare.2 (by simp)⟩ kept

theorem Leading.shrunk (leading : Leading wholeFlags words entries) : Leading Program.globalFlags words entries := by
  induction leading with
  | nil => exact .nil
  | cons said _ ih => exact .cons said.shrunk ih

theorem Leading.helpless (leading : Leading wholeFlags words entries) : plain words = words := by
  refine List.filter_eq_self.mpr ?_
  suffices away : ∀ text ∈ words, text ∉ Program.helpFlag.names by simpa using away
  have helping {text : String} (listed : text ∈ Program.helpFlag.names) {role : Role} (plays : Plays wholeFlags text role) :
      role = .flag Program.helpFlag text none := by
    have own := plays.2
    rw [wholeFlags, helpWord_role listed] at own
    exact (Except.ok.inj own).symm
  induction leading with
  | nil => exact List.forall_mem_nil _
  | cons said _ ih =>
    intro text member listed
    rcases List.mem_append.mp member with here | later
    · cases said with
      | switched role effect =>
        cases List.mem_singleton.mp here
        cases helping listed role
        cases effect
      | attached role =>
        cases List.mem_singleton.mp here
        cases helping listed role
      | apart role effect bare =>
        simp only [List.mem_cons, List.not_mem_nil, or_false] at here
        rcases here with rfl | rfl
        · cases helping listed role
          cases effect
        · cases helping listed bare
    · exact ih text later listed

theorem ofTexts_texts {words : List Word} (worded : Word.ofTexts flags texts = .ok words) : words.map (·.text) = texts := by
  induction texts generalizing words with
  | nil =>
    cases worded
    rfl
  | cons text rest ih =>
    by_cases separator : text = Word.separatorText
    · rw [Word.ofTexts, if_pos separator] at worded
      cases worded
      simp [Function.comp_def]
    · obtain ⟨role, later, _, others, rfl⟩ := ofTexts_cons worded separator
      simp [ih others]

theorem ended_head {words : List Word} (ended : Ended flags (text :: rest))
    (worded : Word.ofTexts flags (text :: rest) = .ok words) :
    ∃ role later, (role = .argument ∨ role = .separator) ∧ words = ⟨text, role⟩ :: later ∧ later.map (·.text) = rest := by
  have texts := ofTexts_texts worded
  by_cases separator : text = Word.separatorText
  · rw [Word.ofTexts, if_pos separator] at worded
    cases worded
    exact ⟨_, _, Or.inr rfl, rfl, by simpa using texts⟩
  · obtain ⟨role, later, read, _, rfl⟩ := ofTexts_cons worded separator
    rcases ended text rfl with same | plays
    · exact absurd same separator
    · rw [plays.2] at read
      cases read
      exact ⟨_, _, Or.inl rfl, rfl, by simpa using texts⟩

/-- Where no command and no operand can take it, a word behind the flags is left over. -/
theorem ended_left (ended : Ended flags (text :: rest)) (unfilled : state.unfilled = []) (free : state.waiting = none)
    (read : reading flags false (text :: rest) state = .ok (final, command)) : final.extras ≠ [] := by
  obtain ⟨words, worded, walked⟩ := bind_ok_iff.mp read
  obtain ⟨role, later, bare, rfl, _⟩ := ended_head ended (mapError_ok_iff.mp worded)
  cases walk_takes walked with
  | value awaited => simp [free] at awaited
  | unknown _ role | flag _ role => rcases bare with rfl | rfl <;> cases role
  | command _ _ given => cases given
  | argument _ _ _ further =>
    refine walk_cluttered ?_ further
    exact ⟨unfilled, Or.inr (by simp)⟩

def unsaid : List (String × Value) := [("level", .null), ("no_color", .bool false), ("config", .null), ("log_level", .null)]

theorem reading_nil (idle : Idle state) : reading flags menu [] state = .ok (state.offered, []) := by
  simp only [reading, Word.ofTexts, mapError_ok]
  change walk flags menu [] state = _
  rw [walk, idle.waiting]

/-- The first reading accepts runs of global flags and nothing else. -/
theorem preliminary_ok_iff {columns : Int} {flags : Parsed} :
    (Program.preliminary columns).parse words = .ok flags ↔
      ∃ entries, Leading Program.globalFlags words entries ∧ flags = ⟨[], entries.reverse ++ unsaid, []⟩ := by
  constructor
  · intro accepted
    obtain ⟨read, taken⟩ := parse_ok_iff.mp accepted
    have bare : ∃ result, Reading.ofTexts (Program.preliminary columns).grammar none words = .ok result ∧
        flags = ⟨[], result.values, result.extras⟩ := by
      change (CommandLine.Tree.node (Program.preliminary columns).grammar none []).read words = _ at read
      rw [CommandLine.Tree.read] at read
      split at read
      · cases read
      next result fine =>
        cases read
        exact ⟨result, fine, rfl⟩
    obtain ⟨result, fine, rfl⟩ := bare
    obtain ⟨final, command, walked, _, rfl⟩ := ofTexts_ok_iff.mp fine
    have idle := start_idle (Program.preliminary columns).grammar none
    obtain ⟨front, back, entries, rfl, leading, ended, rest⟩ :=
      leading_of_reading globalFlags_spoken idle walked taken
    cases back with
    | nil =>
      rw [reading_nil (idle.said entries)] at rest
      cases rest
      exact ⟨entries, by simpa using leading, rfl⟩
    | cons text back => exact absurd taken (ended_left ended rfl rfl rest)
  · rintro ⟨entries, leading, rfl⟩
    refine parse_ok_iff.mpr ⟨?_, rfl⟩
    have idle := start_idle (Program.preliminary columns).grammar none
    have walked := @reading_leading _ false _ _ _ leading idle []
    rw [List.append_nil, reading_nil (idle.said entries)] at walked
    have fine : Reading.ofTexts (Program.preliminary columns).grammar none words =
        .ok ⟨entries.reverse ++ unsaid, [], []⟩ := ofTexts_ok_iff.mpr ⟨_, _, walked, rfl, rfl⟩
    change (CommandLine.Tree.node (Program.preliminary columns).grammar none []).read words = _
    rw [CommandLine.Tree.read, fine]

theorem reading_command {name : String} (bare : Plays flags name .argument) (free : state.waiting = none)
    {later : List Word} (worded : Word.ofTexts flags rest = .ok later) :
    reading flags true (name :: rest) state = .ok (state, ⟨name, .argument⟩ :: later) := by
  rw [reading_cons bare, worded, mapError_ok]
  change walk flags true (⟨name, .argument⟩ :: later) state = _
  rw [walk, free]
  rfl

theorem readBranch_listed {tier : Tier} {columns : Int} {name : String} {result : Except Stop Parsed}
    (branch : CommandLine.Tree.readBranch (Program.branches tier columns) name texts = some result) :
    name ∈ Program.commandNames := by
  by_contra unlisted
  simp only [Program.commandNames, List.mem_cons, List.not_mem_nil, or_false, not_or, ← ne_eq] at unlisted
  obtain ⟨both, format, apply, detect, attributes, config⟩ := unlisted
  simp [Program.branches, CommandLine.Tree.readBranch, both.symm, format.symm, apply.symm, detect.symm, attributes.symm,
    config.symm] at branch

theorem command_undashed {name : String} (listed : name ∈ Program.commandNames) :
    name.startsWith "-" = false ∧ name ≠ Word.separatorText := by
  have undashed : ∀ name ∈ Program.commandNames, name.startsWith "-" = false ∧ name ≠ Word.separatorText := by
    decide +kernel
  exact undashed name listed

theorem plays_undashed (undashed : text.startsWith "-" = false) (flags : List Flag) : Plays flags text .argument := by
  refine ⟨?_, ?_⟩
  · rintro rfl
    revert undashed
    decide +kernel
  · rw [Word.roleOf, undashed]
    rfl

/-- A command line of the whole grammar that selects a command: flags, the command, and its own words. Those too have a role
in the whole grammar, though it does not matter which. -/
structure Selects (tier : Tier) (columns : Int) (words front : List String) (entries : List (String × Value)) (name : String)
    (back : List String) (found : Parsed) : Prop where
  whole : words = front ++ name :: back
  leading : Leading wholeFlags front entries
  worded : ∃ later, Word.ofTexts wholeFlags back = .ok later
  branch : CommandLine.Tree.readBranch (Program.branches tier columns) name back = some (.ok found)
  taken : found.extras = []

def selection (entries : List (String × Value)) (name : String) (found : Parsed) : Parsed where
  path := name :: found.path
  values := found.values ++ ("command", .text name) :: (entries.reverse ++ ("command", .null) :: unsaid)
  extras := []

variable {tier : Tier} {columns : Int} {full : Parsed}

/-- What a grammar with commands accepts begins with its flags, up to the word that selects the command. -/
theorem read_selects {grammar : Grammar} {choice : Menu} {branches : List (String × CommandLine.Tree)} {full : Parsed}
    (spoken : Spoken grammar.flags) (read : (CommandLine.Tree.node grammar (some choice) branches).read words = .ok full)
    (taken : full.extras = []) (selected : full.path ≠ []) : ∃ front entries name back found,
      words = front ++ name :: back ∧ Leading grammar.flags front entries ∧
      (∃ later, Word.ofTexts grammar.flags (name :: back) = .ok later) ∧
      CommandLine.Tree.readBranch branches name back = some (.ok found) ∧ found.extras = [] ∧
      full = ⟨name :: found.path, found.values ++ (choice.field, .text name) ::
        (entries.reverse ++ (start grammar (some choice)).values), []⟩ := by
  obtain ⟨result, name, rest, found, own, named, branch, rfl⟩ : ∃ result name rest found,
      Reading.ofTexts grammar (some choice) words = .ok result ∧ result.command = name :: rest ∧
      CommandLine.Tree.readBranch branches name rest = some (.ok found) ∧
      full = ⟨name :: found.path, found.values ++ (choice.field, .text name) :: result.values,
        result.extras ++ found.extras⟩ := by
    rw [CommandLine.Tree.read] at read
    split at read
    · cases read
    next result own =>
      split at read
      next choice name rest given named =>
        cases given
        split at read
        · cases read
        · cases read
        next found branch =>
          cases read
          exact ⟨result, name, rest, found, own, named, branch, rfl⟩
      · cases read
        exact absurd rfl selected
  obtain ⟨ownTaken, foundTaken⟩ := List.append_eq_nil_iff.mp taken
  obtain ⟨final, command, walked, _, rfl⟩ := ofTexts_ok_iff.mp own
  have idle := start_idle grammar (some choice)
  obtain ⟨front, back, entries, rfl, leading, ended, remaining⟩ := leading_of_reading spoken idle walked ownTaken
  cases back with
  | nil =>
    rw [reading_nil (idle.said entries)] at remaining
    cases remaining
    cases named
  | cons text back =>
    obtain ⟨words, worded, walked⟩ := bind_ok_iff.mp remaining
    have worded := mapError_ok_iff.mp worded
    obtain ⟨role, later, bare, rfl, texts⟩ := ended_head ended worded
    cases walk_takes walked with
    | value awaited => cases awaited
    | unknown _ role | flag _ role => rcases bare with rfl | rfl <;> cases role
    | command _ _ _ same =>
      cases same
      obtain ⟨rfl, rfl⟩ : text = name ∧ back = rest := by simpa [texts] using named
      refine ⟨front, entries, text, back, found, rfl, leading, ⟨_, worded⟩, branch, foundTaken, ?_⟩
      rw [ownTaken, foundTaken]
      rfl
    | argument _ _ alone further =>
      obtain rfl := alone rfl
      change walk grammar.flags true [] _ = _ at further
      unfold walk at further
      cases further
      cases named

theorem whole_selects (accepted : (Program.tree tier columns).parse words = .ok full) (selected : full.path ≠ []) :
    ∃ front entries name back found, Selects tier columns words front entries name back found ∧
      full = selection entries name found := by
  obtain ⟨read, taken⟩ := parse_ok_iff.mp accepted
  obtain ⟨front, entries, name, back, found, rfl, leading, ⟨_, worded⟩, branch, foundTaken, rfl⟩ :=
    read_selects wholeFlags_spoken read taken selected
  have other := (command_undashed (readBranch_listed branch)).2
  obtain ⟨_, later, _, others, _⟩ := ofTexts_cons worded other
  exact ⟨front, entries, name, back, found, ⟨rfl, leading, ⟨later, others⟩, branch, foundTaken⟩, rfl⟩

theorem whole_reading {front back : List String} {name : String} {later : List Word} (leading : Leading wholeFlags front entries)
    (bare : Plays wholeFlags name .argument) (worded : Word.ofTexts wholeFlags back = .ok later) :
    Reading.ofTexts (Program.tree tier columns).grammar (Program.tree tier columns).menu (front ++ name :: back) =
      .ok ⟨entries.reverse ++ ("command", .null) :: unsaid, [], name :: back⟩ := by
  have idle := start_idle (Program.tree tier columns).grammar (Program.tree tier columns).menu
  have walked := (reading_leading leading idle (name :: back)).trans (reading_command bare (idle.said entries).waiting worded)
  refine ofTexts_ok_iff.mpr ⟨_, _, walked, rfl, ?_⟩
  rw [List.map_cons, ofTexts_texts worded]
  rfl

theorem selects_whole {front back : List String} {name : String} {found : Parsed}
    (selects : Selects tier columns words front entries name back found) :
    (Program.tree tier columns).parse words = .ok (selection entries name found) := by
  obtain ⟨rfl, leading, ⟨later, worded⟩, branch, taken⟩ := selects
  have bare := plays_undashed (command_undashed (readBranch_listed branch)).1 wholeFlags
  have own := @whole_reading entries tier columns front back name later leading bare worded
  have read : (Program.tree tier columns).read (front ++ name :: back) = .ok _ := read_command own branch
  refine parse_ok_iff.mpr ⟨?_, rfl⟩
  rw [read, taken]
  rfl

end Readings

end TermStyle.Proofs.LeadingFlags
