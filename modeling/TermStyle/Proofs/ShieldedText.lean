import TermStyle.Proofs.DefaultMode
import TermStyle.Proofs.GroupedDirectives

/-! The separator in front of the default text. The scan for the command puts the default command in its place, so the
readings behind it are not told that the flags have ended: a word that starts with a dash is an argument to them only if
it would be one anywhere. -/

namespace TermStyle.Proofs.ShieldedText
open Text CommandLine Reading ActionRun ActionFailure WordRoles FlagValues FlagWalks TwoReadings LeadingFlags NamedCommand RunCourse
open CommandOutcome StylerRun SpelledFlags DefaultMode ExceptSteps GroupedDirectives

def exposed (texts : List String) : List String := texts.takeWhile (· != Word.separatorText)

/-- Words that are all arguments up to the first separator, behind which all are. -/
def roles : List String → List Word
  | [] => []
  | text :: rest =>
    if text = Word.separatorText then ⟨text, .separator⟩ :: arguments rest else ⟨text, .argument⟩ :: roles rest

/-- The default command takes the word for an argument, and the whole grammar finds it clear. -/
structure Textual (word : String) : Prop where
  argument : Plays [Program.helpFlag] word .argument
  clear : ∃ role, Plays wholeFlags word role

/-- The attributes among the words behind a text. A separator right behind the text goes with the text, and the first one
among what is left counts for nothing. -/
def attributesOf : List String → List String
  | [] => []
  | next :: more =>
    if next = Word.separatorText then more.erase Word.separatorText else (next :: more).erase Word.separatorText

/-- The text and the attributes among the words of the default command. A separator in front of the text goes with it too. -/
def heard : List String → Option (String × List String)
  | [] => none
  | text :: rest =>
    if text = Word.separatorText then rest.head?.map fun next => (next, rest.tail.erase Word.separatorText)
    else some (text, attributesOf rest)

section Words

variable {flags : List Flag} {text : String} {texts rest : List String} {words : List Word} {state final : State}
  {command : List Word}

theorem exposed_cons (other : text ≠ Word.separatorText) (rest : List String) : exposed (text :: rest) = text :: exposed rest := by
  simp [exposed, other]

theorem ofTexts_roles (plays : ∀ word ∈ exposed texts, Plays flags word .argument) :
    Word.ofTexts flags texts = .ok (roles texts) := by
  induction texts with
  | nil => rfl
  | cons text rest ih =>
    rw [Word.ofTexts, roles]
    by_cases separator : text = Word.separatorText
    · rw [if_pos separator, if_pos separator]
      rfl
    · rw [exposed_cons separator] at plays
      rw [if_neg separator, if_neg separator, (plays text (by simp)).2, ih fun word member => plays word (by simp [member])]
      rfl

theorem ofTexts_clear (clear : ∀ word ∈ exposed texts, ∃ role, Plays flags word role) :
    ∃ words, Word.ofTexts flags texts = .ok words := by
  induction texts with
  | nil => exact ⟨[], rfl⟩
  | cons text rest ih =>
    rw [Word.ofTexts]
    by_cases separator : text = Word.separatorText
    · rw [if_pos separator]
      exact ⟨_, rfl⟩
    · rw [exposed_cons separator] at clear
      obtain ⟨role, plays⟩ := clear text (by simp)
      obtain ⟨later, worded⟩ := ih fun word member => clear word (by simp [member])
      rw [if_neg separator, plays.2, worded]
      exact ⟨_, rfl⟩

theorem clear_of_ofTexts (worded : Word.ofTexts flags texts = .ok words) :
    ∀ word ∈ exposed texts, ∃ role, Plays flags word role ∧ ⟨word, role⟩ ∈ words := by
  induction texts generalizing words with
  | nil => simp [exposed]
  | cons text rest ih =>
    by_cases separator : text = Word.separatorText
    · simp [exposed, separator]
    · obtain ⟨role, later, plays, others, rfl⟩ := ofTexts_cons worded separator
      rw [exposed_cons separator]
      intro word member
      rcases List.mem_cons.mp member with rfl | deeper
      · exact ⟨role, ⟨separator, plays⟩, by simp⟩
      · obtain ⟨role, plays, listed⟩ := ih others word deeper
        exact ⟨role, plays, by simp [listed]⟩

theorem roles_bare (texts : List String) : ∀ word ∈ roles texts, Bare word := by
  induction texts with
  | nil => simp [roles]
  | cons text rest ih =>
    rw [roles]
    split
    · exact List.forall_mem_cons.mpr ⟨Or.inr rfl, arguments_bare rest⟩
    · exact List.forall_mem_cons.mpr ⟨Or.inl rfl, ih⟩

theorem bare_of_walk (helping : ∀ flag ∈ flags, flag.effect = .help) (known : ∀ word ∈ words, Known flags word)
    (free : state.waiting = none) (walked : walk flags false words state = .ok (final, command)) (taken : final.extras = []) :
    ∀ word ∈ words, Bare word := by
  induction words generalizing state with
  | nil => simp
  | cons word rest ih =>
    cases walk_takes walked with
    | value awaited => simp [free] at awaited
    | unknown _ _ further =>
      have kept := walk_extras further
      simp [taken] at kept
    | @flag flag name attached _ _ role used =>
      have helps := helping flag (known word (by simp) flag name attached role)
      exact absurd used (useFlag_helping helps)
    | command _ _ given => cases given
    | argument _ bare _ further =>
      have others := @ih { state with stretch := state.stretch ++ [word] } (fun later member => known later (by simp [member])) free further
      exact List.forall_mem_cons.mpr ⟨bare, others⟩

theorem argument_of_bare {role : Role} (plays : Plays flags text role) (bare : role = .argument ∨ role = .separator) :
    role = .argument := by
  rcases bare with same | rfl
  · exact same
  · cases roleOf_earns plays.2 with
    | guessed _ _ _ _ guess => exact absurd guess guessed_separator

theorem roles_texts (texts : List String) : (roles texts).map (·.text) = texts := by
  induction texts with
  | nil => rfl
  | cons text rest ih =>
    rw [roles]
    split
    · rw [List.map_cons, arguments_texts]
    · rw [List.map_cons, ih]

theorem textual_undashed (undashed : text.startsWith "-" = false) : Textual text :=
  ⟨plays_undashed undashed _, _, plays_undashed undashed _⟩

/-- A word with a dash in front is an argument only if it is the dash alone, a negative number, or has a space in it. -/
theorem textual_shape (textual : Textual text) : text.startsWith "-" = false ∨ text.length = 1 ∨
    Word.isNegative text = true ∨ text.contains ' ' = true := by
  cases roleOf_earns textual.argument.2 with
  | bare undashed => exact Or.inl undashed
  | lone _ _ single => exact Or.inr (Or.inl single)
  | guessed _ _ _ _ guess =>
    unfold Word.guessed at guess
    split at guess
    · cases guess
    · split at guess
      next counts => exact Or.inr (Or.inr (by simpa using counts))
      · cases guess
    · cases guess

end Words

section Operands

variable {operand : Operand} {text next : String} {texts rest more attributes : List String}

/-- An operand for one argument takes these words from a stretch, and they stand for the text. -/
def Hears (operand : Operand) (stretch : List Word) (text : String) (rest : List Word) : Prop :=
  ∃ taken, operand.take? stretch = some (taken, rest) ∧ operand.value taken = .text text

theorem hears_last (single : operand.arity = .one) (other : text ≠ Word.separatorText) :
    Hears operand [⟨text, .argument⟩] text [] :=
  ⟨[⟨text, .argument⟩], take?_one single text [], value_one single other⟩

theorem hears_first (single : operand.arity = .one) (other : text ≠ Word.separatorText) (next : String) (words : List Word) :
    Hears operand (⟨text, .argument⟩ :: ⟨next, .argument⟩ :: words) text (⟨next, .argument⟩ :: words) := by
  refine ⟨[⟨text, .argument⟩], ?_, value_one single other⟩
  unfold Operand.take?
  rw [single]
  rfl

/-- The separator goes with the text, on whichever side of it it stands. -/
theorem hears_separated (single : operand.arity = .one) (other : text ≠ Word.separatorText) (more : List String) :
    Hears operand (⟨text, .argument⟩ :: ⟨Word.separatorText, .separator⟩ :: arguments more) text (arguments more) := by
  refine ⟨[⟨text, .argument⟩, ⟨Word.separatorText, .separator⟩], ?_, ?_⟩
  · unfold Operand.take?
    rw [single]
    cases more <;> rfl
  · have kept : [text, Word.separatorText].erase Word.separatorText = [text] := by simp [other]
    unfold Operand.value
    rw [single]
    simp only [List.map_cons, List.map_nil, kept]

theorem hears_behind (single : operand.arity = .one) (next : String) (more : List String) :
    Hears operand (⟨Word.separatorText, .separator⟩ :: ⟨next, .argument⟩ :: arguments more) next (arguments more) := by
  refine ⟨[⟨Word.separatorText, .separator⟩, ⟨next, .argument⟩], ?_, ?_⟩
  · unfold Operand.take?
    rw [single]
    cases more <;> rfl
  · have kept : [Word.separatorText, next].erase Word.separatorText = [next] := by simp
    unfold Operand.value
    rw [single]
    simp only [List.map_cons, List.map_nil, kept]

theorem heard_hears (listened : heard texts = some (text, attributes)) : ∃ rest,
    (∀ operand : Operand, operand.arity = .one → Hears operand (roles texts) text rest) ∧
      (rest.map (·.text)).erase Word.separatorText = attributes := by
  cases texts with
  | nil => cases listened
  | cons first later =>
    rw [heard] at listened
    rw [roles]
    by_cases separator : first = Word.separatorText
    · rw [if_pos separator] at listened ⊢
      subst separator
      cases later with
      | nil => cases listened
      | cons next more =>
        cases listened
        exact ⟨arguments more, fun operand single => hears_behind single _ more, by rw [arguments_texts]; rfl⟩
    · rw [if_neg separator] at listened ⊢
      cases listened
      cases later with
      | nil => exact ⟨[], fun operand single => hears_last single separator, rfl⟩
      | cons next more =>
        rw [roles, attributesOf]
        by_cases divided : next = Word.separatorText
        · rw [if_pos divided, if_pos divided]
          subst divided
          exact ⟨arguments more, fun operand single => hears_separated single separator more, by rw [arguments_texts]⟩
        · rw [if_neg divided, if_neg divided]
          refine ⟨_, fun operand single => hears_first single separator next (roles more), ?_⟩
          rw [List.map_cons, roles_texts]

theorem unheard_words (unheard : heard texts = none) (single : operand.arity = .one) : operand.take? (roles texts) = none := by
  unfold Operand.take?
  rw [single]
  cases texts with
  | nil => rfl
  | cons first later =>
    rw [heard] at unheard
    by_cases separator : first = Word.separatorText
    · rw [if_pos separator] at unheard
      subst separator
      cases later with
      | nil => rfl
      | cons next more => cases unheard
    · rw [if_neg separator] at unheard
      cases unheard

end Operands

section Reading

variable {texts front attributes : List String} {text : String} {tier : Tier} {columns : Int} {entries : List (String × Value)} {full : Parsed}

theorem branch_both (texts : List String) : CommandLine.Tree.readBranch (Program.branches tier columns) "both" texts =
    some ((CommandLine.Tree.node (Program.bothTree tier).grammar none []).read texts) := by
  rw [Program.branches, CommandLine.Tree.readBranch, if_pos rfl]
  rfl

theorem roles_walked (plays : ∀ word ∈ exposed texts, Plays [Program.helpFlag] word .argument) (tier : Tier) :
    reading (Program.bothTree tier).grammar.flags false texts (start (Program.bothTree tier).grammar none) =
      .ok ((⟨[("text", .null), ("attributes", .null)], [], (Program.bothTree tier).grammar.operands, roles texts, none⟩ : State).offered, []) :=
  reading_ok (ofTexts_roles plays) (walk_bare (roles_bare texts) _ _ _ _)

theorem both_heard (plays : ∀ word ∈ exposed texts, Plays [Program.helpFlag] word .argument)
    (listened : heard texts = some (text, attributes)) (tier : Tier) (columns : Int) :
    CommandLine.Tree.readBranch (Program.branches tier columns) "both" texts = some (.ok (rendering text attributes)) := by
  obtain ⟨rest, hears, same⟩ := heard_hears listened
  obtain ⟨taken, takes, value⟩ := hears ⟨"text", .one, .null, "Text or format template"⟩ rfl
  have offered : offer (Program.bothTree tier).grammar.operands (roles texts) =
      ⟨[("text", .text text), ("attributes", .list (attributes.map .text))], [], []⟩ := by
    simp only [Program.bothTree, Program.leaf, Program.command, Program.attributesOperand, CommandLine.Tree.grammar, offer, takes,
      value, take?_many, value_many, same]
  have walked := roles_walked plays tier
  rw [State.offered] at walked
  simp only [offered] at walked
  have own : Reading.ofTexts (Program.bothTree tier).grammar none texts = .ok ⟨(rendering text attributes).values, [], []⟩ :=
    ofTexts_ok_iff.mpr ⟨_, _, walked, rfl, rfl⟩
  rw [branch_both, CommandLine.Tree.read, own]
  rfl

theorem both_accepted {found : Parsed}
    (accepted : CommandLine.Tree.readBranch (Program.branches tier columns) "both" texts = some (.ok found))
    (taken : found.extras = []) :
    (∀ word ∈ exposed texts, Plays [Program.helpFlag] word .argument) ∧ heard texts ≠ none := by
  rw [branch_both, CommandLine.Tree.read] at accepted
  obtain ⟨result, own, rfl⟩ : ∃ result, Reading.ofTexts (Program.bothTree tier).grammar none texts = .ok result ∧
      found = ⟨[], result.values, result.extras⟩ := by
    split at accepted
    · cases accepted
    next result own =>
      cases accepted
      exact ⟨result, own, rfl⟩
  obtain ⟨final, command, walked, filled, rfl⟩ := ofTexts_ok_iff.mp own
  obtain ⟨words, worded, walking⟩ := bind_ok_iff.mp walked
  have worded := mapError_ok_iff.mp worded
  have helping : ∀ flag ∈ (Program.bothTree tier).grammar.flags, flag.effect = .help :=
    fun flag member => List.mem_singleton.mp member ▸ rfl
  have bare := bare_of_walk helping (ofTexts_known worded) rfl walking taken
  have plays : ∀ word ∈ exposed texts, Plays [Program.helpFlag] word .argument := by
    intro word member
    obtain ⟨role, plays, listed⟩ := clear_of_ofTexts worded word member
    obtain rfl := argument_of_bare plays (bare _ listed)
    exact plays
  refine ⟨plays, fun unheard => ?_⟩
  have unfilled := @unheard_words ⟨"text", .one, .null, "Text or format template"⟩ texts unheard rfl
  have gathered := (roles_walked plays tier).symm.trans walked
  rw [State.offered] at gathered
  simp only [Program.bothTree, Program.leaf, Program.command, CommandLine.Tree.grammar, offer, unfilled] at gathered
  cases gathered
  cases filled

theorem read_command_ok {grammar : Grammar} {choice : Menu} {branches : List (String × CommandLine.Tree)} {words rest : List String}
    {values : List (String × Value)} {name : String}
    (own : Reading.ofTexts grammar (some choice) words = .ok ⟨values, [], name :: rest⟩)
    (accepted : (CommandLine.Tree.node grammar (some choice) branches).read words = .ok full) :
    ∃ found, CommandLine.Tree.readBranch branches name rest = some (.ok found) ∧ full.extras = found.extras := by
  rw [CommandLine.Tree.read, own] at accepted
  dsimp only at accepted
  cases branch : CommandLine.Tree.readBranch branches name rest with
  | none =>
    rw [branch] at accepted
    cases accepted
  | some result =>
    rw [branch] at accepted
    cases result with
    | error stop => cases accepted
    | ok found =>
      cases accepted
      exact ⟨found, rfl, rfl⟩

/-- The whole grammar accepts the default command with these words exactly if it takes them all for arguments, and one of
them for the text. -/
theorem whole_accepts (leading : Leading wholeFlags front entries) :
    (∃ full, (Program.tree tier columns).parse (front ++ DefaultCommand.name :: texts) = .ok full) ↔
      (∀ word ∈ exposed texts, Textual word) ∧ heard texts ≠ none := by
  have bare := plays_undashed default_undashed wholeFlags
  constructor
  · rintro ⟨full, accepted⟩
    obtain ⟨read, taken⟩ := parse_ok_iff.mp accepted
    have read : (CommandLine.Tree.node (Program.tree tier columns).grammar (Program.tree tier columns).menu
      (Program.branches tier columns)).read (front ++ DefaultCommand.name :: texts) = .ok full := read
    rw [CommandLine.Tree.read] at read
    cases worded : Word.ofTexts wholeFlags texts with
    | error message =>
      have idle := start_idle (Program.tree tier columns).grammar (Program.tree tier columns).menu
      have halted := @reading_leading wholeFlags true _ _ _ leading idle (DefaultCommand.name :: texts)
      rw [reading_cons bare, worded] at halted
      rw [ofTexts_halted halted] at read
      cases read
    | ok words =>
      obtain ⟨found, branch, same⟩ := read_command_ok (whole_reading leading bare worded) read
      obtain ⟨plays, listened⟩ := both_accepted branch (same.symm.trans taken)
      refine ⟨fun word member => ⟨plays word member, ?_⟩, listened⟩
      obtain ⟨role, clear, _⟩ := clear_of_ofTexts worded word member
      exact ⟨role, clear⟩
  · rintro ⟨textual, listened⟩
    obtain ⟨later, worded⟩ := ofTexts_clear fun word member => (textual word member).clear
    obtain ⟨⟨text, attributes⟩, listened⟩ := Option.ne_none_iff_exists'.mp listened
    have branch := both_heard (fun word member => (textual word member).argument) listened tier columns
    exact ⟨_, selects_whole ⟨rfl, leading, ⟨later, worded⟩, branch, rfl⟩⟩

end Reading

section Attributes

theorem followed_value {ε α : Type} [Append α] {second third : Log.Noted (Except ε α)} (same : second.value = third.value)
    (first : Log.Noted (Except ε α)) : (followed first second).value = (followed first third).value := by
  unfold followed
  cases first.value with
  | error error => rfl
  | ok front => simp only [same]

/-- The separator names no attribute, so it leaves a record and nothing else. -/
theorem separator_silent (tier : Int) (rest : List String) :
    (Compile.tokens tier (Word.separatorText :: rest)).value = (Compile.tokens tier rest).value := by
  have unknown : Compile.sequence? tier Word.separatorText = .ok none := rfl
  rw [Compile.tokens, unknown]
  cases Compile.tokens tier rest with
  | mk value records => cases value <;> rfl

theorem compiled_erased (tier : Tier) (words : List String) :
    compiled tier (words.erase Word.separatorText) = compiled tier words := by
  by_cases listed : Word.separatorText ∈ words
  · obtain ⟨front, back, _, whole, erased⟩ := List.exists_erase_eq listed
    have own : Blank.words Word.separatorText = [Word.separatorText] := rfl
    have silent : (Compile.tokens tier.level (Word.separatorText :: back.flatMap Blank.words)).value =
        (Compile.tokens tier.level (back.flatMap Blank.words)).value := separator_silent _ _
    have same := followed_value silent (Compile.tokens tier.level (front.flatMap Blank.words))
    rw [erased, whole]
    simp only [compiled, Compile.text, Compile.sequences, words_groups, List.flatMap_append, List.flatMap_cons, own,
      List.singleton_append, tokens_append, same]
  · rw [List.erase_of_not_mem listed]

theorem compiled_attributes (tier : Tier) (words : List String) : compiled tier (attributesOf words) = compiled tier words := by
  cases words with
  | nil => rfl
  | cons next more =>
    rw [attributesOf]
    by_cases divided : next = Word.separatorText
    · have gone : (next :: more).erase Word.separatorText = more := by rw [divided, List.erase_cons_head]
      rw [if_pos divided, compiled_erased, ← compiled_erased tier (next :: more), gone]
    · rw [if_neg divided, compiled_erased]

end Attributes

section Runs

/-- A command line that names no command: global flags, the separator, and words for the default command. -/
def shielded (groups : List (List String)) (words : List String) : List String :=
  groups.flatten ++ Word.separatorText :: words

variable {groups : List (List String)} {words attributes : List String} {text : String} {before middle : Session} {flags : Parsed}
  {settings : Settings} {tier : Tier} {entries : List (String × Value)}

theorem shielded_inserted (tight : Tight groups.flatten) (words : List String) :
    DefaultCommand.insert (shielded groups words) = groups.flatten ++ DefaultCommand.name :: words := by
  have stays : DefaultCommand.split (Word.separatorText :: words) = ([], Word.separatorText :: words) :=
    split_unflagged (by simp [DefaultCommand.isFlag]) words
  simp only [DefaultCommand.insert, shielded, split_tight tight, stays, List.append_nil, DefaultCommand.completed, if_pos]

theorem shielded_flags (tight : Tight groups.flatten) (leading : Leading wholeFlags groups.flatten entries) (columns : Int) :
    (Program.preliminary columns).parse (Perform.preliminaryWords (DefaultCommand.insert (shielded groups words))) =
      .ok ⟨[], entries.reverse ++ unsaid, []⟩ := by
  rw [shielded_inserted tight, preliminaryWords_tight tight default_undashed]
  exact preliminary_ok_iff.mpr ⟨entries, leading.shrunk, rfl⟩

theorem shielded_stopped (tight : Tight groups.flatten) (leading : Leading wholeFlags groups.flatten entries)
    (configured : Configured (shielded groups words) before flags settings middle tier)
    (strange : ¬ ((∀ word ∈ exposed words, Textual word) ∧ heard words ≠ none)) :
    ∃ stop, outcome (Perform.run (shielded groups words)) before = outcome (Perform.stopped stop) middle := by
  have accepts := @whole_accepts words _ tier (Program.columns middle.world.env) _ leading
  cases parsed : (Program.tree tier (Program.columns middle.world.env)).parse (groups.flatten ++ DefaultCommand.name :: words) with
  | ok full => exact absurd (accepts.mp ⟨full, parsed⟩) strange
  | error stop =>
    rw [← shielded_inserted tight] at parsed
    exact ⟨stop, (Stops.second configured parsed).run⟩

theorem shielded_performs (tight : Tight groups.flatten) (leading : Leading wholeFlags groups.flatten entries)
    (configured : Configured (shielded groups words) before flags settings middle tier)
    (textual : ∀ word ∈ exposed words, Textual word) (listened : heard words = some (text, attributes)) :
    Performs (shielded groups words) before (.ofParsed flags) settings (.both text attributes) middle tier := by
  obtain ⟨later, worded⟩ := ofTexts_clear fun word member => (textual word member).clear
  have branch := both_heard (fun word member => (textual word member).argument) listened tier (Program.columns middle.world.env)
  have selects : Selects tier (Program.columns middle.world.env) (groups.flatten ++ DefaultCommand.name :: words) groups.flatten entries
      "both" words (rendering text attributes) := ⟨rfl, leading, ⟨later, worded⟩, branch, rfl⟩
  have read := selects_whole selects
  rw [← shielded_inserted tight] at read
  exact ⟨⟨flags, configured, rfl⟩, _, read, rendering_asked⟩

/-- The run ends well and prints the front and the body, with two resets. -/
def Rendered (groups : List (List String)) (words : List String) (before : Session) (tier : Tier) (front body : String) : Prop :=
  ∃ after, Returns (Perform.run (shielded groups words)) before ⟨0, false⟩ after ∧ after.styler.tier = some tier ∧
    after.world.output = before.world.output ++ (front ++ body ++ Sequence.reset.render ++ Sequence.reset.render) ++ "\n"

theorem shielded_rendered (tight : Tight groups.flatten) (leading : Leading wholeFlags groups.flatten entries)
    (configured : Configured (shielded groups words) before flags settings middle tier) (calm : before.world.interrupting = false)
    (textual : ∀ word ∈ exposed words, Textual word) (listened : heard words = some (text, attributes)) {front body : String}
    (styled : compiled tier attributes = .ok front) (expanded : expansion tier text = .ok body) :
    Rendered groups words before tier front body := by
  have steady := SettlingOutcome.configure_steady (.ofParsed flags) before
  rw [configured.configured] at steady
  have performs := shielded_performs tight leading configured textual listened
  obtain ⟨after, printed, kept, output⟩ :=
    both_prints configured.inForce (steady.interrupting.trans calm) styled expanded
  refine ⟨after, ?_, kept, ?_⟩
  · rw [Returns, performs.run, printed]
  · rw [output, steady.output]

theorem shielded_early (tight : Tight groups.flatten) (leading : Leading wholeFlags groups.flatten entries)
    (configured : Configured (shielded groups words) before flags settings middle tier)
    (strange : ¬ ((∀ word ∈ exposed words, Textual word) ∧ heard words ≠ none)) :
    ∃ ending after, Returns (Perform.run (shielded groups words)) before ending after ∧ ending.early = true := by
  obtain ⟨stop, ended⟩ := shielded_stopped tight leading configured strange
  cases stop with
  | help help => exact ⟨⟨0, true⟩, _, ended, rfl⟩
  | refused usage program message => exact ⟨⟨2, true⟩, _, ended, rfl⟩

/-- What the separator in front of the default text comes to. If the text is not itself a separator, the run renders it with
its attributes exactly if every word up to a further separator is one that counts as an argument without help from this one;
if any is not, the reading ends the run early. A text that is a separator is passed over for the word behind it. -/
theorem shielded_text_iff (spelled : ∀ group ∈ groups, Spelled group) (calm : before.world.interrupting = false) :
    ∃ flags, (Program.preliminary (Program.columns before.world.env)).parse
      (Perform.preliminaryWords (DefaultCommand.insert (shielded groups (text :: attributes)))) = .ok flags ∧
    ∀ settings, Undisturbed (.ofParsed flags) before settings → ∃ middle tier,
      Returns (Perform.configure (.ofParsed flags)) before settings middle ∧ middle.styler.tier = some tier ∧
      (text ≠ Word.separatorText → ∀ front body, compiled tier attributes = .ok front → expansion tier text = .ok body →
        (Rendered groups (text :: attributes) before tier front body ↔ ∀ word ∈ exposed (text :: attributes), Textual word)) ∧
      (text = Word.separatorText → ∀ next more front body, attributes = next :: more → compiled tier more = .ok front →
        expansion tier next = .ok body → Rendered groups (text :: attributes) before tier front body) ∧
      ((∃ word ∈ exposed (text :: attributes), ¬ Textual word) ∨ text = Word.separatorText ∧ attributes = [] →
        ∃ ending after, Returns (Perform.run (shielded groups (text :: attributes))) before ending after ∧
          ending.early = true) := by
  obtain ⟨tight, entries, leading, leveled⟩ := spelled_tight spelled
  have accepted := @shielded_flags groups (text :: attributes) entries tight leading (Program.columns before.world.env)
  refine ⟨_, accepted, fun settings undisturbed => ?_⟩
  obtain ⟨middle, tier, configured, inForce⟩ := undisturbed_configured accepted (leveled_flags leveled) undisturbed
  have course : Configured (shielded groups (text :: attributes)) before _ settings middle tier := ⟨accepted, configured, inForce⟩
  refine ⟨middle, tier, configured, inForce, ?_, ?_, ?_⟩
  · intro other front body styled expanded
    constructor
    · rintro ⟨after, returned, _⟩
      by_contra strange
      obtain ⟨ending, _, ended, early⟩ := shielded_early tight leading course fun both => strange both.1
      cases returned.symm.trans ended
      cases early
    · intro textual
      have listened : heard (text :: attributes) = some (text, attributesOf attributes) := by rw [heard, if_neg other]
      exact shielded_rendered tight leading course calm textual listened ((compiled_attributes tier attributes).trans styled) expanded
  · rintro rfl next more front body rfl styled expanded
    have listened : heard (Word.separatorText :: next :: more) = some (next, more.erase Word.separatorText) := rfl
    exact shielded_rendered tight leading course calm (by simp [exposed]) listened ((compiled_erased tier more).trans styled) expanded
  · intro strange
    refine shielded_early tight leading course ?_
    rintro ⟨textual, listened⟩
    rcases strange with ⟨word, member, odd⟩ | ⟨rfl, rfl⟩
    · exact odd (textual word member)
    · exact listened rfl

end Runs

def showing : Session := plainSession .truecolor

private theorem showing_undisturbed : Undisturbed ⟨.null, false, none, none⟩ showing Settings.standard := by
  refine ⟨⟨by decide +kernel, rfl⟩, ?_⟩
  rintro (⟨_, raised⟩ | ⟨_, _, _, unset⟩)
  · exact absurd raised (by decide)
  · cases unset

private theorem number_textual : Textual "-1" := by
  have dashed : "-1".startsWith "-" = true := by decide +kernel
  have negative : Word.isNegative "-1" = true := by decide +kernel
  have helpless : Word.candidates [Program.helpFlag] "-1" = [] := List.isEmpty_iff.mp (by decide +kernel)
  have flagless : Word.candidates wholeFlags "-1" = [] := List.isEmpty_iff.mp (by decide +kernel)
  refine ⟨⟨by decide, ?_⟩, .argument, by decide, ?_⟩
  · simp only [Word.roleOf, dashed, Word.guessed, helpless, negative]
    rfl
  · simp only [Word.roleOf, dashed, Word.guessed, flagless, negative]
    rfl

theorem shielded_text_number : (∀ group ∈ ([] : List (List String)), Spelled group) ∧ showing.world.interrupting = false ∧
    Rendered [] ["-1", "red"] showing .truecolor "\x1b[31m" "-1" := by
  obtain ⟨flags, accepted, settles⟩ := @shielded_text_iff [] ["red"] "-1" showing (List.forall_mem_nil _) rfl
  have own := @shielded_flags [] ["-1", "red"] [] .nil .nil (Program.columns showing.world.env)
  obtain rfl := Except.ok.inj (accepted.symm.trans own)
  obtain ⟨middle, tier, configured, inForce, renders, _⟩ := settles _ showing_undisturbed
  have colored : (outcome (Perform.configure ⟨.null, false, none, none⟩) showing).2.styler.tier = some .truecolor := by
    decide +kernel
  have settled : Returns (Perform.configure ⟨.null, false, none, none⟩) showing Settings.standard middle := configured
  rw [settled, inForce] at colored
  cases colored
  have expanded : expansion .truecolor "-1" = .ok "-1" := expansion_unclosed (by decide) _
  refine ⟨List.forall_mem_nil _, rfl, (renders (by decide) _ _ rfl expanded).mpr ?_⟩
  have undashed : "red".startsWith "-" = false := by decide +kernel
  intro word member
  have listed : word ∈ ["-1", "red"] := (List.takeWhile_sublist _).subset member
  simp only [List.mem_cons, List.not_mem_nil, or_false] at listed
  rcases listed with rfl | rfl
  · exact number_textual
  · exact textual_undashed undashed

private theorem option_textless : ¬ Textual "-x" := by
  have dashed : "-x".startsWith "-" = true := by decide +kernel
  have number : Word.isNegative "-x" = false := by decide +kernel
  have spaced : "-x".contains ' ' = false := by simp
  intro textual
  rcases textual_shape textual with bare | single | negative | blank
  · cases dashed.symm.trans bare
  · revert single
    decide +kernel
  · cases number.symm.trans negative
  · cases spaced.symm.trans blank

/-- Behind the separator a letter with a dash in front is still read as a flag, and refused. -/
theorem shielded_option_refused : Undisturbed ⟨.null, false, none, none⟩ showing Settings.standard ∧
    compiled .truecolor [] = .ok "" ∧ expansion .truecolor "-x" = .ok "-x" ∧
    ¬ Rendered [] ["-x"] showing .truecolor "" "-x" ∧
    ∃ ending after, Returns (Perform.run ["--", "-x"]) showing ending after ∧ ending.early = true := by
  have expanded : expansion .truecolor "-x" = .ok "-x" := expansion_unclosed (by decide) _
  have accepted := @shielded_flags [] ["-x"] [] .nil .nil (Program.columns showing.world.env)
  obtain ⟨middle, tier, configured, inForce⟩ :=
    undisturbed_configured accepted (leveled_flags (List.forall_mem_nil _)) showing_undisturbed
  have strange : ¬ ((∀ word ∈ exposed ["-x"], Textual word) ∧ heard ["-x"] ≠ none) :=
    fun both => option_textless (both.1 "-x" (by simp [exposed, Word.separatorText]))
  have course : Configured (shielded [] ["-x"]) showing _ Settings.standard middle tier := ⟨accepted, configured, inForce⟩
  obtain ⟨ending, after, ended, early⟩ := @shielded_early [] ["-x"] _ _ _ _ _ [] .nil .nil course strange
  refine ⟨showing_undisturbed, rfl, expanded, ?_, ending, after, ended, early⟩
  rintro ⟨_, returned, _⟩
  cases returned.symm.trans ended
  cases early

end TermStyle.Proofs.ShieldedText
