import TermStyle.Proofs.RunCourse

/-! Command lines that name their command. The default command is put where a scan of the words sees the flags end. The scan
knows flags by their full names only, so a value that stands behind a shortened one can be taken for the command. -/

namespace TermStyle.Proofs.NamedCommand
open CommandLine Reading ActionRun FlagValues LeadingFlags RunCourse TwoReadings WordRoles

/-- A flag and its value of which the scan takes the flag alone: the name is shortened, and the value has no dash in front. -/
def Loose (words : List String) : Prop :=
  ∃ name value, words = [name, value] ∧ name ∉ DefaultCommand.valued ∧ value.startsWith "-" = false

/-- A run of flags of which none is loose. -/
inductive Tight : List String → Prop
  | nil : Tight []
  | cons {words rest entry} (said : Said wholeFlags words entry) (tight : ¬ Loose words) (more : Tight rest) : Tight (words ++ rest)

/-- The first loose flag of a command line has this value. -/
def Stranded (words : List String) (value : String) : Prop :=
  ∃ front name entry back, Tight front ∧ Said wholeFlags [name, value] entry ∧ Loose [name, value] ∧
    words = front ++ name :: value :: back

variable {words front back : List String} {text name value : String} {entry : String × Value}

theorem plays_isFlag {flag : Flag} {attached : Option String} {flags : List Flag}
    (plays : Plays flags text (.flag flag name attached)) : DefaultCommand.isFlag text = true := by
  have dashed : text.startsWith "-" = true := by
    by_contra bare
    obtain ⟨_, role⟩ := plays
    rw [Word.roleOf, Bool.eq_false_iff.mpr bare] at role
    cases role
  simp [DefaultCommand.isFlag, dashed, plays.1]

theorem valued_role (valued : text ∈ DefaultCommand.valued) :
    ∃ flag kind mark, Word.roleOf wholeFlags text = .ok (.flag flag text none) ∧ flag.effect = .store kind mark := by
  have dashed : ∀ text ∈ DefaultCommand.valued, text.startsWith "-" = true := by decide +kernel
  have known : ∃ flag kind mark, Grammar.find? wholeFlags text = some flag ∧ flag.effect = .store kind mark := by
    simp only [DefaultCommand.valued, List.mem_cons, List.not_mem_nil, or_false] at valued
    rcases valued with rfl | rfl | rfl <;> exact ⟨_, _, _, rfl, rfl⟩
  obtain ⟨flag, kind, mark, found, effect⟩ := known
  refine ⟨flag, kind, mark, ?_, effect⟩
  rw [Word.roleOf, dashed text valued, found]
  rfl

theorem split_step (isFlag : DefaultCommand.isFlag text = true) (plain : text ∉ DefaultCommand.valued) (rest : List String) :
    DefaultCommand.split (text :: rest) = (text :: (DefaultCommand.split rest).1, (DefaultCommand.split rest).2) := by
  rw [DefaultCommand.split.eq_def]
  simp [isFlag, plain]

theorem split_valued (valued : text ∈ DefaultCommand.valued) (value : String) (rest : List String) :
    DefaultCommand.split (text :: value :: rest) =
      (text :: value :: (DefaultCommand.split rest).1, (DefaultCommand.split rest).2) := by
  have isFlag : ∀ text ∈ DefaultCommand.valued, DefaultCommand.isFlag text = true := by decide +kernel
  rw [DefaultCommand.split.eq_def]
  simp [isFlag text valued, valued]

theorem split_unflagged (unflagged : DefaultCommand.isFlag text = false) (rest : List String) :
    DefaultCommand.split (text :: rest) = ([], text :: rest) := by
  rw [DefaultCommand.split.eq_def]
  simp [unflagged]

theorem undashed_unflagged (undashed : text.startsWith "-" = false) : DefaultCommand.isFlag text = false := by
  simp [DefaultCommand.isFlag, undashed]

theorem split_bare (undashed : text.startsWith "-" = false) (rest : List String) :
    DefaultCommand.split (text :: rest) = ([], text :: rest) := split_unflagged (undashed_unflagged undashed) rest

theorem split_said (said : Said wholeFlags words entry) (tight : ¬ Loose words) (rest : List String) :
    DefaultCommand.split (words ++ rest) = (words ++ (DefaultCommand.split rest).1, (DefaultCommand.split rest).2) := by
  cases said with
  | @switched text name flag role effect =>
    have plain : text ∉ DefaultCommand.valued := by
      intro valued
      obtain ⟨_, kind, mark, same, stores⟩ := valued_role valued
      rw [role.2] at same
      cases same
      rw [effect] at stores
      cases stores
    exact split_step (plays_isFlag role) plain rest
  | @attached text name flag kind mark behind value role effect kept =>
    have plain : text ∉ DefaultCommand.valued := by
      intro valued
      obtain ⟨_, kind, mark, same, _⟩ := valued_role valued
      rw [role.2] at same
      cases same
    exact split_step (plays_isFlag role) plain rest
  | @apart text name flag kind mark next value role effect bare kept =>
    by_cases valued : text ∈ DefaultCommand.valued
    · exact split_valued valued next rest
    have dashed : next.startsWith "-" = true := by
      by_contra undashed
      exact tight ⟨text, next, rfl, valued, Bool.eq_false_iff.mpr undashed⟩
    have isFlag : DefaultCommand.isFlag next = true := by simp [DefaultCommand.isFlag, dashed, bare.1]
    have plain : next ∉ DefaultCommand.valued := by
      intro valued
      obtain ⟨_, _, _, same, _⟩ := valued_role valued
      rw [bare.2] at same
      cases same
    change DefaultCommand.split (text :: next :: rest) = _
    rw [split_step (plays_isFlag role) valued, split_step isFlag plain]
    rfl

theorem split_tight (tight : Tight front) (back : List String) :
    DefaultCommand.split (front ++ back) = (front ++ (DefaultCommand.split back).1, (DefaultCommand.split back).2) := by
  induction tight with
  | nil => rfl
  | cons said tight _ ih => rw [List.append_assoc, split_said said tight, ih, List.append_assoc]

theorem Tight.leading (tight : Tight front) : ∃ entries, Leading wholeFlags front entries := by
  induction tight with
  | nil => exact ⟨[], .nil⟩
  | cons said _ _ ih =>
    obtain ⟨entries, leading⟩ := ih
    exact ⟨_, .cons said leading⟩

/-- Flags are tight up to the first that is not. -/
theorem tight_or_stranded {entries : List (String × Value)} (leading : Leading wholeFlags front entries) (back : List String) :
    Tight front ∨ ∃ value, Stranded (front ++ back) value := by
  induction leading with
  | nil => exact Or.inl .nil
  | @cons words rest entry _ said _ ih =>
    by_cases loose : Loose words
    · obtain ⟨name, value, rfl, _⟩ := id loose
      exact Or.inr ⟨value, [], name, entry, rest ++ back, .nil, said, loose, by simp⟩
    · rcases ih with tight | ⟨value, before, name, other, behind, tight, apart, found, same⟩
      · exact Or.inl (.cons said loose tight)
      · refine Or.inr ⟨value, words ++ before, name, other, behind, .cons said loose tight, apart, found, ?_⟩
        rw [List.append_assoc, same, List.append_assoc]

theorem insert_tight (tight : Tight front) (undashed : text.startsWith "-" = false) (rest : List String) :
    DefaultCommand.insert (front ++ text :: rest) = front ++ DefaultCommand.completed (text :: rest) := by
  simp [DefaultCommand.insert, split_tight tight, split_bare undashed]

/-- The flags that the first reading gets are those in front of the command. -/
theorem preliminaryWords_tight (tight : Tight front) (undashed : text.startsWith "-" = false) (rest : List String) :
    Perform.preliminaryWords (front ++ text :: rest) = front := by
  obtain ⟨entries, leading⟩ := tight.leading
  have split : (DefaultCommand.split (front ++ text :: rest)).1 = front := by
    simp [split_tight tight, split_bare undashed]
  rw [Perform.preliminaryWords, split]
  exact leading.helpless

theorem completed_named (listed : text ∈ Program.commandNames) (rest : List String) :
    DefaultCommand.completed (text :: rest) = text :: rest := by
  rw [DefaultCommand.completed, if_neg (command_undashed listed).2, if_pos (List.contains_iff_mem.mpr listed)]

theorem completed_unnamed (whole : text ≠ Word.separatorText) (unlisted : text ∉ Program.commandNames) (rest : List String) :
    DefaultCommand.completed (text :: rest) = DefaultCommand.name :: text :: rest := by
  rw [DefaultCommand.completed, if_neg whole, if_neg (by simpa using unlisted)]

theorem default_listed : "both" ∈ Program.commandNames := by decide

theorem default_undashed : DefaultCommand.name.startsWith "-" = false := (command_undashed default_listed).1

theorem preliminary_unfinished {entries : List (String × Value)} (leading : Leading Program.globalFlags front entries) {flag : Flag}
    {kind : Kind} {mark : String} (role : Plays Program.globalFlags text (.flag flag name none)) (effect : flag.effect = .store kind mark)
    (columns : Int) :
    (Program.preliminary columns).parse (front ++ [text]) =
      .error (.refusal (Program.preliminary columns) (complaint flag.title "expected one argument")) := by
  have idle := start_idle (Program.preliminary columns).grammar none
  have acted (state : State) : useFlag Program.globalFlags state flag name none = .ok { state with waiting := some (flag, kind) } := by
    simp only [useFlag, act, effect]
  have read : reading Program.globalFlags false (front ++ [text]) (start (Program.preliminary columns).grammar none) =
      .error (.refused (complaint flag.title "expected one argument")) := by
    rw [reading_leading leading idle, reading_cons role]
    simp only [Word.ofTexts, Except.mapError, walk_flag (idle.said entries) (acted _)]
    rfl
  have halted : Reading.ofTexts (Program.preliminary columns).grammar none (front ++ [text]) =
      .error (.refused (complaint flag.title "expected one argument")) := ofTexts_halted read
  change (CommandLine.Tree.node (Program.preliminary columns).grammar none []).parse _ = _
  rw [CommandLine.Tree.parse, CommandLine.Tree.read, halted]
  rfl

/-- The scan stops at the value of a loose flag, which is then without its value. -/
theorem stranded_refused (stranded : Stranded words value) :
    (DefaultCommand.insert words = words ↔ value ∈ Program.commandNames) ∧
    ∃ flag ∈ Program.globalFlags, ∀ columns, (Program.preliminary columns).parse
      (Perform.preliminaryWords (DefaultCommand.insert words)) =
        .error (.refusal (Program.preliminary columns) (complaint flag.title "expected one argument")) := by
  obtain ⟨front, name, entry, back, tight, said, ⟨_, _, ⟨⟩, unlisted, undashed⟩, rfl⟩ := stranded
  obtain ⟨entries, leading⟩ := tight.leading
  cases said with
  | @apart _ long flag kind mark _ left role effect bare kept =>
    have scan (next : String) (plain : next.startsWith "-" = false) (rest : List String) :
        DefaultCommand.split (front ++ name :: next :: rest) = (front ++ [name], next :: rest) := by
      simp [split_tight tight, split_step (plays_isFlag role) unlisted, split_bare plain]
    have inserted : DefaultCommand.insert (front ++ name :: value :: back) =
        front ++ name :: DefaultCommand.completed (value :: back) := by
      simp [DefaultCommand.insert, scan value undashed]
    have helpless : plain (front ++ [name]) = front ++ [name] := by
      have all := (leading.append (.cons (.apart role effect bare kept) .nil)).helpless
      refine List.filter_eq_self.mpr fun word member => List.filter_eq_self.mp all word ?_
      rcases List.mem_append.mp member with inFront | last
      · exact List.mem_append_left _ inFront
      · exact List.mem_append_right _ (by simp [List.mem_singleton.mp last])
    have words (next : String) (plain : next.startsWith "-" = false) (rest : List String) :
        Perform.preliminaryWords (front ++ name :: next :: rest) = front ++ [name] := by
      rw [Perform.preliminaryWords, scan next plain]
      exact helpless
    have global : Plays Program.globalFlags name (.flag flag long none) := role.shrunk (by simp [effect])
    have member : flag ∈ Program.globalFlags := (mem_named.mp (roleOf_named global.2)).1
    by_cases listed : value ∈ Program.commandNames
    · rw [inserted, completed_named listed]
      refine ⟨by simp [listed], flag, member, fun columns => ?_⟩
      rw [words value undashed]
      exact preliminary_unfinished leading.shrunk global effect columns
    · rw [inserted, completed_unnamed bare.1 listed]
      refine ⟨by simp [listed], flag, member, fun columns => ?_⟩
      rw [words _ default_undashed]
      exact preliminary_unfinished leading.shrunk global effect columns

theorem tight_unstranded (tight : Tight front) (listed : text ∈ Program.commandNames) (rest : List String) :
    ¬ Stranded (front ++ text :: rest) value := by
  intro stranded
  obtain ⟨_, _, _, refused⟩ := stranded_refused stranded
  obtain ⟨entries, leading⟩ := tight.leading
  have undashed := (command_undashed listed).1
  have accepted : (Program.preliminary 80).parse front = .ok ⟨[], entries.reverse ++ unsaid, []⟩ :=
    preliminary_ok_iff.mpr ⟨entries, leading.shrunk, rfl⟩
  have same := refused 80
  rw [insert_tight tight undashed, completed_named listed, preliminaryWords_tight tight undashed, accepted] at same
  cases same

variable {tier : Tier} {columns : Int} {full : Parsed}

/-- A command line that is accepted as it is and selects a command is left as it is, and its command is carried out with its
flags, unless the scan is misled by a loose flag. Then the line is changed, if the value that is taken for the command is none,
and either way the run ends with a complaint that the flag lacks its value. -/
theorem named_command_kept_iff (accepted : (Program.tree tier columns).parse words = .ok full) (selected : full.path ≠ []) :
    (DefaultCommand.insert words = words ↔ ∀ value, Stranded words value → value ∈ Program.commandNames) ∧
    ((∀ value, ¬ Stranded words value) → ∃ command, Command.ofParsed? full = some command ∧
      ∀ before, outcome (Perform.run words) before = outcome (carriedOut (.ofParsed full) command) before) ∧
    ∀ value, Stranded words value → ∀ before, ∃ flag ∈ Program.globalFlags, outcome (Perform.run words) before =
      outcome (Perform.stopped (.refusal (Program.preliminary (Program.columns before.world.env))
        (complaint flag.title "expected one argument"))) before := by
  obtain ⟨front, entries, name, back, found, selects, same⟩ := whole_selects accepted selected
  have listed := readBranch_listed selects.branch
  have undashed := (command_undashed listed).1
  have kept (tight : Tight front) : DefaultCommand.insert words = words := by
    rw [selects.whole, insert_tight tight undashed, completed_named listed]
  have tight_of (unstranded : ∀ value, ¬ Stranded words value) : Tight front := by
    rcases tight_or_stranded selects.leading (name :: back) with tight | ⟨value, stranded⟩
    · exact tight
    · exact absurd (selects.whole ▸ stranded) (unstranded value)
  refine ⟨⟨?_, ?_⟩, ?_, ?_⟩
  · exact fun unchanged value stranded => (stranded_refused stranded).1.mp unchanged
  · intro named
    by_cases misled : ∃ value, Stranded words value
    · obtain ⟨value, stranded⟩ := misled
      exact (stranded_refused stranded).1.mpr (named value stranded)
    · exact kept (tight_of fun value stranded => misled ⟨value, stranded⟩)
  · intro unstranded
    have tight := tight_of unstranded
    obtain ⟨command, asked⟩ := TreeShape.selected_command (parse_ok_iff.mp accepted).1 selected
    refine ⟨command, asked, fun before => ?_⟩
    have read : (Program.tree tier columns).parse (DefaultCommand.insert words) = .ok full := by rwa [kept tight]
    have first : (Program.preliminary (Program.columns before.world.env)).parse
        (Perform.preliminaryWords (DefaultCommand.insert words)) = .ok ⟨[], entries.reverse ++ unsaid, []⟩ := by
      rw [kept tight, selects.whole, preliminaryWords_tight tight undashed]
      exact preliminary_ok_iff.mpr ⟨entries, selects.leading.shrunk, rfl⟩
    exact run_carriedOut first read asked
  · intro value stranded before
    obtain ⟨_, flag, member, refused⟩ := stranded_refused stranded
    exact ⟨flag, member, run_refused (refused _)⟩

section Shortened

theorem guessed_long {flags : List Flag} {flag : Flag} (dashed : text.startsWith Word.separatorText = true)
    (whole : Word.atEquals text = (text, none))
    (only : (Word.named flags).filter (fun named => named.2.startsWith text) = [(flag, name)]) :
    Word.guessed flags text = .ok (.flag flag name none) := by
  have one : Word.candidates flags text = [⟨flag, name, none⟩] := by
    unfold Word.candidates
    rw [if_pos dashed, whole]
    have filtered : (Word.named flags).filterMap
        (fun named => if named.2.startsWith text then some (Word.Candidate.mk named.1 named.2 none) else none) =
        ((Word.named flags).filter fun named => named.2.startsWith text).map fun named => ⟨named.1, named.2, none⟩ := by
      rw [← List.filterMap_eq_map, List.filterMap_filter]
      rfl
    exact filtered.trans (by rw [only]; rfl)
  simp only [Word.guessed, one]

private theorem plays_long {flags : List Flag} {flag : Flag} (dashed : text.startsWith Word.separatorText = true)
    (plain : text.startsWith "-" = true) (unnamed : Grammar.find? flags text = none) (longer : (text.length == 1) = false)
    (other : text ≠ Word.separatorText) (whole : Word.atEquals text = (text, none))
    (only : (Word.named flags).filter (fun named => named.2.startsWith text) = [(flag, name)]) :
    Plays flags text (.flag flag name none) := by
  refine ⟨other, ?_⟩
  simp only [Word.roleOf, plain, unnamed, longer, whole, guessed_long dashed whole only]
  rfl

def shortened : List String := ["--lev", "1", "detect"]

private theorem shortened_level : Said wholeFlags ["--lev", "1"] ("level", .int 1) := by
  obtain ⟨flag, known⟩ : ∃ flag, Program.globalFlags.head? = some flag := ⟨_, rfl⟩
  have only : (Word.named wholeFlags).filter (fun named => named.2.startsWith "--lev") = [(flag, "--level")] := by
    cases known
    have own : "--level".startsWith "--lev" = true := by decide +kernel
    have others : ∀ name ∈ ["-h", "--help", "--no-color", "--config", "--log-level"], name.startsWith "--lev" = false := by
      decide +kernel
    simp [Word.named, wholeFlags, Program.helpFlag, Program.globalFlags, own, others, List.filter]
  have role : Plays wholeFlags "--lev" (.flag flag "--level" none) :=
    plays_long (by decide +kernel) (by decide +kernel) rfl (by decide +kernel) (by decide) (by decide +kernel) only
  cases known
  exact .apart role rfl (plays_undashed (by decide +kernel) _) (.read (by decide) rfl)

private theorem detect_read (tier : Tier) (columns : Int) : CommandLine.Tree.readBranch (Program.branches tier columns) "detect" [] =
    some (.ok ⟨[], [("explain", .bool false)], []⟩) := rfl

theorem shortened_level_misplaced :
    (∃ full, (Program.tree .none 80).parse shortened = .ok full ∧ full.path = ["detect"]) ∧
      DefaultCommand.insert shortened = ["--lev", "both", "1", "detect"] := by
  have selects : Selects .none 80 shortened ["--lev", "1"] [("level", .int 1)] "detect" [] ⟨[], [("explain", .bool false)], []⟩ :=
    ⟨rfl, .cons shortened_level .nil, ⟨[], rfl⟩, detect_read .none 80, rfl⟩
  refine ⟨⟨_, selects_whole selects, rfl⟩, ?_⟩
  have level : DefaultCommand.isFlag "--lev" = true := by decide +kernel
  have one : "1".startsWith "-" = false := by decide +kernel
  have scan : DefaultCommand.split shortened = (["--lev"], ["1", "detect"]) := by
    rw [shortened, split_step level (by decide), split_bare one]
  rw [DefaultCommand.insert, scan]
  rfl

/-- A file by a name that the scan takes for a flag, and the grammar for a number. -/
def negative : List String := ["--conf", "-7", "detect"]

private theorem negative_config : Said wholeFlags ["--conf", "-7"] ("config", .text "-7") := by
  obtain ⟨flag, known⟩ : ∃ flag, Program.globalFlags[2]? = some flag := ⟨_, rfl⟩
  have only : (Word.named wholeFlags).filter (fun named => named.2.startsWith "--conf") = [(flag, "--config")] := by
    cases known
    have own : "--config".startsWith "--conf" = true := by decide +kernel
    have others : ∀ name ∈ ["-h", "--help", "--level", "--no-color", "--log-level"], name.startsWith "--conf" = false := by
      decide +kernel
    simp [Word.named, wholeFlags, Program.helpFlag, Program.globalFlags, own, others, List.filter]
  have role : Plays wholeFlags "--conf" (.flag flag "--config" none) :=
    plays_long (by decide +kernel) (by decide +kernel) rfl (by decide +kernel) (by decide) (by decide +kernel) only
  have number : Plays wholeFlags "-7" .argument := by
    have dashed : "-7".startsWith "-" = true := by decide +kernel
    have none : Word.candidates wholeFlags "-7" = [] := List.isEmpty_iff.mp (by decide +kernel)
    have negative : Word.isNegative "-7" = true := by decide +kernel
    refine ⟨by decide, ?_⟩
    simp only [Word.roleOf, dashed, Word.guessed, none, negative]
    rfl
  cases known
  exact .apart role rfl number (.read (by decide) rfl)

theorem named_command_kept_iff_negative : ∃ full, (Program.tree .none 80).parse negative = .ok full ∧ full.path ≠ [] ∧
    DefaultCommand.insert negative = negative ∧
    ∀ before, outcome (Perform.run negative) before = outcome (carriedOut (.ofParsed full) (.detect false)) before := by
  have selects : Selects .none 80 negative ["--conf", "-7"] [("config", .text "-7")] "detect" [] ⟨[], [("explain", .bool false)], []⟩ :=
    ⟨rfl, .cons negative_config .nil, ⟨[], rfl⟩, detect_read .none 80, rfl⟩
  have tight : ¬ Loose ["--conf", "-7"] := by
    rintro ⟨_, _, ⟨⟩, _, undashed⟩
    revert undashed
    decide +kernel
  have unstranded (value : String) : ¬ Stranded negative value :=
    tight_unstranded (.cons negative_config tight .nil) (by decide) []
  have selected : (selection [("config", .text "-7")] "detect" ⟨[], [("explain", .bool false)], []⟩).path ≠ [] := nofun
  obtain ⟨kept, carried, _⟩ := named_command_kept_iff (selects_whole selects) selected
  obtain ⟨_, ⟨⟩, run⟩ := carried unstranded
  exact ⟨_, selects_whole selects, selected, kept.mpr fun value stranded => absurd stranded (unstranded value), run⟩

end Shortened

end TermStyle.Proofs.NamedCommand
