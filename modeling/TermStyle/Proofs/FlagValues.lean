import TermStyle.Proofs.WordRoles

/-! Where the values of a reading come from. Every word that counts as a flag counts as one of the grammar, so what
stands under a field was left there by a flag of the grammar, by an operand of it, or by its menu. The induction over the
words is done once, for anything that flags and operands keep of texts of some kind. -/

namespace TermStyle.Proofs.FlagValues
open CommandLine Reading ExceptSteps WordRoles

variable {grammar : Grammar} {menu : Option Menu} {given : String → Prop} {kept : String × Value → Prop} {state next : State}
  {flag : Flag}

/-- All that a reading may put under a field of texts like the given ones, and of the ends of such texts. -/
structure Admits (grammar : Grammar) (menu : Option Menu) (given : String → Prop) (kept : String × Value → Prop) : Prop where
  chosen : ∀ choice, menu = some choice → kept (choice.field, .null)
  unsaid : ∀ flag ∈ grammar.flags, kept (flag.field, flag.default)
  switched : ∀ flag ∈ grammar.flags, flag.effect = .switch → kept (flag.field, .bool true)
  separated : ∀ flag ∈ grammar.flags, ∀ kind mark, flag.effect = .store kind mark → kept (flag.field, .list [])
  read : ∀ flag ∈ grammar.flags, ∀ kind mark text value, flag.effect = .store kind mark → given text →
    kind.read text = .ok value → kept (flag.field, value)
  unfilled : ∀ operand ∈ grammar.operands, kept (operand.name, operand.default)
  filled : ∀ operand ∈ grammar.operands, ∀ taken, (∀ word ∈ taken, given word.text) →
    kept (operand.name, operand.value taken)
  ending : ∀ text value, given text → value.toList <:+ text.toList → given value

/-- What holds of a reading at every word. -/
structure Sound (grammar : Grammar) (given : String → Prop) (kept : String × Value → Prop) (state : State) : Prop where
  values : ∀ entry ∈ state.values, kept entry
  stretch : ∀ word ∈ state.stretch, given word.text
  unfilled : ∀ operand ∈ state.unfilled, operand ∈ grammar.operands
  waiting : ∀ flag kind, state.waiting = some (flag, kind) →
    flag ∈ grammar.flags ∧ ∃ mark, flag.effect = .store kind mark

section Operands

theorem take?_listed {operand : Operand} {stretch taken rest : List Word} (took : operand.take? stretch = some (taken, rest)) :
    taken ⊆ stretch ∧ rest ⊆ stretch := by
  unfold Operand.take? at took
  dsimp only at took
  rw [List.span_eq_takeWhile_dropWhile] at took
  have front (skips : Word → Bool) : stretch.takeWhile skips ⊆ stretch := (List.takeWhile_prefix _).subset
  have behind (skips : Word → Bool) : stretch.dropWhile skips ⊆ stretch := (List.dropWhile_suffix _).subset
  split at took
  · cases took
    exact ⟨List.Subset.refl _, List.nil_subset _⟩
  · cases took
  · cases took
    exact ⟨front _, List.nil_subset _⟩
  next argument later divided _ =>
    dsimp only at divided
    rw [List.span_eq_takeWhile_dropWhile] at took
    cases took
    have left : argument :: later ⊆ stretch := by
      rw [← divided]
      exact behind _
    obtain ⟨own, others⟩ := List.cons_subset.mp left
    refine ⟨List.append_subset.mpr ⟨front _, List.cons_subset.mpr ⟨own, ?_⟩⟩, ?_⟩
    · exact List.Subset.trans (List.takeWhile_prefix _).subset others
    · exact List.Subset.trans (List.dropWhile_suffix _).subset others

theorem offer_sound (operands : List Operand) (stretch : List Word) :
    (∀ entry ∈ (offer operands stretch).values, ∃ operand ∈ operands, ∃ taken, taken ⊆ stretch ∧
      entry = (operand.name, operand.value taken)) ∧
    ∀ operand ∈ (offer operands stretch).unfilled, operand ∈ operands := by
  induction operands generalizing stretch with
  | nil => simp [offer]
  | cons operand rest ih =>
    rw [offer]
    split
    · simp
    next taken left took =>
      obtain ⟨inside, behind⟩ := take?_listed took
      obtain ⟨values, unfilled⟩ := ih left
      constructor
      · intro entry listed
        rcases List.mem_cons.mp listed with rfl | later
        · exact ⟨operand, by simp, taken, inside, rfl⟩
        · obtain ⟨source, member, filling, within, filled⟩ := values entry later
          exact ⟨source, by simp [member], filling, List.Subset.trans within behind, filled⟩
      · exact fun source member => List.mem_cons_of_mem _ (unfilled source member)

theorem Sound.offered (admits : Admits grammar menu given kept) (sound : Sound grammar given kept state) :
    Sound grammar given kept state.offered := by
  obtain ⟨values, unfilled⟩ := offer_sound state.unfilled state.stretch
  refine ⟨?_, by simp [State.offered], fun operand member => sound.unfilled operand (unfilled operand member), sound.waiting⟩
  intro entry listed
  rcases List.mem_append.mp listed with offered | earlier
  · obtain ⟨operand, member, taken, within, rfl⟩ := values entry offered
    exact admits.filled operand (sound.unfilled operand member) taken fun word inside => sound.stretch word (within inside)
  · exact sound.values entry earlier

theorem Sound.flushed (admits : Admits grammar menu given kept) (sound : Sound grammar given kept state) :
    Sound grammar given kept state.flushed := by
  unfold State.flushed
  split
  · exact sound
  · exact sound.offered admits

end Operands

section Flags

theorem Sound.set (sound : Sound grammar given kept state) {field : String} {value : Value} (keeps : kept (field, value)) :
    Sound grammar given kept (state.set field value) := by
  refine ⟨?_, sound.stretch, sound.unfilled, sound.waiting⟩
  intro entry listed
  rcases List.mem_cons.mp listed with rfl | earlier
  · exact keeps
  · exact sound.values entry earlier

theorem store_sound (admits : Admits grammar menu given kept) (sound : Sound grammar given kept state)
    (member : flag ∈ grammar.flags) {kind : Kind} {mark text : String} (effect : flag.effect = .store kind mark)
    (known : given text) (stored : store state flag kind text = .ok next) : Sound grammar given kept next := by
  unfold store at stored
  split at stored
  · cases stored
    exact sound.set (admits.separated flag member kind mark effect)
  · split at stored
    next value read =>
      cases stored
      exact sound.set (admits.read flag member kind mark text value effect known read)
    · cases stored

theorem act_sound (admits : Admits grammar menu given kept) (sound : Sound grammar given kept state)
    (member : flag ∈ grammar.flags) (acted : act state flag = .ok next) : Sound grammar given kept next := by
  unfold act at acted
  split at acted
  · cases acted
  next effect =>
    cases acted
    exact sound.set (admits.switched flag member effect)
  next kind mark effect =>
    cases acted
    refine ⟨sound.values, sound.stretch, sound.unfilled, ?_⟩
    rintro _ _ ⟨⟩
    exact ⟨member, mark, effect⟩

theorem acts_sound (admits : Admits grammar menu given kept) (sound : Sound grammar given kept state) {flags : List Flag}
    (members : ∀ flag ∈ flags, flag ∈ grammar.flags) (acted : flags.foldlM act state = .ok next) :
    Sound grammar given kept next := by
  induction flags generalizing state with
  | nil =>
    cases acted
    exact sound
  | cons flag rest ih =>
    rw [List.foldlM_cons] at acted
    obtain ⟨middle, first, others⟩ := bind_ok_iff.mp acted
    have middleSound := act_sound admits sound (members flag (by simp)) first
    exact ih middleSound (fun later listed => members later (by simp [listed])) others

inductive Ends (flags : List Flag) : Reading.Tail → Prop
  | flag {last : Flag} (member : last ∈ flags) : Ends flags (.flag last)
  | value {last : Flag} {kind mark text} (member : last ∈ flags) (effect : last.effect = .store kind mark) :
      Ends flags (.value last kind text)

theorem cluster_mem {flags : List Flag} (member : flag ∈ flags) {short : Bool} {letters : List Char} {first : List Flag}
    {tail : Reading.Tail} (clustered : cluster flags flag short letters = .ok (first, tail)) :
    (∀ flag ∈ first, flag ∈ flags) ∧ Ends flags tail := by
  induction letters generalizing flag short first with
  | nil =>
    unfold cluster at clustered
    split at clustered
    next kind mark effect =>
      cases clustered
      exact ⟨by simp, .value member effect⟩
    · cases clustered
  | cons c rest ih =>
    unfold cluster at clustered
    split at clustered
    next kind mark effect =>
      cases clustered
      exact ⟨by simp, .value member effect⟩
    · split at clustered
      · cases clustered
      next following found =>
        have followingMember : following ∈ flags := by
          split at found
          · exact find?_mem found
          · cases found
        split at clustered
        · cases clustered
          exact ⟨by simpa using member, .flag followingMember⟩
        · obtain ⟨_, later, made⟩ := map_ok_iff.mp clustered
          cases made
          obtain ⟨members, ends⟩ := ih followingMember later
          refine ⟨?_, ends⟩
          intro listed inAll
          rcases List.mem_cons.mp inAll with rfl | inRest
          · exact member
          · exact members listed inRest

theorem cluster_ending {flags : List Flag} {short : Bool} {letters : List Char} {first : List Flag} {last : Flag} {kind : Kind}
    {text : String} (clustered : cluster flags flag short letters = .ok (first, .value last kind text)) : text.toList <:+ letters := by
  induction letters generalizing flag short first with
  | nil =>
    unfold cluster at clustered
    split at clustered
    · cases clustered
      exact List.nil_suffix
    · cases clustered
  | cons c rest ih =>
    unfold cluster at clustered
    split at clustered
    · cases clustered
      simp
    · split at clustered
      · cases clustered
      · split at clustered
        · cases clustered
        · obtain ⟨⟨_, _⟩, later, made⟩ := map_ok_iff.mp clustered
          cases made
          exact (ih later).trans (List.suffix_cons c rest)

theorem useFlag_sound (admits : Admits grammar menu given kept) (sound : Sound grammar given kept state)
    (member : flag ∈ grammar.flags) {name : String} {attached : Option String} (known : ∀ text, attached = some text → given text)
    (used : useFlag grammar.flags state flag name attached = .ok next) : Sound grammar given kept next := by
  cases attached with
  | none => exact act_sound admits sound member used
  | some text =>
    obtain ⟨⟨first, tail⟩, clustered, remaining⟩ := bind_ok_iff.mp used
    obtain ⟨middle, acted, finished⟩ := bind_ok_iff.mp remaining
    obtain ⟨members, ends⟩ := cluster_mem member clustered
    have middleSound := acts_sound admits sound members acted
    cases ends with
    | flag tailMember => exact act_sound admits middleSound tailMember finished
    | value tailMember effect =>
      have knownEnd := admits.ending _ _ (known text rfl) (cluster_ending clustered)
      exact store_sound admits middleSound tailMember effect knownEnd finished

end Flags

section Words

/-- What a walk that ends well does with a word. -/
inductive Takes (flags : List Flag) (hasMenu : Bool) (word : Word) (rest : List Word) (state : State)
    (result : State × List Word) : Prop
  | value {flag kind next} (awaited : state.waiting = some (flag, kind)) (role : word.role = .argument)
      (stored : store { state with waiting := none } flag kind word.text = .ok next)
      (walked : walk flags hasMenu rest next = .ok result)
  | unknown (free : state.waiting = none) (role : word.role = .unknown)
      (walked : walk flags hasMenu rest { state.flushed with extras := state.flushed.extras ++ [word.text] } = .ok result)
  | flag {flag name attached next} (free : state.waiting = none) (role : word.role = .flag flag name attached)
      (used : useFlag flags state.flushed flag name attached = .ok next) (walked : walk flags hasMenu rest next = .ok result)
  | command (free : state.waiting = none) (bare : word.role = .argument ∨ word.role = .separator) (given : hasMenu = true)
      (same : result = (state, word :: rest))
  | argument (free : state.waiting = none) (bare : word.role = .argument ∨ word.role = .separator)
      (alone : hasMenu = true → rest = [])
      (walked : walk flags hasMenu rest { state with stretch := state.stretch ++ [word] } = .ok result)

theorem walk_takes {flags : List Flag} {hasMenu : Bool} {word : Word} {rest : List Word} {result : State × List Word}
    (walked : walk flags hasMenu (word :: rest) state = .ok result) : Takes flags hasMenu word rest state result := by
  unfold walk at walked
  split at walked
  next flag kind awaited argument =>
    obtain ⟨middle, stored, further⟩ := bind_ok_iff.mp walked
    exact .value awaited argument stored further
  · cases walked
  next free role => exact .unknown free role walked
  next free role =>
    obtain ⟨middle, used, further⟩ := bind_ok_iff.mp walked
    exact .flag free role used further
  next free strange unnamed =>
    have bare : word.role = .argument ∨ word.role = .separator := by
      cases role : word.role with
      | argument => exact Or.inl rfl
      | separator => exact Or.inr rfl
      | unknown => exact absurd role strange
      | flag flag name attached => exact absurd role (unnamed flag name attached)
    rcases ite_eq_iff.mp walked with ⟨stops, stopped⟩ | ⟨goes, further⟩
    · cases stopped
      have given : hasMenu = true := (Bool.and_eq_true_iff.mp stops).1
      exact .command free bare given rfl
    · refine .argument free bare (fun given => ?_) further
      rcases bare with role | role
      · simp [given, role] at goes
      · simpa [given, role] using goes

/-- The induction is on the words; at each the reading is sound, and a command is handed back with given words alone. -/
theorem walk_sound (admits : Admits grammar menu given kept) (sound : Sound grammar given kept state) {hasMenu : Bool}
    {texts : List String} (known : ∀ text ∈ texts, given text) {words rest : List Word}
    (stands : ∀ word ∈ words, Stands grammar.flags texts word) (walked : walk grammar.flags hasMenu words state = .ok (next, rest)) :
    Sound grammar given kept next ∧ ∀ word ∈ rest, word.text ∈ texts := by
  induction words generalizing state with
  | nil =>
    unfold walk at walked
    split at walked
    · cases walked
    · cases walked
      exact ⟨sound.offered admits, by simp⟩
  | cons word words ih =>
    have others : ∀ word ∈ words, Stands grammar.flags texts word := fun later member => stands later (by simp [member])
    have own := stands word (by simp)
    have knownWord := known word.text own.listed
    cases walk_takes walked with
    | @value flag kind _ awaited _ stored further =>
      obtain ⟨member, mark, effect⟩ := sound.waiting flag kind awaited
      have free : Sound grammar given kept { state with waiting := none } :=
        ⟨sound.values, sound.stretch, sound.unfilled, nofun⟩
      exact ih (store_sound admits free member effect knownWord stored) others further
    | unknown _ _ further =>
      have flushed := sound.flushed admits
      have left : Sound grammar given kept { state.flushed with extras := state.flushed.extras ++ [word.text] } :=
        ⟨flushed.values, flushed.stretch, flushed.unfilled, flushed.waiting⟩
      exact ih left others further
    | @flag flag name attached _ _ role used further =>
      have member : flag ∈ grammar.flags := own.known flag name attached role
      have knownEnd : ∀ text, attached = some text → given text := by
        rintro text rfl
        exact admits.ending _ _ knownWord (own.attached flag name text role)
      exact ih (useFlag_sound admits (sound.flushed admits) member knownEnd used) others further
    | command _ _ _ same =>
      cases same
      exact ⟨sound, fun word member => (stands word member).listed⟩
    | argument _ _ _ further =>
      have longer : Sound grammar given kept { state with stretch := state.stretch ++ [word] } := by
        refine ⟨sound.values, fun found member => ?_, sound.unfilled, sound.waiting⟩
        rcases List.mem_append.mp member with earlier | last
        · exact sound.stretch found earlier
        · rw [List.mem_singleton.mp last]
          exact knownWord
      exact ih longer others further

theorem start_sound (admits : Admits grammar menu given kept) : Sound grammar given kept
    ⟨(menu.map fun menu => (menu.field, Value.null)).toList ++ grammar.defaults, [], grammar.operands, [], none⟩ := by
  refine ⟨?_, by simp, fun _ member => member, nofun⟩
  intro entry listed
  rcases List.mem_append.mp listed with chosen | default
  · obtain ⟨choice, said, rfl⟩ := Option.map_eq_some_iff.mp (Option.mem_toList.mp chosen)
    exact admits.chosen choice said
  · rcases List.mem_append.mp default with ofFlag | ofOperand
    · obtain ⟨flag, member, made⟩ := List.mem_filterMap.mp ofFlag
      split at made
      · cases made
      · cases made
        exact admits.unsaid flag member
    · obtain ⟨operand, member, rfl⟩ := List.mem_map.mp ofOperand
      exact admits.unfilled operand member

theorem reading_kept (admits : Admits grammar menu given kept) {texts : List String} (known : ∀ text ∈ texts, given text)
    {result : Reading.Result} (read : Reading.ofTexts grammar menu texts = .ok result) :
    (∀ entry ∈ result.values, kept entry) ∧ result.command ⊆ texts := by
  obtain ⟨words, worded, walking⟩ := bind_ok_iff.mp read
  obtain ⟨⟨final, command⟩, walked, checking⟩ := bind_ok_iff.mp walking
  obtain ⟨_, _, made⟩ := bind_ok_iff.mp checking
  cases made
  have stands := ofTexts_stands (mapError_ok_iff.mp worded)
  obtain ⟨sound, left⟩ := walk_sound admits (start_sound admits) known stands walked
  refine ⟨sound.values, fun text member => ?_⟩
  obtain ⟨word, inside, rfl⟩ := List.mem_map.mp member
  exact left word inside

theorem parse_ok_iff {tree : CommandLine.Tree} {texts : List String} {parsed : Parsed} :
    tree.parse texts = .ok parsed ↔ tree.read texts = .ok parsed ∧ parsed.extras = [] := by
  constructor
  · intro accepted
    obtain ⟨found, read, whole⟩ := bind_ok_iff.mp accepted
    split at whole
    next taken =>
      cases whole
      exact ⟨read, List.isEmpty_iff.mp taken⟩
    · cases whole
  · rintro ⟨read, taken⟩
    refine bind_ok_iff.mpr ⟨parsed, read, ?_⟩
    rw [taken]
    rfl

end Words

section Accounts

/-- A value that a flag can leave under its field. -/
inductive Leaves (flag : Flag) : Value → Prop
  | unsaid : Leaves flag flag.default
  | switched (effect : flag.effect = .switch) : Leaves flag (.bool true)
  | separated {kind mark} (effect : flag.effect = .store kind mark) : Leaves flag (.list [])
  | read {kind mark text value} (effect : flag.effect = .store kind mark) (read : kind.read text = .ok value) :
      Leaves flag value

inductive Accounted (grammar : Grammar) (menu : Option Menu) : String × Value → Prop
  | flag {flag value} (member : flag ∈ grammar.flags) (leaves : Leaves flag value) :
      Accounted grammar menu (flag.field, value)
  | operand {operand value} (member : operand ∈ grammar.operands)
      (filled : value = operand.default ∨ ∃ taken, value = operand.value taken) :
      Accounted grammar menu (operand.name, value)
  | menu {choice} (given : menu = some choice) : Accounted grammar menu (choice.field, .null)

theorem accounted_admits (grammar : Grammar) (menu : Option Menu) :
    Admits grammar menu (fun _ => True) (Accounted grammar menu) where
  chosen _ said := .menu said
  unsaid _ member := .flag member .unsaid
  switched _ member effect := .flag member (.switched effect)
  separated _ member _ _ effect := .flag member (.separated effect)
  read _ member _ _ _ _ effect _ read := .flag member (.read effect read)
  unfilled _ member := .operand member (Or.inl rfl)
  filled _ member taken _ := .operand member (Or.inr ⟨taken, rfl⟩)
  ending _ _ _ _ := trivial

theorem reading_accounted {texts : List String} {result : Reading.Result}
    (read : Reading.ofTexts grammar menu texts = .ok result) : ∀ entry ∈ result.values, Accounted grammar menu entry :=
  (reading_kept (accounted_admits grammar menu) (fun _ _ => trivial) read).1

/-- A grammar without commands leaves nothing but its own values. -/
theorem parse_accounted {texts : List String} {parsed : Parsed}
    (accepted : (CommandLine.Tree.node grammar none []).parse texts = .ok parsed) :
    ∀ entry ∈ parsed.values, Accounted grammar none entry := by
  obtain ⟨read, _⟩ := parse_ok_iff.mp accepted
  rw [CommandLine.Tree.read] at read
  split at read
  · cases read
  next result fine =>
    cases read
    exact reading_accounted fine

end Accounts

end TermStyle.Proofs.FlagValues
