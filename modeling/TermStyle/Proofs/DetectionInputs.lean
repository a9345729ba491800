import TermStyle.Proofs.DetectionOutcome

/-! What detection looks at. Every rule has a few inputs: the value of a variable, or only whether it is defined or filled,
the floor, and the facts of the platform. Contexts with the same inputs get the same answers, so that what else an
environment holds has no part in what is found. -/

namespace TermStyle.Proofs.DetectionInputs
open Detection DetectionOutcome

/-- One thing that a rule may look at. -/
inductive Input
  | value (name : String)
  | defined (name : String)
  | filled (name : String)
  | floor
  | platform
  deriving DecidableEq

namespace Input

/-- The input does not tell the contexts apart. A version is only looked at where there is one to speak of. -/
def Same (one other : Context) : Input → Prop
  | value name => one.env.get? name = other.env.get? name
  | defined name => one.env.isDefined name = other.env.isDefined name
  | filled name => one.env.isFilled name = other.env.isFilled name
  | floor => one.floor = other.floor
  | platform => one.onWindows = other.onWindows ∧ (one.onWindows = true → one.version = other.version)

def name? : Input → Option String
  | value name | defined name | filled name => some name
  | floor | platform => none

end Input

def inputs : Rule → List Input
  | .noColor => [.filled Variable.noColor]
  | .azurePipelines => Variable.azureMarkers.map .defined
  | .dumbTerminal => [.value Variable.terminal, .floor]
  | .windowsBuild => [.platform]
  | .ci => .defined Variable.ci :: .value Variable.ciName :: (Variable.truecolorMarkers ++ Variable.basicMarkers).map .defined
  | .teamcity => [.value Variable.teamcityVersion]
  | .colortermTruecolor => [.value Variable.colorTerminal]
  | .kitty | .term256 | .termBasic => [.value Variable.terminal]
  | .termProgram => [.value Variable.terminalProgram, .value Variable.terminalProgramVersion]
  | .colortermAny => [.filled Variable.colorTerminal]

section Contexts

variable {one other : Context}

theorem markers_congr {names : List String} (same : ∀ name ∈ names, (Input.defined name).Same one other) :
    names.any one.env.isDefined = names.any other.env.isDefined ∧
      names.all one.env.isDefined = names.all other.env.isDefined := by
  have marks : names.map one.env.isDefined = names.map other.env.isDefined := List.map_congr_left same
  constructor
  · simpa only [List.any_map, Function.id_comp] using congrArg (List.any · id) marks
  · simpa only [List.all_map, Function.id_comp] using congrArg (List.all · id) marks

theorem term_congr (same : (Input.value Variable.terminal).Same one other) : one.term = other.term := by
  rw [Context.term, same, Context.term]

/-- What a rule answers depends on its inputs alone. -/
theorem tier?_congr {rule : Rule} (same : ∀ input ∈ inputs rule, input.Same one other) :
    rule.tier? one = rule.tier? other := by
  cases rule with
  | noColor | colortermAny =>
    have filled := same (.filled _) (List.mem_singleton_self _)
    rw [Rule.tier?, filled, Rule.tier?]
  | azurePipelines =>
    have marked := markers_congr (List.forall_mem_map.mp same)
    rw [Rule.tier?, marked.2, Rule.tier?]
  | dumbTerminal =>
    have term := term_congr (same _ (List.mem_cons_self))
    have floor : one.floor = other.floor := same .floor (by simp [inputs])
    rw [Rule.tier?, term, floor, Rule.tier?]
  | windowsBuild =>
    obtain ⟨onWindows, version⟩ := same .platform (List.mem_singleton_self _)
    rw [Rule.tier?, Rule.tier?, ← onWindows]
    by_cases windows : one.onWindows = true
    · rw [version windows]
    · rw [if_neg windows, if_neg windows]
  | ci =>
    have here : one.env.isDefined Variable.ci = other.env.isDefined Variable.ci := same (.defined _) (by simp [inputs])
    have named : one.env.get? Variable.ciName = other.env.get? Variable.ciName := same (.value _) (by simp [inputs])
    have markers : ∀ name ∈ Variable.truecolorMarkers ++ Variable.basicMarkers, (Input.defined name).Same one other := by
      intro name member
      apply same
      exact List.mem_cons_of_mem _ (List.mem_cons_of_mem _ (List.mem_map_of_mem member))
    have truecolor := markers_congr fun name member => markers name (List.mem_append_left _ member)
    have basic := markers_congr fun name member => markers name (List.mem_append_right _ member)
    rw [Rule.tier?, Rule.tier?, ciTier?, ciTier?, here, truecolor.1, basic.1, named]
  | teamcity | colortermTruecolor =>
    have value := same (.value _) (List.mem_singleton_self _)
    rw [Rule.tier?, value, Rule.tier?]
  | kitty | term256 | termBasic =>
    have term := term_congr (same _ (List.mem_singleton_self _))
    rw [Rule.tier?, term, Rule.tier?]
  | termProgram =>
    have program := same (.value Variable.terminalProgram) (by simp [inputs])
    have version := same (.value Variable.terminalProgramVersion) (by simp [inputs])
    rw [Rule.tier?, program, version, Rule.tier?]

theorem walk_congr (floor : one.floor = other.floor) {rules : List Rule}
    (same : ∀ rule ∈ rules, ∀ input ∈ inputs rule, input.Same one other) : walk one rules = walk other rules := by
  induction rules with
  | nil => rw [walk, walk, floor]
  | cons rule rest ih =>
    have answer := tier?_congr (same rule List.mem_cons_self)
    have behind := ih fun later member => same later (List.mem_cons_of_mem _ member)
    rw [walk, walk, answer, behind]

end Contexts

def markers : List String := ["TF_BUILD", "AGENT_NAME", "CI", "GITHUB_ACTIONS", "GITEA_ACTIONS", "TRAVIS", "CIRCLECI",
  "APPVEYOR", "GITLAB_CI", "BUILDKITE", "DRONE"]

def readings : List String :=
  ["FORCE_COLOR", "TERM", "CI_NAME", "TEAMCITY_VERSION", "COLORTERM", "TERM_PROGRAM", "TERM_PROGRAM_VERSION"]

/-- The environments look alike in all that detection is said to depend on. -/
structure Alike (one other : Environment) : Prop where
  defined : ∀ name ∈ markers, one.isDefined name = other.isDefined name
  filled : one.isFilled "NO_COLOR" = other.isFilled "NO_COLOR"
  value : ∀ name ∈ readings, one.get? name = other.get? name

/-- Everything that some rule looks at. -/
def documented : List Input :=
  markers.map .defined ++ .filled "NO_COLOR" :: .filled "COLORTERM" :: .floor :: .platform :: readings.map .value

theorem inputs_documented (rule : Rule) : inputs rule ⊆ documented := by
  cases rule <;> decide

section Environments

variable {one other : Environment}

theorem forcedFloor_congr (same : one.get? Variable.forceColor = other.get? Variable.forceColor) :
    forcedFloor one = forcedFloor other := by
  rw [forcedFloor, forcedFloor, Environment.filled?, Environment.filled?, same]

theorem Alike.same (alike : Alike one other) {onWindows : Bool} {version otherVersion : Option Version}
    (versions : onWindows = true → version = otherVersion) :
    ∀ input ∈ documented,
      input.Same (.ofEnvironment one onWindows version) (.ofEnvironment other onWindows otherVersion) := by
  intro input listed
  rw [documented, List.mem_append] at listed
  rcases listed with marker | listed
  · obtain ⟨name, member, rfl⟩ := List.mem_map.mp marker
    exact alike.defined name member
  · simp only [List.mem_cons, List.mem_map] at listed
    rcases listed with rfl | rfl | rfl | rfl | ⟨name, member, rfl⟩
    · exact alike.filled
    · have value := alike.value "COLORTERM" (by decide)
      change one.isFilled "COLORTERM" = other.isFilled "COLORTERM"
      rw [Environment.isFilled, Environment.isFilled, Environment.filled?, Environment.filled?, value]
    · exact forcedFloor_congr (alike.value _ (by decide))
    · exact ⟨rfl, versions⟩
    · exact alike.value name member

end Environments

/-- Detection comes to the same in environments that look alike: the same tier by the same rule, or the same failure. Of
the markers it is only looked at whether they are defined, and of the variable that takes colours away whether it is
filled. Off the one platform that has versions, the version plays no part either. -/
theorem documented_inputs_decide {one other : Environment} (alike : Alike one other) (onWindows : Bool)
    {version otherVersion : Option Version} (versions : onWindows = true → version = otherVersion) :
    explain one onWindows version = explain other onWindows otherVersion := by
  have same := alike.same versions
  have floor := same .floor (by decide)
  have found : evaluate (.ofEnvironment one onWindows version) = evaluate (.ofEnvironment other onWindows otherVersion) := by
    apply walk_congr floor
    intro rule _ input member
    exact same input (inputs_documented rule member)
  rw [explain, found, explain]

def terse : Environment := ⟨[("CI", ""), ("DRONE", ""), ("TERM", "dumb0")]⟩

/-- A terse build with markers that say something, and with more around them. -/
def chatty : Environment := ⟨[("PATH", "/bin"), ("TERM", "dumb0"), ("DRONE", "true"), ("NO_COLOR", ""), ("CI", "drone")]⟩

theorem documented_inputs_decide_chatty :
    Alike terse chatty ∧ explain terse false none = explain chatty false (some ⟨10, 0, 19045⟩) ∧
      (explain terse false none).value = .ok ⟨.basic, some .ci⟩ := by
  have alike : Alike terse chatty := ⟨by decide, by decide, by decide⟩
  exact ⟨alike, documented_inputs_decide alike false (fun windows => absurd windows (by decide)), by rfl⟩

end TermStyle.Proofs.DetectionInputs
