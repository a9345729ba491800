import TermStyle.Environment
import TermStyle.Log.Record
import TermStyle.Tier
import TermStyle.Variable
import TermStyle.Version

/-!
Finding out what the terminal supports. Rules are asked in order of priority; the first with an answer
decides, and the floor that the environment asks for decides where none has one. Every rule looks only at
the context it is given. -/

namespace TermStyle.Detection
open Text

def logger : String := "huecode.detect"

structure Context where
  env : Environment
  floor : Int
  onWindows : Bool
  version : Option Version
  deriving DecidableEq, Repr

/-- The least tier the environment asks for: what is not a number asks for basic colours. -/
def forcedFloor (env : Environment) : Int :=
  match env.filled? Variable.forceColor with
  | none => 0
  | some text => match Numeral.read (Blank.strip text) with
    | .ok level => (Tier.clamp level).level
    | .error _ => 1

def Context.ofEnvironment (env : Environment) (onWindows : Bool) (version : Option Version) : Context :=
  ⟨env, forcedFloor env, onWindows, version⟩

def Context.term (context : Context) : String := (context.env.get? Variable.terminal).getD ""

inductive Rule
  | noColor
  | azurePipelines
  | dumbTerminal
  | windowsBuild
  | ci
  | teamcity
  | colortermTruecolor
  | kitty
  | termProgram
  | term256
  | termBasic
  | colortermAny
  deriving DecidableEq, Repr

namespace Rule

def all : List Rule := [
  .noColor, .azurePipelines, .dumbTerminal, .windowsBuild, .ci, .teamcity,
  .colortermTruecolor, .kitty, .termProgram, .term256, .termBasic, .colortermAny]

def name : Rule → String
  | .noColor => "no_color"
  | .azurePipelines => "azure_pipelines"
  | .dumbTerminal => "dumb_terminal"
  | .windowsBuild => "windows_build"
  | .ci => "ci"
  | .teamcity => "teamcity"
  | .colortermTruecolor => "colorterm_truecolor"
  | .kitty => "kitty"
  | .termProgram => "term_program"
  | .term256 => "term_256"
  | .termBasic => "term_basic"
  | .colortermAny => "colorterm_any"

end Rule

def answerIf (condition : Bool) (tier : Int) : Option Int := if condition then some tier else none

/-- The console of later builds understands control sequences. -/
def vtBuild : Int := 10586

/-- The first build whose console shows all colours. -/
def truecolorBuild : Int := 14931

def windowsTier? (version : Version) : Option Int :=
  if version.major ≥ 10 ∧ version.build > vtBuild then some (if version.build ≥ truecolorBuild then 3 else 2)
  else none

def codeshipName : String := "codeship"

def ciTier? (env : Environment) : Option Int :=
  if !env.isDefined Variable.ci then none
  else if Variable.truecolorMarkers.any env.isDefined then some 3
  else if Variable.basicMarkers.any env.isDefined then some 1
  else answerIf (env.get? Variable.ciName == some codeshipName) 1

/-- Release nine, with a minor number that is written in basic digits at least up to the first that is
not zero, and is not all zeros. -/
def isNinth : List Char → Bool
  | '9' :: '.' :: rest =>
    match rest.dropWhile (· == '0') with
    | [] => false
    | c :: more => '1' ≤ c && c ≤ '9' && (more.dropWhile Digit.isDigit).head? == some '.'
  | _ => false

/-- Two digits with a point behind them, anywhere. -/
def hasLongNumber : List Char → Bool
  | first :: second :: point :: rest =>
    (Digit.isDigit first && Digit.isDigit second && point == '.') || hasLongNumber (second :: point :: rest)
  | _ => false

def teamcityTier (version : String) : Int :=
  if isNinth version.toList || hasLongNumber version.toList then 1 else 0

def leadingNumber (text : String) : Except Numeral.Error Int :=
  let digits := text.toList.takeWhile Digit.isDigit
  if digits.isEmpty then .ok 0 else Numeral.read (.ofList digits)

def itermName : String := "iTerm.app"
def appleName : String := "Apple_Terminal"

/-- The first release of one program that shows all colours. -/
def itermTruecolorMajor : Int := 3

def programTier? (program : String) (major : Int) : Option Int :=
  if program = itermName then some (if major ≥ itermTruecolorMajor then 3 else 2)
  else answerIf (program == appleName) 2

def basicPrefixes : List String := ["screen", "xterm", "vt100", "vt220", "rxvt"]
def basicParts : List String := ["color", "ansi", "cygwin", "linux"]

def contains (part : List Char) : List Char → Bool
  | [] => part.isEmpty
  | c :: rest => part.isPrefixOf (c :: rest) || contains part rest

def isBasic (term : String) : Bool :=
  basicPrefixes.any (·.toList.isPrefixOf term.toList) || basicParts.any fun part => contains part.toList term.toList

def endings256 : List String := ["-256", "-256color"]

def is256 (term : String) : Bool :=
  endings256.any fun ending => ending.toList.isSuffixOf term.toList

def dumbName : String := "dumb"
def kittyName : String := "xterm-kitty"
def truecolorName : String := "truecolor"

/-- The answer of a rule by itself. Converting an overlong number fails. -/
def Rule.tier? (rule : Rule) (context : Context) : Except Numeral.Error (Option Int) :=
  let env := context.env
  match rule with
  | .noColor => .ok (answerIf (env.isFilled Variable.noColor) 0)
  | .azurePipelines => .ok (answerIf (Variable.azureMarkers.all env.isDefined) 1)
  | .dumbTerminal => .ok (answerIf (context.term == dumbName) context.floor)
  | .windowsBuild => .ok (if context.onWindows then context.version.bind windowsTier? else none)
  | .ci => .ok (ciTier? env)
  | .teamcity => .ok ((env.get? Variable.teamcityVersion).map teamcityTier)
  | .colortermTruecolor => .ok (answerIf (env.get? Variable.colorTerminal == some truecolorName) 3)
  | .kitty => .ok (answerIf (context.term == kittyName) 3)
  | .termProgram =>
    match env.get? Variable.terminalProgram with
    | none => .ok none
    | some program => do
      return programTier? program (← leadingNumber ((env.get? Variable.terminalProgramVersion).getD ""))
  | .term256 => .ok (answerIf (is256 context.term) 2)
  | .termBasic => .ok (answerIf (isBasic context.term) 1)
  | .colortermAny => .ok (answerIf (env.isFilled Variable.colorTerminal) 1)

/-- The tier found and the rule that decided; no rule where the floor did. -/
structure Finding where
  tier : Tier
  rule : Option Rule
  deriving DecidableEq, Repr

def Finding.ruleName (finding : Finding) : String := (finding.rule.map Rule.name).getD "fallback"

def walk (context : Context) : List Rule → Except Fault Finding
  | [] => do return ⟨← Tier.ofLevel context.floor, none⟩
  | rule :: rest =>
    match rule.tier? context with
    | .error error => .error (.numeral error)
    | .ok (some level) => do return ⟨← Tier.ofLevel level, some rule⟩
    | .ok none => walk context rest

def evaluate (context : Context) : Except Fault Finding := walk context Rule.all

def remark (finding : Finding) : Log.Record :=
  .debug logger s!"Color support tier {finding.tier.level} (rule: {finding.ruleName})"

/-- Detects from an environment and the facts of the platform; a success leaves a debug record. -/
def explain (env : Environment) (onWindows : Bool) (version : Option Version) : Log.Noted (Except Fault Finding) :=
  match evaluate (.ofEnvironment env onWindows version) with
  | .ok finding => ⟨.ok finding, [remark finding]⟩
  | .error fault => ⟨.error fault, []⟩

def detect (env : Environment) (onWindows : Bool) (version : Option Version) : Log.Noted (Except Fault Tier) :=
  let result := explain env onWindows version
  ⟨result.value.map (·.tier), result.records⟩

end TermStyle.Detection
