import TermStyle.CommandLine.Reading
import TermStyle.Environment
import TermStyle.Settings
import TermStyle.Variable

/-!
The command line of the program: its flags, its commands, and what a reading of it asks for. The help is
styled for the tier in force, so the grammar depends on it. -/

namespace TermStyle.CommandLine
open Text

structure Globals where
  level : Value
  noColor : Bool
  config : Option String
  logLevel : Option String

inductive Command
  | both (text : String) (attributes : List String)
  | format (template : String)
  | apply (text : String) (attributes : List String)
  | detect (explain : Bool)
  | attributes
  | showSettings
  | initSettings (path : String) (mode level : Value) (force : Bool)

namespace Program

def name : String := "huecode"

def levels : List Int := [0, 1, 2, 3]

def marked (choices : List String) : String := "\x7b" ++ ",".intercalate choices ++ "\x7d"

def levelEffect : Effect := .store (.number levels) (marked (levels.map toString))

def helpFlag : Flag := ⟨["-h", "--help"], "help", .help, .null, some "show this help message and exit"⟩

def globalFlags : List Flag := [
  ⟨["--level"], "level", levelEffect, .null,
    some "Force a support tier: 0 none, 1 basic, 2 256-color, 3 truecolor"⟩,
  ⟨["--no-color"], "no_color", .switch, .bool false, some "Disable all styling (same as --level 0)"⟩,
  ⟨["--config"], "config", .store .text "PATH", .null, some "Path to a YAML config file"⟩,
  ⟨["--log-level"], "log_level", .store (.capitals Settings.logLevels) (marked Settings.logLevels), .null,
    some "Logging level for diagnostics on stderr"⟩]

def standardColumns : Int := 80

def columns (env : Environment) : Int :=
  match Numeral.read ((env.get? Variable.columns).getD "") with
  | .ok columns => if 0 < columns then columns else standardColumns
  | .error _ => standardColumns

/-- The grammar of what stands before the command. It has no help. -/
def preliminary (columns : Int) : Tree :=
  .node ⟨name, .plain columns, "", none, globalFlags, []⟩ none []

def defaultFile : String := "huecode.yml"

def attributesOperand (help : String) : Operand := ⟨"attributes", .many, .null, help⟩

def examples (tier : Tier) : String := Emphasis.subheader "EXAMPLES:" tier

/-- Joins the lines of a description, which starts and ends on lines of its own. -/
def described (lines : List String) : String := "\n" ++ "\n".intercalate lines ++ "\n        "

def command (tier : Tier) (name summary description : String) (flags : List Flag) (operands : List Operand) : Grammar :=
  ⟨Program.name ++ " " ++ name, .rich tier, summary, some description, helpFlag :: flags, operands⟩

def leaf (grammar : Grammar) : Tree := .node grammar none []

def bothTree (tier : Tier) : Tree :=
  leaf (command tier "both" "Expand %\x7b...\x7d placeholders and apply attributes (default)"
    (described [
      "Expand %\x7b...\x7d placeholders in TEXT, then apply ATTRIBUTES to the whole of it.",
      "This is what runs when the first argument is not a command.",
      "",
      examples tier,
      "  " ++ Emphasis.sample "# Bold red warning" tier,
      "  huecode \"warning: disk almost full\" bold red",
      "",
      "  " ++ Emphasis.sample "# Mix placeholders and attributes" tier,
      "  huecode \"%\x7bgreen\x7dok%\x7breset\x7d all checks passed\" underline"])
    [] [⟨"text", .one, .null, "Text or format template"⟩, attributesOperand "Attribute directives, e.g. bold hex:#ff8800"])

def formatTree (tier : Tier) : Tree :=
  leaf (command tier "format" "Expand %\x7b...\x7d placeholders"
    (described [
      "Replace each %\x7b...\x7d placeholder with the escape sequence for its directives.",
      "",
      examples tier,
      "  huecode format \"%\x7bbold\x7dbuild%\x7breset\x7d %\x7bgreen\x7dpassed\"",
      "  huecode format \"%\x7brgb:255,136,0 bg-color256:236\x7dorange on grey\""])
    [] [⟨"template", .one, .null, "Format template"⟩])

def applyTree (tier : Tier) : Tree :=
  leaf (command tier "apply" "Apply attributes to text"
    (described [
      "Prefix TEXT with the escape sequence for ATTRIBUTES and reset afterwards.",
      "Placeholders in TEXT are left alone.",
      "",
      examples tier,
      "  huecode apply \"deploy finished\" bold green"])
    [] [⟨"text", .one, .null, "Text to style"⟩, attributesOperand "Attribute directives"])

def detectTree (tier : Tier) : Tree :=
  leaf (command tier "detect" "Show the detected color support tier"
    (described [
      "Print the color support tier: 0 none, 1 basic, 2 256-color, 3 truecolor.",
      "The tier in effect can differ from the detected one when --level, --no-color",
      "or a config file overrides it."])
    [⟨["--explain"], "explain", .switch, .bool false, some "Also show the rule that decided the tier"⟩] [])

def attributesTree (tier : Tier) : Tree :=
  leaf (command tier "attributes" "List available attributes"
    "List every attribute name with the tier it needs and a preview." [] [])

def settingsCommand (columns : Int) (name summary : String) (flags : List Flag) (operands : List Operand) : Grammar :=
  ⟨Program.name ++ " config " ++ name, .plain columns, summary, none, helpFlag :: flags, operands⟩

def showTree (columns : Int) : Tree := leaf (settingsCommand columns "show" "Show current configuration" [] [])

def initTree (columns : Int) : Tree :=
  leaf (settingsCommand columns "init" "Initialize configuration file"
    [⟨["--color-mode"], "color_mode", .store (.word Settings.colorModes) (marked Settings.colorModes),
        .text Settings.automatic, none⟩,
      ⟨["--level"], "init_level", levelEffect, .null, none⟩,
      ⟨["--force"], "force", .switch, .bool false, some "Overwrite existing config file"⟩]
    [⟨"config_path", .optional, .text defaultFile, "Path for new config file"⟩])

def settingsTree (tier : Tier) (columns : Int) : Tree :=
  .node
    (command tier "config" "Show or create configuration"
      (described [
        "Show the effective configuration or write a new YAML config file.",
        "",
        Emphasis.subheader "SOURCES (later wins):" tier,
        "  • huecode.yml, .huecode.yml, ~/.config/huecode/config.yml or $HUECODE_CONFIG",
        "  • HUECODE_COLOR, HUECODE_LEVEL, HUECODE_LOG_LEVEL",
        "  • --config, --level, --no-color, --log-level",
        "",
        examples tier,
        "  " ++ Emphasis.sample "# Show what is in effect" tier,
        "  huecode config show",
        "",
        "  " ++ Emphasis.sample "# Always use basic colors, even when not detected" tier,
        "  huecode config init --color-mode always"])
      [] [])
    (some ⟨"config_command", "\x7bshow,init\x7d", none⟩)
    [("show", showTree columns), ("init", initTree columns)]

def branches (tier : Tier) (columns : Int) : List (String × Tree) := [
  ("both", bothTree tier), ("format", formatTree tier), ("apply", applyTree tier), ("detect", detectTree tier),
  ("attributes", attributesTree tier), ("config", settingsTree tier columns)]

def commandNames : List String := ["both", "format", "apply", "detect", "attributes", "config"]

def description (tier : Tier) : String :=
  described [
    "Style text with ANSI escape sequences suited to the current terminal.",
    "",
    Emphasis.subheader "ATTRIBUTES:" tier,
    "  bold dim italic underline blink reverse hidden strike reset",
    "  red green ... white default, bg-red ..., bright-red ..., bg-bright-red ...",
    "  color256:N  rgb:R,G,B  hex:#RRGGBB  (and bg- variants)",
    "",
    examples tier,
    "  " ++ Emphasis.sample "# Default mode: placeholders and attributes" tier,
    "  huecode \"%\x7bbold\x7dnote:%\x7breset\x7d cache rebuilt\" cyan",
    "",
    "  " ++ Emphasis.sample "# What does this terminal support?" tier,
    "  huecode detect --explain"]

def tree (tier : Tier) (columns : Int) : Tree :=
  .node ⟨name, .rich tier, "", some (description tier), helpFlag :: globalFlags, []⟩
    (some ⟨"command", marked commandNames, some "Available commands"⟩) (branches tier columns)

end Program

namespace Globals

def ofParsed (parsed : Parsed) : Globals :=
  ⟨parsed.get "level", parsed.isSet "no_color", parsed.text? "config", parsed.text? "log_level"⟩

end Globals

namespace Command

def ofParsed? (parsed : Parsed) : Option Command :=
  let text := fun field => (parsed.text? field).getD ""
  match parsed.path with
  | ["both"] => some (.both (text "text") (parsed.texts "attributes"))
  | ["format"] => some (.format (text "template"))
  | ["apply"] => some (.apply (text "text") (parsed.texts "attributes"))
  | ["detect"] => some (.detect (parsed.isSet "explain"))
  | ["attributes"] => some .attributes
  | ["config"] | ["config", "show"] => some .showSettings
  | ["config", "init"] =>
    some (.initSettings (text "config_path") (parsed.get "color_mode") (parsed.get "init_level") (parsed.isSet "force"))
  | _ => none

end Command
end TermStyle.CommandLine
