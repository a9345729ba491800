/-!
The environment variables that the program reads, by what they say. -/

namespace TermStyle.Variable

def forceColor : String := "FORCE_COLOR"
def noColor : String := "NO_COLOR"
def terminal : String := "TERM"
def colorTerminal : String := "COLORTERM"
def terminalProgram : String := "TERM_PROGRAM"
def terminalProgramVersion : String := "TERM_PROGRAM_VERSION"
def ci : String := "CI"
def ciName : String := "CI_NAME"
def teamcityVersion : String := "TEAMCITY_VERSION"

/-- A build agent of one provider defines both. -/
def azureMarkers : List String := ["TF_BUILD", "AGENT_NAME"]

def truecolorMarkers : List String := ["GITHUB_ACTIONS", "GITEA_ACTIONS"]

def basicMarkers : List String := ["TRAVIS", "CIRCLECI", "APPVEYOR", "GITLAB_CI", "BUILDKITE", "DRONE"]

def consoleHelper : String := "ANSICON"

def configPath : String := "HUECODE_CONFIG"
def configColor : String := "HUECODE_COLOR"
def configLevel : String := "HUECODE_LEVEL"
def configLogLevel : String := "HUECODE_LOG_LEVEL"

def home : String := "HOME"
def columns : String := "COLUMNS"

def all : List String :=
  [forceColor, noColor, terminal, colorTerminal, terminalProgram, terminalProgramVersion, ci, ciName, teamcityVersion] ++
    azureMarkers ++ truecolorMarkers ++ basicMarkers ++
    [consoleHelper, configPath, configColor, configLevel, configLogLevel, home, columns]

end TermStyle.Variable
