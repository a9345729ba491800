import TermStyle.CommandLine.Program

/-!
The command that runs when none is named. It is put where the first word stands that is neither a global
flag nor the value of one. -/

namespace TermStyle.CommandLine.DefaultCommand

def name : String := "both"

def valued : List String := ["--level", "--config", "--log-level"]

def isFlag (word : String) : Bool := word != Word.separatorText && word.startsWith "-"

/-- The global flags at the head of a command line with their values, and the rest. -/
def split : List String → List String × List String
  | [] => ([], [])
  | word :: rest =>
    if !isFlag word then ([], word :: rest)
    else if !valued.contains word then
      let (front, back) := split rest
      (word :: front, back)
    else match rest with
      | [] => ([word], [])
      | value :: rest =>
        let (front, back) := split rest
        (word :: value :: front, back)

def index (words : List String) : Nat := (split words).1.length

/-- Names the command if there is something to run it on. A separator gives way to it. -/
def completed : List String → List String
  | [] => []
  | word :: rest =>
    if word = Word.separatorText then name :: rest
    else if Program.commandNames.contains word then word :: rest
    else name :: word :: rest

def insert (words : List String) : List String :=
  let (front, back) := split words
  front ++ completed back

end TermStyle.CommandLine.DefaultCommand
