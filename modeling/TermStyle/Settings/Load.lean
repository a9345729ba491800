import TermStyle.Settings
import TermStyle.Store
import TermStyle.Yaml

/-!
Loading settings. A file that is asked for has to be there and to hold a mapping; a file that is found in
one of the usual places is passed over, with a warning, if it cannot be read or holds something else. -/

namespace TermStyle.Settings
open Log

/-- Why a file gives no settings. What is neither a matter of files nor of the document's form is stray. -/
inductive Obstacle
  | unreadable (fault : Fault)
  | notMapping
  | stray (fault : Fault)

namespace Obstacle

def ofFault : Fault → Obstacle
  | .store error => .unreadable (.store error)
  | .document => .unreadable .document
  | fault => .stray fault

def notMappingProblem (path : String) : Problem :=
  .configuration "Config file must contain a mapping" none none (some path) none

def failure (path : String) : Obstacle → Failure
  | .unreadable fault => .problem (.configuration "Could not read config file" none none (some path) (some fault))
  | .notMapping => .problem (notMappingProblem path)
  | .stray fault => .fault fault

/-- The note that is made of an obstacle in a file that was found. A stray fault is not absorbed. -/
def record? (path : String) : Obstacle → Option Record
  | .unreadable fault => some ((Record.warning logger ("Error loading config from " ++ path ++ ": ")).withCause fault)
  | .notMapping => some (.warning logger (notMappingProblem path).text)
  | .stray _ => none

end Obstacle

/-- The entries of a document, where only the values of settings are looked at. -/
def entries? (document : Yaml.Document) : Option (List (Value × Value)) :=
  document.entries?.map fun entries => entries.map fun (key, id) =>
    (key, if namesField key then document.value id else .null)

def readEntries (store : Store) (path : String) : Except Obstacle (List (Value × Value)) := do
  let content ← (store.read path).mapError fun error => .ofFault (.store error)
  let document ← (Yaml.read content).mapError .ofFault
  match entries? document with
  | some entries => return entries
  | none => throw .notMapping

/-- The home of the user: the one that the environment names, if only by the empty text, or that of the account.
Without either the tilde that asks for it stays. -/
def home (store : Store) (env : Environment) : String := ((env.get? Variable.home).or store.home).getD "~"

/-- The usual places, the one that the environment names first. -/
def candidates (store : Store) (env : Environment) : List String :=
  let own := String.ofList ((home store env).toList.reverse.dropWhile (· == '/')).reverse ++ "/.config/huecode/"
  (env.filled? Variable.configPath).toList ++
    ["huecode.yml", "huecode.yaml", ".huecode.yml", ".huecode.yaml", own ++ "config.yml", own ++ "config.yaml"]

def isThere (store : Store) (name : String) : Except Fault Bool :=
  (store.exists? (Store.Path.ofText name).text).mapError .store

def firstThere (store : Store) : List String → Except Fault (Option String)
  | [] => .ok none
  | name :: rest => do if ← isThere store name then return some name else firstThere store rest

def find (store : Store) (env : Environment) : Except Fault (Option String) := firstThere store (candidates store env)

def requested (store : Store) (path : String) : Noted (Except Failure Settings) :=
  match isThere store path with
  | .error fault => ⟨.error (.fault fault), []⟩
  | .ok false => ⟨.error (.problem (.configuration "Config file not found" none none (some path) none)), []⟩
  | .ok true =>
    match readEntries store path with
    | .error obstacle => ⟨.error (obstacle.failure path), []⟩
    | .ok entries =>
      let laid := overlay path entries standard
      ⟨.ok laid.value, laid.records⟩

def discovered (store : Store) (env : Environment) : Noted (Except Failure Settings) :=
  match find store env with
  | .error fault => ⟨.error (.fault fault), []⟩
  | .ok none => ⟨.ok standard, []⟩
  | .ok (some path) =>
    match readEntries store path with
    | .error obstacle =>
      match obstacle.record? path with
      | some record => ⟨.ok standard, [record]⟩
      | none => ⟨.error (obstacle.failure path), []⟩
    | .ok entries =>
      let laid := overlay path entries standard
      ⟨.ok laid.value, laid.records⟩

/-- The settings of the file that is asked for, or of one that is found; an empty path asks for none. -/
def ofFiles (store : Store) (env : Environment) (path : Option String) : Noted (Except Failure Settings) :=
  match path.filter (!·.isEmpty) with
  | some path => requested store path
  | none => discovered store env

/-- The settings in force: defaults, file and environment in this order, checked. -/
def load (store : Store) (env : Environment) (path : Option String) : Noted (Except Failure Settings) :=
  let files := ofFiles store env path
  let loaded := do
    let settings ← (← files.value).overlayEnvironment env |>.mapError .problem
    settings.validate
  ⟨loaded, files.records⟩

end TermStyle.Settings
