import TermStyle.Store

/-!
Files that grow line by line and are set aside when a line would take them to their limit. The set-aside
files are numbered from the newest on, and the oldest beyond their count are overwritten. -/

namespace TermStyle.Store

def move (store : Store) (source target : String) : Store :=
  match store.locate source, store.locate target with
  | .ok here, .ok there => store.rename here there
  | _, _ => store

def numbered (path : String) (number : Nat) : String := path ++ "." ++ toString number

/-- Moves the set-aside files from the given number down to the first one further. -/
def shift (store : Store) (path : String) : Nat → Store
  | 0 => store
  | number + 1 => shift (store.move (numbered path (number + 1)) (numbered path (number + 2))) path number

/-- Sets a file aside; if none are to be kept it stays as it is. -/
def setAside (store : Store) (path : String) (count : Nat) : Store :=
  match count with
  | 0 => store
  | older + 1 => (store.shift path older).move path (numbered path 1)

def sizeOf (store : Store) (path : String) : Nat :=
  match store.read path with
  | .ok content => content.size
  | .error _ => 0

def append (store : Store) (path text : String) : Except Error Store := do
  let store ← store.touch path
  store.write path ((← store.read path) ++ text.toUTF8)

/-- Adds a line. The size of the file counts bytes, that of the line characters. -/
def appendLine (store : Store) (path : String) (limit backups : Int) (line : String) : Except Error Store :=
  let full : Bool := 0 < limit && limit ≤ store.sizeOf path + line.length + 1
  let store := if full then store.setAside path backups.toNat else store
  store.append path (line ++ "\n")

end TermStyle.Store
