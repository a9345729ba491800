/-!
Slash-separated paths. A path has a normal text, in which empty and single-dot components are gone; steps
to the parent directory stay, since only a store can say where they lead. -/

namespace TermStyle.Store

structure Path where
  /-- The slashes at the head: none for a relative path. -/
  root : String
  parts : List String
  deriving DecidableEq, Repr

namespace Path

def stretches (name : String) : List String := (name.toList.splitOn '/').map .ofList

def isNamed (part : String) : Bool := part != "" && part != "."

def ofText (text : String) : Path :=
  let slashes := (text.toList.takeWhile (· == '/')).length
  { root := if slashes = 0 then "" else if slashes = 2 then "//" else "/"
    parts := (stretches text).filter isNamed }

def text (path : Path) : String :=
  if path.root = "" ∧ path.parts = [] then "." else path.root ++ "/".intercalate path.parts

/-- Lets a step to the parent cancel the part before it, as if no part led elsewhere. -/
def settle (rooted : Bool) (parts : List String) (part : String) : List String :=
  if part != ".." then parts ++ [part]
  else if parts.all (· == "..") then (if rooted then [] else parts ++ [part])
  else parts.dropLast

def settled (path : Path) : Path := { path with parts := path.parts.foldl (settle (path.root != "")) [] }

def parent (path : Path) : Path := { path with parts := path.parts.dropLast }

end Path
end TermStyle.Store
