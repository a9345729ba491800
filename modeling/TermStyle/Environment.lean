/-!
Environment variables: what is defined, and with which value. -/

namespace TermStyle

structure Environment where
  bindings : List (String × String)
  deriving DecidableEq, Repr

namespace Environment

def get? (env : Environment) (name : String) : Option String := env.bindings.lookup name

/-- Defined, if only as the empty text. -/
def isDefined (env : Environment) (name : String) : Bool := (env.get? name).isSome

/-- The value, unless it is empty. -/
def filled? (env : Environment) (name : String) : Option String := (env.get? name).filter (!·.isEmpty)

def isFilled (env : Environment) (name : String) : Bool := (env.filled? name).isSome

end Environment
end TermStyle
