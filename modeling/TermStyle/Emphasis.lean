import TermStyle.Compile
import TermStyle.Tier

/-!
Emphasis for the program's own words: headers, examples, errors. Where a tier shows nothing of it, the
text stays as it is, without a reset behind it. -/

namespace TermStyle.Emphasis

/-- What a tier shows of directives. Those that cannot be compiled show nothing. -/
def front (directives : String) (tier : Tier) : String :=
  ((Compile.text directives tier.level).value.toOption).getD ""

def styled (directives text : String) (tier : Tier) : String :=
  if (front directives tier).isEmpty then text else front directives tier ++ text ++ Sequence.reset.render

def headerDirectives : String := "bold cyan"

def header : String → Tier → String := styled headerDirectives
def subheader : String → Tier → String := styled "bold yellow"
def sample : String → Tier → String := styled "green"
def error : String → Tier → String := styled "bold red"
def aside : String → Tier → String := styled "dim"

end TermStyle.Emphasis
