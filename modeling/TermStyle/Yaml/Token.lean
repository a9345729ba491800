import TermStyle.Fault

/-!
The tokens of a document. Where a collection starts and ends by indentation, tokens say so. -/

namespace TermStyle.Yaml

inductive Token
  | version (major : Int)
  | tagHandle (handle leading : String)
  | otherDirective
  | documentStart
  | documentEnd
  | streamEnd
  | blockSequenceStart
  | blockMappingStart
  | blockEnd
  | flowSequenceStart
  | flowMappingStart
  | flowSequenceEnd
  | flowMappingEnd
  | blockEntry
  | flowEntry
  | key
  | value
  | alias (name : String)
  | anchor (name : String)
  | tag (handle : Option String) (suffix : String)
  | scalar (text : String) (isPlain : Bool)
  deriving DecidableEq, Repr

end TermStyle.Yaml
