import TermStyle.Yaml.Document

/-!
Reading settings documents: bytes to text, text to a graph of nodes, and the graph to what it stands for. -/

namespace TermStyle.Yaml

def read (content : ByteArray) : Except Fault Document := do
  match ← Graph.read (.ofBytes content) with
  | (graph, some root) => Document.ofGraph graph root
  | (_, none) => return .empty

end TermStyle.Yaml
