/-! Nodes of YAML documents: texts, whole numbers, sequences and mappings. -/

namespace CortexFlags.Yaml

inductive Node
  | text (s : String)
  | int (n : Int)
  | sequence (items : List Node)
  | mapping (entries : List (String × Node))

/-- A way to write a node as a document. -/
abbrev Writer := Node → String

end CortexFlags.Yaml
