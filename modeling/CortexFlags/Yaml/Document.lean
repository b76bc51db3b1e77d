import CortexFlags.Yaml.Node
import CortexFlags.Yaml.Scalar

/-! Documents in YAML block style: every entry of a mapping and every item of a
sequence has lines of its own, and a sequence is not indented under its key. -/

namespace CortexFlags.Yaml

/-- A key stands before its colon on one line if it is not empty, not long, and has no
line breaks. -/
def isSimpleKey (key : String) : Bool :=
  !key.isEmpty && decide (key.length < 123) && !key.toList.any isBreak

open Text (spaces)

mutual

/-- A node at a column, to which its later lines are indented. -/
def Node.write (column : Nat) : Node → String
  | .text s => writeText ⟨column, column, true⟩ s ++ "\n"
  | .int n => s!"{n}\n"
  | .sequence [] => "[]\n"
  | .sequence items => (spaces column).intercalate (writeItems column items)
  | .mapping [] => "\x7b\x7d\n"
  | .mapping entries => (spaces column).intercalate (writeEntries column entries)

/-- A node after the colon of a key: at a column, within a mapping of some indentation. -/
def Node.writeAfterKey (indent column : Nat) : Node → String
  | .text s => " " ++ writeText ⟨column + 1, indent + 2, true⟩ s ++ "\n"
  | .int n => s!" {n}\n"
  | .sequence [] => " []\n"
  | .sequence items =>
      "\n" ++ spaces indent ++ (spaces indent).intercalate (writeItems indent items)
  | .mapping [] => " \x7b\x7d\n"
  | .mapping entries =>
      "\n" ++ spaces (indent + 2)
        ++ (spaces (indent + 2)).intercalate (writeEntries (indent + 2) entries)

/-- The items of a sequence at a column. -/
def writeItems (column : Nat) : List Node → List String
  | [] => []
  | item :: items => ("- " ++ item.write (column + 2)) :: writeItems column items

/-- The entries of a mapping at a column. -/
def writeEntries (column : Nat) : List (String × Node) → List String
  | [] => []
  | (key, value) :: entries =>
      let entry :=
        if isSimpleKey key then
          let shown := writeText ⟨column, column, false⟩ key
          shown ++ ":" ++ value.writeAfterKey column (column + shown.length + 1)
        else
          "? " ++ writeText ⟨column + 2, column + 2, true⟩ key ++ "\n" ++ spaces column ++ ": "
            ++ value.write (column + 2)
      entry :: writeEntries column entries

end

/-- The document of a node. -/
def Node.document : Writer := Node.write 0

end CortexFlags.Yaml
