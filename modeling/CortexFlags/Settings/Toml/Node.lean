import CortexFlags.Settings.Value

/-! The parts of a TOML document. A table is a list of entries in the order in which
they were written, and a key may stand in several places: headers out of order write
a table in pieces, which are read as one. -/

namespace CortexFlags.Settings.Toml

/-! ## Nodes -/

/-- How a table came to be: by its own header, on the way to the table of another
header, on the way to an item below an item of the same name, or by a dotted key. -/
inductive Origin
  | header | passed | passedItem | dotted
deriving DecidableEq, Repr

/-- A part of a document. -/
inductive Node
  | scalar (value : Value)
  | list (items : List Node)
  | inline (entries : List (String × Node))
  | table (origin : Origin) (entries : List (String × Node))
  | tables (items : List (List (String × Node)))

/-- The entries of a table, in the order in which they were written. -/
abbrev Body := List (String × Node)

namespace Node

/-- A table or an array of tables. -/
def hasHeader : Node → Bool
  | table _ _ | tables _ => true
  | _ => false

/-- The entries of a table; a node of another kind has none. -/
def entries : Node → Body
  | table _ body => body
  | _ => []

/-- A node at the end of the tables that a dotted key leads through. -/
def atPath (node : Node) : List String → Node
  | [] => node
  | key :: path => table .dotted [(key, node.atPath path)]

end Node

/-! ## Pieces -/

namespace Body

/-- The nodes under a key, in the order in which they were written. -/
def pieces (body : Body) (key : String) : List Node :=
  body.filterMap fun entry => if entry.1 = key then some entry.2 else none

def last? (body : Body) (key : String) : Option Node := (body.pieces key).getLast?

/-- The keys, each at the place where it first stands. -/
def keys (body : Body) : List String := (body.map Prod.fst).eraseDups

/-- Put a node in the place of the last one under its key. -/
def replaceLast (key : String) (node : Node) : Body → Body
  | [] => []
  | entry :: rest =>
      if entry.1 = key && (pieces rest key).isEmpty then (key, node) :: rest
      else entry :: replaceLast key node rest

/-- Add an entry at the end. Only a table may have another node under its key; the items
of two arrays of tables become those of one. -/
def push? (body : Body) (entry : String × Node) : Option Body :=
  match body.last? entry.1, entry.2 with
  | none, _ | some (.table _ _), _ => some (body ++ [entry])
  | some (.tables items), .tables more =>
      some (body.replaceLast entry.1 (.tables (items ++ more)))
  | some _, _ => none

/-- The key of the last table or array of tables. -/
def lastTable? (body : Body) : Option String :=
  (body.filter fun entry => entry.2.hasHeader).getLast?.map Prod.fst

end Body

/-- The entries of all tables among some pieces, as one table. -/
def join? (pieces : List Node) : Option Body :=
  (pieces.flatMap Node.entries).foldlM Body.push? []

/-! ## Tables that fit -/

/-- Whether a table within an earlier piece may have a counterpart of another origin
in a later one. -/
def Origin.admits : (earlier later : Origin) → Bool
  | .dotted, _ => false
  | .header, .dotted | .header, .header => false
  | _, _ => true

mutual

/-- Whether a node fits an earlier one under the same key: both are arrays of tables, or
both are tables of origins that go together, and their entries fit in turn. -/
def Node.fits (earlier : Node) : Node → Bool
  | .table later entries =>
      match earlier with
      | .table origin body => origin.admits later && entriesFit body entries
      | _ => false
  | .tables _ =>
      match earlier with
      | .tables _ => true
      | _ => false
  | _ => false

/-- Whether entries fit those of an earlier table. -/
def entriesFit (body : Body) : List (String × Node) → Bool
  | [] => true
  | (key, node) :: rest =>
      (match body.last? key with
        | none => true
        | some earlier => earlier.fits node) && entriesFit body rest

end

end CortexFlags.Settings.Toml
