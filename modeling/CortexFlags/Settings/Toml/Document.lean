import CortexFlags.Settings.Toml.Node

/-! Building a TOML document: entries are added one after the other, and one that does
not fit what is there already is refused. The bounds are on how deep nodes stand
within one another. -/

namespace CortexFlags.Settings.Toml

/-! ## Tables under one key -/

/-- What becomes of a table under the key of an earlier one: it is refused; it is a
further piece, which must fit the earlier one; it is a further piece, and all of them
must unite; or its entries go into the earlier one. -/
inductive Junction
  | refused | continued | separate | merged
deriving DecidableEq, Repr

/-- A header opens a table once, and never one of a dotted key. Tables that headers have
passed are merged as long as no other table stands between them. -/
def Origin.junction (earlier later : Origin) (isLast : Bool) : Junction :=
  match earlier, later with
  | .header, .header | .dotted, .header => .refused
  | .header, _ | _, .header => .continued
  | .dotted, _ | _, .dotted => .separate
  | _, _ => if isLast then .merged else .separate

/-- A rule by which an entry is added to a table. -/
abbrev Adding := Body → String × Node → Option Body

/-- Whether pieces can be read as one table. -/
def areReadable (isSound : Body → Bool) : List Node → Bool
  | [] | [_] => true
  | pieces =>
      match join? pieces with
      | none => false
      | some body => isSound body

/-- Whether the entries of pieces can be added to one table. -/
def doUnite (isSound : Body → Bool) (add? : Adding) : List Node → Bool
  | [] | [_] => true
  | pieces =>
      match (pieces.flatMap Node.entries).foldlM add? [] with
      | none => false
      | some body => isSound body

/-- Add an entry, whose key must be readable after it. -/
def addReadable? (isSound : Body → Bool) (add? : Adding) : Adding := fun body entry => do
  let body ← add? body entry
  if areReadable isSound (body.pieces entry.1) then some body else none

mutual

/-- Whether the pieces of every key unite. -/
def Body.isSound : Nat → Body → Bool
  | 0, _ => false
  | bound + 1, body =>
      body.keys.all fun key =>
        doUnite (Body.isSound bound) (Body.add? bound false) (body.pieces key)

/-- Add an entry, unless what stands under its key forbids it. What a header passes on its
way through an array of tables goes into the last item. Pieces are compared with one
another only if that is asked for. -/
def Body.add? : Nat → (compared : Bool) → Adding
  | 0, _, _, _ => none
  | bound + 1, compared, body, (key, node) =>
      if !areReadable (Body.isSound bound) (body.pieces key) then none
      else
        match body.last? key, node with
        | none, _ => body.push? (key, node)
        | some (.tables items), .tables more =>
            some (body.replaceLast key (.tables (items ++ more)))
        | some (.tables items), .table .passedItem entries =>
            some (body.replaceLast key (.tables (items ++ [entries])))
        | some (.tables items), .table .passed entries => do
            let add? := addReadable? (Body.isSound bound) (Body.add? bound true)
            let item ← entries.foldlM add? (← items.getLast?)
            return body.replaceLast key (.tables (items.dropLast ++ [item]))
        | some (.table _ item), .table .passedItem entries =>
            some (body.replaceLast key (.tables [item, entries]))
        | some (.table earlier body'), .table later entries =>
            match earlier.junction later (body.lastTable? = some key) with
            | .refused => none
            | .continued =>
                if compared && !entriesFit body' entries then none else body.push? (key, node)
            | .separate => do
                let body ← body.push? (key, node)
                let pieces := body.pieces key
                if compared && !doUnite (Body.isSound bound) (Body.add? bound false) pieces then
                  none
                else some body
            | .merged => do
                let add? := addReadable? (Body.isSound bound) (Body.add? bound true)
                return body.replaceLast key (.table earlier (← entries.foldlM add? body'))
        | some _, _ => none

end

/-! ## Statements -/

namespace Body

/-- Write a node under a dotted key. -/
def write? (bound : Nat) (compared : Bool) (body : Body) (path : List String) (node : Node) :
    Option Body :=
  match path with
  | [] => none
  | [key] => body.add? bound compared (key, node)
  | key :: path => body.add? bound true (key, node.atPath path)

/-- Write a node under a dotted key of a table that is open. -/
def writeOpen? (bound : Nat) (body : Body) (path : List String) (node : Node) :
    Option Body := do
  let body ← body.write? bound false path node
  if areReadable (isSound bound) (body.pieces (path.headD "")) then some body else none

/-- What stands under a key, several pieces as one table. -/
def node? (bound : Nat) (body : Body) (key : String) : Option Node :=
  match body.pieces key with
  | [node] => some node
  | pieces => do
      let joined ← join? pieces
      if joined.isSound bound then some (.table .header joined) else none

end Body

/-! ## Values -/

/-- The entries of a table, in which each key stands once. -/
def Body.values? (bound : Nat) (value? : Node → Option Value) (body : Body) : Option Entries :=
  body.keys.mapM fun key => do return (key, ← value? (← body.node? bound key))

/-- The value that a node has come to. -/
def Node.value? : Nat → Node → Option Value
  | 0, _ => none
  | _ + 1, .scalar v => some v
  | bound + 1, .list items => do return .list (← items.mapM (Node.value? bound))
  | bound + 1, .inline body | bound + 1, .table _ body => do
      return .table (← Body.values? bound (Node.value? bound) body)
  | bound + 1, .tables items => do
      return .list (← items.mapM fun body => do
        return .table (← Body.values? bound (Node.value? bound) body))

end CortexFlags.Settings.Toml
