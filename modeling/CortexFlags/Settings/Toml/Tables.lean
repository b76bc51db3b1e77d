import CortexFlags.Settings.Toml.Reader
import CortexFlags.Table

/-! Reading a TOML text: headers open tables, and the pairs after a header, with the
tables whose headers continue its path, make up the table. The bounds are the length of
the text, of which each header and each pair takes a part.

* `nodup_of_parse?`: the table has each key once. -/

namespace CortexFlags.Settings.Toml

/-! ## Headers -/

/-- The path of a table, or of an item of an array of tables. -/
structure Header where
  path : List String
  isItem : Bool

/-- The opening brackets and the path of a header. -/
def readHeaderStart : Reader Header := do
  Reader.expect '['
  let isItem := (← Reader.next?) = some '['
  if isItem then Reader.skip
  return ⟨← readKey, isItem⟩

/-- A header with the end of its line. Of two closing brackets the second may be any
character. -/
def readHeader : Reader Header := do
  let header ← readHeaderStart
  Reader.expect ']'
  if header.isItem then Reader.skip
  endOfLine
  return header

/-- The header in front, which is left there. -/
def peekHeader? : Reader (Option Header) := do
  let cs ← get
  if cs.isEmpty then return none
  let header ← readHeaderStart
  set cs
  return some header

/-- The rest of a longer path that starts with another. -/
def pathBelow? (parent path : List String) : Option (List String) :=
  if parent.isPrefixOf path && path.length > parent.length then some (path.drop parent.length)
  else none

/-! ## Pairs -/

/-- The pairs up to the next header or the end, added by a rule to those before. -/
def readPairsOf (add : Body → List String × Node → Option Body) (value : Reader Node) :
    Nat → Body → Reader Body
  | 0, _ => Reader.refuse
  | bound + 1, body => do
      skipGap
      match ← Reader.next? with
      | none => return body
      | some c =>
          if c = '[' then return body
          else
            let pair ← readPair value
            endOfLine
            readPairsOf add value bound (← Reader.orRefuse (add body pair))

/-! ## Tables -/

/-- The arrays of tables of which items are being read, from the innermost on. -/
abbrev OpenArrays := List (List String)

/-- The tables on the way to the last of some names, which holds what was read. -/
def wayTo (isItem : Bool) (entries : Body) : List String → Body
  | [] => entries
  | [name] =>
      [(name, if isItem then .tables [entries] else .table .header entries)]
  | name :: names => [(name, .table .passed (wayTo isItem entries names))]

/-- Tables whose paths continue that of a table, added to its entries. -/
def readBelow (table : Reader (String × Node)) (deep : Nat) (path : List String) :
    Nat → Body → Reader Body
  | 0, _ => Reader.refuse
  | bound + 1, body => do
      match ← peekHeader? with
      | none => return body
      | some header =>
          match pathBelow? path header.path with
          | none => return body
          | some _ =>
              let (name, node) ← table
              let body ← Reader.orRefuse (body.writeOpen? deep [name] node)
              readBelow table deep path bound body

/-- Further items of an array of tables. -/
def readItemsOf (entries : Reader Body) (path : List String) : Nat → Reader (List Body)
  | 0 => Reader.refuse
  | bound + 1 => do
      match ← peekHeader? with
      | none => return []
      | some header =>
          if header.isItem && header.path = path then
            let _ ← readHeader
            let item ← entries
            return item :: (← readItemsOf entries path bound)
          else return []

/-- What follows the header of a table: its pairs, and the tables below it. -/
def readEntries (table : List String → Reader (String × Node)) (deep : Nat)
    (path : List String) : Reader Body := do
  let body ← readPairsOf (fun body (key, node) => body.writeOpen? deep key node) (readValue deep)
    deep []
  let body ← readBelow (table path) deep path deep body
  if body.isSound deep then return body else Reader.refuse

/-- A table below another, under the first name of the rest of its path. -/
def readTable (deep : Nat) : Nat → OpenArrays → (parent : List String) → Reader (String × Node)
  | 0, _, _ => Reader.refuse
  | bound + 1, arrays, parent => do
      let header ← readHeader
      let below := readTable deep bound
      match header.path.drop parent.length with
      | [] => Reader.refuse
      | [name] =>
          let entries ← readEntries (below arrays) deep header.path
          if header.isItem then
            let more ← readItemsOf (readEntries (below (header.path :: arrays)) deep header.path)
              header.path deep
            return (name, .tables (entries :: more))
          else return (name, .table .header entries)
      | name :: names =>
          let entries ← readEntries (below arrays) deep header.path
          let origin := if header.isItem && arrays.contains [name] then .passedItem else .passed
          return (name, .table origin (wayTo header.isItem entries names))

/-! ## Texts -/

/-- The tables of a text, added to the pairs before the first header. -/
def readTables (deep : Nat) : Nat → Body → Reader Body
  | 0, _ => Reader.refuse
  | bound + 1, body => do
      if (← get).isEmpty then return body
      let entry ← readTable deep deep [] []
      readTables deep bound (← Reader.orRefuse (body.add? deep true entry))

/-- The document that a text writes. -/
def readDocument (deep : Nat) : Reader Body := do
  let body ← readPairsOf (fun body (key, node) => body.write? deep true key node)
    (readValue deep) deep []
  readTables deep deep body

/-- The entries that a text writes, unless it breaks a rule. -/
def parse? (text : String) : Option Entries :=
  let deep := 2 * text.toList.length + 2
  match StateT.run (readDocument deep) text.toList with
  | .ok (body, _) => body.values? deep (Node.value? deep)
  | .error _ => none

/-! ## Keys -/

theorem nodup_eraseDups (keys : List String) : keys.eraseDups.Nodup := by
  match keys with
  | [] => simp
  | key :: rest =>
    rw [List.eraseDups_cons, List.nodup_cons]
    refine ⟨?_, nodup_eraseDups (rest.filter fun k => !k == key)⟩
    rw [List.mem_eraseDups, List.mem_filter]
    simp
termination_by keys.length
decreasing_by exact Nat.lt_succ_of_le (List.length_filter_le _ _)

/-- Entries that are found for keys stand under these keys. -/
theorem keys_of_mapM {entryOf : String → Option (String × Value)} {keys : List String}
    {entries : Entries} (hentry : ∀ key entry, entryOf key = some entry → entry.1 = key)
    (h : keys.mapM entryOf = some entries) : entries.map Prod.fst = keys := by
  induction keys generalizing entries with
  | nil =>
    cases h
    rfl
  | cons key keys ih =>
    rw [List.mapM_cons] at h
    simp only [Option.bind_eq_bind, Option.bind_eq_some_iff, Option.pure_def] at h
    obtain ⟨entry, hkey, rest, hrest, hentries⟩ := h
    cases hentries
    rw [List.map_cons, ih hrest, hentry key entry hkey]

theorem keys_values? {bound : Nat} {value? : Node → Option Value} {body : Body}
    {entries : Entries} (h : body.values? bound value? = some entries) :
    entries.map Prod.fst = body.keys := by
  refine keys_of_mapM (fun key entry hentry => ?_) h
  simp only [Option.bind_eq_bind, Option.bind_eq_some_iff, Option.pure_def] at hentry
  obtain ⟨node, _, v, _, hv⟩ := hentry
  cases hv
  rfl

/-- **Each key once.** -/
theorem nodup_of_parse? {text : String} {entries : Entries} (h : parse? text = some entries) :
    (entries.map Prod.fst).Nodup := by
  unfold parse? at h
  dsimp only at h
  split at h
  · rename_i body rest _
    rw [keys_values? h]
    exact nodup_eraseDups _
  · cases h

/-- The table that a text writes. Of all texts that break a rule the complaint is the same. -/
def table (complaint text : String) : Except String (Table Value) :=
  match h : parse? text with
  | some entries => .ok ⟨entries, nodup_of_parse? h⟩
  | none => .error complaint

end CortexFlags.Settings.Toml
