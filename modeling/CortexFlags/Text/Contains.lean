/-! Occurrence of a text within another. -/

namespace CortexFlags.Text

def containsChars (needle : List Char) : List Char → Bool
  | [] => needle.isEmpty
  | c :: rest => needle.isPrefixOf (c :: rest) || containsChars needle rest

theorem containsChars_iff (needle hay : List Char) :
    containsChars needle hay ↔ needle <:+: hay := by
  induction hay with
  | nil => simp [containsChars]
  | cons c rest ih => simp [containsChars, ih, List.infix_cons_iff]

/-- The text holds the needle as a block of consecutive characters. -/
def contains (hay needle : String) : Bool := containsChars needle.toList hay.toList

theorem contains_iff {hay needle : String} :
    contains hay needle ↔ needle.toList <:+: hay.toList :=
  containsChars_iff ..

end CortexFlags.Text
