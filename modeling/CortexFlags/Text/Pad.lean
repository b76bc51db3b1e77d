/-! Padding of texts to a width, counted in code points. -/

namespace CortexFlags.Text

def spaces (n : Nat) : String := String.ofList (List.replicate n ' ')

/-- Pad on the right, up to a width; a longer text is kept. -/
def padRight (width : Nat) (s : String) : String := s ++ spaces (width - s.length)

/-- Pad on the left, up to a width; a longer text is kept. -/
def padLeft (width : Nat) (s : String) : String := spaces (width - s.length) ++ s

end CortexFlags.Text
