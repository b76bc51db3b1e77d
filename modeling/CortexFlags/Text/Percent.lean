import CortexFlags.Text.DecimalDigit
import CortexFlags.Text.FloatText
import CortexFlags.Text.Pad
import CortexFlags.Text.Quoted
import CortexFlags.Text.WordCharacter

/-! Percent formats: texts with directives such as `%(name)-8s` or `%05d`, which
take their values by name or in order. A star stands for a number among the values. -/

namespace CortexFlags.Text.Percent

/-! ## Directives -/

/-- A width or a precision: a number, or a star. -/
inductive Size
  | given (n : Nat)
  | star
deriving DecidableEq, Repr

/-- A directive; the name in round brackets is there only if values go by name. -/
structure Directive where
  key : Option String
  alignLeft : Bool
  zeros : Bool
  plus : Bool
  blank : Bool
  alternate : Bool
  width : Size
  precision : Option Size
  conversion : Char
deriving DecidableEq, Repr

def Directive.bare : Directive :=
  ⟨none, false, false, false, false, false, .given 0, none, 's'⟩

inductive Piece
  | literal (c : Char)
  | directive (d : Directive)
deriving DecidableEq, Repr

/-- How far a format has been read. -/
inductive Reading
  | text
  | opened
  | key (depth : Nat) (name : List Char)
  | marks (d : Directive)
  | width (d : Directive) (sofar : Nat)
  | afterWidth (d : Directive)
  | point (d : Directive)
  | precision (d : Directive) (sofar : Nat)
  | size (d : Directive)
  | conversion (d : Directive)

def digit (c : Char) : Nat := c.toNat - '0'.toNat

/-- A mark after the percent sign. -/
def Directive.mark? (d : Directive) (c : Char) : Option Directive :=
  if c = '-' then some { d with alignLeft := true }
  else if c = '0' then some { d with zeros := true }
  else if c = '+' then some { d with plus := true }
  else if c = ' ' then some { d with blank := true }
  else if c = '#' then some { d with alternate := true }
  else none

/-- The end of a directive. -/
def finish (d : Directive) (c : Char) : Reading × List Piece :=
  (.text, [.directive { d with conversion := c }])

/-- Letters for the size of a number, one of which may stand there and changes nothing. -/
def isSize (c : Char) : Bool := c = 'h' || c = 'l' || c = 'L'

def readSize (d : Directive) (c : Char) : Reading × List Piece :=
  if isSize c then (.conversion d, []) else finish d c

def readAfterWidth (d : Directive) (c : Char) : Reading × List Piece :=
  if c = '.' then (.point { d with precision := some (.given 0) }, []) else readSize d c

def readWidth (d : Directive) (sofar : Nat) (c : Char) : Reading × List Piece :=
  if c.isDigit then (.width d (sofar * 10 + digit c), [])
  else readAfterWidth { d with width := .given sofar } c

def readMarks (d : Directive) (c : Char) : Reading × List Piece :=
  match d.mark? c with
  | some d => (.marks d, [])
  | none =>
      if c = '*' then (.afterWidth { d with width := .star }, []) else readWidth d 0 c

def readPrecision (d : Directive) (sofar : Nat) (c : Char) : Reading × List Piece :=
  if c.isDigit then (.precision d (sofar * 10 + digit c), [])
  else readSize { d with precision := some (.given sofar) } c

def readPoint (d : Directive) (c : Char) : Reading × List Piece :=
  if c = '*' then (.size { d with precision := some .star }, []) else readPrecision d 0 c

/-- Read one more character: how far that leads, and the piece that it completes. Two
percent signs in a row stand for one. -/
def Reading.advance : Reading → Char → Reading × List Piece
  | .text, c => if c = '%' then (.opened, []) else (.text, [.literal c])
  | .opened, c =>
      if c = '%' then (.text, [.literal '%'])
      else if c = '(' then (.key 0 [], [])
      else readMarks .bare c
  | .key depth name, c =>
      if c = ')' then
        match depth with
        | 0 => (.marks { Directive.bare with key := some (String.ofList name) }, [])
        | depth + 1 => (.key depth (name ++ [c]), [])
      else if c = '(' then (.key (depth + 1) (name ++ [c]), [])
      else (.key depth (name ++ [c]), [])
  | .marks d, c => readMarks d c
  | .width d sofar, c => readWidth d sofar c
  | .afterWidth d, c => readAfterWidth d c
  | .point d, c => readPoint d c
  | .precision d sofar, c => readPrecision d sofar c
  | .size d, c => readSize d c
  | .conversion d, c => finish d c

def Reading.read? : Reading → List Char → Option (List Piece)
  | .text, [] => some []
  | _, [] => none
  | st, c :: rest =>
      let (next, done) := st.advance c
      (next.read? rest).map (done ++ ·)

/-- The pieces of a format, unless it ends within a directive. -/
def pieces? (format : String) : Option (List Piece) := Reading.text.read? format.toList

/-! ## Values -/

/-- A text, a number, or a value of another kind, known by what a directive makes of it. -/
inductive Value
  | text (s : String)
  | int (n : Int)
  | other (shown : Directive → Option String)

/-! ## Sizes -/

/-- No width and no precision may be larger. -/
def maxSize : Nat := 2147483647

/-- The number that a star stands for, and the values after it. -/
def starSize? : List Value → Option (Int × List Value)
  | .int n :: args => if n.natAbs ≤ maxSize then some (n, args) else none
  | _ => none

/-- Put a number for the star of a width; one below zero aligns to the left. -/
def Directive.settleWidth? (d : Directive) (args : List Value) :
    Option (Directive × List Value) :=
  match d.width with
  | .given n => if n ≤ maxSize then some (d, args) else none
  | .star => do
      let (n, args) ← starSize? args
      return ({ d with width := .given n.natAbs, alignLeft := d.alignLeft || n < 0 }, args)

/-- Put a number for the star of a precision; one below zero counts as zero. -/
def Directive.settlePrecision? (d : Directive) (args : List Value) :
    Option (Directive × List Value) :=
  match d.precision with
  | none => some (d, args)
  | some (.given n) => if n ≤ maxSize then some (d, args) else none
  | some .star => do
      let (n, args) ← starSize? args
      return ({ d with precision := some (.given n.toNat) }, args)

/-- Take the values that the stars of a directive stand for. -/
def Directive.settle? (d : Directive) (args : List Value) :
    Option (Directive × List Value) := do
  let (d, args) ← d.settleWidth? args
  d.settlePrecision? args

/-- The number of a size without a star. -/
def Size.number : Size → Nat
  | given n => n
  | star => 0

def Directive.columns (d : Directive) : Nat := d.width.number

def Directive.places? (d : Directive) : Option Nat := d.precision.map Size.number

/-! ## Showing values -/

/-- Fill up to the width of a directive with spaces. -/
def Directive.align (d : Directive) (s : String) : String :=
  if d.alignLeft then padRight d.columns s else padLeft d.columns s

def Directive.showText (d : Directive) (s : String) : String :=
  d.align (match d.places? with
    | none => s
    | some n => String.ofList (s.toList.take n))

def zeroPad (width : Nat) (s : String) : String :=
  String.ofList (List.replicate (width - s.length) '0') ++ s

def Directive.sign (d : Directive) (n : Int) : String :=
  if n < 0 then "-" else if d.plus then "+" else if d.blank then " " else ""

/-- Digits after a front; zeros fill up between the two. -/
def Directive.fill (d : Directive) (front digits : String) : String :=
  if d.zeros && !d.alignLeft then front ++ zeroPad (d.columns - front.length) digits
  else d.align (front ++ digits)

/-- A number: sign, mark of the base, digits. -/
def Directive.showNumber (d : Directive) (n : Int) (mark : String) (digits : String) : String :=
  d.fill (d.sign n ++ if d.alternate then mark else "") (zeroPad (d.places?.getD 0) digits)

/-- The number of places of a float, unless a directive says otherwise. -/
def defaultPlaces : Nat := 6

/-- A number as a float, if it is not too large for one. -/
def Directive.showFloat (d : Directive) (form : FloatText.Form) (n : Int) : Option String := do
  let places := d.places?.getD defaultPlaces
  return d.fill (d.sign n)
    (← FloatText.render form d.alternate d.conversion.isUpper places n.natAbs)

/-- The digits of a number in a base up to sixteen. -/
def inBase (base n : Nat) (upper : Bool) : String :=
  let digits := Nat.toDigits base n
  String.ofList (if upper then digits.map Char.toUpper else digits)

/-- What a directive makes of a text. -/
def Directive.renderText (d : Directive) (s : String) : Option String :=
  match d.conversion with
  | 's' => some (d.showText s)
  | 'r' => some (d.showText (Quoted.render s))
  | 'a' => some (d.showText (Quoted.renderAscii s))
  | 'c' => if s.length = 1 then some (d.align s) else none
  | _ => none

/-- What a directive makes of a number. -/
def Directive.renderNumber (d : Directive) (n : Int) : Option String :=
  match d.conversion with
  | 's' | 'r' | 'a' => some (d.showText (toString n))
  | 'd' | 'i' | 'u' => some (d.showNumber n "" (toString n.natAbs))
  | 'x' => some (d.showNumber n "0x" (inBase 16 n.natAbs false))
  | 'X' => some (d.showNumber n "0X" (inBase 16 n.natAbs true))
  | 'o' => some (d.showNumber n "0o" (inBase 8 n.natAbs false))
  | 'c' =>
      if 0 ≤ n ∧ n.toNat.isValidChar then
        some (d.align (String.ofList [Char.ofNat n.toNat]))
      else none
  | 'e' | 'E' => d.showFloat .scientific n
  | 'f' | 'F' => d.showFloat .fixed n
  | 'g' | 'G' => d.showFloat .general n
  | _ => none

/-- What a directive makes of a value, if the value is of its kind. -/
def Directive.render (d : Directive) : Value → Option String
  | .text s => d.renderText s
  | .int n => d.renderNumber n
  | .other shown => shown d

/-! ## Formatting -/

/-- The values that a directive may take: that of its name, or those that are left. -/
def Directive.available? (d : Directive) (value? : String → Option Value) (left : List Value) :
    Option (List Value) :=
  match d.key with
  | none => some left
  | some name => (value? name).map fun v => [v]

/-- Fill in values by name. A star takes the value of its own directive, and leaves nothing to
show. A directive without a name takes what is left. -/
def fillNamed (value? : String → Option Value) (left : List Value) : List Piece → Option String
  | [] => some ""
  | .literal c :: rest => do return String.ofList [c] ++ (← fillNamed value? left rest)
  | .directive d :: rest => do
      match ← d.settle? (← d.available? value? left) with
      | (_, []) => none
      | (d, v :: left) =>
          let shown ← d.render v
          return shown ++ (← fillNamed value? left rest)

/-- Fill in values in order; each must be used, and none has a name. -/
def fillInOrder : List Value → List Piece → Option String
  | [], [] => some ""
  | _ :: _, [] => none
  | args, .literal c :: rest => do return String.ofList [c] ++ (← fillInOrder args rest)
  | args, .directive d :: rest => do
      if d.key.isSome then none
      match ← d.settle? args with
      | (_, []) => none
      | (d, v :: args) =>
          let shown ← d.render v
          return shown ++ (← fillInOrder args rest)

/-- A format with values by name. All of them together are one value, which is there for a
directive without a name, until one takes a value. -/
def formatNamed (value? : String → Option Value) (whole : Option Value) (format : String) :
    Option String :=
  pieces? format >>= fillNamed value? whole.toList

/-- A message with its arguments; without any the message stands as it is. -/
def message (format : String) (args : List Value) : Option String :=
  if args.isEmpty then some format else pieces? format >>= fillInOrder args

/-! ## Naming a field -/

/-- Letters beyond the basic alphabet that count as the letters s and i of either case. -/
def letterVariants : List Char := ['\u017f', '\u0131', '\u0130']

def isConversion (c : Char) : Bool :=
  "diouxefgcrsa%".toList.contains c.toLower || letterVariants.contains c

/-- What follows a number or a star, if one stands there. -/
def afterNumber? : List Char → Option (List Char)
  | '*' :: rest => some rest
  | c :: rest => if isDecimalDigit c then some (rest.dropWhile isDecimalDigit) else none
  | [] => none

/-- After the closing bracket: marks, a width, a precision and a conversion. -/
def endsDirective (cs : List Char) : Bool :=
  let cs := cs.dropWhile ("#0+ -".toList.contains ·)
  let cs := (afterNumber? cs).getD cs
  let cs := match cs with
    | '.' :: rest => (afterNumber? rest).getD cs
    | _ => cs
  match cs with
  | c :: _ => isConversion c
  | [] => false

/-- A directive that names a field stands at the front. -/
def startsNamed : List Char → Bool
  | '%' :: '(' :: rest =>
      !(rest.takeWhile isWordCharacter).isEmpty &&
        match rest.dropWhile isWordCharacter with
        | ')' :: rest => endsDirective rest
        | _ => false
  | _ => false

def namesFieldIn : List Char → Bool
  | [] => false
  | c :: rest => startsNamed (c :: rest) || namesFieldIn rest

/-- Some directive of the format names a field. -/
def namesField (format : String) : Bool := namesFieldIn format.toList

end CortexFlags.Text.Percent
