import CortexFlags.Text.Cut

/-! Plain words of YAML that stand for something other than a text: nothing, truth
values, numbers, times and marks. A text that looks like one of them has to be
quoted. -/

namespace CortexFlags.Yaml

def isNull (s : String) : Bool := ["", "~", "null", "Null", "NULL"].contains s

def isTruth (s : String) : Bool :=
  ["yes", "Yes", "YES", "no", "No", "NO", "true", "True", "TRUE", "false", "False", "FALSE",
    "on", "On", "ON", "off", "Off", "OFF"].contains s

/-- The merge key, the default value, and the marks of tags, anchors and aliases. -/
def isMark (s : String) : Bool := ["<<", "=", "!", "&", "*"].contains s

/-! ## Numbers -/

def isDigitOrLine (c : Char) : Bool := c.isDigit || c = '_'

def dropSign : List Char → List Char
  | '+' :: rest | '-' :: rest => rest
  | cs => cs

/-- A run of at least one character of a class. -/
def allOf (test : Char → Bool) (cs : List Char) : Bool := !cs.isEmpty && cs.all test

def isHexOrLine (c : Char) : Bool :=
  isDigitOrLine c || ('a' ≤ c && c ≤ 'f') || ('A' ≤ c && c ≤ 'F')

/-- A digit of base sixty: a number below sixty, its first of two digits at most five. -/
def isSixty : List Char → Bool
  | [a] => a.isDigit
  | [a, b] => '0' ≤ a && a ≤ '5' && b.isDigit
  | _ => false

/-- A number in base two, eight, ten, sixteen or sixty. -/
def isInteger (cs : List Char) : Bool :=
  match dropSign cs with
  | [] => false
  | '0' :: 'b' :: digits => allOf (fun c => c = '0' || c = '1' || c = '_') digits
  | '0' :: 'x' :: digits => allOf isHexOrLine digits
  | '0' :: digits => digits.all fun c => ('0' ≤ c && c ≤ '7') || c = '_'
  | c :: rest =>
      let (digits, sixties) := Text.cutChars ':' rest
      c.isDigit && digits.all isDigitOrLine && sixties.all isSixty

/-- A power of ten: a sign must be there. -/
def isExponent : List Char → Bool
  | [] => true
  | e :: sign :: digits =>
      (e = 'e' || e = 'E') && (sign = '+' || sign = '-') && allOf Char.isDigit digits
  | _ => false

/-- A digit with digits and lines after it. -/
def startsWithDigit : List Char → Bool
  | c :: rest => c.isDigit && rest.all isDigitOrLine
  | [] => false

/-- What follows the point of a fraction. -/
def isFraction (cs : List Char) : Bool := isExponent (cs.dropWhile isDigitOrLine)

/-- A number with a point, in base ten or sixty, or one of the names for no number. -/
def isDecimal (cs : List Char) : Bool :=
  let unsigned := dropSign cs
  let whole := unsigned.takeWhile (· != '.')
  match unsigned.dropWhile (· != '.') with
  | [] => false
  | _ :: fraction =>
      match whole with
      | [] =>
          [".inf", ".Inf", ".INF"].contains (String.ofList unsigned) ||
            [".nan", ".NaN", ".NAN"].contains (String.ofList cs) ||
            (cs.head? = some '.' && startsWithDigit (fraction.takeWhile isDigitOrLine) &&
              isFraction fraction)
      | whole =>
          match Text.cutChars ':' whole with
          | (digits, []) => startsWithDigit digits && isFraction fraction
          | (digits, sixties) =>
              startsWithDigit digits && sixties.all isSixty && fraction.all isDigitOrLine

/-! ## Times -/

/-- What follows a number of digits between two bounds. -/
def afterDigits (least most : Nat) (cs : List Char) : Option (List Char) :=
  let digits := (cs.take most).takeWhile Char.isDigit
  if digits.length < least then none else some (cs.drop digits.length)

/-- What follows a character. -/
def afterChar (c : Char) : List Char → Option (List Char)
  | d :: rest => if d = c then some rest else none
  | [] => none

def isBlank (c : Char) : Bool := c = ' ' || c = '\t'

/-- A date of four, two and two digits. -/
def isDate (cs : List Char) : Bool :=
  (do
    let cs ← afterDigits 4 4 cs >>= afterChar '-' >>= afterDigits 2 2 >>= afterChar '-'
    afterDigits 2 2 cs) = some []

/-- The letter or the blanks between date and time. -/
def afterGap : List Char → Option (List Char)
  | 'T' :: rest | 't' :: rest => some rest
  | c :: rest => if isBlank c then some (rest.dropWhile isBlank) else none
  | [] => none

/-- A time zone, perhaps none. -/
def isZone (cs : List Char) : Bool :=
  cs.isEmpty ||
    match cs.dropWhile isBlank with
    | ['Z'] => true
    | sign :: digits =>
        (sign = '+' || sign = '-') &&
          match afterDigits 1 2 digits with
          | some [] => true
          | some (':' :: minutes) => afterDigits 2 2 minutes = some []
          | _ => false
    | [] => false

/-- A date with a time of day. -/
def isMoment (cs : List Char) : Bool :=
  let afterSeconds := do
    let cs ← afterDigits 4 4 cs >>= afterChar '-' >>= afterDigits 1 2 >>= afterChar '-'
    let cs ← afterDigits 1 2 cs >>= afterGap
    let cs ← afterDigits 1 2 cs >>= afterChar ':' >>= afterDigits 2 2 >>= afterChar ':'
    afterDigits 2 2 cs
  match afterSeconds with
  | none => false
  | some ('.' :: rest) => isZone (rest.dropWhile Char.isDigit)
  | some rest => isZone rest

/-- The text would be read back as something else if it were not quoted. -/
def standsForOther (s : String) : Bool :=
  let cs := s.toList
  isNull s || isTruth s || isMark s || isInteger cs || isDecimal cs || isDate cs || isMoment cs

end CortexFlags.Yaml
