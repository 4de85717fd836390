import Criteria.Toml.Quotation
import Criteria.Toml.Table

/-! # TOML words

A single word, read as a segment of a key or as a value.
-/

namespace Criteria.Toml

/-! ## Dates and times

A calendar date, a time of day, or both with an optional offset. Seconds may be left out.
-/

def fixedDigits : (count : Nat) → (acc : Nat) → List Char → Option (Nat × List Char)
  | 0, acc, cs => some (acc, cs)
  | count + 1, acc, c :: rest =>
    if c.isDigit then fixedDigits count (10 * acc + (c.toNat - '0'.toNat)) rest else none
  | _ + 1, _, [] => none

def expectChar (c : Char) : List Char → Option (List Char)
  | d :: rest => if c = d then some rest else none
  | [] => none

def isLeapYear (year : Nat) : Bool := year % 4 = 0 && (year % 100 != 0 || year % 400 = 0)

def daysInMonth (year month : Nat) : Nat :=
  if month = 2 then if isLeapYear year then 29 else 28
  else if month = 4 || month = 6 || month = 9 || month = 11 then 30
  else 31

def readDate (cs : List Char) : Option (List Char) := do
  let (year, cs) ← fixedDigits 4 0 cs
  let cs ← expectChar '-' cs
  let (month, cs) ← fixedDigits 2 0 cs
  guard (1 ≤ month && month ≤ 12)
  let cs ← expectChar '-' cs
  let (day, cs) ← fixedDigits 2 0 cs
  guard (1 ≤ day && day ≤ daysInMonth year month)
  return cs

def readHourMinute (cs : List Char) : Option (List Char) := do
  let (hour, cs) ← fixedDigits 2 0 cs
  guard (hour ≤ 23)
  let cs ← expectChar ':' cs
  let (minute, cs) ← fixedDigits 2 0 cs
  guard (minute ≤ 59)
  return cs

def readSubsecond : List Char → Option (List Char)
  | '.' :: c :: rest => if c.isDigit then some (rest.dropWhile Char.isDigit) else none
  | '.' :: [] => none
  | cs => some cs

/-- A leap second is a second. -/
def readTime (cs : List Char) : Option (List Char) := do
  let cs ← readHourMinute cs
  match cs with
  | ':' :: cs => do
    let (second, cs) ← fixedDigits 2 0 cs
    guard (second ≤ 60)
    readSubsecond cs
  | cs => return cs

def readOffset : List Char → Option (List Char)
  | 'Z' :: rest | 'z' :: rest => some rest
  | '+' :: rest | '-' :: rest => readHourMinute rest
  | cs => some cs

def isMoment (cs : List Char) : Bool :=
  let moment : Option (List Char) :=
    match readDate cs with
    | some (c :: rest) =>
      if c = 'T' || c = 't' || c = ' ' then do readOffset (← readTime rest) else none
    | some [] => some []
    | none => readTime cs
  moment = some []

/-! ## Numbers

Integers in four bases and floating-point numbers. Whether a number is well formed is one question,
and what number it is another: an integer may lack digits, hold such as are none of its base, or
have more of them than any type holds, and is refused only where it is looked at.
-/

/-- Every underscore stands between two digits. -/
def isSpaced (isDigit : Char → Bool) (cs : List Char) : Bool :=
  let parts := cs.splitOn '_'
  parts.tail.all (·.head?.any isDigit) && parts.dropLast.all (·.getLast?.any isDigit)

def withoutUnderscores (cs : List Char) : List Char := cs.filter (· != '_')

def readSign : List Char → Bool × List Char
  | '-' :: rest => (true, rest)
  | '+' :: rest => (false, rest)
  | cs => (false, cs)

/-! ## Integers -/

def isHexDigit (c : Char) : Bool := (hexValue? c).isSome

def isDigitOf (base : Nat) (c : Char) : Bool := (hexValue? c).any (· < base)

def ofDigits (base : Nat) (ds : List Char) : Nat :=
  ds.foldl (fun n c => base * n + (hexValue? c).getD 0) 0

def inWideRange (n : Int) : Bool :=
  -0x80000000000000000000000000000000 ≤ n && n < 0x100000000000000000000000000000000

def integerOf? (base : Nat) (cs : List Char) : Option Int := do
  let (negative, ds) := readSign cs
  guard (!ds.isEmpty && ds.all (isDigitOf base))
  let n : Int := ofDigits base ds
  let n := if negative then -n else n
  guard (inWideRange n)
  return n

/-- The digits after the marker of a base, of which there may be none. -/
def readRadix (base : Nat) (cs : List Char) : Reading Value :=
  if cs.all (fun c => c = '_' || isDigitOf base c) && isSpaced isHexDigit cs then
    .ok (.integer (integerOf? base (withoutUnderscores cs)))
  else .error .malformed

/-- A decimal integer has no leading zero. After its first underscore, any character may follow but a
space; around the underscores, a hexadecimal digit does for a digit. -/
def readInteger (cs : List Char) : Reading Value :=
  let ds := (readSign cs).2
  let tail := ds.dropWhile Char.isDigit
  if !ds.isEmpty && (tail.isEmpty || tail.head? = some '_') && !tail.contains ' ' &&
      (ds.length = 1 || ds.head? != some '0') && isSpaced isHexDigit cs then
    .ok (.integer (integerOf? 10 (withoutUnderscores cs)))
  else .error .malformed

/-! ## Floating-point numbers -/

def digitRun? (cs : List Char) : Option (List Char × List Char) := do
  let ds := cs.takeWhile Char.isDigit
  guard !ds.isEmpty
  return (ds, cs.dropWhile Char.isDigit)

def readFraction? : List Char → Option (List Char × List Char)
  | '.' :: rest => digitRun? rest
  | cs => some ([], cs)

def readExponent? : List Char → Option (Int × List Char)
  | [] => some (0, [])
  | c :: rest =>
    if c = 'e' || c = 'E' then do
      let (negative, rest) := readSign rest
      let (ds, rest) ← digitRun? rest
      let n : Int := ofDigits 10 ds
      return (if negative then -n else n, rest)
    else some (0, c :: rest)

def floatOf? (cs : List Char) : Option Binary64 := do
  let (negative, rest) := readSign cs
  let (whole, rest) ← digitRun? rest
  let (fraction, rest) ← readFraction? rest
  let (exponent, rest) ← readExponent? rest
  guard rest.isEmpty
  return Binary64.ofDecimal negative (ofDigits 10 (whole ++ fraction)) (exponent - fraction.length)

def hasLeadingZero (cs : List Char) : Bool :=
  cs.head? = some '0' && ((withoutUnderscores cs).takeWhile Char.isDigit).length != 1

/-- A number too large to be finite is well formed. -/
def readFloat (cs : List Char) : Reading Value := do
  let x ← orMalformed (floatOf? (withoutUnderscores cs))
  if isSpaced Char.isDigit cs && !hasLeadingZero (readSign cs).2 then
    return .float (if x.isFinite then some x else none)
  else .error .malformed

def named? (cs : List Char) : Option Binary64 :=
  let (negative, rest) := readSign cs
  if rest = ['i', 'n', 'f'] then some (.infinity negative)
  else if rest = ['n', 'a', 'n'] then some .nan
  else none

def readNumber (cs : List Char) : Reading Value :=
  match cs with
  | '0' :: 'x' :: rest => readRadix 16 rest
  | '0' :: 'o' :: rest => readRadix 8 rest
  | '0' :: 'b' :: rest => readRadix 2 rest
  | _ =>
    match named? cs with
    | some x => .ok (.float (some x))
    | none => if cs.any (fun c => c = '.' || c = 'e' || c = 'E') then readFloat cs else readInteger cs

/-! ## Words -/

def isBareKey (c : Char) : Bool := c.isAlphanum || c = '_' || c = '-'

namespace Word

def key (w : Word) : Reading String :=
  match w.quoting with
  | none =>
    if !w.text.isEmpty && w.text.all isBareKey then .ok (String.ofList w.text)
    else .error .malformed
  | some .multiBasic | some .multiLiteral => .error .malformed
  | some q => String.ofList <$> q.read w.text

def bareValue (cs : List Char) : Reading Value :=
  if cs = "true".toList then .ok (.bool true)
  else if cs = "false".toList then .ok (.bool false)
  else if isMoment cs then .ok .datetime
  else readNumber cs

def value (w : Word) : Reading Value :=
  match w.quoting with
  | none => bareValue w.text
  | some q => (fun s => .text (String.ofList s)) <$> q.read w.text

end Word

def maxSegments : Nat := 80

def readPath (key : List Word) : Reading (List String × String) := do
  let names ← key.mapM Word.key
  if maxSegments < names.length then .error .malformed
  else return (names.dropLast, names.getLast?.getD "")

end Criteria.Toml
