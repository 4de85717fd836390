/-! # Double-precision numbers

A number is kept as its 64-bit word. Reading one from decimal notation is exact arithmetic on
natural numbers, rounded once.
-/

namespace Criteria

structure Binary64 where
  word : UInt64
deriving DecidableEq, Repr

namespace Binary64

def negative (x : Binary64) : Bool := 1 <<< 63 ≤ x.word.toNat

def magnitude (x : Binary64) : Nat := x.word.toNat % (1 <<< 63)

def exponentField (x : Binary64) : Nat := x.magnitude >>> 52

def fractionField (x : Binary64) : Nat := x.magnitude % (1 <<< 52)

def isNaN (x : Binary64) : Bool := x.exponentField = 2047 && x.fractionField != 0

def isInfinite (x : Binary64) : Bool := x.exponentField = 2047 && x.fractionField = 0

def isFinite (x : Binary64) : Bool := x.exponentField < 2047

/-- The significand `m` of a finite number, whose magnitude is `m * 2 ^ (s - 1074)` with the
shift `s` below. -/
def significand (x : Binary64) : Nat :=
  if x.exponentField = 0 then x.fractionField else x.fractionField + (1 <<< 52)

def shift (x : Binary64) : Nat := x.exponentField - 1

def ofMagnitude (negative : Bool) (n : Nat) : Binary64 :=
  ⟨UInt64.ofNat (if negative then n + (1 <<< 63) else n)⟩

def infinity (negative : Bool) : Binary64 := ofMagnitude negative (2047 <<< 52)

def nan : Binary64 := ofMagnitude false ((2047 <<< 52) + (1 <<< 51))

def roundDiv (num den : Nat) : Nat :=
  let q := num / den
  let twice := 2 * (num % den)
  if twice < den then q
  else if den < twice then q + 1
  else q + q % 2

/-- The magnitude nearest to `num / den` for positive operands, or infinity when it is too large.
The word of a number is its shift times `2 ^ 52` plus its significand, so that a significand
rounded up to the next power of two needs no case of its own. -/
def ofRatio (negative : Bool) (num den : Nat) : Binary64 :=
  -- `num / den` lies in `[2 ^ e, 2 ^ (e + 2))` with `e = log2 num - log2 den - 1`
  let scaled := num <<< 1074
  let s := scaled.log2 - den.log2 - 53
  let s := if 1 <<< 53 ≤ scaled / (den <<< s) then s + 1 else s
  let n := (s <<< 52) + roundDiv scaled (den <<< s)
  if 2047 <<< 52 ≤ n then infinity negative else ofMagnitude negative n

/-- The number nearest to `m * 10 ^ e`. Exponents far outside the range are decided by the number
of digits alone. -/
def ofDecimal (negative : Bool) (m : Nat) (e : Int) : Binary64 :=
  let size : Int := (Nat.toDigits 10 m).length + e
  if m = 0 || size < -330 then ofMagnitude negative 0
  else if 310 < size then infinity negative
  else ofRatio negative (m * Nat.pow 10 e.toNat) (Nat.pow 10 (-e).toNat)

end Binary64

/-! ## Shortest decimal text

A finite number is written with the fewest digits that read back as it. The digits are those of the
coarsest decimal grid that meets the interval of reals rounding to the number. One layout writes all
digits in their places; the other one turns to a power of ten for very large and very small numbers.
A number halfway between two of the shortest texts goes up in the first and to the even digit in the
second.
-/

namespace Binary64

/-- Where a number halfway between two points of a grid goes. -/
inductive Tie
  | up
  | toEven
deriving DecidableEq

def Tie.isDown (tie : Tie) (c : Nat) : Bool :=
  match tie with
  | .up => false
  | .toEven => c % 2 = 0

/-- The point of the grid of multiples of `10 ^ e` that stands for `m * 2 ^ (s - 1074)`, as its
multiple. Everything is counted in units of a quarter of the last place; the interval is closed
when `m` is even. -/
def gridPoint? (tie : Tie) (m s : Nat) (e : Int) : Option Nat :=
  let below := if m = 1 <<< 52 && 0 < s then 1 else 2
  let unit := Nat.pow 10 (-e).toNat <<< s
  let step := Nat.pow 10 e.toNat <<< 1076
  let value := 4 * m * unit
  let low := (4 * m - below) * unit
  let high := (4 * m + 2) * unit
  let inside (c : Nat) : Bool :=
    0 < c && if m % 2 = 0 then low ≤ c * step && c * step ≤ high else low < c * step && c * step < high
  let c := value / step
  match inside c, inside (c + 1) with
  | true, true =>
    let twice := 2 * (value % step)
    if twice < step || twice = step && tie.isDown c then some c else some (c + 1)
  | true, false => some c
  | false, true => some (c + 1)
  | false, false => none

/-- Tries the grids from `10 ^ (n - 325)` down. The last one always has a point. -/
def coarsest (tie : Tie) (m s : Nat) : Nat → Nat × Int
  | 0 => (m, -1074)
  | n + 1 =>
    let e : Int := n - 325
    match gridPoint? tie m s e with
    | some c => (c, e)
    | none => coarsest tie m s n

/-! ## Layouts

A layout writes the digits `ds` of a number whose first digit stands for a multiple of `10 ^ e`. -/

def positional (ds : List Char) (e : Int) : List Char :=
  if e < 0 then
    ['0', '.'] ++ List.replicate (-e - 1).toNat '0' ++ ds
  else
    let whole := e.toNat + 1
    let ds := ds ++ List.replicate (whole + 1 - ds.length) '0'
    ds.take whole ++ '.' :: ds.drop whole

def scientific (ds : List Char) (e : Int) : List Char :=
  let fraction := if ds.length = 1 then [] else '.' :: ds.drop 1
  ds.take 1 ++ fraction ++ 'e' :: (if e < 0 then '-' else '+') :: Nat.toDigits 10 e.natAbs

/-- Every digit in its place from `10 ^ -5` up to `10 ^ 16`. -/
def compact (ds : List Char) (e : Int) : List Char :=
  if -5 ≤ e && e < 16 then positional ds e else scientific ds e

def textIn (tie : Tie) (layout : List Char → Int → List Char) (x : Binary64) : String :=
  let sign := if x.negative then "-" else ""
  if x.isNaN then "NaN"
  else if x.isInfinite then sign ++ "inf"
  else if x.significand = 0 then sign ++ "0.0"
  else
    let (c, e) := coarsest tie x.significand x.shift 634
    let ds := Nat.toDigits 10 c
    sign ++ String.ofList (layout ds (e + ds.length - 1))

def positionalText (x : Binary64) : String := x.textIn .up positional

def compactText (x : Binary64) : String := x.textIn .toEven compact

end Binary64

end Criteria
