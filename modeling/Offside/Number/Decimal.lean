import Offside.Number

/-! Decimal text of numbers: reading to the nearest number, and writing the fewest digits that read
back. Numbers are written without an exponent, however large or small they are. -/

namespace Offside.Number

/-- `digits * 10 ^ exponent`, rounded to the nearest number. -/
def ofDecimal (digits : Nat) (exponent : Int) : Number :=
  let order := exponent + (Nat.toDigits 10 digits).length
  if digits = 0 ∨ order < -400 then ⟨0⟩
  else if 400 < order then ⟨UInt64.ofNat infinityBits⟩
  else ofQuotient (digits * Nat.pow 10 exponent.toNat) (Nat.pow 10 (-exponent).toNat)

/-- The value of a run of decimal digits. -/
def digitsValue (cs : List Char) : Nat := cs.foldl (fun n c => 10 * n + (c.toNat - '0'.toNat)) 0

/-- An exponent mark with a sign or without, and its digits. -/
def exponent? : List Char → Option Int
  | [] => some 0
  | mark :: cs =>
    if mark = 'e' || mark = 'E' then
      let (negative, digits) := match cs with
        | '-' :: digits => (true, digits)
        | '+' :: digits => (false, digits)
        | digits => (false, digits)
      if digits.isEmpty || !digits.all Char.isDigit then none
      else some (if negative then -(digitsValue digits : Int) else digitsValue digits)
    else none

/-- Reads digits with a fraction and an exponent, each of which may be missing. -/
def ofText? (cs : List Char) : Option Number :=
  let whole := cs.takeWhile Char.isDigit
  let afterWhole := cs.dropWhile Char.isDigit
  let (fraction, afterFraction) := match afterWhole with
    | '.' :: rest => (rest.takeWhile Char.isDigit, rest.dropWhile Char.isDigit)
    | rest => ([], rest)
  if whole.isEmpty && fraction.isEmpty then none
  else (exponent? afterFraction).map fun exponent =>
    ofDecimal (digitsValue (whole ++ fraction)) (exponent - fraction.length)

/-- A decimal: `digits * 10 ^ exponent`. -/
structure Decimal where
  digits : Nat
  exponent : Int
deriving DecidableEq, Repr

/-- The decimals that read back as `mantissa * 2 ^ exponent`: those between the two ends, which are
given in quarters of the last place and belong to the interval when the mantissa is even. -/
structure Interval where
  low : Nat
  high : Nat
  closed : Bool

def interval (mantissa : Nat) (exponent : Int) : Interval where
  low := if mantissa = fieldSize ∧ -1074 < exponent then 4 * mantissa - 1 else 4 * mantissa - 2
  high := 4 * mantissa + 2
  closed := mantissa % 2 == 0

/-- The multiple of `10 ^ place` nearest to `mantissa * 2 ^ exponent` among those that read back as
it. Of two that are equally near the larger one is taken. -/
def onGrid? (mantissa : Nat) (exponent place : Int) : Option Decimal :=
  -- quarters of the last place over a common denominator
  let binary := exponent - 2
  let up := Nat.pow 10 (-place).toNat <<< binary.toNat
  let unit := Nat.pow 10 place.toNat <<< (-binary).toNat
  let exact := 4 * mantissa * up
  let ends := interval mantissa exponent
  let inside (digits : Nat) : Bool :=
    let point := digits * unit
    ends.low * up < point && point < ends.high * up ||
      ends.closed && (point == ends.low * up || point == ends.high * up)
  let floor := exact / unit
  let remainder := exact % unit
  let roundedUp := unit ≤ 2 * remainder
  if inside floor && !(inside (floor + 1) && roundedUp) then some ⟨floor, place⟩
  else if inside (floor + 1) then some ⟨floor + 1, place⟩
  else none

/-- The place of the first digit of the largest number. -/
def topPlace : Int := 309

/-- The fewest digits that read back. A coarser grid of decimals lies inside a finer one, so the
first grid with a point in the interval has them. -/
def shortest (mantissa : Nat) (exponent : Int) : Decimal :=
  ((List.range 700).findSome? fun (step : Nat) => onGrid? mantissa exponent (topPlace - step)).getD ⟨0, 0⟩

/-- Plain notation, without an exponent. -/
def Decimal.plain (decimal : Decimal) : List Char :=
  let digits := Nat.toDigits 10 decimal.digits
  if 0 ≤ decimal.exponent then digits ++ List.replicate decimal.exponent.toNat '0'
  else
    let places := (-decimal.exponent).toNat
    let padded := List.replicate (places + 1 - digits.length) '0' ++ digits
    padded.take (padded.length - places) ++ '.' :: padded.drop (padded.length - places)

def signed (negative : Bool) (text : List Char) : List Char := if negative then '-' :: text else text

/-- A number as it is shown. -/
def render (number : Number) : String :=
  match number.value with
  | .undefined => "NaN"
  | .infinite negative => String.ofList (signed negative ['i', 'n', 'f'])
  | .finite negative mantissa exponent =>
    if mantissa = 0 then String.ofList (signed negative ['0'])
    else String.ofList (signed negative (shortest mantissa exponent).plain)

end Offside.Number
