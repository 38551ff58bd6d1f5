/-! Numbers: double-precision binary floating point, held by their bits. Two numbers are the same
when their bits are, so zero and minus zero differ and a NaN is itself. -/

namespace Offside

structure Number where
  bits : UInt64
deriving DecidableEq, Repr

namespace Number

/-- What the bits stand for. A finite number is `mantissa * 2 ^ exponent`. -/
inductive Value where
  | finite (negative : Bool) (mantissa : Nat) (exponent : Int)
  | infinite (negative : Bool)
  | undefined
deriving DecidableEq, Repr

/-- A mantissa has 52 bits beside its leading one. -/
def fieldSize : Nat := 0x10000000000000

def value (number : Number) : Value :=
  let bits := number.bits.toNat
  let negative := decide (0x8000000000000000 ≤ bits)
  let field := bits % fieldSize
  let biased := bits / fieldSize % 2048
  if biased = 2047 then if field = 0 then .infinite negative else .undefined
  else if biased = 0 then .finite negative field (-1074)
  else .finite negative (fieldSize + field) (biased - 1075)

/-- The bits of infinity. -/
def infinityBits : Nat := 2047 * fieldSize

/-- The number nearest to a quotient, an exact half going to the even mantissa. Quotients too large
for a finite number give infinity. -/
def ofQuotient (numerator denominator : Nat) : Number :=
  if numerator = 0 ∨ denominator = 0 then ⟨0⟩
  else
    let guess : Int := (numerator.log2 : Int) - denominator.log2
    let below := numerator <<< (-guess).toNat < denominator <<< guess.toNat
    let leading := if below then guess - 1 else guess
    let exponent := max (leading - 52) (-1074)
    let scaled := numerator <<< (-exponent).toNat
    let unit := denominator <<< exponent.toNat
    let floor := scaled / unit
    let twice := 2 * (scaled % unit)
    let mantissa :=
      if twice < unit then floor
      else if unit < twice then floor + 1
      else floor + floor % 2
    ⟨UInt64.ofNat (min ((exponent + 1074).toNat * fieldSize + mantissa) infinityBits)⟩

end Number

end Offside
