import NamedSignal.Text

/-!
Doubles as exact numbers. A finite double is `significand * 2 ^ exponent`; the
decimal forms built on this compare and round in whole numbers only, so no
digit depends on the order in which roundings happen.
-/
namespace NamedSignal.Decimal

/-- A finite double without its sign. -/
structure Binary where
  significand : Nat
  exponent : Int
  /-- The value below is half as far away as the value above. -/
  narrowBelow : Bool
  deriving DecidableEq

/-- What a double is. -/
inductive Double where
  | undefined
  | infinite (negative : Bool)
  | finite (negative : Bool) (magnitude : Binary)
  deriving DecidableEq

/-- A power with a whole exponent; one with a negative exponent counts as one. -/
def power (base : Nat) (exponent : Int) : Nat := Nat.pow base exponent.toNat

/-- The leading digit of a significand, which is not written down. -/
def hiddenDigit : Nat := 0x10000000000000

/-- Read the sign, the exponent and the fraction off the bits. -/
def Double.ofBits (bits : UInt64) : Double :=
  let negative := (bits >>> 63) == 1
  let exponent := ((bits >>> 52) &&& 0x7FF).toNat
  let fraction := (bits &&& 0xFFFFFFFFFFFFF).toNat
  if exponent == 0x7FF then
    if fraction == 0 then .infinite negative else .undefined
  else if exponent == 0 then .finite negative ⟨fraction, -1074, false⟩
  else .finite negative
    ⟨hiddenDigit + fraction, (exponent : Int) - 1075, fraction == 0 && exponent > 1⟩

/-- The double a floating-point number is. -/
def Double.ofFloat (x : Float) : Double := .ofBits x.toBits

/-- A quotient rounded to the nearest whole number, a tie to the even one. -/
def roundDiv (num den : Nat) : Nat :=
  let quotient := num / den
  let remainder := num % den
  if 2 * remainder < den then quotient
  else if den < 2 * remainder then quotient + 1
  else if quotient % 2 == 0 then quotient else quotient + 1

/-- The whole part of a magnitude. -/
def Binary.floor (b : Binary) : Nat :=
  b.significand * power 2 b.exponent / power 2 (-b.exponent)

/-- The magnitude has digits behind the point. -/
def Binary.hasFraction (b : Binary) : Bool :=
  b.significand * power 2 b.exponent % power 2 (-b.exponent) != 0

/-- A double rounded toward zero; what is not finite counts as zero. -/
def truncate (x : Float) : Int :=
  match Double.ofFloat x with
  | .finite negative magnitude =>
    if negative then -(magnitude.floor : Int) else magnitude.floor
  | _ => 0

/-- A double rounded down; what is not finite counts as zero. -/
def floor (x : Float) : Int :=
  match Double.ofFloat x with
  | .finite negative magnitude =>
    if negative then -(magnitude.floor : Int) - (if magnitude.hasFraction then 1 else 0)
    else magnitude.floor
  | _ => 0

end NamedSignal.Decimal
