import NamedSignal.Decimal

/-!
The double nearest to a quotient, a tie going to the even significand. The
quotient is scaled to 53 binary digits, or to the last place that doubles have,
and rounded once.
-/
namespace NamedSignal.Decimal

/-- The exponent of the highest power of two that is not above a quotient. -/
def floorLog (num den : Nat) : Int :=
  let estimate := (num.log2 : Int) - den.log2
  if den * power 2 estimate ≤ num * power 2 (-estimate) then estimate else estimate - 1

/-- The bits of a significand of at most 53 digits at an exponent. -/
def assemble (significand : Nat) (exponent : Int) : UInt64 :=
  let (significand, exponent) :=
    if significand == 2 * hiddenDigit then (hiddenDigit, exponent + 1) else (significand, exponent)
  if 971 < exponent then UInt64.ofNat (0x7FF * hiddenDigit)
  else if significand < hiddenDigit then UInt64.ofNat significand
  else UInt64.ofNat ((exponent + 1075).toNat * hiddenDigit + (significand - hiddenDigit))

/-- The double nearest to a quotient. -/
def nearest (num den : Nat) : Float :=
  if num == 0 then 0
  else
    let exponent := max (floorLog num den - 52) (-1074)
    let significand := roundDiv (num * power 2 (-exponent)) (den * power 2 exponent)
    Float.ofBits (assemble significand exponent)

/-- The double above all numbers. -/
def infinity : Float := Float.ofBits 0x7FF0000000000000

/-- The double nearest to `digits * 10 ^ exponent`. Powers far out of range are
not computed. -/
def nearestScientific (digits : Nat) (exponent : Int) : Float :=
  if digits == 0 || digits.log2 + exponent < -400 then 0
  else if 400 < exponent then infinity
  else nearest (digits * power 10 exponent) (power 10 (-exponent))

end NamedSignal.Decimal
