import NamedSignal.Decimal

/-!
Doubles with a fixed number of places. The exact value is rounded once, and a
tie goes to the even digit; a negative value keeps its sign even when all its
digits are zero.
-/
namespace NamedSignal.Decimal

/-- A whole number of units of the last place, with the point set. -/
def withPoint (places units : Nat) : Text :=
  let digits := Nat.toDigits 10 units
  let filled := List.replicate (places + 1 - digits.length) '0' ++ digits
  let whole := filled.length - places
  (filled.take whole ++ '.' :: filled.drop whole).map .char

/-- The magnitude in units of the last place. -/
def Binary.units (places : Nat) (b : Binary) : Nat :=
  roundDiv (b.significand * power 2 b.exponent * power 10 places) (power 2 (-b.exponent))

/-- A double with a fixed number of places (`float.__format__`). -/
def fixed (places : Nat) (x : Float) : Text :=
  match Double.ofFloat x with
  | .undefined => Text.ofString "nan"
  | .infinite negative => Text.ofString (if negative then "-inf" else "inf")
  | .finite negative magnitude =>
    (if negative then [.char '-'] else []) ++ withPoint places (magnitude.units places)

end NamedSignal.Decimal
