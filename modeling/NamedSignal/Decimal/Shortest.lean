import NamedSignal.Decimal

/-!
The fewest digits that read back to the same double. Among decimals of that
many digits the nearest is taken, a tie going to the even digit. Values from
0.0001 up to 10^16 are written positionally, all others with an exponent of at
least two digits.
-/
namespace NamedSignal.Decimal

/-- `digits * 10 ^ exponent`. -/
structure Scientific where
  digits : Nat
  exponent : Int
  deriving DecidableEq

/-- Compare `a * 10 ^ i` with `n * 2 ^ j`. -/
def compareScaled (a : Nat) (i : Int) (n : Nat) (j : Int) : Ordering :=
  compare (a * power 10 i * power 2 (-j)) (n * power 2 j * power 10 (-i))

/-- The decimal lies among the reals that round to the double. -/
def Binary.readsBack (b : Binary) (d : Scientific) : Bool :=
  let below := if b.narrowBelow then 4 * b.significand - 1 else 4 * b.significand - 2
  let above := 4 * b.significand + 2
  let closed := b.significand % 2 == 0
  let low := compareScaled d.digits d.exponent below (b.exponent - 2)
  let high := compareScaled d.digits d.exponent above (b.exponent - 2)
  (low == .gt || closed && low == .eq) && (high == .lt || closed && high == .eq)

/-- The least `k` with the magnitude below `10 ^ k`, looked for upward. -/
def Binary.scaleFrom (b : Binary) : Nat → Int → Int
  | 0, k => k
  | fuel + 1, k =>
    if compareScaled 1 k b.significand b.exponent == .gt then k else b.scaleFrom fuel (k + 1)

/-- The decimal exponent just above the magnitude. The start is at most two
below it, since 1233 / 4096 is a little less than the logarithm of 2. -/
def Binary.scale (b : Binary) : Int :=
  let bits := (b.significand.log2 : Int) + b.exponent
  b.scaleFrom 8 (Int.fdiv (bits * 1233) 4096 - 1)

/-- The nearest decimal with a given last place that reads back, if one does. -/
def Binary.onGrid? (b : Binary) (exponent : Int) : Option Scientific :=
  let num := b.significand * power 2 b.exponent * power 10 (-exponent)
  let den := power 2 (-b.exponent) * power 10 exponent
  let near := roundDiv num den
  let far := if near * den ≤ num then near + 1 else near - 1
  if b.readsBack ⟨near, exponent⟩ then some ⟨near, exponent⟩
  else if b.readsBack ⟨far, exponent⟩ then some ⟨far, exponent⟩
  else none

/-- Zeros at the end of the digits moved into the exponent. -/
def Scientific.stripZeros (d : Scientific) : Nat → Scientific
  | 0 => d
  | fuel + 1 =>
    if d.digits != 0 && d.digits % 10 == 0 then
      Scientific.stripZeros ⟨d.digits / 10, d.exponent + 1⟩ fuel
    else d

/-- The decimal with the fewest digits that reads back; the exact value should
seventeen digits not suffice. -/
def Binary.shortest (b : Binary) : Scientific :=
  let found := (List.range 17).findSome? fun (fewer : Nat) =>
    b.onGrid? (b.scale - (fewer + 1 : Nat))
  let chosen := found.getD
    ⟨b.significand * power 2 b.exponent * power 5 (-b.exponent), min b.exponent 0⟩
  chosen.stripZeros 18

/-- The decimal laid out with a point or an exponent. -/
def Scientific.layout (d : Scientific) : Text :=
  let digits := Nat.toDigits 10 d.digits
  let lead := (digits.length : Int) + d.exponent - 1
  let zeros (n : Int) := List.replicate n.toNat '0'
  let written :=
    if lead < -4 || 16 ≤ lead then
      let tail := digits.drop 1
      let mark := if tail.isEmpty then [] else '.' :: tail
      let power := Nat.toDigits 10 lead.natAbs
      digits.take 1 ++ mark ++ ['e', if lead < 0 then '-' else '+'] ++
        List.replicate (2 - power.length) '0' ++ power
    else if lead < 0 then '0' :: '.' :: zeros (-lead - 1) ++ digits
    else
      let whole := (lead + 1).toNat
      let padded := digits ++ zeros (whole - digits.length)
      let tail := padded.drop whole
      padded.take whole ++ '.' :: (if tail.isEmpty then ['0'] else tail)
  written.map .char

/-- A double by its fewest digits (`float.__repr__`). -/
def shortest (x : Float) : Text :=
  match Double.ofFloat x with
  | .undefined => Text.ofString "nan"
  | .infinite negative => Text.ofString (if negative then "-inf" else "inf")
  | .finite negative magnitude =>
    (if negative then [.char '-'] else []) ++
      (if magnitude.significand == 0 then Text.ofString "0.0" else magnitude.shortest.layout)

end NamedSignal.Decimal
