import NamedSignal.Decimal.Nearest
import NamedSignal.Numeral
import NamedSignal.Yaml.Character
import NamedSignal.Yaml.Value

/-!
Numbers written as scalars. Underscores group digits and count for nothing. A
whole number may be written in base two, eight, ten or sixteen, and both kinds
of numbers in base sixty with colons between the places.
-/
namespace NamedSignal.Yaml.Number

def colon : Symbol := .char ':'

/-- The numeral without underscores. -/
def ungrouped (t : Text) : Text := t.filter (· != .char '_')

/-- Whether a minus comes first, and what follows the sign. -/
def takeSign : Text → Bool × Text
  | .char '-' :: rest => (true, rest)
  | .char '+' :: rest => (false, rest)
  | t => (false, t)

/-- The value of a digit, letters included. -/
def digit? (s : Symbol) : Option Nat :=
  match s.decimal?, s with
  | some n, _ => some n
  | none, .char c =>
    if 'a' ≤ c && c ≤ 'z' then some (c.toNat - 'a'.toNat + 10)
    else if 'A' ≤ c && c ≤ 'Z' then some (c.toNat - 'A'.toNat + 10)
    else none
  | none, .lone _ => none

/-- A numeral without what marks its base: a zero and a letter in either case. -/
def withoutMark (letter : Char) (t : Text) : Text :=
  match t with
  | zero :: .char c :: rest =>
    if zero.decimal? == some 0 && c.toLower == letter then rest else t
  | _ => t

/-- A number in a base that is a power of two, marked by a letter or not. -/
def inBase? (base : Nat) (letter : Char) (t : Text) : Option Int := do
  let (negative, t) := takeSign (t.trim Symbol.isSpace)
  let digits ← (withoutMark letter t).mapM digit?
  if digits.isEmpty || digits.any (base ≤ ·) then none
  let value : Int := Numeral.value base digits
  return if negative then -value else value

/-- A number in base ten. -/
def decimal? (t : Text) : Option Int := do
  let (negative, t) := takeSign (t.trim Symbol.isSpace)
  let value : Int ← Numeral.decimal? t
  return if negative then -value else value

/-- A number in any base, its sign taken off. -/
def magnitude? (t : Text) : Option Int :=
  match t with
  | [.char '0'] => some 0
  | .char '0' :: .char 'b' :: rest => inBase? 2 'b' rest
  | .char '0' :: .char 'x' :: rest => inBase? 16 'x' rest
  | .char '0' :: _ => inBase? 8 'o' t
  | _ =>
    if t.contains colon then do
      let places ← (t.splitOn colon).mapM decimal?
      return places.foldl (fun total place => total * 60 + place) 0
    else decimal? t

/-- The whole number a scalar stands for. -/
def int (t : Text) : Except Fault Int :=
  let (negative, t) := takeSign (ungrouped t)
  if t.isEmpty then .error .emptyNumeral
  else match magnitude? t with
  | some n => .ok (if negative then -n else n)
  | none => .error .outOfRange

/-- Decimal digits and what follows them. -/
def takeDigits (t : Text) : List Nat × Text :=
  let digits := t.takeWhile (·.decimal?.isSome)
  (digits.filterMap Symbol.decimal?, t.drop digits.length)

/-- The exponent of ten at the end of a numeral; without one it is zero. -/
def exponent? (t : Text) : Option Int :=
  match t with
  | [] => some 0
  | .char 'e' :: rest =>
    let (negative, rest) := takeSign rest
    let (digits, rest) := takeDigits rest
    if digits.isEmpty || !rest.isEmpty then none
    else
      let value : Int := Numeral.value 10 digits
      some (if negative then -value else value)
  | _ => none

/-- A double in small letters, without its sign. -/
def unsigned? (t : Text) : Option Float :=
  if t == Text.ofString "inf" || t == Text.ofString "infinity" then some Decimal.infinity
  else if t == Text.ofString "nan" then some (0 / 0)
  else
    let (whole, rest) := takeDigits t
    let (fraction, rest) := match rest with
      | .char '.' :: rest => takeDigits rest
      | rest => ([], rest)
    if whole.isEmpty && fraction.isEmpty then none
    else (exponent? rest).map fun exponent =>
      Decimal.nearestScientific (Numeral.value 10 (whole ++ fraction)) (exponent - fraction.length)

/-- A double in base ten. -/
def double? (t : Text) : Option Float := do
  let (negative, t) := takeSign (t.trim Symbol.isSpace)
  let value ← unsigned? t
  return if negative then -value else value

/-- Doubles as the places of a numeral in base sixty, the last one first. -/
def sumPlaces (power : Nat) (total : Float) : List Float → Except Fault Float
  | [] => .ok total
  | place :: rest =>
    let scale := Decimal.nearest power 1
    if scale == Decimal.infinity then .error .tooLarge
    else sumPlaces (power * 60) (total + place * scale) rest

/-- A text with ASCII letters made small. -/
def lower (t : Text) : Text :=
  t.map fun
    | .char c => .char c.toLower
    | s => s

/-- The double a scalar with a given number stands for. -/
def float (origin : Nat) (t : Text) : Except Fault Value := do
  let t := lower (ungrouped t)
  if t.isEmpty then .error .emptyNumeral
  let (negative, t) := takeSign t
  if t == Text.ofString ".nan" then return .undefined 0
  let value ←
    if t == Text.ofString ".inf" then pure Decimal.infinity
    else if t.contains colon then
      match (t.splitOn colon).mapM double? with
      | some places => sumPlaces 1 0 places.reverse
      | none => .error .outOfRange
    else match double? t with
    | some value => pure value
    | none => .error .outOfRange
  if value.isNaN then return .undefined (origin + 1)
  return .float (if negative then -value else value)

end NamedSignal.Yaml.Number
