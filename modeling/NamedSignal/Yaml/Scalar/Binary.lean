import NamedSignal.Yaml.Character

/-!
Bytes in base 64. Four characters hold three bytes; the last group may be
shorter and is then filled up with equals signs, behind which nothing is read.
Characters outside the alphabet are passed over.
-/
namespace NamedSignal.Yaml.Binary

/-- The six bits a character stands for. -/
def sextet? (c : Char) : Option Nat :=
  if 'A' ≤ c && c ≤ 'Z' then some (c.toNat - 'A'.toNat)
  else if 'a' ≤ c && c ≤ 'z' then some (c.toNat - 'a'.toNat + 26)
  else if c.isDigit then some (c.toNat - '0'.toNat + 52)
  else if c == '+' then some 62
  else if c == '/' then some 63
  else none

/-- The whole bytes in some sextets, the first one first. -/
def whole (sextets : List Nat) : List UInt8 :=
  let bits := 6 * sextets.length
  let value := sextets.foldl (fun total n => total * 64 + n) 0
  (List.range (bits / 8)).map fun i => UInt8.ofNat (value / Nat.pow 2 (bits - 8 * (i + 1)))

/-- Read on in a group of four; `pads` counts the equals signs since its last
character. -/
def scan (group : List Nat) (pads : Nat) : List Char → Option (List UInt8)
  | [] => if group.isEmpty then some [] else none
  | c :: rest =>
    if c == '=' then
      if group.length < 2 then scan group pads rest
      else if 4 ≤ group.length + pads + 1 then some (whole group)
      else scan group (pads + 1) rest
    else match sextet? c with
    | none => scan group pads rest
    | some n =>
      let group := group ++ [n]
      if group.length < 4 then scan group 0 rest
      else (scan [] 0 rest).map (whole group ++ ·)

/-- The bytes a scalar stands for. -/
def ofText (t : Text) : Except Fault (List UInt8) :=
  if !t.isAscii then .error .malformed
  else match t.chars?.bind (scan [] 0) with
  | some bytes => .ok bytes
  | none => .error .malformed

end NamedSignal.Yaml.Binary
