import NamedSignal.Text

/-!
Bytes and text. `decode` reads the longest scalar value that UTF-8 allows at
each place and lets any other byte stand for itself, so no byte is lost, and
`encode` gives the bytes back. The strict forms refuse what UTF-8 cannot hold.
-/
namespace NamedSignal.Utf8

/-- A byte that continues a longer scalar. -/
def isTail (b : UInt8) : Bool := 0x80 ≤ b && b ≤ 0xBF

/-- The six low bits a continuation byte carries. -/
def low (b : UInt8) : Nat := b.toNat - 0x80

/-- The scalar value that the bytes begin with, and how many bytes follow its
first. Overlong forms, surrogates and values beyond Unicode are no scalars. -/
def scalar? : List UInt8 → Option (Char × Nat)
  | a :: rest =>
    if a < 0x80 then some (Char.ofNat a.toNat, 0)
    else match rest with
    | b :: rest =>
      if !isTail b then none
      else if 0xC2 ≤ a && a ≤ 0xDF then
        some (Char.ofNat ((a.toNat - 0xC0) * 64 + low b), 1)
      else match rest with
      | c :: rest =>
        if !isTail c then none
        else if 0xE0 ≤ a && a ≤ 0xEF then
          if a == 0xE0 && b < 0xA0 || a == 0xED && 0xA0 ≤ b then none
          else some (Char.ofNat ((a.toNat - 0xE0) * 4096 + low b * 64 + low c), 2)
        else match rest with
        | d :: _ =>
          if !isTail d then none
          else if 0xF0 ≤ a && a ≤ 0xF4 then
            if a == 0xF0 && b < 0x90 || a == 0xF4 && 0x90 ≤ b then none
            else some
              (Char.ofNat ((a.toNat - 0xF0) * 262144 + low b * 4096 + low c * 64 + low d), 3)
          else none
        | [] => none
      | [] => none
    | [] => none
  | [] => none

private theorem length_drop_le (n : Nat) (bytes : List UInt8) :
    (bytes.drop n).length ≤ bytes.length := by
  rw [List.length_drop]
  exact Nat.sub_le ..

/-- The text of any bytes: a byte outside every scalar becomes a stray one (`os.fsdecode`). -/
def decode : List UInt8 → Text
  | [] => []
  | a :: rest =>
    match scalar? (a :: rest) with
    | some (c, more) => .char c :: decode (rest.drop more)
    | none => .stray a :: decode rest
termination_by bytes => bytes.length
decreasing_by
  · exact Nat.lt_succ_of_le (length_drop_le more rest)
  · exact Nat.lt_succ_self _

/-- The characters of well-formed bytes. -/
def decodeStrict? (bytes : List UInt8) : Option (List Char) :=
  match bytes with
  | [] => some []
  | a :: rest =>
    match scalar? (a :: rest) with
    | some (c, more) => (decodeStrict? (rest.drop more)).map (c :: ·)
    | none => none
termination_by bytes.length
decreasing_by exact Nat.lt_succ_of_le (length_drop_le more rest)

/-- The UTF-8 form of a code point. -/
def ofCode (n : Nat) : List UInt8 :=
  if n < 0x80 then [UInt8.ofNat n]
  else if n < 0x800 then [UInt8.ofNat (0xC0 + n / 64), UInt8.ofNat (0x80 + n % 64)]
  else if n < 0x10000 then
    [UInt8.ofNat (0xE0 + n / 4096), UInt8.ofNat (0x80 + n / 64 % 64), UInt8.ofNat (0x80 + n % 64)]
  else
    [UInt8.ofNat (0xF0 + n / 262144), UInt8.ofNat (0x80 + n / 4096 % 64),
      UInt8.ofNat (0x80 + n / 64 % 64), UInt8.ofNat (0x80 + n % 64)]

/-- The symbol stands for bytes: it is a scalar value or a stray byte. -/
def isEncodable : Symbol → Bool
  | .char _ => true
  | .lone offset => 0x480 ≤ offset.val && offset.val < 0x500

/-- The bytes of a symbol: a stray byte is itself. Other lone surrogates come
from no bytes; they take the three-byte form. -/
def ofSymbol : Symbol → List UInt8
  | .char c => ofCode c.toNat
  | .lone offset =>
    if 0x480 ≤ offset.val && offset.val < 0x500 then [UInt8.ofNat (offset.val - 0x400)]
    else ofCode (0xD800 + offset.val)

/-- The bytes of a text (`os.fsencode`). -/
def encode (t : Text) : List UInt8 := t.flatMap ofSymbol

/-- The UTF-8 bytes of a text that holds scalar values only. -/
def encodeStrict? (t : Text) : Option (List UInt8) :=
  t.chars?.map fun cs => cs.flatMap fun c => ofCode c.toNat

end NamedSignal.Utf8
