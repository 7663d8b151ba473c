import NamedSignal.Text

/-!
Capital forms that stay within ASCII. A few characters outside ASCII have ASCII
capitals, some of them more than one; a text with any other such character has
no ASCII capital form and so equals no ASCII word.
-/
namespace NamedSignal.Text

/-- The capital form of a character, where it is ASCII. -/
def capital? (c : Char) : Option (List Char) :=
  if c.toNat < 0x80 then some [c.toUpper]
  else match c.toNat with
  | 0xDF => some ['S', 'S']
  | 0x131 => some ['I']
  | 0x17F => some ['S']
  | 0xFB00 => some ['F', 'F']
  | 0xFB01 => some ['F', 'I']
  | 0xFB02 => some ['F', 'L']
  | 0xFB03 => some ['F', 'F', 'I']
  | 0xFB04 => some ['F', 'F', 'L']
  | 0xFB05 => some ['S', 'T']
  | 0xFB06 => some ['S', 'T']
  | _ => none

/-- The capital form of a text, where it is ASCII throughout (`str.upper`). -/
def capitals? (t : Text) : Option (List Char) := do
  let forms ← (← t.chars?).mapM capital?
  return forms.flatten

end NamedSignal.Text
