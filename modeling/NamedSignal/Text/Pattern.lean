/-!
Regular patterns over characters. A pattern accepts a word if what is left of
it after the word's characters, one after another, accepts the empty word.
-/
namespace NamedSignal

/-- A set of words. -/
inductive Pattern where
  | never
  | empty
  | one (accepts : Char → Bool)
  | both (first second : Pattern)
  | either (first second : Pattern)
  | many (pattern : Pattern)

namespace Pattern

/-- The empty word is accepted. -/
def acceptsEmpty : Pattern → Bool
  | never => false
  | empty => true
  | one _ => false
  | both p q => p.acceptsEmpty && q.acceptsEmpty
  | either p q => p.acceptsEmpty || q.acceptsEmpty
  | many _ => true

/-- One pattern behind another, without parts that add nothing. -/
def followedBy : Pattern → Pattern → Pattern
  | never, _ => never
  | empty, q => q
  | p, q => both p q

/-- One pattern or another, without a part that accepts no word. -/
def orElse : Pattern → Pattern → Pattern
  | never, q => q
  | p, never => p
  | p, q => either p q

/-- What may follow once a character is taken. -/
def after (c : Char) : Pattern → Pattern
  | never => never
  | empty => never
  | one accepts => if accepts c then empty else never
  | both p q =>
    let inside := (p.after c).followedBy q
    if p.acceptsEmpty then inside.orElse (q.after c) else inside
  | either p q => (p.after c).orElse (q.after c)
  | many p => (p.after c).followedBy (many p)

/-- The word is accepted. -/
def accepts (p : Pattern) (word : List Char) : Bool :=
  (word.foldl (fun left c => left.after c) p).acceptsEmpty

/-- A pattern that may be left out. -/
def optional (p : Pattern) : Pattern := either p empty

/-- A pattern that comes at least once. -/
def repeated (p : Pattern) : Pattern := both p (many p)

/-- Patterns one after another. -/
def sequence (ps : List Pattern) : Pattern := ps.foldr both empty

/-- One of several patterns. -/
def choice (ps : List Pattern) : Pattern := ps.foldr either never

/-- A single character. -/
def char (c : Char) : Pattern := one (· == c)

/-- A character out of a string. -/
def among (chars : String) : Pattern := one fun c => chars.toList.contains c

/-- A fixed word. -/
def word (w : String) : Pattern := sequence (w.toList.map char)

/-- One of several fixed words. -/
def words (ws : List String) : Pattern := choice (ws.map word)

/-- A pattern a fixed number of times. -/
def times (count : Nat) (p : Pattern) : Pattern := sequence (List.replicate count p)

end Pattern
end NamedSignal
