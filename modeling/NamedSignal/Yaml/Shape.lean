import NamedSignal.Text.Pattern

/-!
The shapes of plain scalars that are no text: truth words, numerals, moments
and the words for nothing (the resolver of `PyYAML`).
-/
namespace NamedSignal.Yaml.Shape

open Pattern

def digit : Pattern := one Char.isDigit

/-- A digit or the mark that groups digits. -/
def figure : Pattern := one fun c => c.isDigit || c == '_'

/-- A digit other than zero. -/
def leading : Pattern := one fun c => c.isDigit && c != '0'

def sign : Pattern := optional (among "+-")

/-- The part of a sexagesimal numeral behind a colon. -/
def sixtieth : Pattern := sequence [char ':', optional (among "012345"), digit]

def exponent : Pattern := optional (sequence [among "eE", among "+-", repeated digit])

def bool : Pattern := words [
  "yes", "Yes", "YES", "no", "No", "NO", "true", "True", "TRUE", "false", "False", "FALSE",
  "on", "On", "ON", "off", "Off", "OFF"]

def float : Pattern := choice [
  sequence [sign, digit, many figure, char '.', many figure, exponent],
  sequence [char '.', digit, many figure, exponent],
  sequence [sign, digit, many figure, repeated sixtieth, char '.', many figure],
  sequence [sign, words [".inf", ".Inf", ".INF"]],
  words [".nan", ".NaN", ".NAN"]]

def int : Pattern := choice [
  sequence [sign, word "0b", repeated (among "01_")],
  sequence [sign, char '0', repeated (among "01234567_")],
  sequence [sign, choice [char '0', sequence [leading, many figure]]],
  sequence [sign, word "0x", repeated (among "0123456789abcdefABCDEF_")],
  sequence [sign, leading, many figure, repeated sixtieth]]

/-- A digit or two. -/
def few : Pattern := sequence [digit, optional digit]

def moment : Pattern := choice [
  sequence [times 4 digit, char '-', times 2 digit, char '-', times 2 digit],
  sequence [
    times 4 digit, char '-', few, char '-', few,
    choice [among "Tt", repeated (among " \t")],
    few, char ':', times 2 digit, char ':', times 2 digit,
    optional (sequence [char '.', many digit]),
    optional (sequence [
      many (among " \t"),
      choice [
        char 'Z',
        sequence [among "+-", few, optional (sequence [char ':', times 2 digit])]]])]]

def null : Pattern := words ["~", "null", "Null", "NULL", ""]

end NamedSignal.Yaml.Shape
