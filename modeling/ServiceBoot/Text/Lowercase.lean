import ServiceBoot.Text.Lowercase.Table
import ServiceBoot.Text.Ranges

/-!
# Lowercase of a text

The full lowercase mapping: one character for one, but for the dotted capital I, which becomes
two, and for the capital sigma, which takes its final form at the end of a word.
-/

namespace ServiceBoot.Text.Lowercase

def Run.holds (run : Run) (n : Nat) : Bool :=
  run.first ≤ n && n ≤ run.last && (n - run.first) % run.step == 0

/-- The small letter of a character, whatever its neighbours. -/
def char (c : Char) : Char :=
  match runs.find? (·.holds c.toNat) with
  | some run => Char.ofNat (c.toNat + run.shift).toNat
  | none => c

def isSkipped (c : Char) : Bool := Ranges.holds caseIgnorable c

def isCased (c : Char) : Bool := Ranges.holds cased c

/-- Whether the first character that is not skipped has case. -/
def meetsCased (chars : List Char) : Bool :=
  ((chars.dropWhile isSkipped).head?.map isCased).getD false

/-- A sigma is final after a letter and not before one. -/
def isFinal (before after : List Char) : Bool := meetsCased before && !meetsCased after

/-- The lowercase of a text whose already treated characters are given in reverse. -/
def following (before : List Char) : List Char → List Char
  | [] => []
  | c :: after =>
    let small :=
      if c = 'Σ' then [if isFinal before after then 'ς' else 'σ']
      else if c = 'İ' then ['i', '\u0307']
      else [char c]
    small ++ following (c :: before) after

def chars (text : List Char) : List Char := following [] text

end ServiceBoot.Text.Lowercase

namespace ServiceBoot.Text

def lowercase (text : String) : String := String.ofList (Lowercase.chars text.toList)

end ServiceBoot.Text
