import ServiceBoot.Text.Hex
import ServiceBoot.Text.Printable.Table
import ServiceBoot.Text.Ranges

/-!
# Quoted display of a text

A text between quotes, on one line and with every character visible, as messages and log lines
show it.
-/

namespace ServiceBoot.Text.Quoted

def isVisible (c : Char) : Bool := !Ranges.holds Printable.hidden c

/-- Single quotes, unless the text holds one and no double quote. -/
def quoteFor (chars : List Char) : Char :=
  if chars.contains '\'' && !chars.contains '"' then '"' else '\''

/-- A character without a visible form is shown by its number, in the shortest of three widths. -/
def numbered (n : Nat) : List Char :=
  if n < 0x100 then '\\' :: 'x' :: Hex.lower 2 n
  else if n < 0x10000 then '\\' :: 'u' :: Hex.lower 4 n
  else '\\' :: 'U' :: Hex.lower 8 n

def showChar (quote c : Char) : List Char :=
  if c = '\\' ∨ c = quote then ['\\', c]
  else if c = '\n' then ['\\', 'n']
  else if c = '\r' then ['\\', 'r']
  else if c = '\t' then ['\\', 't']
  else if isVisible c then [c]
  else numbered c.toNat

def chars (text : List Char) : List Char :=
  let quote := quoteFor text
  quote :: text.flatMap (showChar quote) ++ [quote]

end ServiceBoot.Text.Quoted

namespace ServiceBoot.Text

def quoted (text : String) : String := String.ofList (Quoted.chars text.toList)

end ServiceBoot.Text
