import ServiceBoot.Text.Ranges

/-!
# Blank characters

The white space of all scripts: blanks of any width, and the controls that move the print position
or separate records.
-/

namespace ServiceBoot.Text

def blanks : Ranges := [
  (0x09, 0x0D), (0x1C, 0x20), (0x85, 0x85), (0xA0, 0xA0), (0x1680, 0x1680), (0x2000, 0x200A),
  (0x2028, 0x2029), (0x202F, 0x202F), (0x205F, 0x205F), (0x3000, 0x3000)]

def isBlank (c : Char) : Bool := blanks.holds c

/-- A blank that does not end the line. -/
def isInnerBlank (c : Char) : Bool := isBlank c && c != '\n' && c != '\r'

def trimEnd (chars : List Char) : List Char := (chars.reverse.dropWhile isBlank).reverse

end ServiceBoot.Text
