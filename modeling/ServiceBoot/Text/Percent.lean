import ServiceBoot.Text.Hex

/-!
# Percent encoding

Every character outside a chosen set becomes the bytes of its UTF-8 form, each written as a
percent sign and two capital hexadecimal digits.
-/

namespace ServiceBoot.Text.Percent

/-- Letters, digits and the four marks that every part of an address may hold. -/
def isUnreserved (c : Char) : Bool :=
  c.isAlphanum || c == '_' || c == '.' || c == '-' || c == '~'

def byte (b : UInt8) : List Char := '%' :: Hex.upper 2 b.toNat

def chars (keeps : Char → Bool) (text : List Char) : List Char :=
  text.flatMap fun c ↦ if keeps c then [c] else (String.utf8EncodeChar c).flatMap byte

def encode (keeps : Char → Bool) (text : String) : String :=
  String.ofList (chars keeps text.toList)

/-- The form for values of a query: only unreserved characters stay, and a space is a plus. -/
def encodeQuery (text : String) : String :=
  String.ofList ((chars (fun c ↦ isUnreserved c || c == ' ') text.toList).map
    fun c ↦ if c = ' ' then '+' else c)

end ServiceBoot.Text.Percent
