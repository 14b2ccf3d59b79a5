import ServiceBoot.Api.Attempt
import ServiceBoot.Conf

/-!
# Tokens

A request is authorized by a token in the header that the configuration names. The token is compared
with the known ones in their order, up to the first that it equals.
-/

namespace ServiceBoot.Api.Token

def isAscii (text : String) : Bool := text.toList.all fun c ↦ c.toNat < 0x80

/-- Tokens are compared in a time that tells nothing about them, which works for ASCII alone. -/
def areEqual (given known : String) : Except Fault Bool :=
  if isAscii given && isAscii known then .ok (given == known) else .error .tokensNotComparable

def isAmong (given : String) : List String → Except Fault Bool
  | [] => .ok false
  | known :: others => do if ← areEqual given known then pure true else isAmong given others

def isSendable (c : Char) : Bool := c.toNat < 0x100

/-- The first characters of a text that cannot be sent. -/
def unsendable? (text : String) : Option Unsendable :=
  let start := text.toList.takeWhile isSendable
  let rest := text.toList.dropWhile isSendable
  rest.head?.map fun first ↦
    ⟨first, start.length, (rest.takeWhile fun c ↦ !isSendable c).length⟩

/-- The token that a request carries. Without the name of a header there is none. -/
def given? (conf : Conf) (request : Http.Request) : Except Fault (Option String) :=
  if conf.authHeaderName = "" then .ok none
  else
    let name := Text.lowercase conf.authHeaderName
    match unsendable? name with
    | some characters => .error (.unsendableHeaderName characters)
    | none => .ok (request.header? name)

def authorizes (conf : Conf) (request : Http.Request) : Except Fault Bool := do
  match ← given? conf request with
  | none | some "" => pure false
  | some token => isAmong token conf.authTokens

end ServiceBoot.Api.Token
