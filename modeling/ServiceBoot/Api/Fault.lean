import ServiceBoot.Conf.Invalid
import ServiceBoot.Text.Numeral
import ServiceBoot.Text.Quoted

/-!
# Faults while a request is answered

What can go wrong inside the service that is no fault of the request. Every such fault ends in the
same answer; its cause is logged.
-/

namespace ServiceBoot.Api

/-- Characters that stand side by side in a text and cannot be sent in a header. -/
structure Unsendable where
  first : Char
  start : Nat
  length : Nat
  deriving DecidableEq, Repr

inductive Fault where
  | noConfiguration
  | unsendableHeaderName (characters : Unsendable)
  | tokensNotComparable
  | unresolved (reason : Unresolved)
  | deadlineTooLong
  | route (message : String)
  deriving DecidableEq, Repr

def Unsendable.message (characters : Unsendable) : String :=
  let start := Text.Numeral.ofNat characters.start
  "'latin-1' codec can't encode character" ++
    (if characters.length = 1 then
      " '" ++ String.ofList (Text.Quoted.numbered characters.first.toNat) ++ "' in position " ++
        start
    else "s in position " ++ start ++ "-" ++
      Text.Numeral.ofNat (characters.start + characters.length - 1)) ++
    ": ordinal not in range(256)"

def Fault.message : Fault → String
  | .noConfiguration => "Configuration not loaded"
  | .unsendableHeaderName characters => characters.message
  | .tokensNotComparable => "comparing strings with non-ASCII characters is not supported"
  | .unresolved reason => reason.message
  | .deadlineTooLong => "int too large to convert to float"
  | .route message => message

end ServiceBoot.Api
