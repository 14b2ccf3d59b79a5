import ServiceBoot.Api.Attempt

/-!
# Deadlines

A request may take so long and no longer. A configuration gives the deadline in whole seconds; a
program that embeds the service may set it in thousandths. A deadline that is not positive is none.
-/

namespace ServiceBoot.Api

inductive Seconds where
  | whole (count : Int)
  | thousandths (count : Int)
  deriving DecidableEq, Repr

namespace Seconds

def millis : Seconds → Int
  | .whole count => count * 1000
  | .thousandths count => count

/-- The digits after the point, of which at least one is written. -/
def decimals (thousandths : Nat) : List Char :=
  let padded := List.replicate (3 - (Nat.toDigits 10 thousandths).length) '0' ++
    Nat.toDigits 10 thousandths
  match (padded.reverse.dropWhile (· = '0')).reverse with
  | [] => ['0']
  | digits => digits

def value : Seconds → Json.Value
  | .whole count => .int count
  | .thousandths count =>
    let sign := if count < 0 then "-" else ""
    .real (sign ++ Text.Numeral.ofNat (count.natAbs / 1000) ++ "." ++
      String.ofList (decimals (count.natAbs % 1000)))

/-- The least number that lies nearer to two to the power of 1024 than to any smaller number with 53
leading binary digits. -/
def clockLimit : Int := Int.ofNat (Nat.pow 2 1024 - Nat.pow 2 970)

/-- The clock counts seconds in binary with 53 digits and cannot hold a number as large as this. -/
def isTooLong : Seconds → Bool
  | .whole count => clockLimit ≤ count
  | .thousandths count => clockLimit * 1000 ≤ count

end Seconds

def lateEntry (deadline : Seconds) (request : Http.Request) : Log.Entry :=
  .warning "Request exceeded write timeout"
    [("path", .str request.addressPath), ("method", .str request.method),
      ("timeout_secs", deadline.value)]

/-- An attempt under a deadline. The clock is set before the attempt begins. -/
def Attempt.before (deadline : Seconds) (request : Http.Request)
    (attempt : Attempt Http.Response) : Attempt Http.Response :=
  if deadline.millis ≤ 0 then attempt
  else if deadline.isTooLong then .failed .deadlineTooLong
  else if deadline.millis < attempt.millis then
    { entries := attempt.entries ++ [lateEntry deadline request]
      millis := deadline.millis.toNat
      ending := .ok .timedOut }
  else attempt

end ServiceBoot.Api
