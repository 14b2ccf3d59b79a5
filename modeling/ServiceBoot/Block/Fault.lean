import ServiceBoot.Text.Numeral

/-!
# Faults of a block

What the settings of a block can be refused for once their types are right.
-/

namespace ServiceBoot.Block

inductive Fault where
  | portOutOfRange (port : Int)
  | databaseNegative (number : Int)
  | missing (key : String)
  | negative (key : String)
  | tooFrequent (cleaner archiver : Int)
  deriving DecidableEq, Repr

/-- Turns of the archiver that pass for every one of the cleaner, at least. -/
def turnsPerCleaning : Nat := 2

open Text.Numeral (ofInt ofNat withIntegers) in
def Fault.message : Fault → String
  | .portOutOfRange port => withIntegers [port] ("port " ++ ofInt port ++ " out of range")
  | .databaseNegative number =>
    withIntegers [number] ("db must be a non-negative number, got " ++ ofInt number)
  | .missing key => "missing " ++ key
  | .negative key => key ++ " must be a non-negative number"
  | .tooFrequent cleaner archiver =>
    withIntegers [cleaner, archiver] ("checkIntervalSecs (" ++ ofInt cleaner ++
      ") must be at least " ++ ofNat turnsPerCleaning ++ "x the archiver's checkIntervalSecs (" ++
      ofInt archiver ++ ")")

end ServiceBoot.Block
