import ServiceBoot.Document.Field

/-!
# The logging block

Where log lines go and from which level on. An empty path means standard output.
-/

namespace ServiceBoot.Block

open Document Json

/-- A block that was read has one of the five names as its level; one that was assigned later may
have any text. -/
structure Logging where
  path : String := ""
  level : String := "info"
  deriving DecidableEq, Inhabited, Repr

namespace Logging

def check (members : Members) : Checked Logging :=
  mk <$> defaulted members "path" "" text <*> defaulted members "level" "info" levelText

def toMembers (block : Logging) : Members :=
  [("path", .str block.path), ("level", .str block.level)]

def level? (block : Logging) : Option Log.Level := Log.Level.ofName? block.level

/-- A block whose level is known, as it is of one that was read. -/
abbrev WithLevel := { block : Logging // block.level?.isSome = true }

end Logging

end ServiceBoot.Block
