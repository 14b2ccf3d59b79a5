import ServiceBoot.Block.Fault
import ServiceBoot.TimeZone

/-!
# Invalid configurations

Why a configuration of the right types is refused, and how that is reported: beside its cause a
report names the subsystem or the field that is to blame. A search for a time zone that breaks off
is not reported in this way.
-/

namespace ServiceBoot

inductive Subsystem where
  | redis
  | archiver
  | cleaner
  | indexer
  deriving DecidableEq, Repr

def Subsystem.name : Subsystem → String
  | .redis => "redis"
  | .archiver => "archiver"
  | .cleaner => "cleaner"
  | .indexer => "indexer"

structure Report where
  cause : String
  field : Option String := none
  subsystem : Option String := none
  deriving DecidableEq, Repr

/-- An empty name counts as none, and the subsystem comes before the field. -/
def Report.message (report : Report) : String :=
  match report.subsystem.filter (· ≠ ""), report.field.filter (· ≠ "") with
  | some subsystem, _ => "invalid " ++ subsystem ++ " configuration: " ++ report.cause
  | none, some field => "invalid " ++ field ++ ": " ++ report.cause
  | none, none => report.cause

inductive Invalid where
  | unknownTimeZone (name : String)
  | writeTimeoutNotPositive
  | readTimeoutNegative
  | block (subsystem : Subsystem) (fault : Block.Fault)
  deriving DecidableEq, Repr

namespace Invalid

def report : Invalid → Report
  | .unknownTimeZone name => { cause := "unknown time zone '" ++ name ++ "'", field := "timeZone" }
  | .writeTimeoutNotPositive =>
    { cause := "must be a positive number of seconds", field := "serverWriteTimeoutSecs" }
  | .readTimeoutNegative =>
    { cause := "must be a non-negative number of seconds", field := "serverReadTimeoutSecs" }
  | .block subsystem fault => { cause := fault.message, subsystem := subsystem.name }

def message (invalid : Invalid) : String := invalid.report.message

end Invalid

/-- Why a configuration cannot be resolved. -/
inductive Unresolved where
  | invalid (invalid : Invalid)
  | unsearchable (obstacle : TimeZone.Obstacle)
  deriving DecidableEq, Repr

namespace Unresolved

def message : Unresolved → String
  | .invalid reason => reason.message
  | .unsearchable obstacle => obstacle.message

def ofBlock (subsystem : Subsystem) (fault : Block.Fault) : Unresolved :=
  .invalid (.block subsystem fault)

/-- What is wrong with a time zone that is not known. -/
def ofTimeZone [TimeZone.Database] (name : String) : Unresolved :=
  match TimeZone.obstacle? name with
  | some obstacle => .unsearchable obstacle
  | none => .invalid (.unknownTimeZone name)

end Unresolved

end ServiceBoot
