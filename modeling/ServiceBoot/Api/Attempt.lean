import ServiceBoot.Api.Fault
import ServiceBoot.Http.Response
import ServiceBoot.Log.Entry

/-!
# Attempts at an answer

The course of a request through a part of the service: what was logged, how long it took, and
whether it ended in an answer or in a fault.
-/

namespace ServiceBoot.Api

structure Attempt (α : Type) where
  entries : List Log.Entry := []
  millis : Nat := 0
  ending : Except Fault α

namespace Attempt

def done {α : Type} (result : α) : Attempt α := { ending := .ok result }

def failed {α : Type} (fault : Fault) : Attempt α := { ending := .error fault }

def ofExcept {α : Type} (ending : Except Fault α) : Attempt α := { ending := ending }

def map {α β : Type} (f : α → β) (attempt : Attempt α) : Attempt β :=
  { attempt with ending := attempt.ending.map f }

end Attempt

end ServiceBoot.Api
