import ServiceBoot.Api.Deadline
import ServiceBoot.Conf

/-!
# Deployments

What an app is made from: a configuration, with its write timeout taken as the deadline unless
another one is set.
-/

namespace ServiceBoot.Api

structure Deployment where
  conf : Conf
  deadline : Seconds := .whole conf.serverWriteTimeoutSecs
  deriving DecidableEq, Repr

/-- The configuration with the deadline that is in force. -/
def Deployment.toMembers (deployment : Deployment) : Json.Members :=
  deployment.conf.toMembers.map fun member ↦
    if member.1 = "serverWriteTimeoutSecs" then (member.1, deployment.deadline.value) else member

end ServiceBoot.Api
