import ServiceDiscovery.View.Task

/-!
# Following a subscription

A follower reads the events of a subscription and has the view changed
accordingly, one event after the other: it waits for the view's answer before
it reads on. Events about the node's own instance are passed over. It ends
when the subscription does, or when it is told to stop, and closes the
subscription then.
-/

namespace ServiceDiscovery

/-- How far a follower is. -/
inductive FollowerStage
  | reading
  /-- Waiting for the answer to a request. -/
  | asking (asker : Nat)
  /-- About to close the subscription. -/
  | closing
  /-- Waiting for the subscription to end. -/
  | ending
  deriving DecidableEq, Repr

/-- A task that brings events of a subscription into the view. -/
structure Follower where
  /-- The name of the node's own instance. -/
  ownInstance : String
  stage : FollowerStage := .reading
  /-- Whether it was told to stop. -/
  cancelled : Bool := false
  deriving DecidableEq, Repr

/-- What an event asks of the view: nothing, if it is about the node's own
    instance. -/
def Follower.request? (ownInstance : String) (event : PeerEvent) : Option ViewRequest :=
  if event.key.name = ownInstance then none
  else
    match event with
    | .added peer => some (.insert peer)
    | .removed key => some (.remove key)

end ServiceDiscovery
