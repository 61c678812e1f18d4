import Provisioning.Proofs.Reconciliation.Twin
set_option autoImplicit false

/-!
# Transcripts

All that a session does while it handles a delta, calls of hooks with what they are given and answer among it, can be
written down in one list and in the order in which it happens.  The transcript is what the twin of the session writes.
-/

namespace Provisioning

open Reconciliation

variable {σ : Type}

namespace Reconciliation

/-- Something that a session does. -/
inductive Happening where
  /-- The hook of an extension is called before an action: the delta that it is given, and its answer. -/
  | before (extension : Nat) (hook : Hook) (given : Delta) (answer : Except Failure Delta)
  /-- The hook of an extension is called after an action. -/
  | after (extension : Nat)
  | requested (request : Workflow.Request)
  /-- A call to the connector of a resource. -/
  | called (call : RemoteCall)
  | audited (event : Event)
  | notified (event : Event)

namespace Happening

/-- Whether a hook is called before an action. -/
def isBefore : Happening → Bool
  | before .. => true
  | _ => false

/-- The request that is made, if one is. -/
def request? : Happening → Option Workflow.Request
  | requested request => some request
  | _ => none

end Happening

/-- The observer who keeps a transcript. -/
def Happening.observer : Observer Happening where
  before := some .before
  after := some fun extension _ => .after extension
  requested := some fun request _ => .requested request
  called := some .called
  audited := some .audited
  notified := some .notified

/-- The session with a transcript beside its world. -/
abbrev Session.transcribed (session : Session σ) : Session (σ × List Happening) := session.twin Happening.observer

/-- What has happened so far. -/
def RunState.happenings (s : RunState (σ × List Happening)) : List Happening := s.world.2

end Reconciliation

end Provisioning
