import Provisioning.Keyword
import Provisioning.Reconciliation.Error
set_option autoImplicit false

/-!
# Policies

What reconciliation does with a delta, by how many local entities it correlates to: the conflict policy narrows
several matches down, then the matching rule or the unmatching rule applies.
-/

namespace Provisioning.Reconciliation

/-- The choice among several correlated entities. -/
inductive ConflictPolicy where
  /-- Skip the delta. -/
  | ignore
  | firstMatch
  | lastMatch
  /-- Act on every match. -/
  | all
  deriving DecidableEq, Repr, Inhabited

instance : Keyword ConflictPolicy where
  all := [.ignore, .firstMatch, .lastMatch, .all]
  word
    | .ignore => "ignore"
    | .firstMatch => "first_match"
    | .lastMatch => "last_match"
    | .all => "all"

/-- Narrow the correlated ids down; none or one is left as it is, whatever the policy. -/
def ConflictPolicy.resolve (policy : ConflictPolicy) (uid : Uid) (ids : List Nat) : Except SyncError (List Nat) :=
  if ids.length ≤ 1 then .ok ids
  else
    match policy with
    | .ignore => .error (.correlationAmbiguity uid ids)
    | .firstMatch => .ok ids.head?.toList
    | .lastMatch => .ok ids.getLast?.toList
    | .all => .ok ids

/-- The action for a create-or-update delta that correlates to local entities. -/
inductive MatchingRule where
  | ignore
  /-- Apply what changed and propagate it. -/
  | update
  /-- Remove the remote object and keep the link. -/
  | deprovision
  /-- Remove the remote object and the link. -/
  | unassign
  /-- Link the resource without propagating. -/
  | link
  /-- Unlink the resource and keep the remote object. -/
  | unlink
  deriving DecidableEq, Repr, Inhabited

instance : Keyword MatchingRule where
  all := [.ignore, .update, .deprovision, .unassign, .link, .unlink]
  word
    | .ignore => "ignore"
    | .update => "update"
    | .deprovision => "deprovision"
    | .unassign => "unassign"
    | .link => "link"
    | .unlink => "unlink"

/-- The action for a create-or-update delta without a local match. -/
inductive UnmatchingRule where
  | ignore
  /-- Create locally, link the resource and propagate. -/
  | assign
  /-- Create locally without a link to the resource. -/
  | provision
  deriving DecidableEq, Repr, Inhabited

instance : Keyword UnmatchingRule where
  all := [.ignore, .assign, .provision]
  word
    | .ignore => "ignore"
    | .assign => "assign"
    | .provision => "provision"

/-- How far a failing hook reaches. -/
inductive HookScope where
  /-- The failure is recorded and the run goes on. -/
  | delta
  /-- The whole run is aborted. -/
  | run
  deriving DecidableEq, Repr, Inhabited

instance : Keyword HookScope where
  all := [.delta, .run]
  word
    | .delta => "delta"
    | .run => "run"

/-- How much a report tells. -/
inductive TraceLevel where
  | none
  /-- Only failed results. -/
  | failures
  /-- Counts and failed results. -/
  | summary
  /-- Counts and every result. -/
  | all
  deriving DecidableEq, Repr, Inhabited

instance : Keyword TraceLevel where
  all := [.none, .failures, .summary, .all]
  word
    | .none => "none"
    | .failures => "failures"
    | .summary => "summary"
    | .all => "all"

/-- A configured reconciliation of one resource into the local repository. -/
structure SyncTask where
  /-- The name of the task, under which its sync token is kept. -/
  name : String
  /-- The resource to pull from. -/
  resource : String
  /-- What the resource's objects become locally. -/
  subjectType : SubjectType
  matching : MatchingRule := .update
  unmatching : UnmatchingRule := .provision
  conflicts : ConflictPolicy := .ignore
  /-- Whether every object is read instead of the changes since the last token. -/
  full : Bool := false
  /-- Whether the run only pretends. -/
  dryRun : Bool := false
  trace : TraceLevel := .summary
  hookScope : HookScope := .delta
  mayCreate : Bool := true
  mayUpdate : Bool := true
  mayDelete : Bool := true
  deriving DecidableEq, Inhabited

end Provisioning.Reconciliation
