import Provisioning.Keyword
set_option autoImplicit false

/-!
# The moments at which extensions are called

Once before and once after a run, before every action and after it.  Errors, logs and scripts name these moments by
their keywords, such as `before_update`.
-/

namespace Provisioning.Reconciliation

/-- The hooks before a new entity is created. -/
inductive NewHook where
  /-- Without a link to the resource. -/
  | create
  /-- With a link to the resource. -/
  | assign
  deriving DecidableEq, Repr

/-- The hooks before something is done with an existing entity. -/
inductive ExistingHook where
  | update
  | deprovision
  | unassign
  | link
  | unlink
  | delete
  deriving DecidableEq, Repr

/-- A hook of an extension. -/
inductive Hook where
  /-- Before the first delta. -/
  | beforeAll
  | beforeNew (hook : NewHook)
  | beforeExisting (hook : ExistingHook)
  /-- After an action. -/
  | after
  /-- After the last delta. -/
  | afterAll
  deriving DecidableEq, Repr

instance : Keyword NewHook where
  all := [.create, .assign]
  word
    | .create => "before_create"
    | .assign => "before_assign"

instance : Keyword ExistingHook where
  all := [.update, .deprovision, .unassign, .link, .unlink, .delete]
  word
    | .update => "before_update"
    | .deprovision => "before_deprovision"
    | .unassign => "before_unassign"
    | .link => "before_link"
    | .unlink => "before_unlink"
    | .delete => "before_delete"

instance : Keyword Hook where
  all := .beforeAll :: Keyword.all.map .beforeNew ++ Keyword.all.map .beforeExisting ++ [.after, .afterAll]
  word
    | .beforeAll => "before_all"
    | .beforeNew hook => Keyword.word hook
    | .beforeExisting hook => Keyword.word hook
    | .after => "after"
    | .afterAll => "after_all"

end Provisioning.Reconciliation
