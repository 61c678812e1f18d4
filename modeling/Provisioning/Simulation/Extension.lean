import Provisioning.Memory.HookLog
import Provisioning.Reconciliation.Describe
import Provisioning.Simulation.World
set_option autoImplicit false

/-!
# Scripted hooks

Extensions whose hooks note what they see and then follow rules: change the delta and the new entity, append
changes to the log of a resource in the middle of a run, or fail.
-/

namespace Provisioning.Simulation

open Reconciliation

/-- What a scripted hook does when it is called. -/
structure Rule where
  /-- The hook to which the rule belongs. -/
  hook : Hook
  /-- The only subject to which the rule applies. -/
  subject : Option String := none
  /-- Whether to note the diagnostic text of the run. -/
  debug : Bool := false
  /-- Attributes put over those of the delta. -/
  setAttributes : Attributes := ∅
  setUid : Option Uid := none
  /-- Plain attributes put over those of the new entity. -/
  setPlain : Attributes := ∅
  addResources : NameSet := ∅
  setName : Option String := none
  /-- A change appended to the log of a resource. -/
  push : Option (String × Delta) := none
  /-- The failure of the hook. -/
  fail : Option Failure := none
  deriving DecidableEq

namespace Rule

/-- Whether a rule applies to a call. -/
def applies (rule : Rule) (hook : Hook) (subject : String) : Bool :=
  rule.hook == hook && (rule.subject.map fun name => name == subject).getD true

/-- The delta as the rule leaves it. -/
def onDelta (rule : Rule) (delta : Delta) : Delta :=
  { delta with attributes := delta.attributes.overlay rule.setAttributes, uid := rule.setUid.getD delta.uid }

/-- The new entity as the rule leaves it. -/
def onEntity (rule : Rule) (entity : Entity) : Entity :=
  { entity with plain := entity.plain.overlay rule.setPlain
                resources := entity.resources ∪ rule.addResources
                name := rule.setName.getD entity.name }

end Rule

/-- What rules work on while a hook runs. -/
structure HookFrame where
  delta : Option Delta
  entity : Entity

/-- Follow rules one after the other; the first one that fails ends the hook. -/
def followRules (index : Nat) (description : String) :
    List Rule → HookFrame → StateM World (Except Failure Unit × HookFrame)
  | [], frame => pure (.ok (), frame)
  | rule :: rest, frame => fun world =>
    let world := if rule.debug then
        (World.notesLens index).set ((World.notesLens index).get world ++ [.text description]) world
      else world
    let frame := { delta := frame.delta.map rule.onDelta, entity := rule.onEntity frame.entity }
    let world := match rule.push with
      | some (name, delta) => world.modifyDirectory name fun directory => directory.pushDelta delta
      | none => world
    match rule.fail with
    | some failure => ((.error failure, frame), world)
    | none => followRules index description rest frame world

/-- Run a scripted hook: note what it sees, then follow the rules that apply. -/
def runRules (index : Nat) (rules : List Rule) (hook : Hook) (subject : String) (profile : Profile World)
    (result : Option Result) (frame : HookFrame) : StateM World (Except Failure Unit × HookFrame) := fun world =>
  let note := HookNote.seen hook subject profile.dryRun profile.results.length profile.propagation.length
    frame.delta result
  let world := (World.notesLens index).set ((World.notesLens index).get world ++ [note]) world
  followRules index profile.describe (rules.filter fun rule => rule.applies hook subject) frame world

/-- The hooks that follow rules; `index` is the place of the extension among those registered. -/
def ruleHooks (index : Nat) (rules : List Rule) : Hooks World where
  beforeAll profile := fun world =>
    let ((answer, _), world') :=
      runRules index rules .beforeAll profile.task.name profile none { delta := none, entity := {} } world
    (answer, world')
  beforeNew hook profile delta entity := fun world =>
    let ((answer, frame), world') :=
      runRules index rules (.beforeNew hook) entity.name profile none { delta := some delta, entity } world
    ((answer.map fun _ => frame.delta.getD delta, frame.entity), world')
  beforeExisting hook profile delta entity := fun world =>
    let ((answer, frame), world') :=
      runRules index rules (.beforeExisting hook) entity.name profile none { delta := some delta, entity } world
    (answer.map fun _ => frame.delta.getD delta, world')
  after profile delta entity result := fun world =>
    let ((answer, _), world') :=
      runRules index rules .after entity.name profile (some result) { delta := some delta, entity } world
    (answer, world')
  afterAll profile := fun world =>
    let ((answer, _), world') :=
      runRules index rules .afterAll profile.task.name profile none { delta := none, entity := {} } world
    (answer, world')

/-- An extension of a run. -/
inductive Extension where
  /-- Notes every call; the chosen hook fails. -/
  | recording (failing : Option Hook)
  /-- Does nothing and notes nothing. -/
  | silent
  | scripted (rules : List Rule)
  deriving DecidableEq

/-- What recording hooks noted, as a part of what extensions note. -/
def recordingLens (index : Nat) : Lens World (List String) where
  get world := ((World.notesLens index).get world).filterMap fun
    | .called text => some text
    | _ => none
  set log world := (World.notesLens index).set (log.map .called) world

/-- The hooks of an extension. -/
def Extension.hooks (index : Nat) : Extension → Hooks World
  | recording failing => Memory.HookLog.hooks (recordingLens index) failing
  | silent => {}
  | scripted rules => ruleHooks index rules

end Provisioning.Simulation
