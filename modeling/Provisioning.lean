import Provisioning.Attributes
import Provisioning.Connector.Basic
import Provisioning.Connector.Call
import Provisioning.Connector.Error
import Provisioning.Connector.Filter
import Provisioning.Correlation
import Provisioning.Delta
import Provisioning.Document.Basic
import Provisioning.Document.Float
import Provisioning.Document.Json
import Provisioning.Document.Path
import Provisioning.Effect
import Provisioning.Entity.Basic
import Provisioning.Entity.Patch
import Provisioning.Entity.SubjectType
import Provisioning.Failure
import Provisioning.Keyword
import Provisioning.Main
import Provisioning.Mapping.Basic
import Provisioning.Mapping.Error
import Provisioning.Mapping.Item
import Provisioning.Mapping.Snapshot
import Provisioning.Mapping.WriteSet
import Provisioning.Memory.Directory
import Provisioning.Memory.Entities
import Provisioning.Memory.HookLog
import Provisioning.Memory.Inbox
import Provisioning.Memory.Requests
import Provisioning.Memory.Tokens
import Provisioning.Operation
import Provisioning.Propagation.Execute
import Provisioning.Propagation.Plan
import Provisioning.Propagation.Task
import Provisioning.Reconciliation.Describe
import Provisioning.Reconciliation.Engine
import Provisioning.Reconciliation.Error
import Provisioning.Reconciliation.Event
import Provisioning.Reconciliation.Handle
import Provisioning.Reconciliation.Hook
import Provisioning.Reconciliation.Hooks
import Provisioning.Reconciliation.Policy
import Provisioning.Reconciliation.Report
import Provisioning.Reconciliation.Result
import Provisioning.Reconciliation.Run
import Provisioning.Relay
import Provisioning.Repository
import Provisioning.Resource.Basic
import Provisioning.Resource.Registry
import Provisioning.Settings.Basic
import Provisioning.Settings.Check
import Provisioning.Settings.Decode
import Provisioning.Settings.File
import Provisioning.Settings.Load
import Provisioning.Simulation.Extension
import Provisioning.Simulation.Stage
import Provisioning.Simulation.World
import Provisioning.Text.Base64
import Provisioning.Text.Blank
import Provisioning.Text.Case
import Provisioning.Text.Numeral
import Provisioning.Text.Printed
import Provisioning.Text.Quoted
import Provisioning.Text.Unprintable
import Provisioning.Text.Utf8
import Provisioning.Token.Codec
import Provisioning.Token.File
import Provisioning.Token.Store
import Provisioning.Value
import Provisioning.Workflow
import Provisioning.Proofs.Effect.Frame
import Provisioning.Proofs.Resource
import Provisioning.Proofs.Propagation.Frame
import Provisioning.Proofs.Reconciliation.Frame
import Provisioning.Proofs.Reconciliation.Pull
import Provisioning.Proofs.Text.Numeral
import Provisioning.Proofs.Memory.Entities
import Provisioning.Proofs.Memory.Objects
import Provisioning.Proofs.Memory.Requests
import Provisioning.Proofs.Memory.ChangeLog
import Provisioning.Proofs.Reconciliation.Capture
import Provisioning.Proofs.Reconciliation.SyncToken
import Provisioning.Proofs.Propagation.Order
import Provisioning.Proofs.Propagation.Plan
import Provisioning.Proofs.Attributes
import Provisioning.Proofs.Entity.Patch
import Provisioning.Proofs.Mapping.WriteSet
import Provisioning.Proofs.Propagation.IncrementalWrite
import Provisioning.Proofs.Propagation.AbsentObject
import Provisioning.Proofs.Mapping.Item
import Provisioning.Proofs.Mapping.Snapshot
import Provisioning.Proofs.Reconciliation.Settling
import Provisioning.Proofs.Reconciliation.Workplace
import Provisioning.Proofs.Reconciliation.Idempotence
import Provisioning.Proofs.Reconciliation.Encounters
import Provisioning.Proofs.Reconciliation.Redelivery
import Provisioning.Proofs.Reconciliation.Accounting
import Provisioning.Proofs.Reconciliation.Overlooked
import Provisioning.Proofs.Effect.Alike
import Provisioning.Proofs.Effect.Beside
import Provisioning.Proofs.Propagation.Mirror
import Provisioning.Proofs.Propagation.Calls
import Provisioning.Proofs.Reconciliation.Mirror
import Provisioning.Proofs.Reconciliation.Deeds
import Provisioning.Proofs.Reconciliation.DryRun
import Provisioning.Proofs.Reconciliation.Twin
import Provisioning.Proofs.Reconciliation.Minutes
import Provisioning.Proofs.Reconciliation.Chronicle
import Provisioning.Proofs.Reconciliation.LocalFirst
import Provisioning.Proofs.Reconciliation.NoEcho
import Provisioning.Proofs.Reconciliation.HookFailures
import Provisioning.Proofs.Reconciliation.TokenMove
import Provisioning.Proofs.Relay
import Provisioning.Proofs.Reconciliation.Stream
import Provisioning.Proofs.Reconciliation.Indifference
import Provisioning.Proofs.Propagation.Retry
import Provisioning.Proofs.Propagation.Interleaving
import Provisioning.Proofs.Reconciliation.Measures
import Provisioning.Proofs.Reconciliation.Office
import Provisioning.Proofs.Reconciliation.LocalEffect
import Provisioning.Proofs.Reconciliation.Rehearsal
import Provisioning.Proofs.Reconciliation.Transcript
import Provisioning.Proofs.Reconciliation.BeforeHooks
import Provisioning.Proofs.Reconciliation.PassedOver
import Provisioning.Proofs.Correlation
import Provisioning.Proofs.Reconciliation.SideChannels
import Provisioning.Proofs.Reconciliation.Names
import Provisioning.Proofs.Token.Codec
import Provisioning.Proofs.Token.File
import Provisioning.Proofs.Reconciliation.FatalErrors
import Provisioning.Proofs.Settings
import Provisioning.Proofs.Mapping.Diff
import Provisioning.Proofs.Mapping.Offered
import Provisioning.Proofs.Mapping.Exactness
import Provisioning.Proofs.Mapping.Replay
import Provisioning.Proofs.Mapping.RoundTrip
import Provisioning.Proofs.Reconciliation.WriteBack
import Provisioning.Proofs.Propagation.Course
import Provisioning.Proofs.Propagation.Coverage
import Provisioning.Proofs.Mapping.Identity
import Provisioning.Proofs.Propagation.Identity
import Provisioning.Proofs.Entity.Application
import Provisioning.Proofs.Mapping.Acceptance
import Provisioning.Proofs.Variants
import Provisioning.Proofs.Mapping.Variants
import Provisioning.Proofs.Memory.Variants
import Provisioning.Proofs.Reconciliation.Reread
import Provisioning.Proofs.Multiplicity
import Provisioning.Proofs.Reconciliation.Tally
import Provisioning.Proofs.Memory.Creation
import Provisioning.Proofs.Memory.Addressing
