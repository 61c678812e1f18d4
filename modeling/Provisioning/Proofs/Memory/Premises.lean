import Provisioning.Memory.Directory
import Provisioning.Memory.Requests
import Provisioning.Memory.Tokens
import Provisioning.Proofs.Mapping.Acceptance
import Provisioning.Proofs.Reconciliation.Frame
set_option autoImplicit false

/-!
# All systems in memory

One world that holds a resource, a workflow with its repository and a token store, and the engine over them.  What
is shown for worlds that contain such systems is shown for it in particular.
-/

namespace Provisioning.Memory

open Reconciliation

/-- A resource, a workflow with its repository, and a token store. -/
structure Premises where
  directory : Directory := {}
  office : Office := {}
  tokens : TokenTable := ∅

namespace Premises

/-- The resource. -/
def directoryLens : Lens Premises Directory where
  get premises := premises.directory
  set directory premises := { premises with directory }

/-- The workflow and its repository. -/
def officeLens : Lens Premises Office where
  get premises := premises.office
  set office premises := { premises with office }

/-- The token store. -/
def tokensLens : Lens Premises TokenTable where
  get premises := premises.tokens
  set tokens premises := { premises with tokens }

/-- The repository of the workflow. -/
def repository : Repository Premises := (Entities.repository.within Office.entitiesLens).within officeLens

/-- The engine over the systems in memory. -/
def engine (registry : Registry Premises) : Engine Premises where
  registry := registry
  repository := repository
  workflow := Office.workflow.within officeLens
  correlation := Correlation.byAccountId repository
  tokens := tokenStore.within tokensLens

/-- An engine over a registry keeps every frame that leaves the workflow out of account. -/
theorem engine_keeps {frame : Frame Premises} {registry : Registry Premises} (hregistry : registry.Keeps frame)
    (hoffice : officeLens.Carries Frame.anything frame) : (engine registry).Keeps frame where
  registry := hregistry
  audit _ := Frame.keeps_ok _
  notifications _ := Frame.keeps_ok _
  find _ _ := hoffice.keeps_zoom fun _ => trivial
  create _ := hoffice.keeps_zoom fun _ => trivial
  update _ _ _ := hoffice.keeps_zoom fun _ => trivial
  delete _ _ := hoffice.keeps_zoom fun _ => trivial
  correlation _ _ := hoffice.keeps_zoom fun _ => trivial
  hooks _ hmem := nomatch hmem

/-! ## One resource -/

/-- The mapping of users by their name alone. -/
def userMapping : Mapping :=
  Mapping.ofItems "directory" "account" [{ external := "uid", target := .username, accountId := true }]

/-- A resource that holds users. -/
def resource (connector : Connector Premises) : Resource Premises where
  name := "directory"
  connector := connector
  primary := false
  priority := 0
  mode := .sync
  mappings := (PerSubject.const none).set .user (some userMapping)

/-- The registry of that resource alone. -/
def registry (connector : Connector Premises) : Registry Premises := Registry.insert {} (resource connector)

variable {connector : Connector Premises} {name : String}

theorem getElem?_registry :
    (registry connector).resources[name]? = if "directory" = name then some (resource connector) else none := by
  rw [registry, Registry.insert, Std.ExtTreeMap.getElem?_insert]
  simp only [Std.LawfulEqCmp.compare_eq_iff_eq, Std.ExtTreeMap.getElem?_empty]
  rfl

theorem registry_keeps {frame : Frame Premises} (h : connector.Keeps frame) :
    (registry connector).Keeps frame :=
  Registry.keeps_empty.insert h

theorem registry_named (connector : Connector Premises) : (registry connector).Named :=
  Registry.named_empty.insert _

theorem lookup_registry : (registry connector).lookup "directory" .user = .ok (resource connector, userMapping) :=
  Registry.lookup_eq_ok_iff.mpr ⟨Registry.get_eq_ok_iff.mpr (getElem?_registry.trans (if_pos rfl)), rfl⟩

theorem registry_typed : (registry connector).Typed := by
  refine Registry.typed_empty.insert fun t mapping hget => ?_
  cases t <;> cases hget
  rfl

theorem eq_of_lookup {t : SubjectType} {found : Resource Premises} {mapping : Mapping}
    (h : (registry connector).lookup name t = .ok (found, mapping)) :
    found = resource connector ∧ mapping = userMapping := by
  obtain ⟨hget, hmapping⟩ := Registry.lookup_eq_ok_iff.mp h
  rw [Registry.get_eq_ok_iff, getElem?_registry] at hget
  split at hget
  · cases hget
    cases t <;> cases hmapping
    exact ⟨rfl, rfl⟩
  · cases hget

end Premises

end Provisioning.Memory
