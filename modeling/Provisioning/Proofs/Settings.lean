import Provisioning.Proofs.Reconciliation.FatalErrors
import Provisioning.Proofs.Resource
import Provisioning.Settings.Basic
set_option autoImplicit false

/-!
# Settings that pass the check

`Settings.validate` and `Registry.ofSettings` walk over the settings independently of each other: the former collects
the names that it has seen, the latter uses up the connectors.  Both agree on what settings are well-formed: such
settings pass the check, and as long as there is a connector for each of their resources they become a registry in
which every sync task finds the mapping that is configured for it.
-/

namespace Provisioning

variable {σ : Type}

/-! ## Configured resources -/

/-- No subject type is mapped twice, and every mapping can be built. -/
structure ResourceSettings.WellFormed (settings : ResourceSettings) : Prop where
  subjectTypes : (settings.mappings.map MappingSettings.subjectType).Nodup
  mappings : ∀ mapping ∈ settings.mappings, ∃ built, mapping.build settings.name = .ok built

namespace Resource

/-- Mappings of different subject types end up under their types, and nothing else is entered. -/
theorem buildMappings_spec {resource : String} {settings : List MappingSettings}
    (htypes : (settings.map MappingSettings.subjectType).Nodup)
    (hbuild : ∀ mapping ∈ settings, ∃ built, mapping.build resource = .ok built)
    (table : PerSubject (Option Mapping)) :
    ∃ mappings, buildMappings resource settings table = .ok mappings ∧
      (∀ mapping ∈ settings, ∃ built, mapping.build resource = .ok built ∧
        mappings.get mapping.subjectType = some built) ∧
      ∀ t ∉ settings.map MappingSettings.subjectType, mappings.get t = table.get t := by
  induction settings generalizing table with
  | nil => exact ⟨table, rfl, nofun, fun _ _ => rfl⟩
  | cons first rest ih =>
    rw [List.map_cons, List.nodup_cons] at htypes
    obtain ⟨built, hfirst⟩ := hbuild first List.mem_cons_self
    obtain ⟨mappings, hmappings, hrest, hothers⟩ :=
      ih htypes.2 (fun mapping hmem => hbuild mapping (List.mem_cons_of_mem _ hmem))
        (table.set first.subjectType (some built))
    refine ⟨mappings, ?_, ?_, fun t ht => ?_⟩
    · rw [buildMappings, hfirst]
      exact hmappings
    · rintro mapping (_ | ⟨_, hmem⟩)
      · exact ⟨built, hfirst, by rw [hothers _ htypes.1, PerSubject.get_set_self]⟩
      · exact hrest mapping hmem
    · rw [List.map_cons, List.mem_cons, not_or] at ht
      rw [hothers t ht.2, PerSubject.get_set, if_neg (Ne.symm ht.1)]

/-- A well-formed resource can be bound to any connector and maps what it is configured to map. -/
theorem ofSettings_spec {settings : ResourceSettings} (h : settings.WellFormed) (connector : Connector σ) :
    ∃ resource, ofSettings settings connector = .ok resource ∧
      resource.name = settings.name ∧ resource.connector = connector ∧
      ∀ mapping ∈ settings.mappings, ∃ built, mapping.build settings.name = .ok built ∧
        resource.mapping mapping.subjectType = .ok built := by
  obtain ⟨mappings, hmappings, hget, -⟩ := buildMappings_spec h.subjectTypes h.mappings (.const none)
  refine ⟨_, by rw [ofSettings, hmappings], rfl, rfl, fun mapping hmem => ?_⟩
  obtain ⟨built, hbuild, hbuilt⟩ := hget mapping hmem
  exact ⟨built, hbuild, mapping_eq_ok_iff.mpr hbuilt⟩

end Resource

namespace Registry

variable {settings : List ResourceSettings} {connectors : Std.ExtTreeMap String (Connector σ)}

/-- Resources of different names, each with a connector, are all entered, and no other resource changes. -/
theorem bindAll_spec (hnames : (settings.map ResourceSettings.name).Nodup)
    (hsettings : ∀ r ∈ settings, r.WellFormed) (hconnectors : ∀ r ∈ settings, r.name ∈ connectors)
    (registry : Registry σ) :
    ∃ bound, bindAll settings connectors registry = .ok bound ∧
      (∀ r ∈ settings, ∃ connector resource, connectors[r.name]? = some connector ∧
        Resource.ofSettings r connector = .ok resource ∧ bound.resources[r.name]? = some resource) ∧
      ∀ name ∉ settings.map ResourceSettings.name, bound.resources[name]? = registry.resources[name]? := by
  induction settings generalizing connectors registry with
  | nil => exact ⟨registry, rfl, nofun, fun _ _ => rfl⟩
  | cons first rest ih =>
    rw [List.map_cons, List.nodup_cons] at hnames
    have hfirst := hconnectors first List.mem_cons_self
    have hconnector : connectors[first.name]? = some connectors[first.name] :=
      Std.ExtTreeMap.getElem?_eq_some_getElem hfirst
    obtain ⟨resource, hresource, hname, -, -⟩ :=
      Resource.ofSettings_spec (hsettings first List.mem_cons_self) connectors[first.name]
    -- the connector that is used up is none that a later resource needs
    have hlater : ∀ r ∈ rest, (connectors.erase first.name)[r.name]? = connectors[r.name]? := by
      intro r hr
      rw [Std.ExtTreeMap.getElem?_erase, if_neg]
      intro heq
      exact hnames.1 (List.mem_map.mpr ⟨r, hr, (Std.LawfulEqCmp.compare_eq_iff_eq.mp heq).symm⟩)
    obtain ⟨bound, hbound, hrest, hothers⟩ :=
      ih hnames.2 (fun r hr => hsettings r (List.mem_cons_of_mem _ hr))
        (fun r hr => by
          rw [Std.ExtTreeMap.mem_iff_isSome_getElem?, hlater r hr, ← Std.ExtTreeMap.mem_iff_isSome_getElem?]
          exact hconnectors r (List.mem_cons_of_mem _ hr))
        (registry.insert resource)
    refine ⟨bound, ?_, ?_, fun name hname' => ?_⟩
    · simp only [bindAll, hconnector, hresource, hbound]
    · rintro r (_ | ⟨_, hr⟩)
      · refine ⟨_, resource, hconnector, hresource, ?_⟩
        rw [hothers _ hnames.1, Registry.insert, hname, Std.ExtTreeMap.getElem?_insert_self]
      · obtain ⟨connector, found, hc, hfound, hget⟩ := hrest r hr
        exact ⟨connector, found, (hlater r hr).symm.trans hc, hfound, hget⟩
    · rw [List.map_cons, List.mem_cons, not_or] at hname'
      rw [hothers name hname'.2, Registry.insert, hname, Std.ExtTreeMap.getElem?_insert, if_neg]
      intro heq
      exact hname'.1 (Std.LawfulEqCmp.compare_eq_iff_eq.mp heq).symm

/-- In the registry of well-formed resources every configured mapping is found. -/
theorem ofSettings_spec (hnames : (settings.map ResourceSettings.name).Nodup)
    (hsettings : ∀ r ∈ settings, r.WellFormed) (hconnectors : ∀ r ∈ settings, r.name ∈ connectors) :
    ∃ registry, ofSettings settings connectors = .ok registry ∧
      ∀ r ∈ settings, ∀ m ∈ r.mappings, ∃ resource mapping, connectors[r.name]? = some resource.connector ∧
        m.build r.name = .ok mapping ∧ registry.lookup r.name m.subjectType = .ok (resource, mapping) := by
  obtain ⟨registry, hregistry, hbound, -⟩ := bindAll_spec hnames hsettings hconnectors {}
  refine ⟨registry, hregistry, fun r hr m hm => ?_⟩
  obtain ⟨connector, resource, hconnector, hresource, hget⟩ := hbound r hr
  obtain ⟨resource', hresource', -, hown, hmaps⟩ := Resource.ofSettings_spec (hsettings r hr) connector
  cases hresource.symm.trans hresource'
  obtain ⟨mapping, hbuild, hmapping⟩ := hmaps m hm
  exact ⟨resource, mapping, by rw [hconnector, hown], hbuild,
    lookup_eq_ok_iff.mpr ⟨get_eq_ok_iff.mpr hget, hmapping⟩⟩

end Registry

/-! ## The check -/

namespace Settings

open Reconciliation

section Walk

variable {α κ : Type} {seen keys : List κ}

/-- The keys differ from each other and from those seen before. -/
def Fresh (seen keys : List κ) : Prop := keys.Nodup ∧ ∀ key ∈ keys, key ∉ seen

theorem fresh_nil (seen : List κ) : Fresh seen [] := ⟨List.nodup_nil, nofun⟩

theorem fresh_nil_left : Fresh [] keys ↔ keys.Nodup := by
  simp only [Fresh, List.not_mem_nil, not_false_iff, implies_true, and_true]

theorem fresh_cons {key : κ} : Fresh seen (key :: keys) ↔ key ∉ seen ∧ Fresh (key :: seen) keys := by
  simp only [Fresh, List.nodup_cons, List.mem_cons, forall_eq_or_imp, not_or]
  constructor
  · rintro ⟨⟨hkey, hkeys⟩, hnew, hrest⟩
    exact ⟨hnew, hkeys, fun k hk => ⟨fun heq => hkey (heq ▸ hk), hrest k hk⟩⟩
  · rintro ⟨hnew, hkeys, hrest⟩
    exact ⟨⟨fun hmem => (hrest key hmem).1 rfl, hkeys⟩, hnew, fun k hk => (hrest k hk).2⟩

/-- A check passes what its guard does not refuse and the rest of the check passes. -/
theorem guard_eq_ok_iff {refused : Prop} [Decidable refused] {error : SettingsError}
    {rest : Except SettingsError Unit} :
    (if refused then .error error else rest) = .ok () ↔ ¬refused ∧ rest = .ok () := by
  by_cases h : refused <;> simp [h]

/-- A check that goes through a list, remembers the keys and stops at the first that it has seen or at the first item
that it does not accept, passes a list exactly if all keys are fresh and all items are accepted. -/
theorem walk_eq_ok_iff {key : α → κ} {accepts : α → Prop}
    {walk : List κ → List α → Except SettingsError Unit} (hnil : ∀ seen, walk seen [] = .ok ())
    (hcons : ∀ seen a rest, walk seen (a :: rest) = .ok () ↔
      key a ∉ seen ∧ accepts a ∧ walk (key a :: seen) rest = .ok ()) (items : List α) :
    walk seen items = .ok () ↔ Fresh seen (items.map key) ∧ ∀ a ∈ items, accepts a := by
  induction items generalizing seen with
  | nil => exact iff_of_true (hnil seen) ⟨fresh_nil seen, nofun⟩
  | cons a rest ih =>
    rw [hcons, ih, List.map_cons, fresh_cons, List.forall_mem_cons]
    tauto

end Walk

theorem checkMappings_eq_ok_iff {resource : String} (seen : List SubjectType) (settings : List MappingSettings) :
    checkMappings resource seen settings = .ok () ↔ Fresh seen (settings.map MappingSettings.subjectType) ∧
      ∀ mapping ∈ settings, ∃ built, mapping.build resource = .ok built := by
  refine walk_eq_ok_iff (fun _ => rfl) (fun seen mapping rest => ?_) settings
  rw [checkMappings, guard_eq_ok_iff, List.contains_iff_mem]
  cases mapping.build resource <;> simp

theorem checkResources_eq_ok_iff (seen : List String) (settings : List ResourceSettings) :
    checkResources seen settings = .ok () ↔
      Fresh seen (settings.map ResourceSettings.name) ∧ ∀ resource ∈ settings, resource.WellFormed := by
  refine walk_eq_ok_iff (fun _ => rfl) (fun seen resource rest => ?_) settings
  have hmappings : checkMappings resource.name [] resource.mappings = .ok () ↔ resource.WellFormed := by
    rw [checkMappings_eq_ok_iff, fresh_nil_left]
    exact ⟨fun h => ⟨h.1, h.2⟩, fun h => ⟨h.1, h.2⟩⟩
  rw [checkResources, guard_eq_ok_iff, List.contains_iff_mem, ← hmappings]
  cases checkMappings resource.name [] resource.mappings <;> simp

variable {settings : Settings}

/-- The task names a configured resource that maps its subject type. -/
def HasTarget (settings : Settings) (task : SyncTask) : Prop :=
  ∃ resource ∈ settings.resources, resource.name = task.resource ∧
    ∃ mapping ∈ resource.mappings, mapping.subjectType = task.subjectType

theorem resource?_eq_some_iff (hnames : (settings.resources.map ResourceSettings.name).Nodup) {name : String}
    {resource : ResourceSettings} :
    settings.resource? name = some resource ↔ resource ∈ settings.resources ∧ resource.name = name := by
  constructor
  · intro h
    exact ⟨List.mem_of_find?_eq_some h, by simpa using List.find?_some h⟩
  · rintro ⟨hmem, rfl⟩
    cases hfound : settings.resource? resource.name with
    | none => simpa using List.find?_eq_none.mp hfound resource hmem
    | some found =>
      have hname : found.name = resource.name := by simpa using List.find?_some hfound
      rw [List.inj_on_of_nodup_map hnames (List.mem_of_find?_eq_some hfound) hmem hname]

theorem checkTarget_eq_ok_iff (hnames : (settings.resources.map ResourceSettings.name).Nodup) {task : SyncTask} :
    settings.checkTarget task = .ok () ↔ settings.HasTarget task := by
  have htarget : settings.HasTarget task ↔ ∃ resource, settings.resource? task.resource = some resource ∧
      ∃ mapping ∈ resource.mappings, mapping.subjectType = task.subjectType := by
    simp only [resource?_eq_some_iff hnames, HasTarget, and_assoc]
  rw [htarget, checkTarget]
  cases settings.resource? task.resource <;> simp

theorem checkTasks_eq_ok_iff (hnames : (settings.resources.map ResourceSettings.name).Nodup) (seen : List String)
    (tasks : List SyncTask) :
    settings.checkTasks seen tasks = .ok () ↔
      Fresh seen (tasks.map SyncTask.name) ∧ ∀ task ∈ tasks, settings.HasTarget task := by
  refine walk_eq_ok_iff (fun _ => rfl) (fun seen task rest => ?_) tasks
  rw [checkTasks, guard_eq_ok_iff, List.contains_iff_mem, ← checkTarget_eq_ok_iff hnames]
  cases settings.checkTarget task <;> simp

/-- What the check is for. -/
structure WellFormed (settings : Settings) : Prop where
  capacity : 1 ≤ settings.capacity
  resourceNames : (settings.resources.map ResourceSettings.name).Nodup
  resources : ∀ resource ∈ settings.resources, resource.WellFormed
  taskNames : (settings.tasks.map SyncTask.name).Nodup
  targets : ∀ task ∈ settings.tasks, settings.HasTarget task

theorem validate_eq_ok_iff : settings.validate = .ok () ↔ settings.WellFormed := by
  have hsplit : settings.validate = .ok () ↔ 1 ≤ settings.capacity ∧
      checkResources [] settings.resources = .ok () ∧ settings.checkTasks [] settings.tasks = .ok () := by
    rw [validate, guard_eq_ok_iff, Nat.one_le_iff_ne_zero]
    cases checkResources [] settings.resources <;> simp
  rw [hsplit, checkResources_eq_ok_iff, fresh_nil_left]
  constructor
  · rintro ⟨hcapacity, ⟨hnames, hresources⟩, htasks⟩
    rw [checkTasks_eq_ok_iff hnames, fresh_nil_left] at htasks
    exact ⟨hcapacity, hnames, hresources, htasks.1, htasks.2⟩
  · intro h
    refine ⟨h.capacity, ⟨h.resourceNames, h.resources⟩, ?_⟩
    rw [checkTasks_eq_ok_iff h.resourceNames, fresh_nil_left]
    exact ⟨h.taskNames, h.targets⟩

/-- The task finds its resource, reached through the connector of that name, and the mapping that is configured for
its subject type there. -/
def Serves (settings : Settings) (connectors : Std.ExtTreeMap String (Connector σ)) (registry : Registry σ)
    (task : SyncTask) : Prop :=
  ∃ r ∈ settings.resources, r.name = task.resource ∧ ∃ m ∈ r.mappings, m.subjectType = task.subjectType ∧
    ∃ resource mapping, connectors[r.name]? = some resource.connector ∧ m.build r.name = .ok mapping ∧
      registry.lookup task.resource task.subjectType = .ok (resource, mapping)

/-- Settings pass the check exactly if they are well-formed.  Those that pass become a registry over any connectors
for all of their resources; it serves every sync task as configured, and no run over it fails for want of a mapping. -/
theorem validated_mappings_found (settings : Settings) :
    (settings.validate = .ok () ↔ settings.WellFormed) ∧
      (settings.validate = .ok () → ∀ connectors : Std.ExtTreeMap String (Connector σ),
        (∀ resource ∈ settings.resources, resource.name ∈ connectors) →
        ∃ registry, Registry.ofSettings settings.resources connectors = .ok registry ∧
          ∀ task ∈ settings.tasks, settings.Serves connectors registry task ∧
            ∀ engine : Engine σ, engine.registry = registry →
              ∀ world error, (engine.run task world).1 ≠ .error (.mapping error)) := by
  refine ⟨validate_eq_ok_iff, fun hvalid connectors hconnectors => ?_⟩
  have hsettings := validate_eq_ok_iff.mp hvalid
  obtain ⟨registry, hregistry, hmapped⟩ :=
    Registry.ofSettings_spec hsettings.resourceNames hsettings.resources hconnectors
  refine ⟨registry, hregistry, fun task htask => ?_⟩
  obtain ⟨r, hr, hresource, m, hm, htype⟩ := hsettings.targets task htask
  obtain ⟨resource, mapping, hconnector, hbuild, hlookup⟩ := hmapped r hr m hm
  rw [hresource, htype] at hlookup
  refine ⟨⟨r, hr, hresource, m, hm, htype, resource, mapping, hconnector, hbuild, hlookup⟩, ?_⟩
  rintro engine rfl world error herror
  rw [Engine.run_mapping_error_iff, hlookup] at herror
  cases herror

open Memory

/-- A staff directory of users and roles and a billing system of users, with a task for each mapping but one. -/
def company : Settings where
  resources :=
    [{ name := "directory"
       mappings :=
         [{ subjectType := .user, objectClass := "account"
            items := [{ external := "uid", target := .username, accountId := true },
                      { external := "secret", target := .password, password := true }] },
          { subjectType := .role, objectClass := "group"
            items := [{ external := "cn", internal := "label", target := .plain, accountId := true }] }] },
     { name := "billing"
       mappings :=
         [{ subjectType := .user, objectClass := "customer"
            items := [{ external := "number", target := .username, accountId := true }] }] }]
  tasks :=
    [{ name := "accounts", resource := "directory", subjectType := .user },
     { name := "customers", resource := "billing", subjectType := .user, full := true }]

/-- Both systems are kept in one directory. -/
def companyConnectors : Std.ExtTreeMap String (Connector Premises) :=
  .ofList (["directory", "billing"].map fun name =>
    (name, (Directory.connector name "uid").within Premises.directoryLens))

theorem company_runs_find_mappings :
    company.validate = .ok () ∧ (∀ resource ∈ company.resources, resource.name ∈ companyConnectors) ∧
      ∃ registry, Registry.ofSettings company.resources companyConnectors = .ok registry ∧
        ∀ task ∈ company.tasks, company.Serves companyConnectors registry task ∧
          ∀ error, ((Premises.engine registry).run task {}).1 ≠ .error (.mapping error) := by
  have hvalid : company.validate = .ok () := by decide +kernel
  have hconnectors : ∀ resource ∈ company.resources, resource.name ∈ companyConnectors := by decide +kernel
  obtain ⟨registry, hregistry, hserves⟩ := (validated_mappings_found company).2 hvalid companyConnectors hconnectors
  refine ⟨hvalid, hconnectors, registry, hregistry, fun task htask => ?_⟩
  obtain ⟨hserved, hrun⟩ := hserves task htask
  exact ⟨hserved, hrun (Premises.engine registry) rfl {}⟩

end Settings

end Provisioning
