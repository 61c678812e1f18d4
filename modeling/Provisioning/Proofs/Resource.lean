import Provisioning.Resource.Registry
set_option autoImplicit false

/-!
# Looking up resources and mappings

What a registry answers.  Configured resources map every subject type by a mapping of just that type, so whoever
looks up a mapping by a subject type gets one of that type.  Nor do the connectors matter: resources that are reached
through others are found and mapped alike.
-/

namespace Provisioning

variable {σ τ : Type}

/-- Every subject type is mapped by a mapping of that type. -/
def PerSubject.Typed (mappings : PerSubject (Option Mapping)) : Prop :=
  ∀ t mapping, mappings.get t = some mapping → mapping.subjectType = t

theorem Mapping.subjectType_build {resource objectClass : String} {t : SubjectType} {items : List Item}
    {mapping : Mapping} (h : build resource t objectClass items = .ok mapping) : mapping.subjectType = t := by
  unfold build at h
  split at h
  · cases h
  · cases h
  · split at h
    · split at h
      · cases h
      · dsimp only at h
        split at h <;> cases h <;> rfl
    · cases h

namespace Resource

theorem typed_buildMappings {resource : String} {settings : List MappingSettings}
    {table mappings : PerSubject (Option Mapping)} (htable : table.Typed)
    (h : buildMappings resource settings table = .ok mappings) : mappings.Typed := by
  induction settings generalizing table with
  | nil =>
    cases h
    exact htable
  | cons first rest ih =>
    unfold buildMappings at h
    cases hbuild : first.build resource with
    | error error => simp only [hbuild, reduceCtorEq] at h
    | ok mapping =>
      simp only [hbuild] at h
      refine ih (fun t found hget => ?_) h
      rw [PerSubject.get_set] at hget
      split at hget
      · rename_i htype
        cases hget
        exact (Mapping.subjectType_build hbuild).trans htype
      · exact htable t found hget

theorem typed_ofSettings {settings : ResourceSettings} {connector : Connector σ} {resource : Resource σ}
    (h : ofSettings settings connector = .ok resource) : resource.mappings.Typed := by
  unfold ofSettings at h
  split at h
  · cases h
  · rename_i mappings hmappings
    cases h
    refine typed_buildMappings (fun t mapping hget => ?_) hmappings
    rw [PerSubject.get_const] at hget
    cases hget

theorem mapping_eq_ok_iff {resource : Resource σ} {t : SubjectType} {mapping : Mapping} :
    resource.mapping t = .ok mapping ↔ resource.mappings.get t = some mapping := by
  unfold Resource.mapping
  cases resource.mappings.get t <;> simp

end Resource

namespace Registry

variable {registry : Registry σ} {name : String} {t : SubjectType} {resource : Resource σ} {mapping : Mapping}

theorem get_eq_ok_iff : registry.get name = .ok resource ↔ registry.resources[name]? = some resource := by
  unfold get
  split <;> simp_all

theorem lookup_eq_ok_iff :
    registry.lookup name t = .ok (resource, mapping) ↔
      registry.get name = .ok resource ∧ resource.mapping t = .ok mapping := by
  unfold lookup
  cases hget : registry.get name with
  | error error => simp
  | ok other =>
    cases hmapping : other.mapping t with
    | error error =>
      simp only [hmapping, reduceCtorEq, Except.ok.injEq, false_iff, not_and]
      rintro rfl h
      cases hmapping.symm.trans h
    | ok found =>
      simp only [hmapping, Except.ok.injEq, Prod.mk.injEq]
      constructor
      · rintro ⟨rfl, rfl⟩
        exact ⟨rfl, hmapping⟩
      · rintro ⟨rfl, h⟩
        cases hmapping.symm.trans h
        exact ⟨rfl, rfl⟩

/-- What holds of a registry and is kept by every resource that is bound holds once all of them are. -/
theorem bindAll_induction {P : Registry σ → Prop} {settings : List ResourceSettings}
    {connectors : Std.ExtTreeMap String (Connector σ)} {bound : Registry σ} (hregistry : P registry)
    (hinsert : ∀ (registry : Registry σ) (settings : ResourceSettings) (connector : Connector σ)
      (resource : Resource σ), P registry → Resource.ofSettings settings connector = .ok resource →
      P (registry.insert resource))
    (h : bindAll settings connectors registry = .ok bound) : P bound := by
  induction settings generalizing connectors registry with
  | nil =>
    cases h
    exact hregistry
  | cons first rest ih =>
    unfold bindAll at h
    split at h
    · cases h
    · split at h
      · cases h
      · rename_i resource hresource
        exact ih (hinsert registry first _ resource hregistry hresource) h

/-- Every resource maps every subject type by a mapping of that type. -/
def Typed (registry : Registry σ) : Prop :=
  ∀ (name : String) (resource : Resource σ), registry.resources[name]? = some resource → resource.mappings.Typed

theorem typed_empty : Registry.Typed ({} : Registry σ) := by
  intro name resource hget
  rw [Std.ExtTreeMap.getElem?_empty] at hget
  cases hget

theorem Typed.insert (h : registry.Typed) (hresource : resource.mappings.Typed) :
    (registry.insert resource).Typed := by
  intro name found hget
  rw [Registry.insert, Std.ExtTreeMap.getElem?_insert] at hget
  split at hget
  · cases hget
    exact hresource
  · exact h name found hget

theorem Typed.bindAll {settings : List ResourceSettings} {connectors : Std.ExtTreeMap String (Connector σ)}
    {registry' : Registry σ} (hregistry : registry.Typed)
    (h : Registry.bindAll settings connectors registry = .ok registry') : registry'.Typed :=
  bindAll_induction hregistry (fun _ _ _ _ h hresource => h.insert (Resource.typed_ofSettings hresource)) h

theorem typed_ofSettings {settings : List ResourceSettings} {connectors : Std.ExtTreeMap String (Connector σ)}
    (h : ofSettings settings connectors = .ok registry) : registry.Typed := typed_empty.bindAll h

theorem Typed.subjectType_eq (h : registry.Typed) (hlookup : registry.lookup name t = .ok (resource, mapping)) :
    mapping.subjectType = t := by
  obtain ⟨hget, hmapping⟩ := lookup_eq_ok_iff.mp hlookup
  exact h name resource (get_eq_ok_iff.mp hget) t mapping (Resource.mapping_eq_ok_iff.mp hmapping)

/-- Every resource is registered under its own name. -/
def Named (registry : Registry σ) : Prop :=
  ∀ (name : String) (resource : Resource σ), registry.resources[name]? = some resource → resource.name = name

theorem named_empty : Registry.Named ({} : Registry σ) := by
  intro name resource hget
  rw [Std.ExtTreeMap.getElem?_empty] at hget
  cases hget

theorem Named.insert (h : registry.Named) (resource : Resource σ) : (registry.insert resource).Named := by
  intro name found hget
  rw [Registry.insert, Std.ExtTreeMap.getElem?_insert] at hget
  split at hget
  · rename_i hname
    cases hget
    exact Std.LawfulEqCmp.compare_eq_iff_eq.mp hname
  · exact h name found hget

theorem Named.bindAll {settings : List ResourceSettings} {connectors : Std.ExtTreeMap String (Connector σ)}
    {registry' : Registry σ} (hregistry : registry.Named)
    (h : Registry.bindAll settings connectors registry = .ok registry') : registry'.Named :=
  bindAll_induction hregistry (fun _ _ _ resource h _ => h.insert resource) h

/-- Configured resources are registered under their names. -/
theorem named_ofSettings {settings : List ResourceSettings} {connectors : Std.ExtTreeMap String (Connector σ)}
    (h : ofSettings settings connectors = .ok registry) : registry.Named := named_empty.bindAll h

theorem Named.lookup (h : registry.Named) (hlookup : registry.lookup name t = .ok (resource, mapping)) :
    resource.name = name :=
  h name resource (get_eq_ok_iff.mp (lookup_eq_ok_iff.mp hlookup).1)

end Registry

/-! ## Other connectors -/

/-- The resource as it is reached through another connector. -/
def Resource.through (change : Connector σ → Connector τ) (resource : Resource σ) : Resource τ :=
  { resource with connector := change resource.connector }

namespace Registry

variable {registry : Registry σ} {change : String → Connector σ → Connector τ} {name : String} {t : SubjectType}

/-- Reach every resource through another connector. -/
def through (change : (resource : String) → Connector σ → Connector τ) (registry : Registry σ) : Registry τ where
  resources := registry.resources.map fun name resource => resource.through (change name)

theorem getElem?_through :
    (registry.through change).resources[name]? = registry.resources[name]?.map (Resource.through (change name)) :=
  Std.ExtTreeMap.getElem?_map

theorem lookup_through :
    (registry.through change).lookup name t =
      (registry.lookup name t).map fun found => (found.1.through (change name), found.2) := by
  unfold lookup get
  rw [getElem?_through]
  cases registry.resources[name]? with
  | none => rfl
  | some resource =>
    have hmapping : (resource.through (change name)).mapping t = resource.mapping t := rfl
    simp only [Option.map_some, hmapping]
    cases resource.mapping t <;> rfl

/-- Reaching every resource through its own connector changes nothing. -/
theorem through_self : registry.through (fun _ connector => connector) = registry := by
  have hresources : (registry.through fun _ connector => connector).resources = registry.resources := by
    refine Std.ExtTreeMap.ext_getElem? fun name => ?_
    rw [getElem?_through]
    cases registry.resources[name]? <;> rfl
  exact congrArg Registry.mk hresources

end Registry

end Provisioning
