import Provisioning.Mapping.WriteSet
import Provisioning.Proofs.Mapping.Snapshot
import Provisioning.Proofs.Variants
set_option autoImplicit false

/-!
# Mapping variants

A mapping makes the same of entities and snapshots that are alike: the same identifier, and entities, patches and
write sets that are alike again.  Names, passwords and removals do not depend on the variant in which a value came.
-/

namespace Provisioning.Mapping

variable {mapping : Mapping} {entity entity' : Entity} {snapshot snapshot' : Attributes}

/-! ## Items -/

namespace Item

variable {item : Item} {incoming incoming' : List Value}

theorem values_alike (item : Item) (h : entity.Alike entity') :
    ValuesAlike (item.values entity) (item.values entity') := by
  unfold values
  cases item.target with
  | username => exact h.name ▸ ValuesAlike.refl _
  | password => exact h.password ▸ ValuesAlike.refl _
  | plain => exact h.plain.getD item.internal
  | derived => exact h.derived.getD item.internal
  | virtual => exact h.virtuals.getD item.internal

theorem store_alike (item : Item) (hincoming : ValuesAlike incoming incoming') (h : entity.Alike entity') :
    (item.store incoming entity).Alike (item.store incoming' entity') := by
  unfold store
  cases item.target with
  | username => exact { h with name := by rw [hincoming.firstText?_eq] }
  | password => exact { h with password := hincoming.firstText?_eq }
  | plain => exact { h with plain := h.plain.insert item.internal hincoming }
  | derived => exact h
  | virtual => exact { h with virtuals := h.virtuals.insert item.internal hincoming }

theorem noteValues_alike (item : Item) {existing existing' : List Value} {changes changes' : FamilyChanges}
    (hexisting : ValuesAlike existing existing') (hincoming : ValuesAlike incoming incoming')
    (h : changes.Alike changes') :
    (item.noteValues existing incoming changes).Alike (item.noteValues existing' incoming' changes') := by
  unfold noteValues
  rw [hexisting.sameValues_eq hincoming, hincoming.isEmpty_eq]
  split
  · exact h
  · split
    · exact { h with removals := by rw [h.removals] }
    · exact { h with upserts := h.upserts.insert item.internal hincoming }

theorem note_alike (item : Item) {patch patch' : Patch} (hentity : entity.Alike entity')
    (hincoming : ValuesAlike incoming incoming') (h : patch.Alike patch') :
    (item.note entity incoming patch).Alike (item.note entity' incoming' patch') := by
  have hexisting := item.values_alike hentity
  unfold note
  cases item.target with
  | username =>
    dsimp only
    rw [hincoming.firstText?_eq, hentity.name]
    cases firstText? incoming' with
    | none => exact h
    | some name =>
      dsimp only
      split
      · exact h
      · exact { h with name := rfl }
  | password =>
    dsimp only
    rw [hincoming.firstText?_eq, hentity.password]
    cases firstText? incoming' with
    | none => exact h
    | some password =>
      dsimp only
      split
      · exact h
      · exact { h with password := rfl }
  | plain => exact { h with plain := item.noteValues_alike hexisting hincoming h.plain }
  | derived => exact h
  | virtual => exact { h with virtuals := item.noteValues_alike hexisting hincoming h.virtuals }

theorem contribution?_alike (item : Item) (h : entity.Alike entity') :
    Option.Rel (fun pair pair' => pair.1 = pair'.1 ∧ ValuesAlike pair.2 pair'.2) (item.contribution? entity)
      (item.contribution? entity') := by
  have hvalues := item.values_alike h
  unfold contribution?
  rw [hvalues.isEmpty_eq]
  split
  · exact .none
  · exact .some ⟨rfl, hvalues⟩

end Item

/-! ## Mappings -/

/-- Steps that keep a relation for every item keep it over whole snapshots that are alike. -/
theorem foldSnapshot_rel {α : Type} {R : α → α → Prop} {step step' : Item → List Value → α → α} {start start' : α}
    (hstep : ∀ item incoming incoming', ValuesAlike incoming incoming' →
      ∀ a a', R a a' → R (step item incoming a) (step' item incoming' a'))
    (hsnapshot : snapshot.Alike snapshot') (hstart : R start start') (mapping : Mapping) :
    R (mapping.foldSnapshot snapshot step start) (mapping.foldSnapshot snapshot' step' start') := by
  refine List.foldl_rel hstart fun item _ a a' hrel => ?_
  obtain ⟨hleft, hright⟩ | ⟨values, values', hleft, hright, hvalues⟩ := hsnapshot.absent_or_present item.external
  · rw [hleft, hright]
    exact hrel
  · rw [hleft, hright]
    exact hstep item values values' hvalues a a' hrel

/-- What a mapping makes of entities and of snapshots that are alike. -/
structure Equates (mapping : Mapping) (entity entity' : Entity) (snapshot snapshot' : Attributes) : Prop where
  accountId : mapping.accountIdOf? entity = mapping.accountIdOf? entity'
  toEntity : (mapping.toEntity snapshot).Alike (mapping.toEntity snapshot')
  diff : (mapping.diff entity snapshot).Alike (mapping.diff entity' snapshot')
  /-- Whether there is anything to update. -/
  settled : (mapping.diff entity snapshot).isEmpty = (mapping.diff entity' snapshot').isEmpty
  /-- What an update reports, and what it makes of the entity. -/
  affected : (mapping.diff entity snapshot).affected entity = (mapping.diff entity' snapshot').affected entity'
  updated : ((mapping.diff entity snapshot).apply entity).Alike ((mapping.diff entity' snapshot').apply entity')
  write : (mapping.writeAttributes entity).Alike (mapping.writeAttributes entity')
  changedWrite : ∀ affected,
    (mapping.changedWriteAttributes entity affected).Alike (mapping.changedWriteAttributes entity' affected)

theorem writeAttributes_alike (mapping : Mapping) (h : entity.Alike entity') :
    (mapping.writeAttributes entity).Alike (mapping.writeAttributes entity') := by
  refine Attributes.alike_ofPairs (List.rel_filterMap (R := Eq) ?_ (List.forall₂_same.mpr fun _ _ => rfl))
  rintro item _ rfl
  exact item.contribution?_alike h

theorem diff_alike (mapping : Mapping) (hentity : entity.Alike entity') (hsnapshot : snapshot.Alike snapshot') :
    (mapping.diff entity snapshot).Alike (mapping.diff entity' snapshot') :=
  foldSnapshot_rel (fun item _ _ hincoming _ _ h => item.note_alike hentity hincoming h) hsnapshot Patch.alike_empty
    mapping

theorem equates (mapping : Mapping) (hentity : entity.Alike entity') (hsnapshot : snapshot.Alike snapshot') :
    mapping.Equates entity entity' snapshot snapshot' where
  accountId := (mapping.accountId.values_alike hentity).firstText?_eq
  toEntity := foldSnapshot_rel (fun item _ _ hincoming _ _ h => item.store_alike hincoming h) hsnapshot
    (Entity.Alike.refl _) mapping
  diff := mapping.diff_alike hentity hsnapshot
  settled := (mapping.diff_alike hentity hsnapshot).isEmpty_eq
  affected := (mapping.diff_alike hentity hsnapshot).affected_eq hentity
  updated := (mapping.diff_alike hentity hsnapshot).apply hentity
  write := mapping.writeAttributes_alike hentity
  changedWrite affected := (mapping.writeAttributes_alike hentity).filter (mapping.carries affected)

end Provisioning.Mapping
