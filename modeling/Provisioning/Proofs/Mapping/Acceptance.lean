import Provisioning.Mapping.Basic
set_option autoImplicit false

/-!
# Which items make a mapping

`Mapping.build` looks through the items several times and ends at the first fault.  Taken together it accepts exactly
the lists that are well-formed as a whole: one item identifies the object, items are flagged as password exactly when
they target it, and no two of them do.  The mapping then keeps the list as it is and finds in it the two items that it
singles out.
-/

namespace Provisioning.Mapping

variable {resource objectClass : String} {t : SubjectType} {items : List Item} {mapping : Mapping}

/-- A list of items from which a mapping can be made. -/
structure WellFormed (items : List Item) : Prop where
  identified : ∃ item ∈ items, item.accountId = true
  identified_once : items.Pairwise fun first second => ¬(first.accountId = true ∧ second.accountId = true)
  /-- The account id is neither virtual nor the password. -/
  direct : ∀ item ∈ items, item.accountId = true →
    item.password = false ∧ item.target ≠ .virtual ∧ item.target ≠ .password
  flagged : ∀ item ∈ items, item.password = true ↔ item.target = .password
  password_once : items.Pairwise fun first second => ¬(first.target = .password ∧ second.target = .password)

/-- A mapping that has been made of a list of items: it keeps them in their order, and the two that it singles out are
found among them. -/
structure MadeOf (resource : String) (t : SubjectType) (objectClass : String) (items : List Item) (mapping : Mapping) :
    Prop where
  resource : mapping.resource = resource
  subjectType : mapping.subjectType = t
  objectClass : mapping.objectClass = objectClass
  kept : mapping.items = items
  accountId : ∀ item, mapping.accountId = item ↔ item ∈ items ∧ item.accountId = true
  password : ∀ item, mapping.password = some item ↔ item ∈ items ∧ item.target = .password
  /-- The account id is looked up at the first position that is flagged so, within the list. -/
  accountId_at : items[items.findIdx Item.accountId]? = some mapping.accountId
  /-- So is the password, and at no position if none is flagged. -/
  password_at : (items.findIdx? Item.password).map (items[·]?) = mapping.password.map some

/-- No two members of a list are flagged exactly if filtering leaves no two. -/
theorem pairwise_not_both_iff {α : Type} {flag : α → Bool} {list : List α} :
    (list.Pairwise fun first second => ¬(flag first = true ∧ flag second = true)) ↔ (list.filter flag).length ≤ 1 := by
  have hsplit : (list.Pairwise fun first second => ¬(flag first = true ∧ flag second = true)) ↔
      (list.filter flag).Pairwise fun _ _ => False := by
    simp only [List.pairwise_filter, not_and]
  rw [hsplit]
  match list.filter flag with
  | [] => simp
  | [_] => simp
  | _ :: _ :: _ => exact iff_of_false (fun h => List.rel_of_pairwise_cons h List.mem_cons_self) (by simp)

theorem items_of_build (h : build resource t objectClass items = .ok mapping) :
    mapping.resource = resource ∧ mapping.subjectType = t ∧ mapping.objectClass = objectClass ∧
      mapping.items = items := by
  unfold build at h
  split at h
  · cases h
  · cases h
  · split at h
    · split at h
      · cases h
      · dsimp only at h
        split at h
        · cases h
        · cases h
          exact ⟨rfl, rfl, rfl, rfl⟩
        · cases h
          exact ⟨rfl, rfl, rfl, rfl⟩
    · cases h

theorem accountId_eq_iff {item : Item} :
    mapping.accountId = item ↔ item ∈ mapping.items ∧ item.accountId = true := by
  rw [← List.mem_filter, mapping.accountId_unique, List.mem_singleton, eq_comm]

theorem password_eq_some_iff_flagged {item : Item} :
    mapping.password = some item ↔ item ∈ mapping.items ∧ item.password = true := by
  rw [← List.mem_filter, mapping.password_unique, Option.mem_toList]

theorem password_eq_some_iff {item : Item} :
    mapping.password = some item ↔ item ∈ mapping.items ∧ item.target = .password := by
  rw [password_eq_some_iff_flagged]
  refine and_congr_right fun hmem => ?_
  rw [mapping.password_flagged item hmem, beq_iff_eq]

/-- The items of every mapping are well-formed. -/
theorem wellFormed_items (mapping : Mapping) : WellFormed mapping.items where
  identified := ⟨mapping.accountId, accountId_eq_iff.mp rfl⟩
  identified_once := by
    rw [pairwise_not_both_iff, mapping.accountId_unique]
    exact Nat.le_refl 1
  direct item hmem haccount := by
    obtain rfl := accountId_eq_iff.mpr ⟨hmem, haccount⟩
    obtain ⟨hvirtual, hpassword⟩ := mapping.accountId_direct
    refine ⟨?_, hvirtual, hpassword⟩
    rw [mapping.password_flagged _ hmem]
    exact beq_false_of_ne hpassword
  flagged item hmem := by rw [mapping.password_flagged item hmem, beq_iff_eq]
  password_once := by
    have hflags : mapping.items.Pairwise fun first second => ¬(first.password = true ∧ second.password = true) := by
      rw [pairwise_not_both_iff, mapping.password_unique]
      cases mapping.password <;> simp
    refine hflags.imp_of_mem fun {first second} hfirst hsecond hflag hboth => hflag ?_
    rw [mapping.password_flagged first hfirst, mapping.password_flagged second hsecond, beq_iff_eq, beq_iff_eq]
    exact hboth

theorem getElem?_accountId (mapping : Mapping) :
    mapping.items[mapping.items.findIdx Item.accountId]? = some mapping.accountId := by
  have hlt : mapping.items.findIdx Item.accountId < mapping.items.length :=
    List.findIdx_lt_length_of_exists ⟨mapping.accountId, accountId_eq_iff.mp rfl⟩
  rw [List.getElem?_eq_getElem hlt]
  exact congrArg some (accountId_eq_iff.mpr ⟨List.getElem_mem hlt, List.findIdx_getElem⟩).symm

theorem getElem?_password (mapping : Mapping) :
    (mapping.items.findIdx? Item.password).map (mapping.items[·]?) = mapping.password.map some := by
  cases hfound : mapping.items.findIdx? Item.password with
  | none =>
    cases hpassword : mapping.password with
    | none => rfl
    | some item =>
      obtain ⟨hmem, hflag⟩ := password_eq_some_iff_flagged.mp hpassword
      rw [List.findIdx?_eq_none_iff.mp hfound item hmem] at hflag
      cases hflag
  | some position =>
    obtain ⟨hlt, hflag, -⟩ := List.findIdx?_eq_some_iff_getElem.mp hfound
    rw [password_eq_some_iff_flagged.mpr ⟨List.getElem_mem hlt, hflag⟩, Option.map_some, Option.map_some,
      List.getElem?_eq_getElem hlt]

theorem madeOf_build (h : build resource t objectClass items = .ok mapping) :
    mapping.MadeOf resource t objectClass items := by
  obtain ⟨hresource, htype, hclass, rfl⟩ := items_of_build h
  exact ⟨hresource, htype, hclass, rfl, fun _ => accountId_eq_iff, fun _ => password_eq_some_iff,
    mapping.getElem?_accountId, mapping.getElem?_password⟩

/-- Well-formed items pass every look that is taken at them. -/
theorem exists_build (h : WellFormed items) (resource : String) (t : SubjectType) (objectClass : String) :
    ∃ mapping, build resource t objectClass items = .ok mapping := by
  have hflags : ∀ item ∈ items, item.password = (item.target == .password) := fun item hmem =>
    Bool.eq_iff_iff.mpr ((h.flagged item hmem).trans beq_iff_eq.symm)
  have hpasswords : (items.filter Item.password).length ≤ 1 := by
    refine pairwise_not_both_iff.mp (h.password_once.imp_of_mem fun {first second} hfirst hsecond honce hboth => ?_)
    exact honce ⟨(h.flagged first hfirst).mp hboth.1, (h.flagged second hsecond).mp hboth.2⟩
  -- One look after the other: at the account ids, at what they target, at the flags, at the passwords.
  unfold build
  split
  · rename_i hnone
    obtain ⟨item, hmem, haccount⟩ := h.identified
    exact absurd haccount (List.filter_eq_nil_iff.mp hnone item hmem)
  · rename_i hmany
    have hone := pairwise_not_both_iff.mp h.identified_once
    rw [hmany, List.length_cons, List.length_cons] at hone
    omega
  · rename_i item haccount
    have hmem : item ∈ items ∧ item.accountId = true := by
      rw [← List.mem_filter, haccount]
      exact List.mem_singleton_self item
    rw [dif_pos (h.direct item hmem.1 hmem.2)]
    split
    · rename_i mixed hfound
      have hmixed := List.find?_some hfound
      rw [hflags mixed (List.mem_of_find?_eq_some hfound), bne_self_eq_false] at hmixed
      cases hmixed
    · dsimp only
      split
      · rename_i hmany
        rw [hmany, List.length_cons, List.length_cons] at hpasswords
        omega
      · exact ⟨_, rfl⟩
      · exact ⟨_, rfl⟩

/-- A mapping can be made of exactly the well-formed lists of items.  It keeps the items in their order, and it singles
out the item that is flagged as account id and the one that targets the password, if there is one. -/
theorem build_accepts_wellFormed (resource : String) (t : SubjectType) (objectClass : String) (items : List Item) :
    ((∃ mapping, build resource t objectClass items = .ok mapping) ↔ WellFormed items) ∧
      ∀ mapping, build resource t objectClass items = .ok mapping →
        mapping.MadeOf resource t objectClass items := by
  refine ⟨⟨?_, fun h => exists_build h resource t objectClass⟩, fun mapping => madeOf_build⟩
  rintro ⟨mapping, hbuild⟩
  obtain ⟨-, -, -, rfl⟩ := items_of_build hbuild
  exact mapping.wellFormed_items

/-- The mapping of users that is made of a list of items. -/
def ofItems (resource objectClass : String) (items : List Item)
    (h : (build resource .user objectClass items).toOption.isSome = true := by decide) : Mapping :=
  (build resource .user objectClass items).toOption.get h

end Provisioning.Mapping
