import Provisioning.Proofs.Effect.Frame
set_option autoImplicit false

/-!
# Two operations side by side

Two courses of events are compared by a relation between their worlds.  Operations are alike when, started in
related worlds, they give the same answer and end in related worlds.  What is put together from like operations in
the same way is alike again, so it is enough to compare the systems outside.
-/

namespace Provisioning

variable {σ τ α β γ ε : Type}

/-- Started in related worlds, two operations end in related worlds, whatever they answer. -/
def Abreast (R : σ → τ → Prop) (left : StateM σ α) (right : StateM τ β) : Prop :=
  ∀ s t, R s t → R (left s).2 (right t).2

/-- Started in related worlds, two operations give the same answer and end in related worlds. -/
def Alike (R : σ → τ → Prop) (left : StateM σ α) (right : StateM τ α) : Prop :=
  ∀ s t, R s t → (left s).1 = (right t).1 ∧ R (left s).2 (right t).2

section Sequencing

variable {R : σ → τ → Prop} {left : StateM σ α} {right : StateM τ α}

theorem Alike.abreast (h : Alike R left right) : Abreast R left right :=
  fun s t hrel => (h s t hrel).2

theorem alike_pure (a : α) : Alike R (pure a) (pure a) := fun _ _ hrel => ⟨rfl, hrel⟩

theorem alike_ok (a : α) : Alike R (Effect.ok a : Effect σ ε α) (Effect.ok a : Effect τ ε α) :=
  fun _ _ hrel => ⟨rfl, hrel⟩

theorem alike_fail (e : ε) : Alike R (Effect.fail e : Effect σ ε α) (Effect.fail e : Effect τ ε α) :=
  fun _ _ hrel => ⟨rfl, hrel⟩

/-- An operation is like itself in the same world. -/
theorem alike_self (operation : StateM σ α) : Alike Eq operation operation := by
  rintro s t rfl
  exact ⟨rfl, rfl⟩

theorem Alike.bind {next : α → StateM σ β} {next' : α → StateM τ β} (h : Alike R left right)
    (hnext : ∀ a, Alike R (next a) (next' a)) : Alike R (left >>= next) (right >>= next') := by
  intro s t hrel
  obtain ⟨hanswer, hafter⟩ := h s t hrel
  simp only [bind_apply, hanswer]
  exact hnext _ _ _ hafter

/-- What follows may depend on the present worlds, as long as it is alike in related ones. -/
theorem alike_get_bind {next : σ → StateM σ α} {next' : τ → StateM τ α}
    (h : ∀ s t, R s t → Alike R (next s) (next' t)) : Alike R (get >>= next) (get >>= next') :=
  fun s t hrel => h s t hrel s t hrel

/-- The answers of operations that end in related worlds do not matter if what follows ignores them. -/
theorem Abreast.bind {right : StateM τ β} {next : StateM σ γ} {next' : StateM τ γ} (h : Abreast R left right)
    (hnext : Alike R next next') : Alike R (left >>= fun _ => next) (right >>= fun _ => next') := by
  intro s t hrel
  exact hnext _ _ (h s t hrel)

theorem Alike.map (f : α → β) (h : Alike R left right) : Alike R (f <$> left) (f <$> right) := by
  intro s t hrel
  obtain ⟨hanswer, hafter⟩ := h s t hrel
  exact ⟨congrArg f hanswer, hafter⟩

theorem Alike.mapOk {left : Effect σ ε α} {right : Effect τ ε α} (f : α → β) (h : Alike R left right) :
    Alike R (left.mapOk f) (right.mapOk f) := by
  intro s t hrel
  obtain ⟨hanswer, hafter⟩ := h s t hrel
  exact ⟨congrArg (Except.map f) hanswer, hafter⟩

theorem Alike.ite {condition : Prop} [Decidable condition] {left' : StateM σ α} {right' : StateM τ α}
    (h : condition → Alike R left right) (h' : ¬condition → Alike R left' right') :
    Alike R (if condition then left else left') (if condition then right else right') := by
  split
  · exact h ‹_›
  · exact h' ‹_›

theorem Alike.andThen {first : Effect σ ε α} {first' : Effect τ ε α} {next : α → Effect σ ε β}
    {next' : α → Effect τ ε β} (h : Alike R first first') (hnext : ∀ a, Alike R (next a) (next' a)) :
    Alike R (first.andThen next) (first'.andThen next') := by
  intro s t hrel
  obtain ⟨hanswer, hafter⟩ := h s t hrel
  simp only [Effect.andThen_apply, hanswer]
  cases (first' t).1 with
  | ok a => exact hnext a _ _ hafter
  | error e => exact ⟨rfl, hafter⟩

end Sequencing

/-! ## Reading -/

/-- Reading what is there: nothing of it changes, and the answer depends on nothing else. -/
structure Reads (view : σ → τ) (operation : StateM σ α) : Prop where
  unchanged : (Frame.unchanged view).Keeps operation
  determined : ∀ s t, view s = view t → (operation s).1 = (operation t).1

/-- Giving an answer without looking is reading. -/
theorem reads_pure (view : σ → τ) (a : α) : Reads view (pure a : StateM σ α) where
  unchanged _ := rfl
  determined _ _ _ := rfl

/-- Two worlds in both of which the same is there. -/
def Seen (view : σ → τ) (seen : τ) (s t : σ) : Prop := view s = seen ∧ view t = seen

theorem Reads.alike {view : σ → τ} {operation : StateM σ α} (h : Reads view operation) (seen : τ) :
    Alike (Seen view seen) operation operation := by
  rintro s t ⟨hs, ht⟩
  exact ⟨h.determined s t (hs.trans ht.symm), (h.unchanged s).trans hs, (h.unchanged t).trans ht⟩

/-- Reading a part of the world is reading the world, if what is there of the part is what is there of the world. -/
theorem Reads.zoom {υ : Type} {lens : Lens σ υ} {inner : υ → γ} {view : σ → τ} {operation : StateM υ α}
    (h : Reads inner operation) (hget : ∀ s t, view s = view t → inner (lens.get s) = inner (lens.get t))
    (hset : ∀ s u, inner u = inner (lens.get s) → view (lens.set u s) = view s) :
    Reads view (lens.zoom operation) where
  unchanged s := hset s _ (h.unchanged (lens.get s))
  determined s t hsame := h.determined _ _ (hget s t hsame)

theorem abreast_of_unchanged {view : σ → τ} {operation : StateM σ α} (h : (Frame.unchanged view).Keeps operation)
    (seen : τ) : Abreast (Seen view seen) operation operation := by
  rintro s t ⟨hs, ht⟩
  exact ⟨(h s).trans hs, (h t).trans ht⟩

/-! ## A part of the world only -/

/-- Two worlds that look the same. -/
def Same (view : σ → τ) (s t : σ) : Prop := view s = view t

/-- An operation on what is looked at: its answer and what it leaves there depend on nothing else. -/
def Confined (view : σ → τ) (operation : StateM σ α) : Prop := Alike (Same view) operation operation

end Provisioning
