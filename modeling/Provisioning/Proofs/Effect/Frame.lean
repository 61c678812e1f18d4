import Provisioning.Effect
set_option autoImplicit false

/-!
# Frames

What an operation leaves alone is said by a relation between the worlds before and after it.  Such a relation is
a frame when doing nothing keeps it and when it composes, so that a sequence of operations keeps it as soon as
each of them does.  Frames are stated once for the systems outside and then hold of whatever is built from them.
-/

namespace Provisioning

/-! ## What a sequence does -/

section Sequence

variable {σ ε α β γ : Type}

@[simp] theorem pure_apply (a : α) (s : σ) : (pure a : StateM σ α) s = (a, s) := rfl

@[simp] theorem get_apply (s : σ) : (get : StateM σ σ) s = (s, s) := rfl

@[simp] theorem bind_apply (operation : StateM σ α) (next : α → StateM σ β) (s : σ) :
    (operation >>= next) s = next (operation s).1 (operation s).2 := rfl

@[simp] theorem map_apply (f : α → β) (operation : StateM σ α) (s : σ) :
    (f <$> operation) s = (f (operation s).1, (operation s).2) := rfl

namespace Effect

theorem andThen_apply (effect : Effect σ ε α) (next : α → Effect σ ε β) (s : σ) :
    effect.andThen next s =
      match (effect s).1 with
      | .ok a => next a (effect s).2
      | .error e => (.error e, (effect s).2) := by
  simp only [andThen]
  cases effect s with
  | mk answer s' => cases answer <;> rfl

theorem andThen_eq_ok_iff {effect : Effect σ ε α} {next : α → Effect σ ε β} {s : σ} {b : β} :
    (effect.andThen next s).1 = .ok b ↔
      ∃ a, (effect s).1 = .ok a ∧ (next a (effect s).2).1 = .ok b := by
  rw [andThen_apply]
  cases (effect s).1 <;> simp

@[simp] theorem isOk_mapOk (f : α → β) (effect : Effect σ ε α) (s : σ) :
    (effect.mapOk f s).1.isOk = (effect s).1.isOk := by
  unfold mapOk
  cases effect s with
  | mk answer s' => cases answer <;> rfl

theorem ok_andThen (a : α) (next : α → Effect σ ε β) : (ok a).andThen next = next a := rfl

theorem andThen_assoc (effect : Effect σ ε α) (next : α → Effect σ ε β) (last : β → Effect σ ε γ) :
    (effect.andThen next).andThen last = effect.andThen fun a => (next a).andThen last := by
  funext s
  simp only [andThen]
  cases effect s with
  | mk answer s' => cases answer <;> rfl

end Effect

end Sequence

/-! ## Frames -/

/-- A relation between the world before and the world after, closed under sequencing. -/
structure Frame (σ : Type) where
  Rel : σ → σ → Prop
  refl : ∀ s, Rel s s
  trans : ∀ {s t u}, Rel s t → Rel t u → Rel s u

namespace Frame

variable {σ τ α β ε : Type}

/-- Whatever an operation answers, it keeps the frame. -/
def Keeps (frame : Frame σ) (operation : StateM σ α) : Prop :=
  ∀ s, frame.Rel s (operation s).2

/-- The frame of what leaves a part of the world as it is. -/
def unchanged (part : σ → τ) : Frame σ where
  Rel s t := part t = part s
  refl _ := rfl
  trans h h' := h'.trans h

/-- The frame of what happens to a part of the world within another frame. -/
def onPart (part : σ → τ) (inner : Frame τ) : Frame σ where
  Rel s t := inner.Rel (part s) (part t)
  refl s := inner.refl (part s)
  trans := inner.trans

/-- The frame that every operation keeps. -/
def anything : Frame σ where
  Rel _ _ := True
  refl _ := trivial
  trans _ _ := trivial

variable {frame : Frame σ}

/-! ## Sequencing -/

theorem keeps_pure (a : α) : frame.Keeps (pure a : StateM σ α) := frame.refl

theorem keeps_get : frame.Keeps (get : StateM σ σ) := frame.refl

theorem keeps_ok (a : α) : frame.Keeps (Effect.ok a : Effect σ ε α) := frame.refl

theorem keeps_fail (e : ε) : frame.Keeps (Effect.fail e : Effect σ ε α) := frame.refl

theorem Keeps.bind {operation : StateM σ α} {next : α → StateM σ β} (h : frame.Keeps operation)
    (hnext : ∀ a, frame.Keeps (next a)) : frame.Keeps (operation >>= next) := by
  intro s
  exact frame.trans (h s) (hnext (operation s).1 (operation s).2)

theorem Keeps.map {operation : StateM σ α} (f : α → β) (h : frame.Keeps operation) :
    frame.Keeps (f <$> operation) := h

theorem Keeps.ite {condition : Prop} [Decidable condition] {first second : StateM σ α}
    (h : condition → frame.Keeps first) (h' : ¬condition → frame.Keeps second) :
    frame.Keeps (if condition then first else second) := by
  split
  · exact h ‹_›
  · exact h' ‹_›

theorem Keeps.andThen {effect : Effect σ ε α} {next : α → Effect σ ε β} (h : frame.Keeps effect)
    (hnext : ∀ a, frame.Keeps (next a)) : frame.Keeps (effect.andThen next) := by
  intro s
  have hfirst := h s
  simp only [Effect.andThen]
  split <;> rename_i heq <;> rw [heq] at hfirst
  · exact frame.trans hfirst (hnext _ _)
  · exact hfirst

/-- A frame that allows more is kept as well. -/
theorem Keeps.mono {frame' : Frame σ} {operation : StateM σ α} (h : frame.Keeps operation)
    (hrel : ∀ {s t}, frame.Rel s t → frame'.Rel s t) : frame'.Keeps operation :=
  fun s => hrel (h s)

/-- What leaves a part as it is stays within every frame of that part. -/
theorem Keeps.onPart {part : σ → τ} {operation : StateM σ α} (h : (unchanged part).Keeps operation) (inner : Frame τ) :
    (inner.onPart part).Keeps operation := by
  intro s
  have hsame : part (operation s).2 = part s := h s
  change inner.Rel (part s) (part (operation s).2)
  rw [hsame]
  exact inner.refl (part s)

end Frame

/-! ## Parts of the world -/

namespace Lens

variable {σ τ υ α : Type}

/-- What is put into the part is found there. -/
def Stores (lens : Lens σ τ) : Prop := ∀ t s, lens.get (lens.set t s) = t

/-- Two parts of one world that do not overlap: replacing one leaves the other. -/
structure Apart (left : Lens σ τ) (right : Lens σ υ) : Prop where
  get_left : ∀ u s, left.get (right.set u s) = left.get s
  get_right : ∀ t s, right.get (left.set t s) = right.get s

theorem zoom_apply (lens : Lens σ τ) (operation : StateM τ α) (s : σ) :
    lens.zoom operation s = ((operation (lens.get s)).1, lens.set (operation (lens.get s)).2 s) := rfl

/-- A change of the part within one frame is a change of the world within another. -/
def Carries (lens : Lens σ τ) (inner : Frame τ) (frame : Frame σ) : Prop :=
  ∀ s t, inner.Rel (lens.get s) t → frame.Rel s (lens.set t s)

theorem Carries.keeps_zoom {lens : Lens σ τ} {inner : Frame τ} {frame : Frame σ}
    (h : lens.Carries inner frame) {operation : StateM τ α} (hoperation : inner.Keeps operation) :
    frame.Keeps (lens.zoom operation) :=
  fun s => h s _ (hoperation (lens.get s))

end Lens

end Provisioning
