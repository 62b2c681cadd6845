/-!
# Rehearsals

What the program does in the world is written for any monad: the world itself, where connections are
made and time passes, and a rehearsal, where a state changes and the rest is only recorded. Both run
the same steps, and what is shown of a rehearsal is shown of these.
-/

namespace Rollout

/-- What a rehearsal came to: a value, the record of what would be done, and the state then. -/
structure Rehearsed (ω σ α : Type) where
  value : α
  record : List ω
  state : σ

/-- Steps that change a state of `σ` and record entries of `ω`. -/
def Rehearsal (ω σ α : Type) : Type :=
  σ → Rehearsed ω σ α

namespace Rehearsal

variable {ω σ α β : Type}

/-- Goes on with other steps that depend on the value. -/
def bind (m : Rehearsal ω σ α) (f : α → Rehearsal ω σ β) : Rehearsal ω σ β := fun state =>
  let first := m state
  let rest := f first.value first.state
  ⟨rest.value, first.record ++ rest.record, rest.state⟩

instance : Monad (Rehearsal ω σ) where
  pure x := fun state => ⟨x, [], state⟩
  bind := bind

/-- Changes the state, and records nothing. -/
def change (f : σ → α × σ) : Rehearsal ω σ α := fun state =>
  let (value, state) := f state
  ⟨value, [], state⟩

/-- Records an entry. -/
def note (entry : ω) : Rehearsal ω σ Unit := fun state =>
  ⟨(), [entry], state⟩

/-- A value alone records nothing and keeps the state. -/
@[simp] theorem pure_apply (x : α) (state : σ) :
    (pure x : Rehearsal ω σ α) state = ⟨x, [], state⟩ := rfl

/-- Steps go on in the state that the first ones leave, and their records are in this order. -/
@[simp] theorem bind_apply (m : Rehearsal ω σ α) (f : α → Rehearsal ω σ β) (state : σ) :
    (m >>= f) state =
      ⟨(f (m state).value (m state).state).value,
        (m state).record ++ (f (m state).value (m state).state).record,
        (f (m state).value (m state).state).state⟩ := rfl

/-- A change of the state records nothing. -/
@[simp] theorem change_apply (f : σ → α × σ) (state : σ) :
    (change f : Rehearsal ω σ α) state = ⟨(f state).1, [], (f state).2⟩ := rfl

/-- An entry is recorded, and the state stays. -/
@[simp] theorem note_apply (entry : ω) (state : σ) :
    (note entry : Rehearsal ω σ Unit) state = ⟨(), [entry], state⟩ := rfl

end Rehearsal

end Rollout
