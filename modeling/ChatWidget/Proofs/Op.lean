import ChatWidget.Op
/-!
What an operation keeps. Whatever an operation changes before it fails stays changed, so what it keeps has
to hold after a failure too.
-/
namespace ChatWidget

theorem bind_ok {ε α β : Type} {first : Except ε α} {next : α → Except ε β} {result : β}
    (whole : (first >>= next) = .ok result) : ∃ a, first = .ok a ∧ next a = .ok result := by
  cases first with
  | error fault => cases whole
  | ok a => exact ⟨a, rfl, whole⟩

theorem bind_error {ε α β : Type} {first : Except ε α} {next : α → Except ε β} {fault : ε}
    (whole : (first >>= next) = .error fault) : first = .error fault ∨ ∃ a, first = .ok a ∧ next a = .error fault := by
  cases first with
  | error fault =>
    cases whole
    exact .inl rfl
  | ok a => exact .inr ⟨a, rfl, whole⟩

theorem map_mapped {ε α β γ : Type} (result : Except ε α) (first : α → β) (second : β → γ) :
    (result.map first).map second = result.map fun a => second (first a) := by
  cases result with
  | error fault => rfl
  | ok a => rfl

namespace Op

variable {σ τ α β : Type} {P : σ → Prop}

theorem start_bind_ok {op : Op σ α} {s after : Logged σ} {a : α} (ended : op.start s = (.ok a, after))
    (next : α → Op σ β) : (op >>= next).start s = (next a).start after := by
  rw [start_bind, ended]

theorem start_bind_error {op : Op σ α} {s after : Logged σ} {fault : Fault}
    (ended : op.start s = (.error fault, after)) (next : α → Op σ β) :
    (op >>= next).start s = (.error fault, after) := by
  rw [start_bind, ended]

theorem after_bind_pure (op : Op σ α) (result : β) (s : Logged σ) :
    ((op >>= fun _ => Pure.pure result).start s).2 = (op.start s).2 := by
  rw [start_bind]
  rcases op.start s with ⟨fault | a, after⟩
  · rfl
  · rfl

theorem discard_eq (op : Op σ α) : Functor.discard op = op >>= fun _ => Pure.pure () := by
  rw [Functor.discard, map_const, Function.comp_apply, bind_pure_comp]

theorem start_discard (op : Op σ α) (s : Logged σ) :
    (Functor.discard op).start s = ((op.start s).1.map fun _ => (), (op.start s).2) := by
  rw [discard_eq, start_bind]
  cases op.start s with
  | mk result after =>
    cases result with
    | error fault => rfl
    | ok a => rfl

/-- Does a property of the state outlast an operation, whether this fails or not? -/
def Keeps (P : σ → Prop) (op : Op σ α) : Prop := ∀ s, P s.state → P (op.start s).2.state

theorem Keeps.pure (a : α) : Keeps P (Pure.pure a : Op σ α) := fun _ holds => holds

theorem Keeps.read (look : σ → α) : Keeps P (read look) := fun _ holds => holds

theorem Keeps.whole : Keeps P whole := Keeps.read id

theorem Keeps.lift (result : Except Fault α) : Keeps P (lift result) := fun _ holds => holds

theorem Keeps.fail (fault : Fault) : Keeps P (fail fault : Op σ α) := fun _ holds => holds

theorem Keeps.note (event : Log.Event) : Keeps P (note event) := fun _ holds => holds

theorem Keeps.change {f : σ → σ} (keeps : ∀ s, P s → P (f s)) : Keeps P (change f) :=
  fun s holds => keeps s.state holds

theorem Keeps.update {f : σ → α × σ} (keeps : ∀ s, P s → P (f s).2) : Keeps P (update f) :=
  fun s holds => keeps s.state holds

theorem Keeps.attempt {op : Op σ α} (keeps : Keeps P op) : Keeps P (attempt op) := keeps

/-- After an operation that keeps a property another one may rely on it. -/
theorem Keeps.bind {op : Op σ α} {next : α → Op σ β} (first : Keeps P op)
    (second : ∀ a, Keeps P (next a)) : Keeps P (op >>= next) := by
  intro s holds
  have between := first s holds
  cases ended : op.start s with
  | mk result after =>
    rw [ended] at between
    cases result with
    | error fault =>
      rw [start_bind_error ended]
      exact between
    | ok a =>
      rw [start_bind_ok ended]
      exact second a after between

theorem Keeps.discard {op : Op σ α} (keeps : Keeps P op) : Keeps P (Functor.discard op) := by
  intro s holds
  rw [start_discard]
  exact keeps s holds

end Op

end ChatWidget
