import ChatWidget.Log.Event
/-!
Operations on a state that may fail and that keep a log. A failing operation keeps what it has changed
and logged before it failed; nothing is taken back. An operation on a part of a state is an operation on
the whole that leaves the rest alone.
-/
namespace ChatWidget

/-- A state with the log kept beside it, the oldest event first. -/
structure Logged (σ : Type) where
  state : σ
  log : List Log.Event := []

abbrev Op (σ α : Type) := ExceptT Fault (StateM (Logged σ)) α

namespace Op

variable {σ τ α β : Type}

def start (op : Op σ α) (at_ : Logged σ) : Except Fault α × Logged σ := (op.run).run at_

/-- An operation, given as what it makes of a state with its log. -/
def ofRun (f : Logged σ → Except Fault α × Logged σ) : Op σ α := ExceptT.mk fun s => f s

def read (look : σ → α) : Op σ α := ofRun fun s => (.ok (look s.state), s)

def whole : Op σ σ := read id

def change (f : σ → σ) : Op σ Unit := ofRun fun s => (.ok (), { s with state := f s.state })

def update (f : σ → α × σ) : Op σ α :=
  ofRun fun s => (.ok (f s.state).1, { s with state := (f s.state).2 })

def fail (fault : Fault) : Op σ α := ofRun fun s => (.error fault, s)

/-- Go on with a result that may be a failure. -/
def lift (result : Except Fault α) : Op σ α := ofRun fun s => (result, s)

def note (event : Log.Event) : Op σ Unit :=
  ofRun fun s => (.ok (), { s with log := s.log ++ [event] })

/-- Run an operation and look at how it ended; this does not fail. -/
def attempt (op : Op σ α) : Op σ (Except Fault α) :=
  ofRun fun s => let (result, s) := op.start s; (.ok result, s)

/-- An operation on a part of the state. -/
def within (get : σ → τ) (put : τ → σ → σ) (op : Op τ α) : Op σ α :=
  ofRun fun s =>
    let (result, part) := op.start ⟨get s.state, s.log⟩
    (result, ⟨put part.state s.state, part.log⟩)

/-! ### How operations run -/

@[simp] theorem start_pure (a : α) (s : Logged σ) : (pure a : Op σ α).start s = (.ok a, s) := rfl

@[simp] theorem start_read (look : σ → α) (s : Logged σ) :
    (read look).start s = (.ok (look s.state), s) := rfl

@[simp] theorem start_change (f : σ → σ) (s : Logged σ) :
    (change f).start s = (.ok (), { s with state := f s.state }) := rfl

@[simp] theorem start_update (f : σ → α × σ) (s : Logged σ) :
    (update f).start s = (.ok (f s.state).1, { s with state := (f s.state).2 }) := rfl

@[simp] theorem start_fail (fault : Fault) (s : Logged σ) :
    (fail fault : Op σ α).start s = (.error fault, s) := rfl

@[simp] theorem start_lift (result : Except Fault α) (s : Logged σ) :
    (lift result).start s = (result, s) := rfl

@[simp] theorem start_note (event : Log.Event) (s : Logged σ) :
    (note event).start s = (.ok (), { s with log := s.log ++ [event] }) := rfl

@[simp] theorem start_attempt (op : Op σ α) (s : Logged σ) :
    (attempt op).start s = (.ok (op.start s).1, (op.start s).2) := rfl

@[simp] theorem start_within (get : σ → τ) (put : τ → σ → σ) (op : Op τ α) (s : Logged σ) :
    (within get put op).start s =
      ((op.start ⟨get s.state, s.log⟩).1,
        ⟨put (op.start ⟨get s.state, s.log⟩).2.state s.state,
          (op.start ⟨get s.state, s.log⟩).2.log⟩) := rfl

/-- An operation after another one runs where the first one ended, unless that one failed. -/
theorem start_bind (op : Op σ α) (next : α → Op σ β) (s : Logged σ) :
    (op >>= next).start s =
      match op.start s with
      | (.ok a, after) => (next a).start after
      | (.error fault, after) => (.error fault, after) := by
  change (ExceptT.bindCont next (op.start s).1).run (op.start s).2 = _
  match h : op.start s with
  | (.ok a, after) => rfl
  | (.error fault, after) => rfl

end Op

end ChatWidget
