import ChatWidget.Net.Transport
import Mathlib.Algebra.Ring.Nat
import Mathlib.Data.List.Basic
/-!
The steps of a site's requests. Any number of requests are on their way at once, each with a worker that
ends when it likes; the calls of `process` and of `wait` that have not come back stand on a stack, since a
callback may call them again. Each step changes the requests by the operations that the transport itself is
made of, so a run is one interleaving of workers, callbacks and the caller. What else happens to the
connection between these steps is left open, as long as it leaves the count and the queue alone.
-/
namespace ChatWidget.Delivery

variable {κ : Type}

/-- A call that has not come back. A call of `process` may have a limit; it knows how many deliveries it
has behind it, and the endpoint of the request whose callback is running. -/
inductive Frame where
  | processing (limit : Option Nat) (handled : Nat) (running : Option String)
  | waiting

/-- Is somebody in control who may issue requests: the caller at the bottom, or a callback? -/
def IsFree : List Frame → Prop
  | [] => True
  | .processing _ _ (some _) :: _ => True
  | _ => False

/-- The requests of a site in the middle of a run. Requests are numbered as they are issued; beside the
transport stand the workers that have not ended, the numbers of the requests in the queue, and the calls
that have not come back. -/
structure Session (κ : Type) where
  now : Logged (Transport κ × Wire)
  issued : Nat := 0
  workers : List (Nat × Callbacks κ) := []
  queued : List Nat := []
  stack : List Frame := []

def Session.pending (s : Session κ) : Nat := s.now.state.1.pending

def Session.queue (s : Session κ) : List (Arrival κ) := s.now.state.1.queue

/-- What happens in one step. A delivery names its request and the callback that is called, with what it is
called with. -/
inductive Event (κ : Type) where
  | issue (callbacks : Callbacks κ)
  | finish (number : Nat) (result : Except Fault Outcome)
  | process (limit : Option Nat)
  | begin (number : Nat) (invoked : Option (κ × Outcome))
  | ended (result : Except Fault Unit)
  | returned (count : Nat)
  | wait
  | waited (settled : Bool)
  | elsewhere

/-- The callback that an arrival is handed to, and what it is handed. -/
def invocation (arrival : Arrival κ) : Option (κ × Outcome) :=
  arrival.callback?.map fun callback => (callback, arrival.outcome)

/-- A call of `process` that has just taken an arrival from the queue. Without a callback its delivery is
over at once. -/
def Frame.taking (limit : Option Nat) (handled : Nat) (arrival : Arrival κ) : Frame :=
  match arrival.callback? with
  | none => .processing limit (handled + 1) none
  | some _ => .processing limit handled (some arrival.callbacks.endpoint)

/-- One step. -/
inductive Step : Session κ → Event κ → Session κ → Prop where
  | issue {s : Session κ} (free : IsFree s.stack) (call : Call) (callbacks : Callbacks κ) :
      Step s (.issue callbacks)
        { s with
          now := ((Transport.register call).start s.now).2
          issued := s.issued + 1
          workers := s.workers ++ [(s.issued, callbacks)] }
  | finish {s : Session κ} {number : Nat} {callbacks : Callbacks κ}
      (working : (number, callbacks) ∈ s.workers) (result : Except Fault Outcome) :
      Step s (.finish number result)
        { s with
          now := ((Transport.settle callbacks result).start s.now).2
          workers := s.workers.filter (·.1 != number)
          queued := s.queued ++ [number] }
  | process {s : Session κ} (able : IsFree s.stack ∨ ∃ below, s.stack = .waiting :: below)
      (limit : Option Nat) :
      Step s (.process limit) { s with stack := .processing limit 0 none :: s.stack }
  | begin {s : Session κ} {limit : Option Nat} {handled number : Nat} {below : List Frame}
      {queued : List Nat} {arrival : Arrival κ} {now : Logged (Transport κ × Wire)}
      (top : s.stack = .processing limit handled none :: below) (more : limit ≠ some handled)
      (taken : Transport.take.start s.now = (.ok (some arrival), now))
      (first : s.queued = number :: queued) :
      Step s (.begin number (invocation arrival))
        { s with now, queued, stack := .taking limit handled arrival :: below }
  | ended {s : Session κ} {limit : Option Nat} {handled : Nat} {endpoint : String}
      {below : List Frame} (top : s.stack = .processing limit handled (some endpoint) :: below)
      (result : Except Fault Unit) :
      Step s (.ended result)
        { s with
          now := ((Transport.contain endpoint result).start s.now).2
          stack := .processing limit (handled + 1) none :: below }
  | returned {s : Session κ} {limit : Option Nat} {handled : Nat} {below : List Frame}
      (top : s.stack = .processing limit handled none :: below)
      (ending : limit = some handled ∨ (Transport.take.start s.now).1 = .ok none) :
      Step s (.returned handled) { s with stack := below }
  | wait {s : Session κ} (free : IsFree s.stack) :
      Step s .wait { s with stack := .waiting :: s.stack }
  | waited {s : Session κ} {below : List Frame} (top : s.stack = .waiting :: below) :
      Step s (.waited (s.pending == 0)) { s with stack := below }
  | elsewhere {s : Session κ} {now : Logged (Transport κ × Wire)}
      (pending : now.state.1.pending = s.pending) (queue : now.state.1.queue = s.queue) :
      Step s .elsewhere { s with now }

/-- Any number of steps, and the events in their order. -/
inductive Run (start : Session κ) : List (Event κ) → Session κ → Prop where
  | none : Run start [] start
  | more {events : List (Event κ)} {event : Event κ} {s t : Session κ} :
      Run start events s → Step s event t → Run start (events ++ [event]) t

theorem Run.append {r s t : Session κ} {before after : List (Event κ)} (first : Run r before s)
    (second : Run s after t) : Run r (before ++ after) t := by
  induction second with
  | none => simpa using first
  | more _ step ih => simpa [List.append_assoc] using ih.more step

theorem Run.single {s t : Session κ} {event : Event κ} (step : Step s event t) :
    Run s [event] t := Run.none.more step

/-! ### What a run has seen -/

/-- The callbacks of the requests issued, in order: the request with a number is the one at its place. -/
def issues (events : List (Event κ)) : List (Callbacks κ) :=
  events.filterMap fun
    | .issue callbacks => some callbacks
    | _ => none

/-- The requests whose workers have ended, in order, and how they ended. -/
def finishes (events : List (Event κ)) : List (Nat × Except Fault Outcome) :=
  events.filterMap fun
    | .finish number result => some (number, result)
    | _ => none

/-- The requests whose delivery has begun, in order, and the callbacks called. -/
def beginnings (events : List (Event κ)) : List (Nat × Option (κ × Outcome)) :=
  events.filterMap fun
    | .begin number invoked => some (number, invoked)
    | _ => none

/-- How many deliveries are over: the callback has ended in one way or the other, or there was none. -/
def completed (events : List (Event κ)) : Nat :=
  events.countP fun
    | .begin _ none => true
    | .ended _ => true
    | _ => false

/-- The counts that the calls of `process` have returned, added up. -/
def returnedTotal (events : List (Event κ)) : Nat :=
  (events.filterMap fun
    | .returned count => some count
    | _ => none).sum

theorem issues_append (events more : List (Event κ)) :
    issues (events ++ more) = issues events ++ issues more := List.filterMap_append

theorem finishes_append (events more : List (Event κ)) :
    finishes (events ++ more) = finishes events ++ finishes more := List.filterMap_append

theorem beginnings_append (events more : List (Event κ)) :
    beginnings (events ++ more) = beginnings events ++ beginnings more := List.filterMap_append

theorem completed_append (events more : List (Event κ)) :
    completed (events ++ more) = completed events + completed more := List.countP_append

theorem returnedTotal_append (events more : List (Event κ)) :
    returnedTotal (events ++ more) = returnedTotal events + returnedTotal more := by
  rw [returnedTotal, List.filterMap_append, List.sum_append]
  rfl

/-- How many deliveries the calls on a stack have behind them. -/
def handledTotal (stack : List Frame) : Nat :=
  (stack.map fun
    | .processing _ handled _ => handled
    | .waiting => 0).sum

def runningTotal (stack : List Frame) : Nat :=
  stack.countP fun
    | .processing _ _ (some _) => true
    | _ => false

@[simp] theorem handledTotal_processing (limit : Option Nat) (handled : Nat)
    (running : Option String) (below : List Frame) :
    handledTotal (.processing limit handled running :: below) = handled + handledTotal below := by
  rw [handledTotal, List.map_cons, List.sum_cons]
  rfl

@[simp] theorem handledTotal_waiting (below : List Frame) :
    handledTotal (.waiting :: below) = handledTotal below := by
  rw [handledTotal, List.map_cons, List.sum_cons, Nat.zero_add]
  rfl

@[simp] theorem runningTotal_idle (limit : Option Nat) (handled : Nat) (below : List Frame) :
    runningTotal (.processing limit handled none :: below) = runningTotal below := rfl

@[simp] theorem runningTotal_busy (limit : Option Nat) (handled : Nat) (endpoint : String)
    (below : List Frame) :
    runningTotal (.processing limit handled (some endpoint) :: below) = runningTotal below + 1 := by
  rw [runningTotal, List.countP_cons_of_pos rfl]
  rfl

@[simp] theorem runningTotal_waiting (below : List Frame) :
    runningTotal (.waiting :: below) = runningTotal below := rfl

theorem taking_total (limit : Option Nat) (handled number : Nat) (arrival : Arrival κ)
    (below : List Frame) :
    handledTotal (.taking limit handled arrival :: below) =
        handled + completed [.begin number (invocation arrival)] + handledTotal below ∧
      runningTotal (.taking limit handled arrival :: below) +
        completed [.begin number (invocation arrival)] = runningTotal below + 1 := by
  unfold Frame.taking invocation
  cases arrival.callback? with
  | none => simp [completed]
  | some callback => simp [completed]

/-- The callback that a request is due when its worker has ended with a result, and what it is called with:
the one for success gets successes, the one for failure all else. -/
def due (callbacks : Callbacks κ) (result : Except Fault Outcome) : Option (κ × Outcome) :=
  match result with
  | .ok (.success payload) => callbacks.onSuccess.map (·, .success payload)
  | .ok (.failure status message) => callbacks.onFailure.map (·, .failure status message)
  | .error fault =>
    callbacks.onFailure.map
      (·, .failure 500 (if fault.code?.isSome then fault.message else "Internal Error"))

end ChatWidget.Delivery
