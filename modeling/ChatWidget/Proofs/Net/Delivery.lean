import ChatWidget.Proofs.Net.Session
import Mathlib.Data.List.Forall2
import Mathlib.Data.List.Nodup
import Mathlib.Data.List.Perm.Basic
/-!
Every request is delivered once, in the order in which the requests ended. The invariant says where each
request is: its worker is at work, or its outcome waits in the queue, or its delivery has begun. It is kept
by every step, so it holds whatever the order of workers and callbacks was.
-/
namespace ChatWidget.Delivery

variable {κ : Type}

/-- What is put into the queue when a worker ends with a result. -/
def arrivalOf (callbacks : Callbacks κ) (result : Except Fault Outcome) : Arrival κ :=
  match result with
  | .ok outcome => ⟨outcome, callbacks⟩
  | .error fault => ⟨Transport.outcomeOf fault, callbacks⟩

theorem invocation_arrivalOf (callbacks : Callbacks κ) (result : Except Fault Outcome) :
    invocation (arrivalOf callbacks result) = due callbacks result := by
  cases result with
  | error fault => rfl
  | ok outcome => cases outcome <;> rfl

/-! ### What the operations of the transport do -/

theorem register_pending (call : Call) (now : Logged (Transport κ × Wire)) :
    ((Transport.register call).start now).2.state.1.pending = now.state.1.pending + 1 := rfl

theorem register_queue (call : Call) (now : Logged (Transport κ × Wire)) :
    ((Transport.register call).start now).2.state.1.queue = now.state.1.queue := rfl

theorem settle_pending (callbacks : Callbacks κ) (result : Except Fault Outcome)
    (now : Logged (Transport κ × Wire)) :
    ((Transport.settle callbacks result).start now).2.state.1.pending =
      now.state.1.pending := by
  cases result <;> rfl

theorem settle_queue (callbacks : Callbacks κ) (result : Except Fault Outcome)
    (now : Logged (Transport κ × Wire)) :
    ((Transport.settle callbacks result).start now).2.state.1.queue =
      now.state.1.queue ++ [arrivalOf callbacks result] := by
  cases result <;> rfl

theorem take_some {arrival : Arrival κ} {now after : Logged (Transport κ × Wire)}
    (taken : Transport.take.start now = (.ok (some arrival), after)) :
    now.state.1.queue = arrival :: after.state.1.queue ∧
      after.state.1.pending = now.state.1.pending - 1 := by
  unfold Transport.take at taken
  rw [Op.start_update] at taken
  cases waits : now.state.1.queue with
  | nil => simp [waits] at taken
  | cons first rest =>
    simp only [waits, Prod.mk.injEq, Except.ok.injEq, Option.some.injEq] at taken
    obtain ⟨rfl, rfl⟩ := taken
    exact ⟨rfl, rfl⟩

theorem take_of_queue {arrival : Arrival κ} {rest : List (Arrival κ)}
    {now : Logged (Transport κ × Wire)} (waits : now.state.1.queue = arrival :: rest) :
    ∃ after, Transport.take.start now = (.ok (some arrival), after) := by
  unfold Transport.take
  rw [Op.start_update]
  simp [waits]

theorem contain_state (endpoint : String) (result : Except Fault Unit)
    (now : Logged (Transport κ × Wire)) :
    ((Transport.contain endpoint result).start now).2.state = now.state := by
  cases result <;> rfl

/-! ### Where the requests are -/

/-- Is this what waits in the queue for a request: its callbacks with the end of its worker? -/
def Matches (events : List (Event κ)) (number : Nat) (arrival : Arrival κ) : Prop :=
  ∃ callbacks result, (issues events)[number]? = some callbacks ∧
    (number, result) ∈ finishes events ∧ arrival = arrivalOf callbacks result

/-- Is this the callback to be called for a request, with what it is to be called with? -/
def Answered (events : List (Event κ)) (number : Nat) (invoked : Option (κ × Outcome)) : Prop :=
  ∃ callbacks result, (issues events)[number]? = some callbacks ∧
    (number, result) ∈ finishes events ∧ invoked = due callbacks result

/-- Every request issued is in one place, and what the transport counts is what there is. -/
structure Sound (events : List (Event κ)) (s : Session κ) : Prop where
  issued : s.issued = (issues events).length
  pending : s.pending = s.workers.length + s.queue.length
  numbers : (s.workers.map Prod.fst ++ (finishes events).map Prod.fst).Perm (List.range s.issued)
  known : ∀ worker ∈ s.workers, (issues events)[worker.1]? = some worker.2
  order : (finishes events).map Prod.fst = (beginnings events).map Prod.fst ++ s.queued
  waiting : List.Forall₂ (Matches events) s.queued s.queue
  answered : ∀ number invoked, (number, invoked) ∈ beginnings events →
    Answered events number invoked
  counted : returnedTotal events + handledTotal s.stack = completed events
  running : (beginnings events).length = completed events + runningTotal s.stack

theorem issued_before {events : List (Event κ)} {number : Nat} {callbacks : Callbacks κ}
    (known : (issues events)[number]? = some callbacks) (more : List (Event κ)) :
    (issues (events ++ more))[number]? = some callbacks := by
  obtain ⟨bound, -⟩ := List.getElem?_eq_some_iff.mp known
  rw [issues_append]
  exact (List.getElem?_append_left bound).trans known

theorem finished_before {events : List (Event κ)} {finish : Nat × Except Fault Outcome}
    (member : finish ∈ finishes events) (more : List (Event κ)) :
    finish ∈ finishes (events ++ more) := by
  rw [finishes_append]
  exact List.mem_append_left _ member

theorem Matches.append {events : List (Event κ)} {number : Nat} {arrival : Arrival κ}
    (found : Matches events number arrival) (more : List (Event κ)) :
    Matches (events ++ more) number arrival := by
  obtain ⟨callbacks, result, known, ended, same⟩ := found
  exact ⟨callbacks, result, issued_before known more, finished_before ended more, same⟩

theorem Answered.append {events : List (Event κ)} {number : Nat} {invoked : Option (κ × Outcome)}
    (answer : Answered events number invoked) (more : List (Event κ)) :
    Answered (events ++ more) number invoked := by
  obtain ⟨callbacks, result, known, ended, same⟩ := answer
  exact ⟨callbacks, result, issued_before known more, finished_before ended more, same⟩

theorem Matches.answered {events : List (Event κ)} {number : Nat} {arrival : Arrival κ}
    (found : Matches events number arrival) : Answered events number (invocation arrival) := by
  obtain ⟨callbacks, result, known, ended, rfl⟩ := found
  exact ⟨callbacks, result, known, ended, invocation_arrivalOf callbacks result⟩

theorem waiting_append {events : List (Event κ)} {numbers : List Nat} {arrivals : List (Arrival κ)}
    (waiting : List.Forall₂ (Matches events) numbers arrivals) (more : List (Event κ)) :
    List.Forall₂ (Matches (events ++ more)) numbers arrivals :=
  waiting.imp fun _ _ found => found.append more

theorem answered_append {events more : List (Event κ)}
    (answered : ∀ number invoked, (number, invoked) ∈ beginnings events →
      Answered events number invoked)
    (fresh : ∀ number invoked, (number, invoked) ∈ beginnings more →
      Answered (events ++ more) number invoked) :
    ∀ number invoked, (number, invoked) ∈ beginnings (events ++ more) →
      Answered (events ++ more) number invoked := by
  intro number invoked member
  rw [beginnings_append, List.mem_append] at member
  cases member with
  | inl before => exact (answered number invoked before).append more
  | inr now => exact fresh number invoked now

theorem filter_numbers {workers : List (Nat × Callbacks κ)}
    (distinct : (workers.map Prod.fst).Nodup) (number : Nat) :
    (workers.filter (·.1 != number)).map Prod.fst = (workers.map Prod.fst).erase number := by
  rw [distinct.erase_eq_filter, List.filter_map]
  rfl

theorem perm_finish {workers : List (Nat × Callbacks κ)} {ended numbers : List Nat}
    (all : (workers.map Prod.fst ++ ended).Perm numbers) (distinct : (workers.map Prod.fst).Nodup)
    {number : Nat} (present : number ∈ workers.map Prod.fst) :
    ((workers.filter (·.1 != number)).map Prod.fst ++ (ended ++ [number])).Perm numbers := by
  have moved : ((workers.map Prod.fst).erase number ++ (ended ++ [number])).Perm
      (number :: (workers.map Prod.fst).erase number ++ ended) := by
    rw [← List.append_assoc]
    exact List.perm_append_singleton _ _
  rw [filter_numbers distinct]
  exact (moved.trans ((List.perm_cons_erase present).symm.append_right ended)).trans all

theorem length_finish {workers : List (Nat × Callbacks κ)}
    (distinct : (workers.map Prod.fst).Nodup) {number : Nat}
    (present : number ∈ workers.map Prod.fst) :
    (workers.filter (·.1 != number)).length + 1 = workers.length := by
  have shorter := congrArg List.length (filter_numbers distinct number)
  have positive := List.length_pos_of_mem present
  rw [List.length_map, List.length_erase_of_mem present, List.length_map] at shorter
  rw [List.length_map] at positive
  omega

/-! ### One step, and a whole run -/

theorem Sound.distinct {events : List (Event κ)} {s : Session κ} (sound : Sound events s) :
    (s.workers.map Prod.fst).Nodup :=
  (List.nodup_append.mp (sound.numbers.nodup_iff.mpr List.nodup_range)).1

theorem Sound.issue {events : List (Event κ)} {s : Session κ} (sound : Sound events s) (call : Call)
    (callbacks : Callbacks κ) :
    Sound (events ++ [.issue callbacks])
      { s with
        now := ((Transport.register call).start s.now).2
        issued := s.issued + 1
        workers := s.workers ++ [(s.issued, callbacks)] } where
  issued := by simp [sound.issued, issues]
  pending := by
    have before := sound.pending
    simp only [Session.pending, Session.queue] at before ⊢
    rw [register_pending, register_queue, List.length_append, List.length_singleton]
    omega
  numbers := by
    rw [finishes_append, List.range_succ, List.map_append]
    simp only [finishes, List.filterMap_cons_none, List.filterMap_nil, List.append_nil]
    have swapped : ([s.issued] ++ (finishes events).map Prod.fst).Perm
        ((finishes events).map Prod.fst ++ [s.issued]) := List.perm_append_comm
    have moved := swapped.append_left (s.workers.map Prod.fst)
    rw [← List.append_assoc, ← List.append_assoc] at moved
    exact moved.trans (sound.numbers.append_right _)
  known := by
    intro worker member
    rw [List.mem_append, List.mem_singleton] at member
    cases member with
    | inl before => exact issued_before (sound.known worker before) _
    | inr now =>
      rw [now, issues_append, sound.issued]
      simp [issues]
  order := by
    rw [finishes_append, beginnings_append, List.map_append, List.map_append]
    simpa [finishes, beginnings] using sound.order
  waiting := waiting_append sound.waiting _
  answered := answered_append sound.answered (by simp [beginnings])
  counted := by
    rw [returnedTotal_append, completed_append]
    simpa [returnedTotal, completed] using sound.counted
  running := by
    rw [beginnings_append, completed_append]
    simpa [beginnings, completed] using sound.running

theorem Sound.finish {events : List (Event κ)} {s : Session κ} (sound : Sound events s)
    {number : Nat} {callbacks : Callbacks κ} (working : (number, callbacks) ∈ s.workers)
    (result : Except Fault Outcome) :
    Sound (events ++ [.finish number result])
      { s with
        now := ((Transport.settle callbacks result).start s.now).2
        workers := s.workers.filter (·.1 != number)
        queued := s.queued ++ [number] } where
  issued := by
    rw [issues_append]
    simpa [issues] using sound.issued
  pending := by
    have before := sound.pending
    have present : number ∈ s.workers.map Prod.fst := List.mem_map_of_mem working
    have shorter := length_finish sound.distinct present
    simp only [Session.pending, Session.queue] at before ⊢
    rw [settle_pending, settle_queue, List.length_append, List.length_singleton]
    omega
  numbers := by
    rw [finishes_append, List.map_append]
    exact perm_finish sound.numbers sound.distinct (List.mem_map_of_mem working)
  known := by
    intro worker member
    exact issued_before (sound.known worker (List.mem_of_mem_filter member)) _
  order := by
    rw [finishes_append, beginnings_append, List.map_append, List.map_append, sound.order]
    simp [finishes, beginnings]
  waiting := by
    simp only [Session.queue]
    rw [settle_queue]
    apply List.rel_append (waiting_append sound.waiting _)
    apply List.Forall₂.cons _ .nil
    refine ⟨callbacks, result, issued_before (sound.known _ working) _, ?_, rfl⟩
    rw [finishes_append]
    exact List.mem_append_right _ (by simp [finishes])
  answered := answered_append sound.answered (by simp [beginnings])
  counted := by
    rw [returnedTotal_append, completed_append]
    simpa [returnedTotal, completed] using sound.counted
  running := by
    rw [beginnings_append, completed_append]
    simpa [beginnings, completed] using sound.running

/-- What is taken from the queue is what its first number stands for. -/
theorem Sound.begin {events : List (Event κ)} {s : Session κ} (sound : Sound events s)
    {limit : Option Nat} {handled number : Nat} {below : List Frame} {queued : List Nat}
    {arrival : Arrival κ} {now : Logged (Transport κ × Wire)}
    (top : s.stack = .processing limit handled none :: below)
    (taken : Transport.take.start s.now = (.ok (some arrival), now))
    (first : s.queued = number :: queued) :
    Sound (events ++ [.begin number (invocation arrival)])
      { s with now, queued, stack := .taking limit handled arrival :: below } := by
  obtain ⟨queue, pending⟩ := take_some taken
  have waiting := sound.waiting
  rw [Session.queue, queue, first, List.forall₂_cons] at waiting
  obtain ⟨found, others⟩ := waiting
  have counted := sound.counted
  have running := sound.running
  obtain ⟨handledAfter, runningAfter⟩ := taking_total limit handled number arrival below
  rw [top, handledTotal_processing] at counted
  rw [top, runningTotal_idle] at running
  refine ⟨?_, ?_, ?_, ?_, ?_, waiting_append others _, ?_, ?_, ?_⟩
  · rw [issues_append]
    simpa [issues] using sound.issued
  · have before := sound.pending
    simp only [Session.pending, Session.queue, queue, List.length_cons] at before ⊢
    rw [pending]
    omega
  · rw [finishes_append]
    simpa [finishes] using sound.numbers
  · intro worker member
    exact issued_before (sound.known worker member) _
  · rw [finishes_append, beginnings_append, List.map_append, List.map_append, sound.order, first]
    simp [finishes, beginnings]
  · apply answered_append sound.answered
    intro other invoked member
    obtain ⟨rfl, rfl⟩ : other = number ∧ invoked = invocation arrival := by
      simpa [beginnings] using member
    exact found.answered.append _
  · have none : returnedTotal [.begin number (invocation arrival)] = 0 := rfl
    rw [returnedTotal_append, completed_append, handledAfter, none]
    omega
  · have one : (beginnings [.begin number (invocation arrival)]).length = 1 := rfl
    rw [beginnings_append, completed_append, List.length_append, one]
    dsimp only
    omega

/-- A step that leaves the requests where they are only has to keep the accounts of the calls. -/
theorem Sound.quiet {events : List (Event κ)} {s t : Session κ} (sound : Sound events s)
    {event : Event κ} (silent : issues [event] = [] ∧ finishes [event] = [] ∧ beginnings [event] = [])
    (same : t.issued = s.issued ∧ t.workers = s.workers ∧ t.queued = s.queued)
    (pending : t.pending = s.pending) (queue : t.queue = s.queue)
    (counted : returnedTotal [event] + handledTotal t.stack =
      completed [event] + handledTotal s.stack)
    (running : runningTotal s.stack = completed [event] + runningTotal t.stack) :
    Sound (events ++ [event]) t := by
  obtain ⟨noIssue, noFinish, noBeginning⟩ := silent
  obtain ⟨sameIssued, sameWorkers, sameQueued⟩ := same
  have issued : issues (events ++ [event]) = issues events := by
    rw [issues_append, noIssue, List.append_nil]
  have finished : finishes (events ++ [event]) = finishes events := by
    rw [finishes_append, noFinish, List.append_nil]
  have begun : beginnings (events ++ [event]) = beginnings events := by
    rw [beginnings_append, noBeginning, List.append_nil]
  refine ⟨?_, ?_, ?_, ?_, ?_, ?_, ?_, ?_, ?_⟩
  · rw [sameIssued, issued]
    exact sound.issued
  · rw [pending, sameWorkers, queue]
    exact sound.pending
  · rw [sameWorkers, finished, sameIssued]
    exact sound.numbers
  · rw [sameWorkers, issued]
    exact sound.known
  · rw [finished, begun, sameQueued]
    exact sound.order
  · rw [sameQueued, queue]
    exact waiting_append sound.waiting _
  · exact answered_append sound.answered (by simp [noBeginning])
  · have before := sound.counted
    rw [returnedTotal_append, completed_append]
    omega
  · have before := sound.running
    rw [begun, completed_append]
    omega

theorem Sound.step {events : List (Event κ)} {s t : Session κ} {event : Event κ}
    (sound : Sound events s) (step : Step s event t) : Sound (events ++ [event]) t := by
  cases step with
  | issue free call callbacks => exact sound.issue call callbacks
  | finish working result => exact sound.finish working result
  | process able limit =>
    refine sound.quiet ⟨rfl, rfl, rfl⟩ ⟨rfl, rfl, rfl⟩ rfl rfl ?_ ?_
    · simp [returnedTotal, completed]
    · simp [completed]
  | begin top more taken first => exact sound.begin top taken first
  | @ended limit handled endpoint below top result =>
    have state := contain_state endpoint result s.now
    refine sound.quiet ⟨rfl, rfl, rfl⟩ ⟨rfl, rfl, rfl⟩ ?_ ?_ ?_ ?_
    · rw [Session.pending, state]
      rfl
    · rw [Session.queue, state]
      rfl
    · simp only [top, handledTotal_processing]
      simp [returnedTotal, completed]
      omega
    · simp [top, completed]
      omega
  | returned top ending =>
    refine sound.quiet ⟨rfl, rfl, rfl⟩ ⟨rfl, rfl, rfl⟩ rfl rfl ?_ ?_
    · simp [top, returnedTotal, completed]
    · simp [top, completed]
  | wait free =>
    refine sound.quiet ⟨rfl, rfl, rfl⟩ ⟨rfl, rfl, rfl⟩ rfl rfl ?_ ?_
    · simp [returnedTotal, completed]
    · simp [completed]
  | waited top =>
    refine sound.quiet ⟨rfl, rfl, rfl⟩ ⟨rfl, rfl, rfl⟩ rfl rfl ?_ ?_
    · simp [top, returnedTotal, completed]
    · simp [top, completed]
  | elsewhere pending queue =>
    refine sound.quiet ⟨rfl, rfl, rfl⟩ ⟨rfl, rfl, rfl⟩ pending queue ?_ ?_
    · simp [returnedTotal, completed]
    · simp [completed]

def Session.opening (site : Site) (wire : Wire) : Session κ := { now := { state := ({ site }, wire) } }

theorem Sound.opening (site : Site) (wire : Wire) :
    Sound [] (Session.opening site wire : Session κ) where
  issued := rfl
  pending := rfl
  numbers := List.Perm.nil
  known := by simp [Session.opening]
  order := rfl
  waiting := .nil
  answered := by simp [beginnings]
  counted := rfl
  running := rfl

theorem Sound.run {events more : List (Event κ)} {s t : Session κ} (sound : Sound events s)
    (run : Run s more t) : Sound (events ++ more) t := by
  induction run with
  | none => simpa using sound
  | more _ step ih => simpa [List.append_assoc] using ih.step step

theorem Sound.ofRun {site : Site} {wire : Wire} {events : List (Event κ)} {s : Session κ}
    (run : Run (Session.opening site wire) events s) : Sound events s :=
  (Sound.opening site wire).run run

/-! ### What that comes to -/

/-- The accounts of a run, and what can come next. -/
structure Accounted (events : List (Event κ)) (s : Session κ) : Prop where
  /-- Pending are the requests that were issued and whose delivery has not begun. -/
  pending : (s.pending : Int) = (issues events).length - (beginnings events).length
  /-- No delivery begins twice. -/
  once : ((beginnings events).map Prod.fst).Nodup
  order : (beginnings events).map Prod.fst <+: (finishes events).map Prod.fst
  /-- A delivery calls the callback that the end of its worker calls for, and nothing else. -/
  answered : ∀ number invoked, (number, invoked) ∈ beginnings events →
    ∃ callbacks result, (issues events)[number]? = some callbacks ∧
      (number, result) ∈ finishes events ∧ invoked = due callbacks result
  /-- What was returned, with what the calls on the stack will return, counts the deliveries. -/
  counted : returnedTotal events + handledTotal s.stack = completed events
  /-- Where a callback raises, it might as well have returned: only the log tells. -/
  contained : ∀ fault t, Step s (.ended (.error fault)) t →
    ∃ log, Step s (.ended (.ok ())) { t with now := ⟨t.now.state, log⟩ }
  /-- A call of `process` without a limit goes on as long as there is something in the queue. -/
  goesOn : ∀ handled below, s.stack = .processing none handled none :: below → s.queue ≠ [] →
    (∃ number invoked t, Step s (.begin number invoked) t) ∧
      ∀ count t, ¬ Step s (.returned count) t
  /-- When `wait` tells that all is settled, every delivery has begun, and it is over unless its callback
  is one of those that wait. -/
  settled : ∀ t, Step s (.waited true) t → s.workers = [] ∧ s.queue = [] ∧
    (∀ number < (issues events).length, number ∈ (beginnings events).map Prod.fst) ∧
    completed events + runningTotal t.stack = (issues events).length

theorem Sound.places {events : List (Event κ)} {s : Session κ} (sound : Sound events s) :
    s.pending + (beginnings events).length = (issues events).length := by
  have all := sound.numbers.length_eq
  have order := congrArg List.length sound.order
  have waiting := sound.waiting.length_eq
  have pending := sound.pending
  have issued := sound.issued
  simp only [List.length_append, List.length_map, List.length_range] at all order
  omega

theorem Sound.once {events : List (Event κ)} {s : Session κ} (sound : Sound events s) :
    ((beginnings events).map Prod.fst).Nodup := by
  have distinct := sound.numbers.nodup_iff.mpr List.nodup_range
  have finished := (List.nodup_append.mp distinct).2.1
  rw [sound.order] at finished
  exact (List.nodup_append.mp finished).1

theorem Sound.goesOn {events : List (Event κ)} {s : Session κ} (sound : Sound events s)
    {handled : Nat} {below : List Frame} (top : s.stack = .processing none handled none :: below)
    (some : s.queue ≠ []) :
    (∃ number invoked t, Step s (.begin number invoked) t) ∧
      ∀ count t, ¬ Step s (.returned count) t := by
  have waiting := sound.waiting
  obtain ⟨arrival, rest, queue⟩ := List.exists_cons_of_ne_nil some
  obtain ⟨after, taken⟩ := take_of_queue queue
  constructor
  · cases numbers : s.queued with
    | nil =>
      rw [numbers, queue] at waiting
      cases waiting
    | cons number queued => exact ⟨number, _, _, .begin top (by simp) taken numbers⟩
  · intro count t step
    cases step with
    | returned top' ending =>
      rw [top] at top'
      cases top'
      cases ending with
      | inl limited => cases limited
      | inr empty =>
        rw [taken] at empty
        cases empty

theorem Sound.settled {events : List (Event κ)} {s t : Session κ} (sound : Sound events s)
    {event : Event κ} (step : Step s event t) (told : event = .waited true) :
    s.workers = [] ∧ s.queue = [] ∧
      (∀ number < (issues events).length, number ∈ (beginnings events).map Prod.fst) ∧
      completed events + runningTotal t.stack = (issues events).length := by
  cases step with
  | waited top =>
    have none : s.pending = 0 := by simpa using told
    have places := sound.pending
    have workers : s.workers = [] := List.eq_nil_of_length_eq_zero (by omega)
    have queue : s.queue = [] := List.eq_nil_of_length_eq_zero (by omega)
    have numbers := sound.waiting.length_eq
    have queued : s.queued = [] := List.eq_nil_of_length_eq_zero (by rw [numbers, queue]; rfl)
    refine ⟨workers, queue, ?_, ?_⟩
    · intro number bound
      have all := sound.numbers
      rw [workers, sound.order, queued, sound.issued] at all
      have member := all.mem_iff.mpr (List.mem_range.mpr bound)
      simpa using member
    · have total := sound.places
      have running := sound.running
      rw [top, runningTotal_waiting] at running
      dsimp only
      omega
  | _ => cases told

/-- Whatever the order in which requests are issued, workers end and callbacks return, raise or call back:
each request is delivered once, in its turn, to the right callback, and is counted. -/
theorem accounted {site : Site} {wire : Wire} {events : List (Event κ)} {s : Session κ}
    (run : Run (Session.opening site wire) events s) : Accounted events s where
  pending := by
    have places := (Sound.ofRun run).places
    omega
  once := (Sound.ofRun run).once
  order := by
    rw [(Sound.ofRun run).order]
    exact List.prefix_append _ _
  answered := (Sound.ofRun run).answered
  counted := (Sound.ofRun run).counted
  contained := by
    intro fault t step
    cases step with
    | ended top result => exact ⟨s.now.log, .ended top (.ok ())⟩
  goesOn := fun _ _ top some => (Sound.ofRun run).goesOn top some
  settled := fun _ step => (Sound.ofRun run).settled step rfl

/-- The second of two requests breaks down before the first one has ended; its callback processes the
queue itself, where by then the first one is, and raises. -/
theorem accounted_overtaken :
    let site : Site := { root := "", service := "", identity := .null }
    let asked : Callbacks String := ⟨"asked", some "answer", some "regret"⟩
    let later : Callbacks String := ⟨"later", none, some "again"⟩
    let events : List (Event String) :=
      [.issue asked, .issue later, .finish 1 (.error .missingOperation), .process none,
        .begin 1 (some ("again", .failure 500 "Internal Error")), .process none,
        .finish 0 (.ok (.success .null)), .begin 0 (some ("answer", .success .null)),
        .ended (.ok ()), .returned 1, .ended (.error .missingOperation), .returned 1, .wait,
        .waited true]
    ∃ s, Run (Session.opening site {}) events s ∧ Accounted events s := by
  intro site asked later events
  let call : Call := { endpoint := "" }
  have first : Step (Session.opening site {}) (.issue asked) _ := .issue (by trivial) call asked
  have issued := (Run.single first).more (.issue (by trivial) call later)
  have broken := issued.more (.finish (List.mem_of_getElem? (i := 1) rfl) (.error .missingOperation))
  have raising := (broken.more (.process (.inl (by trivial)) none)).more
    (.begin rfl (by simp) rfl rfl)
  have nested := (raising.more (.process (.inl (by trivial)) none)).more
    (.finish (List.mem_of_getElem? (i := 0) rfl) (.ok (.success .null)))
  have answered := (nested.more (.begin rfl (by simp) rfl rfl)).more (.ended rfl (.ok ()))
  have returned := (answered.more (.returned rfl (.inr rfl))).more
    (.ended rfl (.error .missingOperation))
  have settled := ((returned.more (.returned rfl (.inr rfl))).more (.wait (by trivial))).more
    (.waited rfl)
  exact ⟨_, settled, accounted settled⟩

end ChatWidget.Delivery
