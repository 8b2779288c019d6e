import ChatWidget.Proofs.Net.Delivery
/-!
The program's own operations take the steps of a run: issuing a request, processing the queue, and waiting
do nothing to the requests that is not one of them. Callbacks may be anything that behaves in this way, and
they may process the queue themselves.
-/
namespace ChatWidget.Delivery

open Transport

variable {κ α β : Type}

/-- Whoever is in control and performs the operation takes steps of a run, and leaves the calls that have
not come back as they are. -/
def Behaves (op : Op (Transport κ × Wire) α) : Prop :=
  ∀ events (s : Session κ), Sound events s → IsFree s.stack →
    ∃ more t, Run s more t ∧ t.now = (op.start s.now).2 ∧ t.stack = s.stack

def IsElsewhere (op : Op (Transport κ × Wire) α) : Prop :=
  ∀ now, (op.start now).2.state.1.pending = now.state.1.pending ∧
    (op.start now).2.state.1.queue = now.state.1.queue

theorem IsElsewhere.step {op : Op (Transport κ × Wire) α} (outside : IsElsewhere op)
    (s : Session κ) : Step s .elsewhere { s with now := (op.start s.now).2 } :=
  .elsewhere (outside s.now).1 (outside s.now).2

theorem IsElsewhere.bind {op : Op (Transport κ × Wire) α}
    {next : α → Op (Transport κ × Wire) β} (first : IsElsewhere op)
    (second : ∀ a, IsElsewhere (next a)) : IsElsewhere (op >>= next) := by
  intro now
  rw [Op.start_bind]
  have before := first now
  cases ended : op.start now with
  | mk result after =>
    rw [ended] at before
    cases result with
    | error fault => exact before
    | ok a =>
      obtain ⟨pending, queue⟩ := second a after
      exact ⟨pending.trans before.1, queue.trans before.2⟩

theorem IsElsewhere.whole : IsElsewhere (Op.whole : Op (Transport κ × Wire) _) :=
  fun _ => ⟨rfl, rfl⟩

theorem IsElsewhere.lift (result : Except Fault α) :
    IsElsewhere (Op.lift result : Op (Transport κ × Wire) α) := fun _ => ⟨rfl, rfl⟩

theorem depart_isElsewhere (call : Call) :
    IsElsewhere (depart call : Op (Transport κ × Wire) _) := by
  apply IsElsewhere.bind .whole
  intro whole
  apply IsElsewhere.bind (.lift _)
  intro exchange now
  exact ⟨rfl, rfl⟩

theorem conclude_isElsewhere (number : Nat) (exchange : Exchange) :
    IsElsewhere (conclude number exchange : Op (Transport κ × Wire) _) := by
  apply IsElsewhere.bind .whole
  intro whole
  apply IsElsewhere.bind (.lift _)
  intro ended
  obtain ⟨outcome, cookies, event⟩ := ended
  apply IsElsewhere.bind (fun _ => ⟨rfl, rfl⟩)
  intro changed now
  cases event with
  | none => exact ⟨rfl, rfl⟩
  | some event => exact ⟨rfl, rfl⟩

theorem pursue_failed {call : Call} {callbacks : Callbacks κ} {fault : Fault}
    {now after : Logged (Transport κ × Wire)}
    (departed : (depart call).start now = (.error fault, after)) :
    (pursue call callbacks).start now = (settle callbacks (.error fault)).start after := by
  rw [pursue, Op.start_bind, Op.start_attempt, departed]

theorem pursue_held {call : Call} {callbacks : Callbacks κ} {gone : Nat × Exchange}
    {now after : Logged (Transport κ × Wire)}
    (departed : (depart call).start now = (.ok gone, after)) (held : after.state.2.holds = true) :
    ((pursue call callbacks).start now).2 =
      { after with
        state := ({ after.state.1 with
          flights := after.state.1.flights ++ [⟨gone.1, gone.2, callbacks⟩] }, after.state.2) } := by
  rw [pursue, Op.start_bind, Op.start_attempt, departed]
  simp [Op.start_bind, Op.whole, held]

theorem pursue_through {call : Call} {callbacks : Callbacks κ} {gone : Nat × Exchange}
    {now after : Logged (Transport κ × Wire)}
    (departed : (depart call).start now = (.ok gone, after))
    (through : after.state.2.holds = false) :
    (pursue call callbacks).start now =
      (settle callbacks ((conclude gone.1 gone.2).start after).1).start
        ((conclude gone.1 gone.2).start after).2 := by
  rw [pursue, Op.start_bind, Op.start_attempt, departed]
  simp [Op.start_bind, Op.whole, through]

/-- The work of a request ends with a step of its worker, unless the request is held back. -/
theorem pursue_runs (call : Call) (callbacks : Callbacks κ) {s : Session κ} {number : Nat}
    (working : (number, callbacks) ∈ s.workers) :
    ∃ more t, Run s more t ∧ t.now = ((pursue call callbacks).start s.now).2 ∧
      t.stack = s.stack := by
  have departed := Run.single ((depart_isElsewhere call).step s)
  cases ended : (depart call).start s.now with
  | mk result after =>
    rw [ended] at departed
    cases result with
    | error fault =>
      have finished := departed.more
        (Step.finish (s := { s with now := after }) working (.error fault))
      exact ⟨_, _, finished, by rw [pursue_failed ended], rfl⟩
    | ok gone =>
      cases holds : after.state.2.holds with
      | true =>
        have held : Step { s with now := after } .elsewhere
            { s with
              now := { after with
                state := ({ after.state.1 with
                  flights := after.state.1.flights ++ [⟨gone.1, gone.2, callbacks⟩] },
                  after.state.2) } } := .elsewhere rfl rfl
        exact ⟨_, _, departed.more held, (pursue_held ended holds).symm, rfl⟩
      | false =>
        have concluded := departed.more
          ((conclude_isElsewhere gone.1 gone.2).step { s with now := after })
        have finished := concluded.more (Step.finish
          (s := { s with now := ((conclude gone.1 gone.2).start after).2 }) working
          ((conclude gone.1 gone.2).start after).1)
        exact ⟨_, _, finished, by rw [pursue_through ended holds], rfl⟩

/-- Issuing a request is a step; so is the end of its worker, unless the request is held back. -/
theorem issue_behaves (call : Call) (callbacks : Callbacks κ) : Behaves (issue call callbacks) := by
  intro events s sound free
  have issued := Run.single (.issue free call callbacks)
  have working : (s.issued, callbacks) ∈ s.workers ++ [(s.issued, callbacks)] := by simp
  obtain ⟨more, t, run, now, stack⟩ := pursue_runs call callbacks
    (s := { s with
      now := ((register call).start s.now).2
      issued := s.issued + 1
      workers := s.workers ++ [(s.issued, callbacks)] }) working
  refine ⟨_, t, issued.append run, ?_, stack⟩
  rw [issue, Op.start_bind]
  exact now

/-! ### Processing the queue -/

theorem take_empty {now : Logged (Transport κ × Wire)} (empty : now.state.1.queue = []) :
    take.start now = (.ok none, now) := by
  obtain ⟨⟨transport, wire⟩, log⟩ := now
  unfold take
  rw [Op.start_update]
  dsimp only at empty
  simp [empty]

theorem deliver_runs {react : κ → Outcome → Op (Transport κ × Wire) Unit}
    (behaved : ∀ callback outcome, Behaves (react callback outcome)) (arrival : Arrival κ)
    {events : List (Event κ)} {s : Session κ} (sound : Sound events s) {limit : Option Nat}
    {handled : Nat} {below : List Frame} (top : s.stack = .taking limit handled arrival :: below) :
    ∃ more t, Run s more t ∧ (deliver react arrival).start s.now = (.ok (), t.now) ∧
      t.stack = .processing limit (handled + 1) none :: below := by
  unfold Frame.taking at top
  unfold deliver
  cases called : arrival.callback? with
  | none =>
    rw [called] at top
    exact ⟨[], s, .none, rfl, top⟩
  | some callback =>
    rw [called] at top
    have free : IsFree s.stack := by
      rw [top]
      trivial
    obtain ⟨more, t, run, now, stack⟩ := behaved callback arrival.outcome events s sound free
    have ended := Step.ended (stack.trans top) ((react callback arrival.outcome).start s.now).1
    refine ⟨_, _, run.more ended, ?_, rfl⟩
    dsimp only
    rw [Op.start_bind, Op.start_attempt, now]
    cases ((react callback arrival.outcome).start s.now).1 with
    | error fault => rfl
    | ok done => rfl

/-- A call of `process` with a limit, from within: it delivers until the limit is reached or the queue is
empty. -/
def Processes (process : Op (Transport κ × Wire) Nat) (limit : Nat) : Prop :=
  ∀ events (s : Session κ) handled below, Sound events s →
    s.stack = .processing (some (handled + limit)) handled none :: below →
    ∃ more t count, Run s more t ∧ process.start s.now = (.ok count, t.now) ∧
      t.stack = .processing (some (handled + limit)) (handled + count) none :: below ∧
      (count = limit ∨ t.queue = [])

theorem Processes.returns {process : Op (Transport κ × Wire) Nat} {limit : Nat}
    (processes : Processes process limit) {events : List (Event κ)} {s : Session κ}
    (sound : Sound events s) (able : IsFree s.stack ∨ ∃ below, s.stack = .waiting :: below) :
    ∃ more t count, Run s (.process (some limit) :: (more ++ [.returned count])) t ∧
      process.start s.now = (.ok count, t.now) ∧ t.stack = s.stack := by
  have called : Step s (.process (some limit)) _ := .process able (some limit)
  obtain ⟨more, t, count, run, same, stack, ending⟩ :=
    processes _ _ 0 s.stack (sound.step called) (by simp)
  have done : some (0 + limit) = some (0 + count) ∨ (take.start t.now).1 = .ok none := by
    cases ending with
    | inl reached => exact .inl (by rw [reached])
    | inr empty => exact .inr (by rw [take_empty empty])
  have whole := (Run.single called).append (run.more (.returned stack done))
  rw [Nat.zero_add] at whole
  exact ⟨more, _, count, whole, same, rfl⟩

theorem Processes.behaves {process : Op (Transport κ × Wire) Nat} {limit : Nat}
    (processes : Processes process limit) : Behaves process := by
  intro events s sound free
  obtain ⟨more, t, count, run, same, stack⟩ := processes.returns sound (.inl free)
  exact ⟨_, t, run, by rw [same], stack⟩

/-- Processing takes the steps of a run, if callbacks do that process the queue in this way. -/
theorem processWithin_processes {react : Transport.Reaction (Transport κ × Wire) κ}
    (behaved : ∀ process, Behaves process → ∀ callback outcome,
      Behaves (react process callback outcome)) (limit : Nat) :
    Processes (processWithin take react limit) limit := by
  induction limit with
  | zero =>
    intro events s handled below sound top
    exact ⟨[], s, 0, .none, rfl, top, .inl rfl⟩
  | succ limit ih =>
    intro events s handled below sound top
    rw [processWithin, Op.start_bind]
    cases queue : s.queue with
    | nil =>
      rw [take_empty queue]
      exact ⟨[], s, 0, .none, rfl, top, .inr queue⟩
    | cons arrival rest =>
      obtain ⟨after, taken⟩ := take_of_queue queue
      have paired := sound.waiting.length_eq
      cases numbers : s.queued with
      | nil => simp [numbers, queue] at paired
      | cons number queued =>
        have begun := Step.begin top (by simp) taken numbers
        obtain ⟨during, t, delivered, same, stack⟩ := deliver_runs
          (behaved (processWithin take react limit) ih.behaves) arrival (sound.step begun) rfl
        have later := (Run.single begun).append delivered
        have shifted : handled + (limit + 1) = handled + 1 + limit := by omega
        rw [shifted] at stack
        obtain ⟨others, u, count, run, counted, top', ending⟩ :=
          ih _ t (handled + 1) below (sound.run later) stack
        refine ⟨_, u, count + 1, later.append run, ?_, ?_, ?_⟩
        · dsimp only at same
          rw [taken]
          dsimp only
          rw [Op.start_bind, same]
          dsimp only
          rw [Op.start_bind, counted]
          rfl
        · rw [top', shifted]
          congr 2
          omega
        · cases ending with
          | inl reached => exact .inl (by rw [reached])
          | inr empty => exact .inr empty

/-- Waiting takes the steps of a run, and tells whether nothing is pending any more. -/
theorem waitWith_behaves {process : Op (Transport κ × Wire) Nat} {limit : Nat}
    (processes : Processes process limit) (patient : Bool) {events : List (Event κ)} {s : Session κ}
    (sound : Sound events s) (free : IsFree s.stack) :
    ∃ more t settled, Run s (.wait :: (more ++ [.waited settled])) t ∧
      (waitWith (fun state => state.1.pending) process patient).start s.now = (.ok settled, t.now) ∧
      t.stack = s.stack := by
  have waits : Step s .wait _ := .wait free
  cases patient with
  | false =>
    have answered := (Run.single waits).more (.waited rfl)
    exact ⟨[], _, _, answered, rfl, rfl⟩
  | true =>
    obtain ⟨more, t, count, run, same, stack⟩ :=
      processes.returns (sound.step waits) (.inr ⟨_, rfl⟩)
    have answered := (Run.single waits).append (run.more (.waited stack))
    refine ⟨_, _, _, answered, ?_, rfl⟩
    dsimp only at same
    rw [waitWith, if_pos rfl]
    rw [Op.start_bind, same]
    rfl

end ChatWidget.Delivery
