import ChatWidget.Proofs.Client.Steady
import ChatWidget.Proofs.Net.Ending
/-!
What a server can do to a client. Whatever comes back for a request, it ends up in the queue with what it
was classified as, and the callback that it is handed to changes nothing, or runs the commands among the
entries that were sent.
-/
namespace ChatWidget

namespace Client

variable {μ : Type}

/-- The entries of the batch that an outcome brings, if it brings one. -/
def commandsOf : Outcome → Option (List Json)
  | .success payload => (payload.field "commands").arr?
  | .failure _ _ => none

/-- What a command is for a client, if there is one of that name. -/
def Turn.ofCommand? (name : String) (data : Json) : Option Turn :=
  if name = "init" then some (.init data)
  else if name = "restore" then some (.restore data)
  else if name = "reset" then some (.reset data)
  else if name = "text" then some (.text data)
  else none

/-- What an entry of a batch is for a client: nothing, unless it is a mapping with a known name. -/
def Turn.ofEntry? : Json → Option Turn
  | .obj fields => match Entries.get? fields "command" with
    | some (.str name) => Turn.ofCommand? name ((Entries.get? fields "data").getD .null)
    | _ => none
  | _ => none

/-- A client whose first arrival is taken from the queue. -/
def dequeued (now : Client × Surroundings μ) : Client × Surroundings μ :=
  putTransport now ({ now.1.transport with
    queue := now.1.transport.queue.tail, pending := now.1.transport.pending - 1 }, now.2.wire)

theorem start_take {arrival : Arrival Callback} {arrivals : List (Arrival Callback)}
    {s : Logged (Client × Surroundings μ)} (queue : s.state.1.transport.queue = arrival :: arrivals) :
    (onTransport (μ := μ) Transport.take).start s = (.ok (some arrival), ⟨dequeued s.state, s.log⟩) := by
  obtain ⟨⟨client, around⟩, log⟩ := s
  change client.transport.queue = arrival :: arrivals at queue
  rw [onTransport, Op.start_within, Transport.take, Op.start_update, dequeued]
  dsimp only
  rw [queue]
  rfl

variable [StorageArea μ]

/-- Do turns, one after another, lead from here to there, whatever is logged beside them? -/
inductive Leads : List Turn → Client × Surroundings μ → Client × Surroundings μ → Prop
  | nil {now : Client × Surroundings μ} : Leads [] now now
  | cons {turn : Turn} {turns : List Turn} {now last : Client × Surroundings μ} (log : List Log.Event)
      (rest : Leads turns (turn.after ⟨now, log⟩).state last) : Leads (turn :: turns) now last

/-- What comes of an arrival. -/
inductive Brings (arrival : Arrival Callback) (now : Client × Surroundings μ) :
    Client × Surroundings μ → Prop
  | silent (callback : arrival.callback? = none) : Brings arrival now now
  | told {tag : Json} (callback : arrival.callback? = some (.tellHost tag)) :
      Brings arrival now ({ now.1 with notices := now.1.notices ++ [(tag, arrival.outcome)] }, now.2)
  | ignored (callback : arrival.callback? = some .runCommands)
      (nothing : commandsOf arrival.outcome = none) : Brings arrival now now
  | obeyed {entries : List Json} {last : Client × Surroundings μ}
      (callback : arrival.callback? = some .runCommands)
      (sent : commandsOf arrival.outcome = some entries)
      (leads : Leads (entries.filterMap Turn.ofEntry?) now last) : Brings arrival now last

/-- What comes of arrivals, one after another. -/
inductive BringsAll : List (Arrival Callback) → Client × Surroundings μ → Client × Surroundings μ → Prop
  | nil {now : Client × Surroundings μ} : BringsAll [] now now
  | cons {arrival : Arrival Callback} {arrivals : List (Arrival Callback)}
      {now between last : Client × Surroundings μ} (first : Brings arrival (dequeued now) between)
      (rest : BringsAll arrivals between last) : BringsAll (arrival :: arrivals) now last

/-! ### A batch -/

theorem Turn.handler {name : String} {data : Json} {turn : Turn}
    (known : Turn.ofCommand? name data = some turn) :
    ∃ handler, (handlers (μ := μ)).get? name = some handler ∧ ∀ run, handler run data = turn.perform := by
  unfold Turn.ofCommand? at known
  split_ifs at known
  all_goals
    cases known
    subst name
    exact ⟨_, rfl, fun _ => rfl⟩

theorem Turn.unhandled {name : String} {data : Json} (unknown : Turn.ofCommand? name data = none) :
    (handlers (μ := μ)).get? name = none := by
  unfold Turn.ofCommand? at unknown
  split_ifs at unknown with isInit isRestore isReset isText
  simp [handlers, Entries.get?, Ne.symm isInit, Ne.symm isRestore, Ne.symm isReset, Ne.symm isText]

theorem Turn.ofEntry?_eq (entry : Json) :
    Turn.ofEntry? entry =
      match Command.ofJson entry with
      | .ok command => Turn.ofCommand? command.name command.data
      | .error _ => none := by
  cases entry with
  | obj fields =>
    cases sent : Entries.get? fields "command" with
    | none => simp [Turn.ofEntry?, Command.ofJson, sent]
    | some value =>
      cases value with
      | str name =>
        by_cases empty : name = ""
        · subst empty
          simp [Turn.ofEntry?, Command.ofJson, sent, Turn.ofCommand?]
        · simp [Turn.ofEntry?, Command.ofJson, sent, empty]
      | _ => simp [Turn.ofEntry?, Command.ofJson, sent]
  | _ => rfl

theorem Turn.handlerFor {entry : Json} {turn : Turn} (known : Turn.ofEntry? entry = some turn) :
    ∃ handler command, Batch.handlerFor (handlers (μ := μ)) entry = .ok (handler, command) ∧
      ∀ run, handler run command.data = turn.perform := by
  rw [Turn.ofEntry?_eq] at known
  cases described : Command.ofJson entry with
  | error fault =>
    rw [described] at known
    cases known
  | ok command =>
    rw [described] at known
    obtain ⟨handler, found, does⟩ := Turn.handler (μ := μ) known
    refine ⟨handler, command, ?_, does⟩
    simp only [Batch.handlerFor, described, bind, Except.bind, found]
    rfl

theorem Turn.refused {entry : Json} (unknown : Turn.ofEntry? entry = none) :
    ∃ fault, Batch.handlerFor (handlers (μ := μ)) entry = .error fault := by
  rw [Turn.ofEntry?_eq] at unknown
  cases called : Batch.handlerFor (handlers (μ := μ)) entry with
  | error fault => exact ⟨fault, rfl⟩
  | ok found =>
    obtain ⟨described, found⟩ := Batch.handlerFor_ok called
    rw [described] at unknown
    rw [Turn.unhandled unknown] at found
    cases found

/-- An entry of a batch takes its turn, if it is one, and fails to nobody's harm. -/
theorem start_runEntry (run : Json → ClientOn μ Report) (report : Report) (entry : Json)
    (s : Logged (Client × Surroundings μ)) :
    ∃ result log, (Batch.runEntry handlers run report entry).start s =
      (.ok result, ⟨((Turn.ofEntry? entry).elim s fun turn => turn.after s).state, log⟩) := by
  unfold Batch.runEntry
  cases known : Turn.ofEntry? entry with
  | none =>
    obtain ⟨fault, refused⟩ := Turn.refused (μ := μ) known
    rw [refused]
    exact ⟨_, _, rfl⟩
  | some turn =>
    obtain ⟨handler, command, called, does⟩ := Turn.handlerFor (μ := μ) known
    rw [called]
    dsimp only
    rw [Op.start_bind, Op.start_attempt, does]
    cases (turn.perform.start s).1 with
    | ok done => exact ⟨_, _, rfl⟩
    | error fault => exact ⟨_, _, rfl⟩

theorem start_runEntries (run : Json → ClientOn μ Report) (report : Report) (entries : List Json)
    (s : Logged (Client × Surroundings μ)) :
    ∃ result after, (entries.foldlM (Batch.runEntry handlers run) report).start s = (.ok result, after) ∧
      Leads (entries.filterMap Turn.ofEntry?) s.state after.state := by
  induction entries generalizing report s with
  | nil => exact ⟨report, s, rfl, .nil⟩
  | cons entry entries ih =>
    obtain ⟨first, log, ran⟩ := start_runEntry run report entry s
    obtain ⟨last, after, rest, leads⟩ := ih first _
    rw [List.foldlM_cons, Op.start_bind_ok ran]
    refine ⟨last, after, rest, ?_⟩
    rw [List.filterMap_cons]
    cases known : Turn.ofEntry? entry with
    | none =>
      rw [known] at leads
      exact leads
    | some turn =>
      rw [known] at leads
      exact .cons s.log leads

/-! ### What a server brings about -/

/-- A batch leaves nothing but lines in the log, unless it is a list of entries. -/
theorem start_execute (commands : Json) (s : Logged (Client × Surroundings μ)) :
    ∃ report after, (execute commands).start s = (.ok report, after) ∧
      match commands.arr? with
      | some entries => Leads (entries.filterMap Turn.ofEntry?) s.state after.state
      | none => after.state = s.state := by
  unfold execute Batch.execute
  cases commands with
  | arr entries => exact start_runEntries _ _ entries s
  | _ => exact ⟨_, _, rfl, rfl⟩

theorem receive_brings (arrival : Arrival Callback) {callback : Callback}
    (called : arrival.callback? = some callback) (s : Logged (Client × Surroundings μ)) :
    ∃ after, (receive callback arrival.outcome).start s = (.ok (), after) ∧
      Brings arrival s.state after.state := by
  cases callback with
  | tellHost tag => exact ⟨_, rfl, .told called⟩
  | runCommands =>
    cases outcome : arrival.outcome with
    | failure status message => exact ⟨_, rfl, .ignored called (by rw [outcome]; rfl)⟩
    | success payload =>
      obtain ⟨report, after, ran, effect⟩ := start_execute (payload.field "commands") s
      unfold receive
      rw [Op.start_discard, ran]
      refine ⟨after, rfl, ?_⟩
      have sent : commandsOf arrival.outcome = (payload.field "commands").arr? := by
        rw [outcome]
        rfl
      cases list : (payload.field "commands").arr? with
      | none =>
        rw [list] at sent effect
        rw [effect]
        exact .ignored called sent
      | some entries =>
        rw [list] at sent effect
        exact .obeyed called sent effect

theorem receive_transport (callback : Callback) (outcome : Outcome) (s : Logged (Client × Surroundings μ)) :
    ((receive callback outcome).start s).2.state.1.transport = s.state.1.transport := by
  have steady : IsSteady fun now : Client × Surroundings μ => now.1.transport = s.state.1.transport :=
    .aside (fun _ _ same => same) fun _ _ same => same
  cases callback with
  | runCommands => exact steady.receive outcome s rfl
  | tellHost tag => rfl

/-- An arrival that is handed to its callback brings what it brings, and no failure. -/
theorem start_deliver (arrival : Arrival Callback) (s : Logged (Client × Surroundings μ)) :
    ∃ after, (Transport.deliver (fun callback => receive (μ := μ) callback) arrival).start s = (.ok (), after) ∧
      Brings arrival s.state after.state ∧ after.state.1.transport = s.state.1.transport := by
  unfold Transport.deliver
  cases called : arrival.callback? with
  | none => exact ⟨s, rfl, .silent called, rfl⟩
  | some callback =>
    obtain ⟨after, received, brings⟩ := receive_brings arrival called s
    have same := receive_transport callback arrival.outcome s
    rw [received] at same
    refine ⟨after, ?_, brings, same⟩
    dsimp only
    rw [Op.start_bind, Op.start_attempt, received]
    rfl

theorem start_processWithin {arrivals : List (Arrival Callback)} {s : Logged (Client × Surroundings μ)}
    (queue : s.state.1.transport.queue = arrivals) :
    ∃ after, (Transport.processWithin (onTransport Transport.take) (fun _ => receive)
        arrivals.length).start s = (.ok arrivals.length, after) ∧
      BringsAll arrivals s.state after.state := by
  induction arrivals generalizing s with
  | nil => exact ⟨s, rfl, .nil⟩
  | cons arrival arrivals ih =>
    have rest : (dequeued s.state).1.transport.queue = arrivals := by
      rw [dequeued, putTransport, queue]
      rfl
    obtain ⟨between, delivered, brings, same⟩ := start_deliver arrival ⟨dequeued s.state, s.log⟩
    obtain ⟨after, processed, others⟩ := ih ((congrArg Transport.queue same).trans rest)
    rw [List.length_cons, Transport.processWithin, Op.start_bind_ok (start_take queue)]
    dsimp only
    rw [Op.start_bind_ok delivered, Op.start_bind_ok processed]
    exact ⟨after, rfl, .cons brings others⟩

/-- A hostile server is contained, whatever state a client is in. However a request ends, it ends in the
queue: besides its outcome only the cookies are new, and nothing fails. Processing the queue does not fail
either. An outcome that is no success with a list of commands changes nothing but the queue and the log, and
one that is does what the commands among its entries do, in order. -/
theorem server_is_contained (s : Logged (Client × Surroundings μ)) :
    (∀ number, ∃ log, (onTransport (Transport.release number)).start s =
      match s.state.1.transport.flights.find? (·.number == number) with
      | none => (.ok false, ⟨s.state, log⟩)
      | some flight =>
        let left := { s.state.1.transport with
          flights := s.state.1.transport.flights.filter (·.number != number) }
        let ended := left.afterEnding s.state.2.wire flight.number flight.exchange flight.callbacks
        (.ok true, ⟨putTransport s.state (ended, s.state.2.wire), log⟩)) ∧
    ∃ after, process.start s = (.ok s.state.1.transport.queue.length, after) ∧
      BringsAll s.state.1.transport.queue s.state after.state := by
  constructor
  · intro number
    obtain ⟨events, released⟩ :=
      Transport.start_release number s.state.1.transport s.state.2.wire s.log
    refine ⟨s.log ++ events, ?_⟩
    rw [onTransport, Op.start_within]
    dsimp only
    rw [released]
    cases s.state.1.transport.flights.find? (·.number == number) with
    | none => rfl
    | some flight => rfl
  · unfold process
    rw [Op.start_bind, current, Op.start_read]
    exact start_processWithin rfl

end Client

end ChatWidget
