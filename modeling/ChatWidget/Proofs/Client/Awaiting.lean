import ChatWidget.Proofs.Client.Contained
import ChatWidget.Proofs.Net.Outstanding
import Mathlib.Data.List.DropRight
/-!
Awaited answers. A message that is taken puts a bubble into the chat for the answer to it, but no bubble is
known to belong to a message, and what the bot says takes all of them out of the chat. So the bubbles that are shown
are those for the messages since the last answer, while answers to messages before it may be outstanding too.
-/
namespace ChatWidget

open Markup (Node)

theorem Widget.Displays.length_placeholders {widget : Widget} {owner : ElementId → Owner} {nodes : List Node}
    (displays : widget.Displays owner nodes)
    (flat : ∀ node ∈ nodes, Elements.AllLack Bubble.pendingClass node.children) :
    widget.placeholders.length = nodes.countP isPending := by
  have found : widget.placeholders = (widget.elements.get widget.window.chat).children.filter
      fun id => (widget.elements.get id).hasClass Bubble.pendingClass :=
    Elements.descendants_filter displays.shown flat displays.owned.inside
  have each := Elements.allShow_iff.mp displays.shown
  rw [found, List.countP_eq_length_filter]
  refine List.Forall₂.length_eq (List.rel_filter ?_ each)
  intro id node shows
  change (widget.elements.get id).hasClass Bubble.pendingClass = true ↔ isPending node = true
  rw [Element.hasClass, shows.classes]
  rfl

namespace Elements

theorem allLack_iff {name : String} {nodes : List Node} :
    AllLack name nodes ↔ ∀ node ∈ nodes, Lacks name node := by
  induction nodes with
  | nil => simp [AllLack]
  | cons node nodes ih => simp [AllLack, ih]

theorem Lacks.classes {name : String} {node : Node} (lacks : Lacks name node) : name ∉ node.classes := by
  cases node
  rw [Lacks] at lacks
  exact lacks.1

theorem Lacks.children {name : String} {node : Node} (lacks : Lacks name node) :
    AllLack name node.children := by
  cases node
  rw [Lacks] at lacks
  exact lacks.2

end Elements

namespace Client

variable {μ : Type}

def isAsking (callbacks : Callbacks Callback) : Bool :=
  match callbacks.onSuccess with
  | some .runCommands => true
  | _ => false

/-- Is an outcome a success with one command, by which the bot says something? -/
def isReply (outcome : Outcome) : Bool :=
  match commandsOf outcome with
  | some [entry] =>
    match Turn.ofEntry? entry with
    | some (.text _) => true
    | _ => false
  | _ => false

theorem isReply_iff {outcome : Outcome} : isReply outcome = true ↔
    ∃ entry data, commandsOf outcome = some [entry] ∧ Turn.ofEntry? entry = some (.text data) := by
  unfold isReply
  constructor
  · intro reply
    split at reply
    next entry sent =>
      split at reply
      next data isText => exact ⟨entry, data, sent, isText⟩
      next => cases reply
    next => cases reply
  · rintro ⟨entry, data, sent, isText⟩
    rw [sent]
    dsimp only
    rw [isText]

/-- What happens between a client and the server: somebody asks, or is answered. -/
inductive Happening where
  | asked
  | answered
deriving DecidableEq

/-- How many have asked since somebody was answered. -/
def sinceAnswer (happened : List Happening) : Nat := (happened.rtakeWhile (· = .asked)).length

/-- What happened up to the last answer. -/
def untilAnswer (happened : List Happening) : List Happening := happened.rdropWhile (· = .asked)

theorem count_untilAnswer (all : List Happening) :
    all.count .asked = (untilAnswer all).count .asked + sinceAnswer all ∧
      all.count .answered = (untilAnswer all).count .answered := by
  have last : all.rtakeWhile (· = .asked) = List.replicate (sinceAnswer all) .asked :=
    List.eq_replicate_of_mem fun happening member => by simpa using List.mem_rtakeWhile_imp member
  have parts : untilAnswer all ++ List.replicate (sinceAnswer all) .asked = all := by
    rw [← last]
    exact List.rdropWhile_append_rtakeWhile
  constructor
  · conv_lhs => rw [← parts]
    rw [List.count_append, List.count_replicate_self]
  · conv_lhs => rw [← parts]
    rw [List.count_append, List.count_replicate]
    rfl

/-! ### What the invariant is -/

/-- Does the chat show so many bubbles for awaited answers, with so many requests outstanding? -/
structure Awaits (shown outstanding : Nat) (now : Client × Surroundings μ) : Prop where
  ready : now.1.widget.ready = true
  displays : ∃ owner nodes, now.1.widget.Displays owner nodes ∧
    (∀ node ∈ nodes, Elements.AllLack Bubble.pendingClass node.children) ∧
    nodes.countP Widget.isPending = shown
  sorted : Transport.IsSorted (now.1.transport, now.2.wire)
  count : now.1.transport.outstanding isAsking = outstanding

variable {shown outstanding : Nat} {now : Client × Surroundings μ}

theorem Awaits.length_placeholders (awaits : Awaits shown outstanding now) :
    now.1.widget.placeholders.length = shown := by
  obtain ⟨owner, nodes, displays, flat, count⟩ := awaits.displays
  rw [displays.length_placeholders flat, count]

theorem Awaits.asking (awaits : Awaits shown outstanding now) (message : String) :
    ∃ owner nodes, (asking now.1.widget message).Displays owner nodes ∧
      (∀ node ∈ nodes, Elements.AllLack Bubble.pendingClass node.children) ∧
      nodes.countP Widget.isPending = shown + 1 := by
  obtain ⟨owner, nodes, displays, flat, count⟩ := awaits.displays
  obtain ⟨owner, spoken⟩ := displays.addToChat (Message.user message).node
  obtain ⟨owner, awaited⟩ := spoken.addToChat Bubble.placeholder
  refine ⟨owner, _, awaited.scrollToEnd, ?_, ?_⟩
  · intro node member
    rw [List.append_assoc, List.mem_append] at member
    rcases member with old | new
    · exact flat node old
    · rcases List.mem_cons.mp new with rfl | last
      · exact Message.slotNode_flat _ (some (.user message))
      · rw [List.mem_singleton.mp last]
        exact Message.slotNode_flat _ none
  · rw [List.countP_append, List.countP_append, count]
    rfl

theorem answering_ready (widget : Widget) (words : String) : (answering widget words).ready = widget.ready := by
  unfold Client.answering
  generalize (Message.bot words).node = node
  rfl

theorem asking_ready (widget : Widget) (message : String) : (asking widget message).ready = widget.ready := by
  unfold Client.asking Widget.addPlaceholder
  generalize (Message.user message).node = node
  generalize Bubble.placeholder = awaited
  rfl

theorem Awaits.answering (awaits : Awaits shown outstanding now) (words : String) :
    ∃ owner nodes, (answering now.1.widget words).Displays owner nodes ∧
      (∀ node ∈ nodes, Elements.AllLack Bubble.pendingClass node.children) ∧
      nodes.countP Widget.isPending = 0 := by
  obtain ⟨owner, nodes, displays, flat, -⟩ := awaits.displays
  obtain ⟨owner, added⟩ := (displays.removePlaceholders flat).addToChat (Message.bot words).node
  refine ⟨owner, _, added.scrollToEnd, ?_, ?_⟩
  · intro node member
    rcases List.mem_append.mp member with old | new
    · exact flat node (List.mem_of_mem_filter old)
    · rw [List.mem_singleton.mp new]
      exact Message.slotNode_flat _ (some (.bot words))
  · rw [List.countP_append, List.countP_filter, List.countP_eq_zero.mpr (by simp)]
    rfl

/-- Has a client counted right what happened? It shows a bubble for each message since the last answer, and the
requests for those that were not answered are outstanding. -/
def Counts (all : List Happening) (now : Client × Surroundings μ) : Prop :=
  ∃ outstanding, Awaits (sinceAnswer all) outstanding now ∧
    all.count .asked = all.count .answered + outstanding ∧ sinceAnswer all ≤ outstanding

/-- Is a client mounted, with no bubble for an awaited answer anywhere in its chat, and no request for commands
outstanding? -/
structure IsIdle (now : Client × Surroundings μ) : Prop where
  ready : now.1.widget.ready = true
  displays : ∃ owner nodes, now.1.widget.Displays owner nodes ∧ Elements.AllLack Bubble.pendingClass nodes
  sorted : Transport.IsSorted (now.1.transport, now.2.wire)
  none : now.1.transport.outstanding isAsking = 0

theorem IsIdle.counts (idle : IsIdle now) : Counts [] now := by
  obtain ⟨owner, nodes, displays, lack⟩ := idle.displays
  have each := Elements.allLack_iff.mp lack
  refine ⟨0, ⟨idle.ready, ⟨owner, nodes, displays, fun node member => (each node member).children, ?_⟩, idle.sorted,
    idle.none⟩, rfl, Nat.le_refl 0⟩
  rw [sinceAnswer, List.rtakeWhile_nil, List.length_nil, List.countP_eq_zero]
  intro node member
  simpa [Widget.isPending] using (each node member).classes

/-! ### How messages are taken and answers come in -/

/-- A client that was told to ask has issued a request. -/
def Asks (before after : Client × Surroundings μ) : Prop :=
  ∃ call callbacks log, isAsking callbacks = true ∧
    after = putTransport before
      ((Transport.issue call callbacks).start ⟨(before.1.transport, before.2.wire), log⟩).2.state

theorem start_send_ok {message : String} {s after : Logged (Client × Surroundings μ)} {done : Unit}
    (ended : (send message).start s = (.ok done, after)) : Asks s.state after.state := by
  unfold send converse at ended
  rw [Op.start_bind, current, Op.start_read] at ended
  dsimp only at ended
  rw [Op.start_bind, Op.start_lift] at ended
  cases called : endpoint "chat" s.state.1.site.identity with
  | error fault =>
    rw [called] at ended
    cases ended
  | ok address =>
    rw [called] at ended
    dsimp only at ended
    rw [onTransport, Op.start_within] at ended
    exact ⟨_, ⟨address, some .runCommands, some .runCommands⟩, s.log, rfl,
      (congrArg (fun ended => ended.2.state) ended).symm⟩

theorem Awaits.shows (awaits : Awaits shown outstanding now) {widget : Widget} (kept : Store × μ) {more : Nat}
    (ready : widget.ready = true)
    (displays : ∃ owner nodes, widget.Displays owner nodes ∧
      (∀ node ∈ nodes, Elements.AllLack Bubble.pendingClass node.children) ∧
      nodes.countP Widget.isPending = more) :
    Awaits more outstanding (putStore (putWidget now widget) kept) :=
  ⟨ready, displays, awaits.sorted, awaits.count⟩

theorem Awaits.issued (awaits : Awaits shown outstanding now) (call : Call) (callbacks : Callbacks Callback)
    (log : List Log.Event) :
    Awaits shown (outstanding + if isAsking callbacks then 1 else 0)
      (putTransport now ((Transport.issue call callbacks).start ⟨(now.1.transport, now.2.wire), log⟩).2.state) := by
  obtain ⟨sorted, count⟩ := awaits.sorted.issue isAsking call callbacks log
  refine ⟨awaits.ready, awaits.displays, sorted, count.trans ?_⟩
  rw [← awaits.count]

theorem Awaits.released (awaits : Awaits shown outstanding now) (number : Nat) (log : List Log.Event) :
    Awaits shown outstanding
      (putTransport now ((Transport.release number).start ⟨(now.1.transport, now.2.wire), log⟩).2.state) := by
  obtain ⟨sorted, count⟩ := awaits.sorted.release isAsking number log
  exact ⟨awaits.ready, awaits.displays, sorted, count.trans awaits.count⟩

theorem Awaits.dequeue (awaits : Awaits shown outstanding now) {arrival : Arrival Callback}
    {rest : List (Arrival Callback)} (waits : now.1.transport.queue = arrival :: rest) :
    ∃ left, outstanding = left + (if isAsking arrival.callbacks then 1 else 0) ∧
      Awaits shown left (dequeued now) := by
  obtain ⟨sorted, count⟩ := awaits.sorted.take isAsking waits []
  have taken : (Transport.take.start ⟨(now.1.transport, now.2.wire), []⟩).2.state =
      ((dequeued now).1.transport, now.2.wire) := by
    unfold Transport.take dequeued
    rw [Op.start_update]
    dsimp only
    rw [waits]
    rfl
  rw [taken] at sorted count
  exact ⟨_, awaits.count.symm.trans count, awaits.ready, awaits.displays, sorted, rfl⟩

theorem Awaits.other {after : Client × Surroundings μ} (awaits : Awaits shown outstanding now)
    (widget : after.1.widget = now.1.widget) (transport : after.1.transport = now.1.transport)
    (wire : after.2.wire = now.2.wire) : Awaits shown outstanding after := by
  refine ⟨?_, ?_, ?_, ?_⟩
  · rw [widget]
    exact awaits.ready
  · rw [widget]
    exact awaits.displays
  · rw [transport, wire]
    exact awaits.sorted
  · rw [transport]
    exact awaits.count

theorem field_isWritable {value : Json} (written : value.isWritable = true) (name : String) :
    (value.field name).isWritable = true := by
  unfold Json.field Json.field?
  cases value with
  | obj fields =>
    dsimp only
    cases found : Entries.get? fields name with
    | none => rfl
    | some item => exact Json.fieldsAreWritable_iff.mp written (name, item) (Entries.get?_mem found)
  | _ => rfl

theorem Turn.ofEntry?_text {entry data : Json} (text : Turn.ofEntry? entry = some (.text data)) :
    data = entry.field "data" := by
  unfold Turn.ofEntry? at text
  split at text
  next fields =>
    split at text
    next name =>
      unfold Turn.ofCommand? at text
      split_ifs at text
      all_goals cases text
      rfl
    next => cases text
  next => cases text

theorem said_ok {payload entry data : Json} (sent : (payload.field "commands").arr? = some [entry])
    (text : Turn.ofEntry? entry = some (.text data)) (written : payload.isWritable = true) :
    ∃ words, said data = .ok words := by
  have whole := field_isWritable written "commands"
  have each : entry.isWritable = true := by
    generalize payload.field "commands" = commands at sent whole
    cases commands with
    | arr entries =>
      cases sent
      exact Json.areWritable_iff.mp whole entry List.mem_cons_self
    | _ => cases sent
  have plain : data.isWritable = true := by
    rw [Turn.ofEntry?_text text]
    exact field_isWritable each "data"
  cases data with
  | null => exact ⟨"", rfl⟩
  | _ => exact ⟨_, (if_pos plain : Json.toText _ = _)⟩

variable [StorageArea μ]

theorem state_record (entry : Json) (s : Logged (Client × Surroundings μ)) :
    ∃ kept, ((record entry).start s).2.state = putStore s.state kept := ⟨_, rfl⟩

/-- A message that is taken is accepted unless handing it on fails. It is shown with a bubble for the answer, and
asks for it. -/
theorem submit_accepted {text message : String} {s : Logged (Client × Surroundings μ)}
    (takes : taken s.state.1.widget.ready text = some message)
    (ended : ((submit (.str text)).start s).1.isOk = true) :
    ((submit (.str text)).start s).1 = .ok true ∧
      ∃ kept, Asks (putStore (putWidget s.state (asking s.state.1.widget message)) kept)
        ((submit (.str text)).start s).2.state := by
  rw [submit_eq takes] at ended ⊢
  obtain ⟨kept, left⟩ := state_record (Message.user message).entry
    { s with state := putWidget s.state (asking s.state.1.widget message) }
  cases recorded : (record (Message.user message).entry).start
      { s with state := putWidget s.state (asking s.state.1.widget message) } with
  | mk result between =>
    rw [recorded] at left
    cases result with
    | error fault =>
      rw [Op.start_bind_error recorded] at ended
      cases ended
    | ok done =>
      rw [Op.start_bind_ok recorded] at ended ⊢
      cases sent : (send message).start between with
      | mk result last =>
        cases result with
        | error fault =>
          rw [Op.start_bind_error sent] at ended
          cases ended
        | ok done =>
          rw [Op.start_bind_ok sent]
          refine ⟨rfl, kept, ?_⟩
          rw [← left]
          exact start_send_ok sent

/-- What the bot says is shown in place of the awaited answers. -/
theorem state_text {data : Json} {words : String} (isSaid : said data = .ok words)
    (s : Logged (Client × Surroundings μ)) :
    ∃ kept, ((text data).start s).2.state =
      putStore (putWidget s.state (answering s.state.1.widget words)) kept := by
  rw [text_eq isSaid]
  exact state_record _ _

theorem Leads.single {turn : Turn} {last : Client × Surroundings μ} (leads : Leads [turn] now last) :
    ∃ log, last = (turn.after ⟨now, log⟩).state := by
  cases leads with
  | cons log rest =>
    cases rest
    exact ⟨log, rfl⟩

theorem Brings.aside {arrival : Arrival Callback} (unasked : isAsking arrival.callbacks = false)
    {last : Client × Surroundings μ} (brings : Brings arrival now last) :
    last.1.widget = now.1.widget ∧ last.1.transport = now.1.transport ∧ last.2.wire = now.2.wire := by
  cases brings with
  | silent _ => exact ⟨rfl, rfl, rfl⟩
  | told _ => exact ⟨rfl, rfl, rfl⟩
  | ignored _ _ => exact ⟨rfl, rfl, rfl⟩
  | obeyed callback sent _ =>
    unfold Arrival.callback? at callback
    cases ended : arrival.outcome with
    | failure status message =>
      rw [ended] at sent
      cases sent
    | success payload =>
      rw [ended] at callback
      unfold isAsking at unasked
      dsimp only at callback
      rw [callback] at unasked
      cases unasked

theorem Awaits.answered (awaits : Awaits shown outstanding now) {arrival : Arrival Callback}
    {rest : List (Arrival Callback)} (waits : now.1.transport.queue = arrival :: rest)
    (asking : isAsking arrival.callbacks = true) (reply : isReply arrival.outcome = true)
    {last : Client × Surroundings μ} (brings : Brings arrival (dequeued now) last) :
    ∃ left, outstanding = left + 1 ∧ Awaits 0 left last := by
  obtain ⟨left, fewer, taken⟩ := awaits.dequeue waits
  obtain ⟨entry, data, sent, isText⟩ := isReply_iff.mp reply
  rw [if_pos asking] at fewer
  refine ⟨left, fewer, ?_⟩
  cases ended : arrival.outcome with
  | failure status message =>
    rw [ended] at sent
    cases sent
  | success payload =>
    have called : arrival.callback? = some .runCommands := by
      unfold Arrival.callback?
      rw [ended]
      unfold isAsking at asking
      split at asking
      next runs => exact runs
      next => cases asking
    have written : payload.isWritable = true :=
      awaits.sorted.written arrival (by rw [waits]; exact List.mem_cons_self) payload ended
    rw [ended] at sent
    obtain ⟨words, isSaid⟩ := said_ok sent isText written
    cases brings with
    | silent callback => cases callback.symm.trans called
    | told callback => cases callback.symm.trans called
    | ignored _ nothing =>
      rw [ended] at nothing
      cases nothing.symm.trans sent
    | obeyed _ brought leads =>
      rw [ended] at brought
      cases brought.symm.trans sent
      have only : [entry].filterMap Turn.ofEntry? = [.text data] := by
        rw [List.filterMap_cons, isText, List.filterMap_nil]
      rw [only] at leads
      obtain ⟨log, rfl⟩ := leads.single
      obtain ⟨kept, after⟩ := state_text isSaid ⟨dequeued now, log⟩
      change Awaits 0 left ((text data).start ⟨dequeued now, log⟩).2.state
      rw [after]
      exact taken.shows _ ((answering_ready _ words).trans taken.ready) (taken.answering words)

/-! ### Runs -/

/-- Something that is done with a client or reaches it, and changes the chat by asking or being answered at
most. -/
inductive Move where
  | say (text : String)
  | request (call : Call) (tag : Json)
  | release (number : Nat)
  | takeIn

namespace Move

def perform : Move → ClientOn μ Unit
  | .say words => discard (submit (.str words))
  | .request call tag => Client.request call tag
  | .release number => discard (onTransport (Transport.release number))
  | .takeIn => discard (Transport.processWithin (onTransport Transport.take) (fun _ => receive) 1)

def after (move : Move) (s : Logged (Client × Surroundings μ)) : Logged (Client × Surroundings μ) :=
  (move.perform.start s).2

/-- What happens when a move is made: a message that is accepted asks, and the end of a request for commands that
is taken from the queue is an answer. -/
def happening? (s : Logged (Client × Surroundings μ)) : Move → Option Happening
  | .say words =>
    match ((submit (.str words)).start s).1 with
    | .ok true => some .asked
    | _ => none
  | .takeIn =>
    (s.state.1.transport.queue.head?.filter (isAsking ·.callbacks)).map fun _ => .answered
  | _ => none

/-- Does no message fail on its way, and is every answer a reply? -/
def isFit (s : Logged (Client × Surroundings μ)) : Move → Bool
  | .say words => ((submit (.str words)).start s).1.isOk
  | .takeIn => s.state.1.transport.queue.head?.all fun arrival =>
      ! isAsking arrival.callbacks || isReply arrival.outcome
  | _ => true

end Move

def makeAll (moves : List Move) (s : Logged (Client × Surroundings μ)) : Logged (Client × Surroundings μ) :=
  moves.foldl (fun s move => move.after s) s

def happened : List Move → Logged (Client × Surroundings μ) → List Happening
  | [], _ => []
  | move :: moves, s => (move.happening? s).toList ++ happened moves (move.after s)

/-- Is each move fit to be made where it is made? -/
def areFit : List Move → Logged (Client × Surroundings μ) → Bool
  | [], _ => true
  | move :: moves, s => move.isFit s && areFit moves (move.after s)

theorem takeIn_brings {arrival : Arrival Callback} {rest : List (Arrival Callback)}
    {s : Logged (Client × Surroundings μ)} (waits : s.state.1.transport.queue = arrival :: rest) :
    (Transport.deliver (fun callback => receive callback) arrival).start ⟨dequeued s.state, s.log⟩ =
        (.ok (), Move.takeIn.after s) ∧
      Brings arrival (dequeued s.state) (Move.takeIn.after s).state ∧
      (Move.takeIn.after s).state.1.transport.queue = rest := by
  obtain ⟨between, delivered, brings, same⟩ := start_deliver arrival ⟨dequeued s.state, s.log⟩
  have left : Move.takeIn.after s = between := by
    unfold Move.after Move.perform
    rw [Op.start_discard, Transport.processWithin, Op.start_bind_ok (start_take waits)]
    dsimp only
    rw [Op.start_bind_ok delivered]
    rfl
  rw [left]
  refine ⟨delivered, brings, (congrArg Transport.queue same).trans ?_⟩
  rw [dequeued, putTransport, waits]
  rfl

theorem after_takeIn_nil {s : Logged (Client × Surroundings μ)} (empty : s.state.1.transport.queue = []) :
    Move.takeIn.after s = s := by
  obtain ⟨⟨client, around⟩, log⟩ := s
  change client.transport.queue = [] at empty
  unfold Move.after Move.perform Transport.processWithin
  rw [Op.start_discard, Op.start_bind, onTransport, Op.start_within, Transport.take, Op.start_update]
  dsimp only
  rw [empty]
  rfl

/-- Processing the queue takes in the outcomes that are there, one after another. -/
theorem process_makeAll (s : Logged (Client × Surroundings μ)) :
    (process.start s).2 = makeAll (List.replicate s.state.1.transport.queue.length .takeIn) s := by
  unfold process
  rw [Op.start_bind, current, Op.start_read]
  dsimp only
  generalize queue : s.state.1.transport.queue = arrivals
  induction arrivals generalizing s with
  | nil => rfl
  | cons arrival arrivals ih =>
    obtain ⟨delivered, -, rest⟩ := takeIn_brings queue
    rw [List.length_cons, List.replicate_succ, Transport.processWithin, Op.start_bind_ok (start_take queue)]
    dsimp only
    rw [Op.start_bind_ok delivered]
    refine Eq.trans ?_ (ih _ rest)
    rw [Op.start_bind]
    split
    next ended => rw [ended]; rfl
    next ended => rw [ended]

/-- What a fit move does to the bubbles and to the requests is what it makes happen. -/
theorem Awaits.move {s : Logged (Client × Surroundings μ)} (awaits : Awaits shown outstanding s.state) (move : Move)
    (fit : move.isFit s = true) :
    match move.happening? s with
    | none => Awaits shown outstanding (move.after s).state
    | some .asked => Awaits (shown + 1) (outstanding + 1) (move.after s).state
    | some .answered => ∃ left, outstanding = left + 1 ∧ Awaits 0 left (move.after s).state := by
  cases move with
  | say words =>
    have ended : ((submit (.str words)).start s).1.isOk = true := fit
    have left : (Move.say words).after s = ((submit (.str words)).start s).2 := by
      unfold Move.after Move.perform
      rw [Op.start_discard]
    rw [left]
    unfold Move.happening?
    dsimp only
    cases takes : taken s.state.1.widget.ready words with
    | none =>
      rw [(submit_idle words takes).1, (submit_idle words takes).2]
      exact awaits
    | some message =>
      obtain ⟨accepted, kept, call, callbacks, log, asks, left⟩ := submit_accepted takes ended
      have shows := awaits.shows kept ((asking_ready _ message).trans awaits.ready)
        (awaits.asking message)
      have more := shows.issued call callbacks log
      rw [if_pos asks] at more
      rw [accepted, left]
      exact more
  | request call tag => exact awaits.issued call ⟨call.endpoint, some (.tellHost tag), some (.tellHost tag)⟩ s.log
  | release number =>
    have left : ((Move.release number).after s).state = putTransport s.state
        ((Transport.release number).start ⟨(s.state.1.transport, s.state.2.wire), s.log⟩).2.state := by
      unfold Move.after Move.perform
      rw [Op.start_discard, onTransport, Op.start_within]
      rfl
    rw [left]
    exact awaits.released number s.log
  | takeIn =>
    unfold Move.happening?
    dsimp only
    cases waits : s.state.1.transport.queue with
    | nil =>
      rw [after_takeIn_nil waits]
      exact awaits
    | cons arrival rest =>
      obtain ⟨-, brings, -⟩ := takeIn_brings waits
      rw [List.head?_cons]
      cases asking : isAsking arrival.callbacks with
      | true =>
        rw [Option.filter_some, if_pos asking]
        have reply : isReply arrival.outcome = true := by simpa [Move.isFit, waits, asking] using fit
        exact awaits.answered waits asking reply brings
      | false =>
        rw [Option.filter_some, if_neg (by rw [asking]; exact Bool.false_ne_true)]
        obtain ⟨left, same, taken⟩ := awaits.dequeue waits
        rw [asking, if_neg Bool.false_ne_true] at same
        obtain ⟨widget, transport, wire⟩ := brings.aside asking
        rw [same]
        exact taken.other widget transport wire

theorem Counts.move {all : List Happening} {s : Logged (Client × Surroundings μ)} (counts : Counts all s.state)
    {move : Move} (fit : move.isFit s = true) :
    Counts (all ++ (move.happening? s).toList) (move.after s).state := by
  obtain ⟨outstanding, awaits, total, most⟩ := counts
  have next := awaits.move move fit
  cases happens : move.happening? s with
  | none =>
    rw [happens] at next
    rw [Option.toList_none, List.append_nil]
    exact ⟨outstanding, next, total, most⟩
  | some happening =>
    rw [happens] at next
    rw [Option.toList_some]
    cases happening with
    | asked =>
      have more : sinceAnswer (all ++ [.asked]) = sinceAnswer all + 1 := by
        unfold sinceAnswer
        rw [List.rtakeWhile_concat_pos _ _ _ (by simp), List.length_append]
        rfl
      refine ⟨outstanding + 1, more ▸ next, ?_, more ▸ Nat.succ_le_succ most⟩
      rw [List.count_append, List.count_append, total]
      rfl
    | answered =>
      have none : sinceAnswer (all ++ [.answered]) = 0 := by
        unfold sinceAnswer
        rw [List.rtakeWhile_concat_neg _ _ _ (by simp)]
        rfl
      obtain ⟨left, fewer, next⟩ := next
      refine ⟨left, none ▸ next, ?_, none ▸ Nat.zero_le _⟩
      rw [List.count_append, List.count_append, total, fewer]
      change all.count .answered + (left + 1) + 0 = all.count .answered + 1 + left
      omega

theorem Counts.makeAll {all : List Happening} {moves : List Move} {s : Logged (Client × Surroundings μ)}
    (counts : Counts all s.state) (fit : areFit moves s = true) :
    Counts (all ++ happened moves s) (makeAll moves s).state := by
  induction moves generalizing all s with
  | nil =>
    rw [happened, List.append_nil]
    exact counts
  | cons move moves ih =>
    obtain ⟨first, rest⟩ := Bool.and_eq_true_iff.mp fit
    rw [happened, ← List.append_assoc]
    exact ih (counts.move first) rest

/-- Let a mounted client be idle, and then let any messages be handed in, the requests for them be released and
their outcomes be taken in, in any order, where no message fails on its way and each answer is one thing that the bot
says. Then the bubbles for awaited answers in the chat are one for each message that was accepted since the last
answer. There are never more of them than requests outstanding, and as many just if each message before the last
answer has been answered by then. -/
theorem bubbles_since_answer {start : Logged (Client × Surroundings μ)} (idle : IsIdle start.state)
    {moves : List Move} (fit : areFit moves start = true) :
    let all := happened moves start
    let bubbles := (makeAll moves start).state.1.widget.placeholders.length
    let outstanding := (makeAll moves start).state.1.transport.outstanding isAsking
    bubbles = sinceAnswer all ∧ all.count .asked = all.count .answered + outstanding ∧ bubbles ≤ outstanding ∧
      (bubbles = outstanding ↔ (untilAnswer all).count .asked = (untilAnswer all).count .answered) := by
  intro all bubbles outstanding
  obtain ⟨left, awaits, total, most⟩ := idle.counts.makeAll fit
  rw [List.nil_append] at awaits total most
  have shown : bubbles = sinceAnswer all := awaits.length_placeholders
  have requests : outstanding = left := awaits.count
  obtain ⟨asked, answered⟩ := count_untilAnswer all
  rw [shown, requests]
  refine ⟨rfl, total, most, ?_⟩
  change all.count .asked = all.count .answered + left at total
  omega

/-- A client that stands mounted on an empty page, before a server that holds requests back and greets in answer
to the first. -/
def mounted : Logged (Client × Surroundings MapArea) :=
  let start := onEmptyPage {}
  let link : Node := ⟨"link", [], [], "", []⟩
  let site : Site := { root := "http://localhost/", service := "http://localhost/", identity := .str "me" }
  let greeting := "\x7b\"commands\": [\x7b\"command\": \"text\", \"data\": \"hi\"\x7d]\x7d"
  let widget := start.state.1.widget.install start.state.1.widget.document.root link link none
  ⟨({ start.state.1 with site, widget, transport := { site } },
    { start.state.2 with wire := { answers := [.response { body := greeting.utf8Bytes }], holds := true } }), []⟩

theorem mounted_isIdle : IsIdle mounted.state := by
  obtain ⟨owner, displays⟩ := Widget.create_displays create_isPage.closed create_isPage.root create_isPage.head
  obtain ⟨owner, installed⟩ := displays.install rfl (displays.waiting rfl).root ⟨"link", [], [], "", []⟩
    ⟨"link", [], [], "", []⟩ none
  refine ⟨rfl, ⟨owner, [], installed, ?_⟩, ⟨List.nodup_nil, by simp [mounted], by simp [mounted]⟩, rfl⟩
  rw [Elements.AllLack]
  trivial

/-- Here the first message is answered before the next one is handed in. -/
theorem bubbles_since_answer_inTurn :
    let moves : List Move := [.say "a", .release 0, .takeIn, .say "b"]
    let now := (makeAll moves mounted).state.1
    IsIdle mounted.state ∧ areFit moves mounted = true ∧ now.widget.placeholders.length = 1 ∧
      now.transport.outstanding isAsking = 1 := by
  intro moves now
  obtain ⟨fit, happens⟩ : areFit moves mounted = true ∧ happened moves mounted = [.asked, .answered, .asked] := by
    decide +kernel
  obtain ⟨shown, -, -, equal⟩ := bubbles_since_answer mounted_isIdle fit
  rw [happens] at shown equal
  exact ⟨mounted_isIdle, fit, shown, (equal.mpr rfl).symm.trans shown⟩

/-- Two messages are handed in, and the answer to the first takes both bubbles out of the chat. -/
theorem answer_clears_all_bubbles :
    let moves : List Move := [.say "a", .say "b", .release 0, .takeIn]
    let now := (makeAll moves mounted).state.1
    IsIdle mounted.state ∧ areFit moves mounted = true ∧
      happened moves mounted = [.asked, .asked, .answered] ∧
      now.widget.placeholders.length = 0 ∧ now.transport.outstanding isAsking = 1 :=
  ⟨mounted_isIdle, by decide +kernel⟩

end Client

end ChatWidget
