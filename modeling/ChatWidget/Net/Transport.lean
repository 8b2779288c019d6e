import ChatWidget.Net.Exchange
import ChatWidget.Op
/-!
Requests that are not waited for. A request that is issued goes its own way; when it has ended, its outcome
is put at the end of a queue, and whoever processes the queue hands each outcome to the callback that was
given with the request. A request counts as pending from when it is issued until it is taken from the
queue.
-/
namespace ChatWidget

/-- What is to happen when a request has ended, with callbacks of the given type. -/
structure Callbacks (κ : Type) where
  endpoint : String
  onSuccess : Option κ := none
  onFailure : Option κ := none

/-- A request that is held back at the server, by its number there. -/
structure Flight (κ : Type) where
  number : Nat
  exchange : Exchange
  callbacks : Callbacks κ

/-- A request that has ended and waits for its callback. -/
structure Arrival (κ : Type) where
  outcome : Outcome
  callbacks : Callbacks κ

def Arrival.callback? {κ : Type} (arrival : Arrival κ) : Option κ :=
  match arrival.outcome with
  | .success _ => arrival.callbacks.onSuccess
  | .failure _ _ => arrival.callbacks.onFailure

/-- The requests of one site: the cookies known, the calls issued so far, how many requests are pending,
those held back, and the queue of those that have ended. -/
structure Transport (κ : Type) where
  site : Site
  jar : CookieJar := {}
  issued : List Call := []
  pending : Nat := 0
  flights : List (Flight κ) := []
  queue : List (Arrival κ) := []

namespace Transport

variable {κ σ : Type}

/-- Prepare a call and let its request arrive; the answer is its number and the exchange. -/
def depart (call : Call) : Op (Transport κ × Wire) (Nat × Exchange) := do
  let (transport, wire) ← Op.whole
  let exchange ← Op.lift (Exchange.prepare transport.site transport.jar wire.now call)
  Op.update fun ((transport : Transport κ), (wire : Wire)) =>
    let (number, wire) := wire.arrive exchange.request
    ((number, exchange), (transport, wire))

/-- Let the answer to a request come in. -/
def conclude (number : Nat) (exchange : Exchange) : Op (Transport κ × Wire) Outcome := do
  let (_, wire) ← Op.whole
  let (outcome, cookies, event) ← Op.lift (exchange.conclude wire.now (wire.answerTo number))
  Op.change fun (transport, wire) => ({ transport with jar := transport.jar.merge cookies }, wire)
  match event with
  | some event => Op.note event
  | none => pure ()
  pure outcome

/-- Send a request and wait for its end. -/
def send (call : Call) : Op (Transport κ × Wire) Outcome := do
  let (number, exchange) ← depart call
  conclude number exchange

def enqueue (outcome : Outcome) (callbacks : Callbacks κ) : Op (Transport κ × Wire) Unit :=
  Op.change fun (transport, wire) =>
    ({ transport with queue := transport.queue ++ [⟨outcome, callbacks⟩] }, wire)

/-- The outcome of a request that could not be sent, or whose answer could not be taken. -/
def outcomeOf (fault : Fault) : Outcome :=
  .failure 500 (if fault.code?.isSome then fault.message else "Internal Error")

/-- Put an outcome at the end of the queue, where a failure to come by one is an outcome too. -/
def settle (callbacks : Callbacks κ) (result : Except Fault Outcome) :
    Op (Transport κ × Wire) Unit := do
  match result with
  | .ok outcome => enqueue outcome callbacks
  | .error fault => do
    Op.note (.requestNotSent callbacks.endpoint)
    enqueue (outcomeOf fault) callbacks

/-- Count a call as issued and its request as pending. -/
def register (call : Call) : Op (Transport κ × Wire) Unit :=
  Op.change fun (transport, wire) =>
    ({ transport with
      issued := transport.issued ++ [call], pending := transport.pending + 1 }, wire)

/-- Do the work of a request. Where requests are held back it is not heard of until it is released. -/
def pursue (call : Call) (callbacks : Callbacks κ) : Op (Transport κ × Wire) Unit := do
  match ← Op.attempt (depart call) with
  | .error fault => settle callbacks (.error fault)
  | .ok (number, exchange) => do
    let (_, wire) ← Op.whole
    if wire.holds then
      Op.change fun (transport, wire) =>
        ({ transport with flights := transport.flights ++ [⟨number, exchange, callbacks⟩] }, wire)
    else settle callbacks (← Op.attempt (conclude number exchange))

/-- Send a request on its way. -/
def issue (call : Call) (callbacks : Callbacks κ) : Op (Transport κ × Wire) Unit := do
  register call
  pursue call callbacks

/-- Release a request that is held back; the answer tells whether there is such a one. -/
def release (number : Nat) : Op (Transport κ × Wire) Bool := do
  let (transport, _) ← Op.whole
  match transport.flights.find? (·.number == number) with
  | none => pure false
  | some flight => do
    Op.change fun (transport, wire) =>
      ({ transport with flights := transport.flights.filter (·.number != number) }, wire)
    settle flight.callbacks (← Op.attempt (conclude flight.number flight.exchange))
    pure true

def take : Op (Transport κ × Wire) (Option (Arrival κ)) :=
  Op.update fun (transport, wire) =>
    match transport.queue with
    | [] => (none, (transport, wire))
    | arrival :: rest =>
      (some arrival, ({ transport with queue := rest, pending := transport.pending - 1 }, wire))

/-- What callbacks do: given how to process the queue, a callback and an outcome. -/
abbrev Reaction (σ κ : Type) := Op σ Nat → κ → Outcome → Op σ Unit

/-- What is left of the way a callback ended: a callback that fails is logged and harms nobody else. -/
def contain (endpoint : String) (result : Except Fault Unit) : Op σ Unit :=
  match result with
  | .ok () => pure ()
  | .error _ => Op.note (.callbackFailed endpoint)

def deliver (react : κ → Outcome → Op σ Unit) (arrival : Arrival κ) : Op σ Unit := do
  match arrival.callback? with
  | none => pure ()
  | some callback => do
    contain arrival.callbacks.endpoint (← Op.attempt (react callback arrival.outcome))

/-- Process the queue until it is empty, given how to take from it; callbacks may add to it and process
it themselves, and a limit bounds how many outcomes are handed on. The answer is their number. -/
def processWithin (take : Op σ (Option (Arrival κ))) (react : Reaction σ κ) : Nat → Op σ Nat
  | 0 => pure 0
  | limit + 1 => do
    match ← take with
    | none => pure 0
    | some arrival => do
      let process := processWithin take react limit
      deliver (react process) arrival
      pure ((← process) + 1)

/-- Process the queue until nothing is pending, given how to process it and how to count what is pending;
the answer tells whether that came to pass. Without patience nothing is processed. -/
def waitWith (pending : σ → Nat) (process : Op σ Nat) (patient : Bool) : Op σ Bool := do
  if patient then
    let _ ← process
  Op.read fun s => pending s == 0

end Transport

end ChatWidget
