import ChatWidget.Net.Transport
import ChatWidget.Proofs.Op
/-!
How requests are issued and how they end. Neither fails: a request that cannot be sent, or whose answer
cannot be taken, ends with an outcome that says so.
-/
namespace ChatWidget

namespace Exchange

/-- How a request ends with what comes back for it. -/
def ending (now : Int) (exchange : Exchange) (answer : Answer) : Outcome :=
  match exchange.conclude now answer with
  | .ok (outcome, _, _) => outcome
  | .error fault => Transport.outcomeOf fault

def learned (now : Int) (exchange : Exchange) (answer : Answer) : CookieJar :=
  match exchange.conclude now answer with
  | .ok (_, cookies, _) => cookies
  | .error _ => {}

/-- An address with parameters, if there are any. -/
def withParameters (target : RequestUrl) : Option (List (String × String)) → Except Fault RequestUrl
  | some parameters => target.withQuery (RequestUrl.formQuery parameters)
  | none => .ok target

def addressed (url : String) (parameters : Option (List (String × String))) : Except Fault RequestUrl := do
  withParameters (← (← RequestUrl.parse url.toList).forRequest) parameters

def methodOf (call : Call) : String := String.ofList (call.method.toList.map Text.upperAscii)

/-- What a call comes to, part by part. -/
theorem prepare_ok_iff {site : Site} {jar : CookieJar} {now : Int} {call : Call} {exchange : Exchange} :
    prepare site jar now call = .ok exchange ↔
      ∃ url terms target accept contentType encoding cookie,
        resolve site call.endpoint = .ok url ∧ termsOf (methodOf call) call.data call.options = .ok terms ∧
        addressed url terms.parameters = .ok target ∧ headerText terms.accept = .ok accept ∧
        headerText? terms.contentType = .ok contentType ∧ headerText? terms.encoding = .ok encoding ∧
        cookiesFor now target jar.copy = .ok cookie ∧
        exchange = {
          url, target
          jar := jar.copy
          request := {
            method := methodOf call, url := String.ofList target.text, accept, contentType, encoding, cookie
            body := terms.body } } := by
  unfold prepare addressed
  constructor
  · intro prepared
    obtain ⟨url, resolved, prepared⟩ := bind_ok prepared
    obtain ⟨terms, known, prepared⟩ := bind_ok prepared
    obtain ⟨parsed, read, prepared⟩ := bind_ok prepared
    obtain ⟨target, ready, prepared⟩ := bind_ok prepared
    obtain ⟨accept, accepts, prepared⟩ := bind_ok prepared
    obtain ⟨contentType, typed, prepared⟩ := bind_ok prepared
    obtain ⟨encoding, encoded, prepared⟩ := bind_ok prepared
    have parts : ∃ final cookie, withParameters target terms.parameters = .ok final ∧
        cookiesFor now final jar.copy = .ok cookie ∧ exchange = {
          url
          target := final
          jar := jar.copy
          request := {
            method := methodOf call, url := String.ofList final.text, accept, contentType, encoding, cookie
            body := terms.body } } := by
      dsimp only at prepared
      cases asked : terms.parameters
      all_goals
        rw [asked] at prepared
        obtain ⟨final, queried, prepared⟩ := bind_ok prepared
        obtain ⟨cookie, chosen, prepared⟩ := bind_ok prepared
        cases prepared
        exact ⟨final, cookie, queried, chosen, rfl⟩
    obtain ⟨final, cookie, queried, chosen, rfl⟩ := parts
    refine ⟨url, terms, final, accept, contentType, encoding, cookie, resolved, known, ?_, accepts, typed, encoded,
      chosen, rfl⟩
    rw [read]
    dsimp only [bind, Except.bind]
    rw [ready]
    exact queried
  · rintro ⟨url, terms, final, accept, contentType, encoding, cookie, resolved, known, found, accepts, typed, encoded,
      chosen, rfl⟩
    obtain ⟨parsed, read, found⟩ := bind_ok found
    obtain ⟨target, ready, queried⟩ := bind_ok found
    unfold methodOf at known ⊢
    cases asked : terms.parameters with
    | none =>
      rw [asked] at queried
      cases queried
      simp only [bind, Except.bind, pure, Except.pure, resolved, known, read, ready, accepts, typed, encoded, asked,
        chosen]
    | some parameters =>
      rw [asked] at queried
      unfold withParameters at queried
      simp only [bind, Except.bind, pure, Except.pure, resolved, known, read, ready, accepts, typed, encoded, asked,
        queried, chosen]

/-- A request takes a copy of the jar along, and is sent with the cookies in it that go with its address. -/
theorem prepare_cookies {site : Site} {jar : CookieJar} {now : Int} {call : Call} {exchange : Exchange}
    (prepared : prepare site jar now call = .ok exchange) :
    exchange.jar = jar.copy ∧ exchange.request.url = String.ofList exchange.target.text ∧
      cookiesFor now exchange.target jar.copy = .ok exchange.request.cookie := by
  obtain ⟨_, _, _, _, _, _, _, -, -, -, -, -, -, chosen, rfl⟩ := prepare_ok_iff.mp prepared
  exact ⟨rfl, rfl, chosen⟩

theorem prepare_jar {site : Site} {jar : CookieJar} {now : Int} {call : Call} {exchange : Exchange}
    (prepared : prepare site jar now call = .ok exchange) : exchange.jar = jar.copy :=
  (prepare_cookies prepared).1

end Exchange

namespace Transport

variable {κ : Type}

/-- The requests of a site when a request has ended. -/
def afterEnding (transport : Transport κ) (wire : Wire) (number : Nat) (exchange : Exchange)
    (callbacks : Callbacks κ) : Transport κ :=
  { transport with
    jar := transport.jar.merge (exchange.learned wire.now (wire.answerTo number))
    queue := transport.queue ++ [⟨exchange.ending wire.now (wire.answerTo number), callbacks⟩] }

theorem start_conclude (number : Nat) (exchange : Exchange) (transport : Transport κ) (wire : Wire)
    (log : List Log.Event) :
    ∃ events, (conclude number exchange).start ⟨(transport, wire), log⟩ =
      ((exchange.conclude wire.now (wire.answerTo number)).map (·.1),
        ⟨({ transport with jar := transport.jar.merge (exchange.learned wire.now (wire.answerTo number)) }, wire),
          log ++ events⟩) := by
  unfold conclude Exchange.learned
  rw [Op.start_bind, Op.whole, Op.start_read]
  dsimp only [id]
  rw [Op.start_bind, Op.start_lift]
  cases exchange.conclude wire.now (wire.answerTo number) with
  | error fault => exact ⟨[], by rw [List.append_nil]; rfl⟩
  | ok result =>
    obtain ⟨outcome, cookies, event⟩ := result
    cases event with
    | none => exact ⟨[], by rw [List.append_nil]; rfl⟩
    | some event => exact ⟨[event], rfl⟩

/-- A request ends in the queue whatever comes back for it, and nothing fails. -/
theorem start_settle_conclude (number : Nat) (exchange : Exchange) (callbacks : Callbacks κ)
    (transport : Transport κ) (wire : Wire) (log : List Log.Event) :
    ∃ events, (Op.attempt (conclude number exchange) >>= settle callbacks).start
        ⟨(transport, wire), log⟩ =
      (.ok (), ⟨(transport.afterEnding wire number exchange callbacks, wire), log ++ events⟩) := by
  obtain ⟨events, concluded⟩ := start_conclude number exchange transport wire log
  unfold afterEnding Exchange.ending
  rw [Op.start_bind, Op.start_attempt, concluded]
  cases exchange.conclude wire.now (wire.answerTo number) with
  | ok result => exact ⟨events, rfl⟩
  | error fault =>
    refine ⟨events ++ [.requestNotSent callbacks.endpoint], ?_⟩
    rw [← List.append_assoc]
    rfl

theorem start_release (number : Nat) (transport : Transport κ) (wire : Wire) (log : List Log.Event) :
    ∃ events, (release number).start ⟨(transport, wire), log⟩ =
      match transport.flights.find? (·.number == number) with
      | none => (.ok false, ⟨(transport, wire), log ++ events⟩)
      | some flight =>
        let left := { transport with flights := transport.flights.filter (·.number != number) }
        (.ok true, ⟨(left.afterEnding wire flight.number flight.exchange flight.callbacks, wire),
          log ++ events⟩) := by
  unfold release
  rw [Op.start_bind, Op.whole, Op.start_read]
  dsimp only [id]
  cases transport.flights.find? (·.number == number) with
  | none => exact ⟨[], by rw [List.append_nil]; rfl⟩
  | some flight =>
    dsimp only
    rw [Op.start_bind, Op.start_change]
    dsimp only
    obtain ⟨events, ended⟩ := start_settle_conclude flight.number flight.exchange flight.callbacks
      { transport with flights := transport.flights.filter (·.number != number) } wire log
    refine ⟨events, ?_⟩
    rw [← bind_assoc, Op.start_bind_ok ended]
    rfl

theorem start_depart (call : Call) (transport : Transport κ) (wire : Wire) (log : List Log.Event) :
    (depart call).start ⟨(transport, wire), log⟩ =
      match Exchange.prepare transport.site transport.jar wire.now call with
      | .error fault => (.error fault, ⟨(transport, wire), log⟩)
      | .ok exchange => (.ok ((wire.arrive exchange.request).1, exchange),
          ⟨(transport, (wire.arrive exchange.request).2), log⟩) := by
  unfold depart
  rw [Op.start_bind, Op.whole, Op.start_read]
  dsimp only [id]
  rw [Op.start_bind, Op.start_lift]
  cases Exchange.prepare transport.site transport.jar wire.now call with
  | error fault => rfl
  | ok exchange => rfl

/-- Sending a call that comes to a request lets it arrive and waits for how it ends; otherwise nothing arrives. -/
theorem start_send (call : Call) (transport : Transport κ) (wire : Wire) (log : List Log.Event) :
    ∃ events, (send call).start ⟨(transport, wire), log⟩ =
      match Exchange.prepare transport.site transport.jar wire.now call with
      | .error fault => (.error fault, ⟨(transport, wire), log ++ events⟩)
      | .ok exchange =>
        let answer := wire.answerTo wire.arrived.length
        ((exchange.conclude wire.now answer).map (·.1),
          ⟨({ transport with jar := transport.jar.merge (exchange.learned wire.now answer) },
            (wire.arrive exchange.request).2), log ++ events⟩) := by
  unfold send
  rw [Op.start_bind, start_depart]
  cases Exchange.prepare transport.site transport.jar wire.now call with
  | error fault => exact ⟨[], by rw [List.append_nil]⟩
  | ok exchange => exact start_conclude wire.arrived.length exchange transport (wire.arrive exchange.request).2 log

/-- What is there when a call has been issued. Its request is in the queue, with what kept it from being sent or with
how it ended, or is held back. -/
def afterIssue (transport : Transport κ) (wire : Wire) (call : Call) (callbacks : Callbacks κ) : Transport κ × Wire :=
  let counted := { transport with issued := transport.issued ++ [call], pending := transport.pending + 1 }
  match Exchange.prepare transport.site transport.jar wire.now call with
  | .error fault => ({ counted with queue := transport.queue ++ [⟨outcomeOf fault, callbacks⟩] }, wire)
  | .ok exchange =>
    let (number, wire) := wire.arrive exchange.request
    if wire.holds then ({ counted with flights := transport.flights ++ [⟨number, exchange, callbacks⟩] }, wire)
    else (counted.afterEnding wire number exchange callbacks, wire)

/-- Issuing a request does not fail, whatever becomes of it. -/
theorem start_issue (call : Call) (callbacks : Callbacks κ) (transport : Transport κ) (wire : Wire)
    (log : List Log.Event) :
    ∃ events, (issue call callbacks).start ⟨(transport, wire), log⟩ =
      (.ok (), ⟨transport.afterIssue wire call callbacks, log ++ events⟩) := by
  unfold issue register pursue afterIssue
  rw [Op.start_bind, Op.start_change]
  dsimp only
  rw [Op.start_bind, Op.start_attempt, start_depart]
  dsimp only
  cases Exchange.prepare transport.site transport.jar wire.now call with
  | error fault => exact ⟨[.requestNotSent callbacks.endpoint], rfl⟩
  | ok exchange =>
    dsimp only
    rw [Op.start_bind, Op.whole, Op.start_read]
    dsimp only [id]
    split
    next => exact ⟨[], by rw [List.append_nil]; rfl⟩
    next => exact start_settle_conclude _ exchange callbacks _ _ log

theorem issued_afterIssue (transport : Transport κ) (wire : Wire) (call : Call) (callbacks : Callbacks κ) :
    (transport.afterIssue wire call callbacks).1.issued = transport.issued ++ [call] := by
  unfold afterIssue
  cases Exchange.prepare transport.site transport.jar wire.now call with
  | error fault => rfl
  | ok exchange =>
    dsimp only
    split
    next => rfl
    next => rfl

/-- What a call sends that is issued: the request that it comes to, if it comes to one. -/
theorem arrived_afterIssue (transport : Transport κ) (wire : Wire) (call : Call) (callbacks : Callbacks κ) :
    (transport.afterIssue wire call callbacks).1.site = transport.site ∧
      (transport.afterIssue wire call callbacks).2.arrived = wire.arrived ++
        match Exchange.prepare transport.site transport.jar wire.now call with
        | .error _ => []
        | .ok exchange => [exchange.request] := by
  unfold afterIssue
  cases Exchange.prepare transport.site transport.jar wire.now call with
  | error fault => exact ⟨rfl, (List.append_nil _).symm⟩
  | ok exchange =>
    dsimp only
    split
    next => exact ⟨rfl, rfl⟩
    next => exact ⟨rfl, rfl⟩

/-- Where requests are held back, one that is issued is the last of those that are on their way, or has come
to nothing. -/
theorem issue_held (call : Call) (callbacks : Callbacks κ) {s : Logged (Transport κ × Wire)}
    (holds : s.state.2.holds = true) :
    let after := ((issue call callbacks).start s).2.state
    after.1.jar = s.state.1.jar ∧ after.2.holds = true ∧
      (after.1.flights = s.state.1.flights ∨ ∃ flight, after.1.flights = s.state.1.flights ++ [flight] ∧
        flight.exchange.jar = s.state.1.jar.copy) := by
  obtain ⟨⟨transport, wire⟩, log⟩ := s
  change wire.holds = true at holds
  obtain ⟨events, ended⟩ := start_issue call callbacks transport wire log
  rw [ended]
  dsimp only
  unfold afterIssue
  cases prepared : Exchange.prepare transport.site transport.jar wire.now call with
  | error fault => exact ⟨rfl, holds, .inl rfl⟩
  | ok exchange =>
    have still : (wire.arrive exchange.request).2.holds = true := holds
    dsimp only
    rw [if_pos still]
    exact ⟨rfl, holds, .inr ⟨_, rfl, Exchange.prepare_jar prepared⟩⟩

end Transport

end ChatWidget
