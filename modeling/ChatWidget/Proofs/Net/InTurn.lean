import ChatWidget.Proofs.Net.Filing
import ChatWidget.Proofs.Net.Overlap
/-!
Requests that are sent one after another. Each takes a copy of the shared jar along, and at its end all that it
has is put over the shared jar. So the shared jar has every cookie that was ever set, as it was set last, and is
one jar for all requests as long as no response takes a cookie out of it.
-/
namespace ChatWidget

open CookieJar (kept cleared)

namespace Exchange

/-- What the answer to a request asks for, if it is a response from an address that names a server. -/
def asked (now : Int) (exchange : Exchange) : Answer → Option (List CookieOrder)
  | .response response =>
    if exchange.target.isAbsolute then
      some ((CookieOrder.ofHeaders now (.ofUrl exchange.target) (response.headerValues "set-cookie")).toOption.getD [])
    else none
  | _ => none

def feed (now : Int) (exchange : Exchange) (jar : CookieJar) : Answer → CookieJar
  | .response response =>
    if exchange.target.isAbsolute then
      jar.take now (.ofUrl exchange.target) (response.headerValues "set-cookie")
    else jar
  | _ => jar

theorem feed_eq (now : Int) (exchange : Exchange) (jar : CookieJar) (answer : Answer) :
    exchange.feed now jar answer =
      match exchange.asked now answer with
      | none => jar
      | some orders => (jar.clear (cleared orders)).insertAll (kept orders) := by
  cases answer with
  | late reason => rfl
  | broken reason => rfl
  | failed fault => rfl
  | response response =>
    unfold feed asked
    dsimp only
    split
    next =>
      cases ordered : CookieOrder.ofHeaders now (.ofUrl exchange.target) (response.headerValues "set-cookie") with
      | ok orders => exact CookieJar.take_eq ordered jar
      | error fault =>
        rw [CookieJar.take, ordered]
        rfl
    next => rfl

theorem obeyed_eq (now : Int) (exchange : Exchange) (answer : Answer) :
    exchange.obeyed now answer = none ∨ exchange.obeyed now answer = exchange.asked now answer := by
  cases answer with
  | late reason => exact .inl rfl
  | broken reason => exact .inl rfl
  | failed fault => exact .inl rfl
  | response response =>
    unfold obeyed asked
    dsimp only
    cases exchange.target.isAbsolute with
    | false => exact .inl rfl
    | true =>
      cases (badLocation? response).isNone with
      | false => exact .inl rfl
      | true =>
        right
        cases CookieOrder.ofHeaders now (.ofUrl exchange.target) (response.headerValues "set-cookie") with
        | ok orders => rfl
        | error fault => rfl

/-- Does everything that an answer asks for stay in a jar? It takes no cookie out of the jar, and where it brings
one the exchange is not broken off. -/
def Lasts (now : Int) (exchange : Exchange) (answer : Answer) (jar : CookieJar) : Prop :=
  ∀ orders ∈ exchange.asked now answer, (∀ place ∈ cleared orders, (jar.find place).isNone) ∧
    ((exchange.obeyed now answer).isSome ∨ (kept orders).isEmpty)

instance (now : Int) (exchange : Exchange) (answer : Answer) (jar : CookieJar) :
    Decidable (exchange.Lasts now answer jar) :=
  inferInstanceAs (Decidable (∀ orders ∈ exchange.asked now answer, _))

end Exchange

theorem CookieJar.clear_absent {jar : CookieJar} {places : List Place}
    (absent : ∀ place ∈ places, (jar.find place).isNone) : jar.clear places = jar := by
  unfold clear
  induction places with
  | nil => rfl
  | cons gone places ih =>
    have none : jar.get? gone.domain gone.path gone.name = none :=
      Option.isNone_iff_eq_none.mp (absent gone List.mem_cons_self)
    rw [List.foldl_cons, erase, none, if_neg (by simp)]
    exact ih fun place member => absent place (List.mem_cons_of_mem _ member)

namespace InTurn

variable {κ : Type}

/-- A call and the second at which it is sent. -/
structure Sending where
  call : Call
  second : Int := 0

namespace Sending

variable (now : Logged (Transport κ × Wire)) (sending : Sending)

def ready : Logged (Transport κ × Wire) :=
  ⟨(now.state.1, { now.state.2 with now := sending.second }), now.log⟩

def after : Logged (Transport κ × Wire) := ((Transport.send sending.call).start (sending.ready now)).2

def exchange : Except Fault Exchange :=
  Exchange.prepare now.state.1.site now.state.1.jar sending.second sending.call

def answer : Answer := now.state.2.answerTo now.state.2.arrived.length

def brings : List Cookie :=
  match sending.exchange now with
  | .error _ => []
  | .ok exchange => ((exchange.obeyed sending.second (answer now)).map kept).getD []

def feeds (jar : CookieJar) : CookieJar :=
  match sending.exchange now with
  | .error _ => jar
  | .ok exchange => exchange.feed sending.second jar (answer now)

def Lasts (jar : CookieJar) : Prop :=
  ∀ exchange ∈ (sending.exchange now).toOption, exchange.Lasts sending.second (answer now) jar

instance (jar : CookieJar) : Decidable (sending.Lasts now jar) :=
  inferInstanceAs (Decidable (∀ exchange ∈ (sending.exchange now).toOption, _))

theorem after_state : (sending.after now).state =
    match sending.exchange now with
    | .error _ => (sending.ready now).state
    | .ok exchange =>
      ({ now.state.1 with jar := now.state.1.jar.merge (exchange.learned sending.second (answer now)) },
        ((sending.ready now).state.2.arrive exchange.request).2) := by
  obtain ⟨⟨transport, wire⟩, log⟩ := now
  obtain ⟨events, sent⟩ := Transport.start_send sending.call transport { wire with now := sending.second } log
  unfold after ready exchange
  dsimp only
  rw [sent]
  cases Exchange.prepare transport.site transport.jar sending.second sending.call with
  | error fault => rfl
  | ok exchange => rfl

/-- The jar after a sending is the jar before it with the cookies that were brought. -/
theorem jar_after {cookies : List Cookie} (filled : now.state.1.jar = ({} : CookieJar).insertAll cookies) :
    (sending.after now).state.1.jar = ({} : CookieJar).insertAll (cookies ++ sending.brings now) := by
  rw [after_state]
  unfold brings
  cases prepared : sending.exchange now with
  | error fault =>
    rw [List.append_nil]
    exact filled
  | ok exchange =>
    have own : exchange.jar = ({} : CookieJar).insertAll cookies := by
      rw [Exchange.prepare_jar prepared, filled, CookieJar.copy_insertAll]
    dsimp only
    rw [Exchange.learned_eq, own, filled]
    cases exchange.obeyed sending.second (answer now) with
    | none =>
      rw [Option.map_none, Option.getD_none, List.append_nil]
      rfl
    | some orders =>
      dsimp only
      rw [CookieJar.merge_again (CookieJar.isFiled_empty.insertAll cookies), Option.map_some, Option.getD_some]
      unfold CookieJar.insertAll
      rw [List.foldl_append]

theorem feeds_eq {cookies : List Cookie} (lasts : sending.Lasts now (({} : CookieJar).insertAll cookies)) :
    sending.feeds now (({} : CookieJar).insertAll cookies) =
      ({} : CookieJar).insertAll (cookies ++ sending.brings now) := by
  unfold feeds brings
  cases prepared : sending.exchange now with
  | error fault => rw [List.append_nil]
  | ok exchange =>
    have lasts : exchange.Lasts sending.second (answer now) _ := lasts exchange (by rw [prepared]; rfl)
    dsimp only
    rw [Exchange.feed_eq]
    have obeys := exchange.obeyed_eq sending.second (answer now)
    cases asks : exchange.asked sending.second (answer now) with
    | none =>
      have nothing : exchange.obeyed sending.second (answer now) = none := obeys.elim id (·.trans asks)
      rw [nothing, Option.map_none, Option.getD_none, List.append_nil]
    | some orders =>
      obtain ⟨absent, stays⟩ := lasts orders asks
      dsimp only
      rw [CookieJar.clear_absent absent]
      unfold CookieJar.insertAll
      rw [List.foldl_append]
      -- If the exchange is broken off, none of its cookies gets into the shared jar, so it must bring none.
      rcases obeys with broken | obeyed
      · rw [broken] at stays ⊢
        have none : kept orders = [] := List.isEmpty_iff.mp (stays.resolve_left Bool.false_ne_true)
        rw [none]
        rfl
      · rw [obeyed, asks]
        rfl

end Sending

open Sending

def run (sendings : List Sending) (start : Logged (Transport κ × Wire)) : Logged (Transport κ × Wire) :=
  sendings.foldl Sending.after start

def brought : List Sending → Logged (Transport κ × Wire) → List Cookie
  | [], _ => []
  | sending :: sendings, now => sending.brings now ++ brought sendings (sending.after now)

/-- A single jar that is fed with all the responses to sendings. -/
def fed : List Sending → Logged (Transport κ × Wire) → CookieJar → CookieJar
  | [], _, jar => jar
  | sending :: sendings, now, jar => fed sendings (sending.after now) (sending.feeds now jar)

/-- Does everything that responses ask for stay in a single jar that is fed with them? -/
def Lasts : List Sending → Logged (Transport κ × Wire) → CookieJar → Prop
  | [], _, _ => True
  | sending :: sendings, now, jar =>
    sending.Lasts now jar ∧ Lasts sendings (sending.after now) (sending.feeds now jar)

instance decidableLasts : ∀ (sendings : List Sending) (now : Logged (Transport κ × Wire)) (jar : CookieJar),
    Decidable (Lasts sendings now jar)
  | [], _, _ => isTrue trivial
  | sending :: sendings, now, jar =>
    have := decidableLasts sendings (sending.after now) (sending.feeds now jar)
    inferInstanceAs (Decidable (_ ∧ _))

theorem jar_run (sendings : List Sending) {now : Logged (Transport κ × Wire)} {cookies : List Cookie}
    (filled : now.state.1.jar = ({} : CookieJar).insertAll cookies) :
    (run sendings now).state.1.jar = ({} : CookieJar).insertAll (cookies ++ brought sendings now) := by
  induction sendings generalizing now cookies with
  | nil =>
    rw [brought, List.append_nil]
    exact filled
  | cons sending sendings ih =>
    rw [brought, ← List.append_assoc]
    exact ih (sending.jar_after now filled)

theorem fed_eq (sendings : List Sending) {now : Logged (Transport κ × Wire)} {cookies : List Cookie}
    (lasts : Lasts sendings now (({} : CookieJar).insertAll cookies)) :
    fed sendings now (({} : CookieJar).insertAll cookies) =
      ({} : CookieJar).insertAll (cookies ++ brought sendings now) := by
  induction sendings generalizing now cookies with
  | nil => rw [brought, List.append_nil, fed]
  | cons sending sendings ih =>
    obtain ⟨first, others⟩ := lasts
    rw [sending.feeds_eq now first] at others
    rw [fed, brought, ← List.append_assoc, sending.feeds_eq now first]
    exact ih others

/-- Requests that are sent one after another, with no cookies at the beginning, are sent with the cookies of a single
jar: the one into which all cookies have been put that responses have brought. None is ever taken out of it. So it is
the jar that is fed with all responses if nothing that they ask for gets lost: none takes out a cookie that is in the
jar, and none brings a cookie and breaks the exchange off. -/
theorem sent_from_one_jar {start : Logged (Transport κ × Wire)} (fresh : start.state.1.jar = {})
    (sendings : List Sending) (sending : Sending) :
    let now := run sendings start
    let jar := ({} : CookieJar).insertAll (brought sendings start)
    now.state.1.jar = jar ∧ (Lasts sendings start {} → fed sendings start {} = jar) ∧
      match sending.exchange now with
      | .error _ => (sending.after now).state.2.arrived = now.state.2.arrived
      | .ok exchange =>
        (sending.after now).state.2.arrived = now.state.2.arrived ++ [exchange.request] ∧
          exchange.request.url = String.ofList exchange.target.text ∧
          Exchange.cookiesFor sending.second exchange.target jar = .ok exchange.request.cookie := by
  intro now jar
  have filled : now.state.1.jar = jar := @jar_run κ sendings start [] fresh
  refine ⟨filled, @fed_eq κ sendings start [], ?_⟩
  have after := sending.after_state now
  cases prepared : sending.exchange now with
  | error fault =>
    rw [prepared] at after
    rw [after]
    rfl
  | ok exchange =>
    rw [prepared] at after
    obtain ⟨-, url, chosen⟩ := Exchange.prepare_cookies prepared
    rw [filled, CookieJar.copy_insertAll] at chosen
    dsimp only
    rw [after]
    exact ⟨rfl, url, chosen⟩

/-- Nothing has happened yet on a wire that has answers for the first requests. -/
def beginning (answers : List Answer) : Logged (Transport Unit × Wire) :=
  ⟨({ site := ⟨"https://chat.example.com/", "https://chat.example.com/responsio/", .str "me"⟩ }, { answers }),
    []⟩

/-- A response sets a cookie anew, which is the one that is sent from then on. -/
theorem sent_from_one_jar_renewed :
    let start := beginning [Overlap.setting (some "sid=1; Path=/"), Overlap.setting (some "sid=2; Path=/; Max-Age=9")]
    let sendings : List Sending := [⟨{ endpoint := "login" }, 0⟩, ⟨{ endpoint := "renew" }, 1⟩]
    let last : Sending := ⟨{ endpoint := "init/me" }, 2⟩
    start.state.1.jar = {} ∧ Lasts sendings start {} ∧
      (last.after (run sendings start)).state.2.arrived.map (·.cookie) = [none, some "sid=1", some "sid=2"] ∧
      fed sendings start {} = (run sendings start).state.1.jar := by
  intro start sendings last
  have ran : Lasts sendings start {} ∧ (last.after (run sendings start)).state.2.arrived.map (·.cookie) =
      [none, some "sid=1", some "sid=2"] := by decide +kernel
  have one := @sent_from_one_jar _ start rfl sendings last
  exact ⟨rfl, ran.1, ran.2, (one.2.1 ran.1).trans one.1.symm⟩

/-- A cookie that a response takes out is sent all the same. -/
theorem deleted_cookie_is_sent :
    let start := beginning [Overlap.setting (some "sid=1; Path=/"), Overlap.setting (some "sid=; Path=/; Max-Age=0")]
    let sendings : List Sending := [⟨{ endpoint := "login" }, 0⟩, ⟨{ endpoint := "logout" }, 0⟩]
    let last : Sending := ⟨{ endpoint := "init/me" }, 0⟩
    (last.exchange (run sendings start)).toOption.map (fun exchange =>
      (exchange.request.url, exchange.request.cookie,
        (Exchange.cookiesFor last.second exchange.target (fed sendings start {})).toOption)) =
      some ("https://chat.example.com/responsio/init/me", some "sid=1", some none) := by
  decide +kernel

end InTurn

end ChatWidget
