import ChatWidget.Proofs.Net.Ending
import ChatWidget.Proofs.Net.Jar
/-!
Cookies of requests that overlap. A move starts a request or ends the one with a number. A request takes a
copy of the jar along when it starts, and puts the whole copy back when it ends. So it repeats whatever it
knew at its start, also where another response has set the cookie anew in the meantime; what is set last is
kept only as long as nobody repeats an older one.
-/
namespace ChatWidget

open CookieJar (kept cleared)

namespace Exchange

/-- What the answer to a request asks for, if it is a response that is taken. -/
def obeyed (now : Int) (exchange : Exchange) : Answer → Option (List CookieOrder)
  | .response response =>
    if exchange.target.isAbsolute && (badLocation? response).isNone then
      match CookieOrder.ofHeaders now (.ofUrl exchange.target) (response.headerValues "set-cookie") with
      | .ok orders => some orders
      | .error _ => some []
    else none
  | _ => none

/-- The cookie that the answer to a request sets at a place. -/
def sets? (now : Int) (exchange : Exchange) (answer : Answer) (place : Place) : Option Cookie :=
  (exchange.obeyed now answer).bind fun orders => Cookie.lastAt? place (kept orders)

/-- The cookie at a place that a request has known from its start, if it puts it back. -/
def repeats? (now : Int) (exchange : Exchange) (answer : Answer) (place : Place) : Option Cookie :=
  (exchange.obeyed now answer).bind fun orders =>
    if place ∈ cleared orders then none else exchange.jar.find place

theorem learned_eq (now : Int) (exchange : Exchange) (answer : Answer) :
    exchange.learned now answer =
      match exchange.obeyed now answer with
      | none => {}
      | some orders => (exchange.jar.clear (cleared orders)).insertAll (kept orders) := by
  cases answer with
  | late reason => rfl
  | broken reason => rfl
  | failed fault => rfl
  | response response =>
    unfold learned conclude obeyed
    dsimp only
    cases exchange.target.isAbsolute with
    | false => rfl
    | true =>
      cases badLocation? response with
      | some reason => rfl
      | none =>
        change exchange.cookiesAfter now response = _
        unfold cookiesAfter
        rw [if_pos (by rfl)]
        cases ordered : CookieOrder.ofHeaders now (.ofUrl exchange.target)
            (response.headerValues "set-cookie") with
        | ok orders => exact CookieJar.take_eq ordered exchange.jar
        | error fault =>
          rw [CookieJar.take, ordered]
          rfl

theorem learned_isFiled {exchange : Exchange} (filed : exchange.jar.IsFiled) (now : Int) (answer : Answer) :
    (exchange.learned now answer).IsFiled := by
  rw [learned_eq]
  cases exchange.obeyed now answer with
  | none => exact CookieJar.isFiled_empty
  | some orders => exact (filed.clear _).insertAll _

theorem find_learned (now : Int) (exchange : Exchange) (answer : Answer) (place : Place) :
    (exchange.learned now answer).find place =
      (exchange.sets? now answer place).or (exchange.repeats? now answer place) := by
  rw [learned_eq]
  unfold sets? repeats?
  cases exchange.obeyed now answer with
  | none => rfl
  | some orders =>
    dsimp only [Option.bind]
    rw [CookieJar.find_insertAll, CookieJar.find_clear]

theorem repeats?_known (now : Int) (exchange : Exchange) (answer : Answer) (place : Place) :
    exchange.repeats? now answer place = none ∨
      exchange.repeats? now answer place = exchange.jar.find place := by
  unfold repeats?
  cases exchange.obeyed now answer with
  | none => exact .inl rfl
  | some orders =>
    dsimp only [Option.bind]
    split
    · exact .inl rfl
    · exact .inr rfl

end Exchange

namespace Overlap

variable {κ : Type}

inductive Move (κ : Type) where
  | start (call : Call) (callbacks : Callbacks κ)
  | finish (number : Nat)

namespace Move

def after (now : Logged (Transport κ × Wire)) : Move κ → Logged (Transport κ × Wire)
  | .start call callbacks => ((Transport.issue call callbacks).start now).2
  | .finish number => ((Transport.release number).start now).2

/-- The cookie that a move sets at a place. -/
def sets? (place : Place) (now : Logged (Transport κ × Wire)) : Move κ → Option Cookie
  | .start _ _ => none
  | .finish number =>
    (now.state.1.flights.find? (·.number == number)).bind fun flight =>
      flight.exchange.sets? now.state.2.now (now.state.2.answerTo flight.number) place

/-- Is a cookie that a move sets unknown to all other requests on their way? -/
def IsAlone (place : Place) (now : Logged (Transport κ × Wire)) : Move κ → Prop
  | .start _ _ => True
  | .finish number => (Move.finish number : Move κ).sets? place now ≠ none →
    ∀ flight ∈ now.state.1.flights, flight.number ≠ number → flight.exchange.jar.find place = none

end Move

def run (moves : List (Move κ)) (start : Logged (Transport κ × Wire)) : Logged (Transport κ × Wire) :=
  moves.foldl Move.after start

/-- The cookie that was set last at a place, where there was one before or none. -/
def latest? (place : Place) : List (Move κ) → Logged (Transport κ × Wire) → Option Cookie → Option Cookie
  | [], _, last => last
  | move :: moves, now, last =>
    latest? place moves (move.after now) ((move.sets? place now).or last)

/-- Is every cookie that is set at a place unknown to the others that are on their way then? -/
def IsUndisturbed (place : Place) (moves : List (Move κ)) (start : Logged (Transport κ × Wire)) : Prop :=
  ∀ before move later, moves = before ++ move :: later → move.IsAlone place (run before start)

theorem isUndisturbed_nil (place : Place) (start : Logged (Transport κ × Wire)) :
    IsUndisturbed place [] start := by
  intro before move later split
  simp at split

theorem isUndisturbed_cons {place : Place} {move : Move κ} {moves : List (Move κ)}
    {start : Logged (Transport κ × Wire)} :
    IsUndisturbed place (move :: moves) start ↔
      move.IsAlone place start ∧ IsUndisturbed place moves (move.after start) := by
  constructor
  · intro undisturbed
    refine ⟨undisturbed [] move moves rfl, ?_⟩
    intro before next later split
    subst split
    exact undisturbed (move :: before) next later rfl
  · rintro ⟨alone, others⟩ before next later split
    cases before with
    | nil =>
      cases split
      exact alone
    | cons first before =>
      cases split
      exact others before next later rfl

instance (place : Place) (now : Logged (Transport κ × Wire)) (move : Move κ) :
    Decidable (move.IsAlone place now) :=
  match move with
  | .start _ _ => isTrue trivial
  | .finish _ => inferInstanceAs (Decidable (_ → _))

instance (place : Place) : ∀ (moves : List (Move κ)) (start : Logged (Transport κ × Wire)),
    Decidable (IsUndisturbed place moves start)
  | [], start => isTrue (isUndisturbed_nil place start)
  | move :: moves, start =>
    have := instDecidableIsUndisturbed place moves (move.after start)
    decidable_of_iff _ isUndisturbed_cons.symm

/-! ### What is in the jars -/

/-- Are the jars in order: the shared one, and those that requests have taken along? -/
structure IsOrderly (now : Logged (Transport κ × Wire)) : Prop where
  holds : now.state.2.holds = true
  shared : now.state.1.jar.IsFiled
  carried : ∀ flight ∈ now.state.1.flights, flight.exchange.jar.IsFiled

theorem after_start (call : Call) (callbacks : Callbacks κ) {now : Logged (Transport κ × Wire)}
    (holds : now.state.2.holds = true) :
    let next := (Move.start call callbacks).after now
    next.state.1.jar = now.state.1.jar ∧ next.state.2.holds = true ∧
      (next.state.1.flights = now.state.1.flights ∨ ∃ flight,
        next.state.1.flights = now.state.1.flights ++ [flight] ∧
        flight.exchange.jar = now.state.1.jar.copy) := by
  dsimp only [Move.after]
  exact Transport.issue_held call callbacks holds

theorem after_finish_none {now : Logged (Transport κ × Wire)} {number : Nat}
    (missing : now.state.1.flights.find? (·.number == number) = none) :
    ((Move.finish number : Move κ).after now).state = now.state := by
  obtain ⟨⟨transport, wire⟩, log⟩ := now
  obtain ⟨events, released⟩ := Transport.start_release number transport wire log
  change transport.flights.find? (·.number == number) = none at missing
  rw [missing] at released
  rw [Move.after, released]

theorem after_finish_some {now : Logged (Transport κ × Wire)} {number : Nat} {flight : Flight κ}
    (found : now.state.1.flights.find? (·.number == number) = some flight) :
    let left := { now.state.1 with flights := now.state.1.flights.filter (·.number != number) }
    ((Move.finish number : Move κ).after now).state =
      (left.afterEnding now.state.2 flight.number flight.exchange flight.callbacks, now.state.2) := by
  obtain ⟨⟨transport, wire⟩, log⟩ := now
  obtain ⟨events, released⟩ := Transport.start_release number transport wire log
  change transport.flights.find? (·.number == number) = some flight at found
  rw [found] at released
  dsimp only [Move.after]
  rw [released]

theorem IsOrderly.after {now : Logged (Transport κ × Wire)} (orderly : IsOrderly now) (move : Move κ) :
    IsOrderly (move.after now) := by
  obtain ⟨holds, shared, carried⟩ := orderly
  cases move with
  | start call callbacks =>
    obtain ⟨jar, still, flights⟩ := after_start call callbacks holds
    rw [← jar] at shared
    refine ⟨still, shared, ?_⟩
    intro flight member
    rcases flights with same | ⟨new, more, copied⟩
    · exact carried flight (same ▸ member)
    · rcases List.mem_append.mp (more ▸ member) with old | last
      · exact carried flight old
      · rw [List.mem_singleton.mp last, copied]
        exact CookieJar.isFiled_copy _
  | finish number =>
    cases ending : now.state.1.flights.find? (·.number == number) with
    | none =>
      have same := after_finish_none ending
      rw [← same] at holds shared carried
      exact ⟨holds, shared, carried⟩
    | some flight =>
      have next := after_finish_some ending
      refine ⟨?_, ?_, ?_⟩
      · rw [next]
        exact holds
      · rw [next]
        exact shared.merge _
      · rw [next]
        exact fun other member => carried other (List.mem_of_mem_filter member)

theorem IsOrderly.run {now : Logged (Transport κ × Wire)} (orderly : IsOrderly now) (moves : List (Move κ)) :
    IsOrderly (run moves now) := by
  induction moves generalizing now with
  | nil => exact orderly
  | cons move moves ih => exact ih (orderly.after move)

theorem find_after_start (place : Place) {now : Logged (Transport κ × Wire)} (orderly : IsOrderly now)
    (call : Call) (callbacks : Callbacks κ) :
    let next := (Move.start call callbacks).after now
    next.state.1.jar.find place = now.state.1.jar.find place ∧
      ∀ flight ∈ next.state.1.flights, flight ∈ now.state.1.flights ∨
        flight.exchange.jar.find place = now.state.1.jar.find place := by
  obtain ⟨jar, -, flights⟩ := after_start call callbacks orderly.holds
  refine ⟨congrArg (CookieJar.find · place) jar, ?_⟩
  intro flight member
  rcases flights with same | ⟨new, more, copied⟩
  · exact .inl (same ▸ member)
  · rcases List.mem_append.mp (more ▸ member) with old | last
    · exact .inl old
    · rw [List.mem_singleton.mp last, copied]
      exact .inr (CookieJar.find_copy orderly.shared place)

theorem find_after_finish (place : Place) {now : Logged (Transport κ × Wire)} (orderly : IsOrderly now)
    {number : Nat} {flight : Flight κ}
    (found : now.state.1.flights.find? (·.number == number) = some flight) :
    let answer := now.state.2.answerTo flight.number
    ((Move.finish number : Move κ).after now).state.1.jar.find place =
      (flight.exchange.sets? now.state.2.now answer place).or
        ((flight.exchange.repeats? now.state.2.now answer place).or (now.state.1.jar.find place)) := by
  intro answer
  have learned := Exchange.learned_isFiled (orderly.carried flight (List.mem_of_find?_eq_some found))
    now.state.2.now answer
  rw [after_finish_some found, ← Option.or_assoc, ← Exchange.find_learned]
  exact CookieJar.find_merge learned now.state.1.jar place

/-- Is a cookie the one that everybody knows who knows of one at its place? -/
structure IsCurrent (place : Place) (now : Logged (Transport κ × Wire)) (last : Option Cookie) : Prop where
  orderly : IsOrderly now
  found : now.state.1.jar.find place = last
  known : ∀ flight ∈ now.state.1.flights,
    flight.exchange.jar.find place = none ∨ flight.exchange.jar.find place = last

theorem IsCurrent.after {place : Place} {now : Logged (Transport κ × Wire)} {last : Option Cookie}
    (current : IsCurrent place now last) (move : Move κ) (alone : move.IsAlone place now) :
    IsCurrent place (move.after now) ((move.sets? place now).or last) := by
  obtain ⟨orderly, found, known⟩ := current
  cases move with
  | start call callbacks =>
    obtain ⟨same, flights⟩ := find_after_start place orderly call callbacks
    refine ⟨orderly.after _, same.trans found, ?_⟩
    intro flight member
    rcases flights flight member with old | new
    · exact known flight old
    · exact .inr (new.trans found)
  | finish number =>
    cases ending : now.state.1.flights.find? (·.number == number) with
    | none =>
      have same := after_finish_none ending
      have nothing : (Move.finish number : Move κ).sets? place now = none := by
        rw [Move.sets?, ending]
        rfl
      rw [nothing, Option.none_or]
      refine ⟨orderly.after _, ?_, ?_⟩
      · rw [same]
        exact found
      · rw [same]
        exact known
    | some flight =>
      refine ⟨orderly.after _, ?_, ?_⟩
      · rw [find_after_finish place orderly ending, found, Move.sets?, ending]
        dsimp only [Option.bind]
        congr 1
        -- What the request repeats is what was set last, if it repeats anything.
        rcases Exchange.repeats?_known now.state.2.now flight.exchange (now.state.2.answerTo flight.number)
          place with nothing | own
        · rw [nothing, Option.none_or]
        · rw [own]
          rcases known flight (List.mem_of_find?_eq_some ending) with unknown | same
          · rw [unknown, Option.none_or]
          · rw [same, Option.or_self]
      · rw [after_finish_some ending]
        intro other member
        obtain ⟨before, different⟩ := List.mem_filter.mp member
        cases new : (Move.finish number : Move κ).sets? place now with
        | none => exact known other before
        | some cookie =>
          left
          exact alone (by rw [new]; exact Option.some_ne_none cookie) other before (by simpa using different)

theorem IsCurrent.run {place : Place} {now : Logged (Transport κ × Wire)} {last : Option Cookie}
    (current : IsCurrent place now last) (moves : List (Move κ))
    (undisturbed : IsUndisturbed place moves now) :
    IsCurrent place (run moves now) (latest? place moves now last) := by
  induction moves generalizing now last with
  | nil => exact current
  | cons move moves ih =>
    obtain ⟨alone, others⟩ := isUndisturbed_cons.mp undisturbed
    exact ih (current.after move alone) others

/-- A request that ends sets the cookies of its response; at any other place it puts back what it knew when
it started, if it knew of a cookie there, whatever has been set in the meantime. So what was set last is what
is found, and responses that set nothing there leave it alone, as long as each cookie is set at a time when no
other request on its way knows an older one. -/
theorem latest_cookie_kept (place : Place) {start : Logged (Transport κ × Wire)} (orderly : IsOrderly start)
    (idle : start.state.1.flights = []) (moves : List (Move κ)) :
    let now := run moves start
    let shared := now.state.1.jar.find place
    (∀ number flight, now.state.1.flights.find? (·.number == number) = some flight →
      let answer := now.state.2.answerTo flight.number
      ((Move.finish number : Move κ).after now).state.1.jar.find place =
        (flight.exchange.sets? now.state.2.now answer place).or
          ((flight.exchange.repeats? now.state.2.now answer place).or shared)) ∧
    (IsUndisturbed place moves start →
      shared = latest? place moves start (start.state.1.jar.find place) ∧
      ∀ move : Move κ, move.sets? place now = none → (move.after now).state.1.jar.find place = shared) := by
  intro now shared
  constructor
  · intro number flight found
    exact find_after_finish place (orderly.run moves) found
  · intro undisturbed
    have start_ : IsCurrent place start (start.state.1.jar.find place) := by
      refine ⟨orderly, rfl, ?_⟩
      intro flight member
      rw [idle] at member
      cases member
    have current := start_.run moves undisturbed
    refine ⟨current.found, ?_⟩
    intro move nothing
    have alone : move.IsAlone place now := by
      cases move with
      | start call callbacks => trivial
      | finish number => exact fun sets => absurd nothing sets
    have next := (current.after move alone).found
    rw [nothing, Option.none_or] at next
    exact next.trans current.found.symm

/-- Nothing has happened yet on a wire that holds requests back and has answers for the first ones. -/
def beginning (answers : List Answer) : Logged (Transport Unit × Wire) :=
  ⟨({ site := ⟨"https://chat.example.com/", "https://chat.example.com/responsio/", .str "me"⟩ },
    { answers, holds := true }), []⟩

def asking (endpoint : String) : Move Unit := .start { endpoint } { endpoint }

def setting (cookie : Option String) : Answer :=
  .response { status := 204, headers := (cookie.map fun value => ("Set-Cookie", value)).toList }

/-- Two requests overlap, and the one that ends first sets a cookie that the other knows nothing of. -/
theorem latest_cookie_kept_fast :
    let start := beginning [setting none, setting (some "sid=new; Path=/")]
    let place : Place := ⟨"chat.example.com", "/", "sid"⟩
    let moves := [asking "slow", asking "fast", .finish 1, .finish 0]
    IsOrderly start ∧ start.state.1.flights = [] ∧ IsUndisturbed place moves start ∧
      (run moves start).state.1.jar.find place = latest? place moves start none ∧
      ((run moves start).state.1.jar.find place).bind (·.value) = some "new" := by
  intro start place moves
  have orderly : IsOrderly start := ⟨rfl, CookieJar.isFiled_empty, List.forall_mem_nil _⟩
  have undisturbed : IsUndisturbed place moves start := by decide +kernel
  have kept := ((latest_cookie_kept place orderly rfl moves).2 undisturbed).1
  exact ⟨orderly, rfl, undisturbed, kept, by decide +kernel⟩

/-- Cookies do get lost. Two requests know a cookie, and the response to one of them sets it anew; when the
response to the other one comes in, which has no cookies at all, the old one is back. -/
theorem old_cookie_comes_back :
    let start := beginning [setting (some "sid=old; Path=/"), setting none, setting (some "sid=new; Path=/")]
    let place : Place := ⟨"chat.example.com", "/", "sid"⟩
    let moves := [asking "login", .finish 0, asking "slow", asking "fast", .finish 2]
    let now := run moves start
    let last := (Move.finish 1).after now
    (now.state.1.jar.find place).bind (·.value) = some "new" ∧
      (Move.finish 1).sets? place now = none ∧
      (latest? place (moves ++ [.finish 1]) start none).bind (·.value) = some "new" ∧
      (last.state.1.jar.find place).bind (·.value) = some "old" := by
  decide +kernel

end Overlap

end ChatWidget
