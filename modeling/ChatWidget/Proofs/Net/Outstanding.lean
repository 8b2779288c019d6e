import ChatWidget.Proofs.Json.ReadSound
import ChatWidget.Proofs.Net.Ending
import Mathlib.Data.List.Nodup
import Mathlib.Data.List.Perm.Basic
/-!
How many requests of a kind are outstanding: those on their way and those that have ended and were not taken
from the queue. Issuing a request adds one, releasing one moves it from one place to the other, and taking one
from the queue takes it away.
-/
namespace ChatWidget

theorem Response.verdict_isWritable {response : Response} {payload : Json}
    (success : response.verdict.1 = .success payload) : payload.isWritable = true := by
  unfold verdict at success
  dsimp only at success
  split at success
  · split at success
    · cases success
      rfl
    · cases success
  · split at success
    · split at success
      · cases success
        rfl
      · split at success
        next read =>
          cases success
          exact (Json.read_sound read).writable
        next => cases success
    · cases success

theorem Exchange.ending_isWritable {now : Int} {exchange : Exchange} {answer : Answer} {payload : Json}
    (success : exchange.ending now answer = .success payload) : payload.isWritable = true := by
  unfold ending conclude at success
  dsimp only at success
  cases answer with
  | late reason => cases success
  | broken reason => cases success
  | failed fault => cases success
  | response response =>
    cases absolute : exchange.target.isAbsolute with
    | false =>
      rw [absolute] at success
      cases success
    | true =>
      cases sent : badLocation? response with
      | some reason =>
        simp only [absolute, sent, Bool.not_true, Bool.false_eq_true, if_false] at success
        cases success
      | none =>
        simp only [absolute, sent, Bool.not_true, Bool.false_eq_true, if_false] at success
        exact Response.verdict_isWritable success

namespace Transport

variable {κ : Type} (counts : Callbacks κ → Bool)

/-- How many requests with callbacks of a kind are on their way or wait in the queue. -/
def outstanding (transport : Transport κ) : Nat :=
  transport.flights.countP (counts ·.callbacks) + transport.queue.countP (counts ·.callbacks)

/-- Are the requests on their way told apart by numbers that have been given out, and can all be written that
waits in the queue? -/
structure IsSorted (now : Transport κ × Wire) : Prop where
  distinct : (now.1.flights.map (·.number)).Nodup
  given : ∀ flight ∈ now.1.flights, flight.number < now.2.arrived.length
  written : ∀ arrival ∈ now.1.queue, ∀ payload, arrival.outcome = .success payload → payload.isWritable = true

theorem IsSorted.enqueue {transport after : Transport κ} {wire later : Wire} (sorted : IsSorted (transport, wire))
    {outcome : Outcome} {callbacks : Callbacks κ} (flights : after.flights = transport.flights)
    (queue : after.queue = transport.queue ++ [⟨outcome, callbacks⟩])
    (more : wire.arrived.length ≤ later.arrived.length)
    (written : ∀ payload, outcome = .success payload → payload.isWritable = true) :
    IsSorted (after, later) ∧
      after.outstanding counts = transport.outstanding counts + if counts callbacks then 1 else 0 := by
  refine ⟨⟨?_, ?_, ?_⟩, ?_⟩
  · dsimp only
    rw [flights]
    exact sorted.distinct
  · dsimp only
    rw [flights]
    exact fun flight member => Nat.lt_of_lt_of_le (sorted.given flight member) more
  · dsimp only
    rw [queue]
    intro arrival member
    rcases List.mem_append.mp member with old | new
    · exact sorted.written arrival old
    · rw [List.mem_singleton.mp new]
      exact written
  · unfold outstanding
    rw [flights, queue, List.countP_append, List.countP_singleton, Nat.add_assoc]

theorem IsSorted.issue {now : Transport κ × Wire} (sorted : IsSorted now) (call : Call) (callbacks : Callbacks κ)
    (log : List Log.Event) :
    let after := ((issue call callbacks).start ⟨now, log⟩).2.state
    IsSorted after ∧ after.1.outstanding counts = now.1.outstanding counts + if counts callbacks then 1 else 0 := by
  obtain ⟨transport, wire⟩ := now
  obtain ⟨events, issued⟩ := start_issue call callbacks transport wire log
  rw [issued]
  dsimp only
  unfold afterIssue
  cases Exchange.prepare transport.site transport.jar wire.now call with
  | error fault => exact sorted.enqueue counts rfl rfl (Nat.le_refl _) (fun _ success => by cases success)
  | ok exchange =>
    have more : wire.arrived.length < (wire.arrive exchange.request).2.arrived.length := by
      simp [Wire.arrive]
    dsimp only
    cases (wire.arrive exchange.request).2.holds with
    | true =>
      rw [if_pos rfl]
      refine ⟨⟨?_, ?_, sorted.written⟩, ?_⟩
      · change ((transport.flights ++ [(⟨wire.arrived.length, exchange, callbacks⟩ : Flight κ)]).map
          (·.number)).Nodup
        rw [List.map_append, List.nodup_append]
        refine ⟨sorted.distinct, List.nodup_singleton _, ?_⟩
        intro number old other new same
        obtain ⟨flight, member, rfl⟩ := List.mem_map.mp old
        rw [List.map_singleton, List.mem_singleton] at new
        exact Nat.ne_of_lt (sorted.given flight member) (same.trans new)
      · intro flight member
        rcases List.mem_append.mp member with old | new
        · exact Nat.lt_trans (sorted.given flight old) more
        · rw [List.mem_singleton.mp new]
          exact more
      · change (transport.flights ++ [(⟨wire.arrived.length, exchange, callbacks⟩ : Flight κ)]).countP _ +
          transport.queue.countP _ = _
        rw [List.countP_append, List.countP_singleton, Nat.add_right_comm]
        rfl
    | false =>
      rw [if_neg Bool.false_ne_true]
      exact sorted.enqueue counts rfl rfl (Nat.le_of_lt more) fun _ => Exchange.ending_isWritable

theorem countP_flights {flights : List (Flight κ)} (distinct : (flights.map (·.number)).Nodup) {number : Nat}
    {flight : Flight κ} (found : flights.find? (·.number == number) = some flight) (p : Flight κ → Bool) :
    flights.countP p = (flights.filter (·.number != number)).countP p + if p flight then 1 else 0 := by
  induction flights with
  | nil => cases found
  | cons first rest ih =>
    obtain ⟨new, distinct⟩ := List.nodup_cons.mp distinct
    rw [List.find?_cons] at found
    by_cases same : first.number = number
    · subst same
      rw [beq_self_eq_true] at found
      cases found
      have others : rest.filter (·.number != flight.number) = rest := by
        rw [List.filter_eq_self]
        intro other member
        rw [bne_iff_ne]
        exact fun equal => new (List.mem_map.mpr ⟨other, member, equal⟩)
      rw [List.filter_cons_of_neg (by simp), others, List.countP_cons]
    · rw [beq_eq_false_iff_ne.mpr same] at found
      rw [List.filter_cons_of_pos (by simpa using same), List.countP_cons, List.countP_cons, ih distinct found,
        Nat.add_right_comm]

theorem IsSorted.release {now : Transport κ × Wire} (sorted : IsSorted now) (number : Nat) (log : List Log.Event) :
    let after := ((release number).start ⟨now, log⟩).2.state
    IsSorted after ∧ after.1.outstanding counts = now.1.outstanding counts := by
  obtain ⟨transport, wire⟩ := now
  obtain ⟨events, released⟩ := start_release number transport wire log
  rw [released]
  cases found : transport.flights.find? (·.number == number) with
  | none => exact ⟨sorted, rfl⟩
  | some flight =>
    let left := { transport with flights := transport.flights.filter (·.number != number) }
    have fewer : IsSorted (left, wire) :=
      ⟨List.Nodup.sublist (List.Sublist.map _ List.filter_sublist) sorted.distinct,
        fun other member => sorted.given other (List.mem_of_mem_filter member), sorted.written⟩
    have count : transport.outstanding counts =
        left.outstanding counts + if counts flight.callbacks then 1 else 0 := by
      change transport.flights.countP _ + _ = (transport.flights.filter _).countP _ + _ + _
      rw [countP_flights sorted.distinct found, Nat.add_right_comm]
    rw [count]
    exact fewer.enqueue counts rfl rfl (Nat.le_refl _) fun _ => Exchange.ending_isWritable

theorem IsSorted.take {now : Transport κ × Wire} (sorted : IsSorted now) {arrival : Arrival κ}
    {rest : List (Arrival κ)} (waits : now.1.queue = arrival :: rest) (log : List Log.Event) :
    let after := (Transport.take.start ⟨now, log⟩).2.state
    IsSorted after ∧
      now.1.outstanding counts = after.1.outstanding counts + if counts arrival.callbacks then 1 else 0 := by
  obtain ⟨transport, wire⟩ := now
  change transport.queue = arrival :: rest at waits
  unfold Transport.take
  rw [Op.start_update]
  dsimp only
  rw [waits]
  refine ⟨⟨sorted.distinct, sorted.given, ?_⟩, ?_⟩
  · intro other member
    exact sorted.written other (by rw [waits]; exact List.mem_cons_of_mem _ member)
  · change transport.flights.countP _ + transport.queue.countP _ = transport.flights.countP _ + rest.countP _ + _
    rw [waits, List.countP_cons, Nat.add_assoc]

end Transport

end ChatWidget
