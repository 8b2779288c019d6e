import ChatWidget.Page.Event
import ChatWidget.Proofs.Op
/-!
What outlasts the dispatch of an event. Whether its listeners fail or not, a dispatch keeps what each of them keeps.
-/
namespace ChatWidget

open Op (Keeps)

variable {σ ι : Type} {P : σ → Prop}

theorem callListeners_keeps {call : ι → Event → Op σ Unit} {event : Event}
    {listeners : List ι} (each : ∀ listener ∈ listeners, Keeps P (call listener event)) :
    Keeps P (callListeners call event listeners) := by
  induction listeners with
  | nil => exact .pure ()
  | cons listener listeners ih =>
    have rest := ih fun later member => each later (List.mem_cons_of_mem listener member)
    unfold callListeners
    refine (each listener List.mem_cons_self).attempt.bind fun result => ?_
    cases result with
    | ok done => exact rest
    | error fault => exact (Keeps.note _).bind fun _ => rest

theorem dispatch_keeps {react : Reaction σ ι} {elements : σ → Elements ι}
    {id : ElementId} {event : Event} {s : Logged σ}
    (each : ∀ listener ∈ (elements s.state).listenersFor id event.type, ∀ again event,
      Keeps P (react again listener event)) (holds : P s.state) (depth : Nat) :
    P ((dispatch elements react depth id event).start s).2.state := by
  cases depth with
  | zero => exact holds
  | succ depth =>
    unfold dispatch
    dsimp only
    rw [Op.start_bind, Op.start_read]
    dsimp only
    rw [Op.after_bind_pure]
    exact callListeners_keeps (fun listener member => each listener member _ _) s holds

/-- A dispatch keeps what all listeners keep, as long as the dispatches within them keep it. -/
theorem dispatch_keeps_nested {react : Reaction σ ι} {elements : σ → Elements ι}
    (each : ∀ again, (∀ id event, Keeps P (again id event)) → ∀ listener event, Keeps P (react again listener event))
    (depth : Nat) (id : ElementId) (event : Event) : Keeps P (dispatch elements react depth id event) := by
  induction depth generalizing id event with
  | zero => exact .pure event
  | succ depth ih =>
    unfold dispatch
    refine (Keeps.read _).bind fun listeners => ?_
    exact (callListeners_keeps fun listener _ => each _ ih listener _).bind fun _ => .pure _

end ChatWidget
