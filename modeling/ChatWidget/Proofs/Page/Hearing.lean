import ChatWidget.Proofs.Page.Dispatch
import ChatWidget.Proofs.Page.Links
import Mathlib
/-!
Who hears an event. What a listener does is a tree of steps here, which may change everything there is, log,
dispatch events, also the one it was called with, and end well or badly. Everything is written down as it
happens, and so a dispatch can be held against the rule: the listeners that there were when it began are called
once each and in order, whatever each of them does meanwhile, and the dispatches within follow the same rule.
-/
namespace ChatWidget

/-- The event as listeners get it from a dispatch on an element. -/
def Event.reaching (event : Event) (id : ElementId) : Event := { event with target := some (event.target.getD id) }

namespace Hearing

open Op (Keeps)

variable {σ ι α β : Type}

/-- What a listener does with an event. -/
inductive Behaviour (σ : Type) where
  | ends (result : Except Fault Unit)
  | acts (step : σ → σ × List Log.Event) (next : σ → Behaviour σ)
  | dispatches (id : ElementId) (event : Event) (next : Event → Behaviour σ)

/-- Where a dispatch begins, with the page as it is then, and where it ends; where a listener is called and where
it ends; and what it logs itself. -/
inductive Mark (σ ι : Type) where
  | opened (page : σ) (id : ElementId) (event : Event)
  | called (listener : ι) (event : Event)
  | logged (events : List Log.Event)
  | ended (listener : ι) (event : Event) (result : Except Fault Unit)
  | closed (event : Event)

/-- A state with what was written down. -/
structure Watched (σ ι : Type) where
  page : σ
  marks : List (Mark σ ι) := []

def mark (mark : Mark σ ι) : Op (Watched σ ι) Unit := Op.change fun w => { w with marks := w.marks ++ [mark] }

/-- Take a step; the answer is the state before it. -/
def act (step : σ → σ × List Log.Event) : Op (Watched σ ι) σ :=
  Op.ofRun fun s =>
    let (after, events) := step s.state.page
    (.ok s.state.page, ⟨⟨after, s.state.marks ++ [.logged events]⟩, s.log ++ events⟩)

theorem start_act (step : σ → σ × List Log.Event) (s : Logged (Watched σ ι)) :
    (act step).start s = (.ok s.state.page, ⟨⟨(step s.state.page).1, s.state.marks ++ [.logged (step s.state.page).2]⟩,
      s.log ++ (step s.state.page).2⟩) := rfl

/-- Dispatch an event and write down that this ended. -/
def closing (again : ElementId → Event → Op (Watched σ ι) Event) (id : ElementId) (event : Event) :
    Op (Watched σ ι) Event := do
  let heard ← again id event
  mark (.closed heard)
  pure heard

/-- Do what a listener does, given how to dispatch. -/
def Behaviour.op (again : ElementId → Event → Op (Watched σ ι) Event) : Behaviour σ → Op (Watched σ ι) Unit
  | ends result => Op.lift result
  | acts step next => do (next (← act step)).op again
  | dispatches id event next => do
    let page ← Op.read Watched.page
    mark (.opened page id event)
    let heard ← closing again id event
    (next heard).op again

def reaction (behaves : ι → Event → Behaviour σ) : Reaction (Watched σ ι) ι := fun again listener event => do
  mark (.called listener event)
  let result ← Op.attempt ((behaves listener event).op again)
  mark (.ended listener event result)
  Op.lift result

/-- Dispatch an event among such listeners. -/
def hears (elements : σ → Elements ι) (behaves : ι → Event → Behaviour σ) (depth : Nat) (id : ElementId)
    (event : Event) : Op (Watched σ ι) Event :=
  dispatch (fun w => elements w.page) (reaction behaves) depth id event

/-! ### The rule -/

mutual

/-- Is this what may be written down while a listener has its turn? Whoever listens when it dispatches an event is
to hear that. -/
inductive IsTurn (elements : σ → Elements ι) : List (Mark σ ι) → Prop
  | done : IsTurn elements []
  | logged (events : List Log.Event) {marks : List (Mark σ ι)} (rest : IsTurn elements marks) :
      IsTurn elements (.logged events :: marks)
  | dispatched (page : σ) (id : ElementId) (event : Event) {inside marks : List (Mark σ ι)}
      (heard : IsHeard elements (event.reaching id) ((elements page).listenersFor id event.type) inside)
      (rest : IsTurn elements marks) :
      IsTurn elements (.opened page id event :: (inside ++ .closed (event.reaching id) :: marks))

/-- Is an event heard by these listeners, once each and in this order? -/
inductive IsHeard (elements : σ → Elements ι) : Event → List ι → List (Mark σ ι) → Prop
  | nobody (event : Event) : IsHeard elements event [] []
  | next {event : Event} (listener : ι) {inside : List (Mark σ ι)} (turn : IsTurn elements inside)
      (result : Except Fault Unit) {listeners : List ι} {marks : List (Mark σ ι)}
      (rest : IsHeard elements event listeners marks) :
      IsHeard elements event (listener :: listeners)
        (.called listener event :: (inside ++ .ended listener event result :: marks))

end

/-- What is logged for a mark: what the listener logs itself, and once that it failed. -/
def Mark.log : Mark σ ι → List Log.Event
  | .logged events => events
  | .ended _ event (.error _) => [.listenerFailed event.type]
  | _ => []

/-! ### Runs with more and more room -/

/-- Do marks go apart at some point? -/
def Parted (first second : List (Mark σ ι)) : Prop :=
  ∃ common one other, one ≠ other ∧ common ++ [one] <+: first ∧ common ++ [other] <+: second

theorem Parted.extend {first second first' second' : List (Mark σ ι)} (parted : Parted first second)
    (more : first <+: first') (more' : second <+: second') : Parted first' second' := by
  obtain ⟨common, one, other, different, begins, begins'⟩ := parted
  exact ⟨common, one, other, different, begins.trans more, begins'.trans more'⟩

theorem Parted.irrefl {marks : List (Mark σ ι)} (parted : Parted marks marks) : False := by
  obtain ⟨common, one, other, different, begins, begins'⟩ := parted
  have same := (List.prefix_of_prefix_length_le begins begins' (by simp)).eq_of_length (by simp)
  simp only [List.append_cancel_left_eq, List.cons.injEq, and_true] at same
  exact different same

/-- Have only marks come after the given ones? -/
def Extends (given : List (Mark σ ι)) (watched : Watched σ ι) : Prop := given <+: watched.marks

section

variable (elements : σ → Elements ι) (behaves : ι → Event → Behaviour σ)
  {again : ElementId → Event → Op (Watched σ ι) Event} {given : List (Mark σ ι)}

theorem keeps_mark (written : Mark σ ι) : Keeps (Extends (σ := σ) given) (mark written) :=
  .change fun _ begins => begins.trans (List.prefix_append _ _)

theorem keeps_closing (nested : ∀ id event, Keeps (Extends given) (again id event)) (id : ElementId) (event : Event) :
    Keeps (Extends given) (closing again id event) :=
  (nested id event).bind fun _ => (keeps_mark _).bind fun _ => .pure _

theorem Behaviour.keeps (nested : ∀ id event, Keeps (Extends given) (again id event)) (behaviour : Behaviour σ) :
    Keeps (Extends given) (behaviour.op again) := by
  induction behaviour with
  | ends result => exact .lift result
  | acts step next ih =>
    have acted : Keeps (Extends given) (act (ι := ι) step) :=
      fun _ begins => begins.trans (List.prefix_append _ _)
    exact acted.bind ih
  | dispatches id event next ih =>
    exact (Keeps.read _).bind fun _ => (keeps_mark _).bind fun _ => (keeps_closing nested id event).bind ih

theorem keeps_reaction (nested : ∀ id event, Keeps (Extends given) (again id event)) (listener : ι) (event : Event) :
    Keeps (Extends given) (reaction behaves again listener event) := by
  refine (keeps_mark _).bind fun _ => ?_
  exact (Behaviour.keeps nested _).attempt.bind fun _ => (keeps_mark _).bind fun _ => .lift _

theorem keeps_callListeners (nested : ∀ id event, Keeps (Extends given) (again id event)) (event : Event)
    (listeners : List ι) :
    Keeps (Extends given) (callListeners (reaction behaves again) event listeners) :=
  callListeners_keeps fun listener _ => keeps_reaction behaves nested listener event

theorem keeps_hears (given : List (Mark σ ι)) (depth : Nat) (id : ElementId) (event : Event) :
    Keeps (Extends given) (hears elements behaves depth id event) :=
  dispatch_keeps_nested (fun _ nested => keeps_reaction behaves nested) depth id event

end

/-- Is this what was written down and logged between two moments? -/
structure Comes (s after : Logged (Watched σ ι)) (trace : List (Mark σ ι)) : Prop where
  marks : after.state.marks = s.state.marks ++ trace
  log : after.log = s.log ++ trace.flatMap Mark.log

theorem Comes.refl (s : Logged (Watched σ ι)) : Comes s s [] := by
  constructor
  · simp
  · simp

theorem Comes.trans {s between after : Logged (Watched σ ι)} {trace more : List (Mark σ ι)}
    (first : Comes s between trace) (second : Comes between after more) : Comes s after (trace ++ more) := by
  constructor
  · rw [second.marks, first.marks, List.append_assoc]
  · rw [second.log, first.log, List.flatMap_append, List.append_assoc]

def marked (s : Logged (Watched σ ι)) (mark : Mark σ ι) : Logged (Watched σ ι) :=
  ⟨⟨s.state.page, s.state.marks ++ [mark]⟩, s.log ++ mark.log⟩

@[simp] theorem marked_page (s : Logged (Watched σ ι)) (mark : Mark σ ι) :
    (marked s mark).state.page = s.state.page := rfl

theorem marked_inj {before other : Logged (Watched σ ι)} {mark : Mark σ ι}
    (same : marked before mark = marked other mark) : before = other := by
  obtain ⟨⟨page, marks⟩, log⟩ := before
  obtain ⟨⟨page', marks'⟩, log'⟩ := other
  simpa [marked] using same

theorem comes_marked (s : Logged (Watched σ ι)) (mark : Mark σ ι) : Comes s (marked s mark) [mark] :=
  ⟨rfl, by simp [marked]⟩

theorem start_mark {written : Mark σ ι} (silent : written.log = []) (s : Logged (Watched σ ι)) :
    (mark written).start s = (.ok (), marked s written) := by
  rw [marked, silent, List.append_nil]
  rfl

/-- What becomes of an operation with more and more room for dispatches within dispatches: either it settles at
a depth, and then ends as it should, or already with one more level other marks are written down. -/
inductive Decided (run : Nat → Op (Watched σ ι) α) (depth : Nat) (s : Logged (Watched σ ι))
    (Ends : Except Fault α → List (Mark σ ι) → Prop) : Prop
  | settled {result : Except Fault α} {after : Logged (Watched σ ι)} {trace : List (Mark σ ι)}
      (same : ∀ n, depth ≤ n → (run n).start s = (result, after)) (comes : Comes s after trace)
      (ends : Ends result trace)
  | parted (parted : Parted ((run depth).start s).2.state.marks ((run (depth + 1)).start s).2.state.marks)

theorem extends_bind {op : Op (Watched σ ι) α} {next : α → Op (Watched σ ι) β}
    (keeps : ∀ given a, Keeps (Extends given) (next a)) (s : Logged (Watched σ ι)) :
    (op.start s).2.state.marks <+: ((op >>= next).start s).2.state.marks := by
  rw [Op.start_bind]
  rcases op.start s with ⟨fault | a, after⟩
  · exact List.prefix_refl _
  · exact keeps after.state.marks a after (List.prefix_refl _)

theorem Decided.bind {run : Nat → Op (Watched σ ι) α} {next : Nat → α → Op (Watched σ ι) β} {depth : Nat}
    {s : Logged (Watched σ ι)} {Ends : Except Fault α → List (Mark σ ι) → Prop}
    {Final : Except Fault β → List (Mark σ ι) → Prop} (first : Decided run depth s Ends)
    (keeps : ∀ n given a, Keeps (Extends given) (next n a))
    (rest : ∀ result after trace, Comes s after trace → Ends result trace → ∃ a, result = .ok a ∧
      Decided (fun n => next n a) depth after fun final more => Final final (trace ++ more)) :
    Decided (fun n => run n >>= next n) depth s Final := by
  cases first with
  | parted parted =>
    -- Marks that differ are still there after whatever comes next.
    exact .parted (parted.extend (extends_bind (keeps depth) s) (extends_bind (keeps (depth + 1)) s))
  | settled same comes ends =>
    obtain ⟨a, rfl, later⟩ := rest _ _ _ comes ends
    cases later with
    | settled same' comes' ends' =>
      refine .settled (fun n deep => ?_) (comes.trans comes') ends'
      rw [Op.start_bind_ok (same n deep), same' n deep]
    | parted parted =>
      refine .parted ?_
      rw [Op.start_bind_ok (same depth (Nat.le_refl _)), Op.start_bind_ok (same (depth + 1) (Nat.le_succ _))]
      exact parted

theorem Decided.after {run : Nat → Op (Watched σ ι) α} (later : Nat → Op (Watched σ ι) α) {depth : Nat}
    {s : Logged (Watched σ ι)} (between : Logged (Watched σ ι)) (front : List (Mark σ ι))
    {Ends : Except Fault α → List (Mark σ ι) → Prop}
    (moved : ∀ n, depth ≤ n → (run n).start s = (later n).start between) (comes : Comes s between front)
    (decided : Decided later depth between fun result trace => Ends result (front ++ trace)) :
    Decided run depth s Ends := by
  cases decided with
  | settled same comes' ends =>
    exact .settled (fun n deep => (moved n deep).trans (same n deep)) (comes.trans comes') ends
  | parted parted =>
    refine .parted ?_
    rw [moved depth (Nat.le_refl _), moved (depth + 1) (Nat.le_succ _)]
    exact parted

theorem Decided.succ {run : Nat → Op (Watched σ ι) α} {depth : Nat} {s : Logged (Watched σ ι)}
    {Ends : Except Fault α → List (Mark σ ι) → Prop} (decided : Decided (fun n => run (n + 1)) depth s Ends) :
    Decided run (depth + 1) s Ends := by
  cases decided with
  | parted parted => exact .parted parted
  | settled same comes ends =>
    refine .settled (fun n deep => ?_) comes ends
    obtain ⟨n, rfl⟩ := Nat.exists_eq_add_of_le' deep
    exact same (n + depth) (Nat.le_add_left _ _)

theorem Decided.mono {run : Nat → Op (Watched σ ι) α} {depth : Nat} {s : Logged (Watched σ ι)}
    {Ends Final : Except Fault α → List (Mark σ ι) → Prop} (decided : Decided run depth s Ends)
    (weaker : ∀ result trace, Ends result trace → Final result trace) : Decided run depth s Final := by
  cases decided with
  | settled same comes ends => exact .settled same comes (weaker _ _ ends)
  | parted parted => exact .parted parted

/-! ### One listener, and all of them -/

section

variable {elements : σ → Elements ι} {behaves : ι → Event → Behaviour σ} {depth : Nat}

/-- Are dispatches at a depth heard as they should be? -/
def AllHeard (elements : σ → Elements ι) (behaves : ι → Event → Behaviour σ) (depth : Nat) : Prop :=
  ∀ id event (s : Logged (Watched σ ι)),
    Decided (fun n => closing (hears elements behaves n) id event) depth s fun result trace =>
      result = .ok (event.reaching id) ∧ ∃ inside, trace = inside ++ [.closed (event.reaching id)] ∧
        IsHeard elements (event.reaching id) ((elements s.state.page).listenersFor id event.type) inside

theorem Behaviour.decided (heard : AllHeard elements behaves depth) (behaviour : Behaviour σ)
    (s : Logged (Watched σ ι)) :
    Decided (fun n => behaviour.op (hears elements behaves n)) depth s fun _ trace => IsTurn elements trace := by
  induction behaviour generalizing s with
  | ends result => exact .settled (fun _ _ => rfl) (.refl s) .done
  | acts step next ih =>
    refine .after (fun n => (next s.state.page).op (hears elements behaves n)) ((act step).start s).2
      [.logged (step s.state.page).2] (fun _ _ => rfl) ⟨rfl, ?_⟩ ?_
    · rw [start_act]
      simp [Mark.log]
    · exact (ih _ _).mono fun _ _ turn => .logged _ turn
  | dispatches id event next ih =>
    refine .after (fun n => closing (hears elements behaves n) id event >>=
        fun heard => (next heard).op (hears elements behaves n))
      (marked s (.opened s.state.page id event)) _ (fun n _ => ?_) (comes_marked s _) ?_
    · rw [Behaviour.op, Op.start_bind_ok (Op.start_read _ s), Op.start_bind_ok (start_mark rfl s)]
    · refine (heard id event _).bind (fun n given heard => (next heard).keeps (keeps_hears elements behaves _ n)) ?_
      rintro result after trace - ⟨rfl, inside, rfl, isHeard⟩
      refine ⟨_, rfl, (ih _ after).mono fun _ more turn => ?_⟩
      have whole := IsTurn.dispatched s.state.page id event isHeard turn
      simpa using whole

/-- After one listener has had its turn, and its failure is logged, the others have theirs. -/
theorem start_callListeners_cons (behaves : ι → Event → Behaviour σ)
    (again : ElementId → Event → Op (Watched σ ι) Event) (event : Event) (listener : ι) (rest : List ι)
    (s : Logged (Watched σ ι)) :
    let ran := ((behaves listener event).op again).start (marked s (.called listener event))
    (callListeners (reaction behaves again) event (listener :: rest)).start s =
      (callListeners (reaction behaves again) event rest).start
        (marked ran.2 (.ended listener event ran.1)) := by
  intro ran
  have turn : (reaction behaves again listener event).start s =
      (ran.1, { ran.2 with state := (marked ran.2 (.ended listener event ran.1)).state }) := by
    rw [reaction, Op.start_bind_ok (start_mark rfl s)]
    rfl
  rw [callListeners, Op.start_bind, Op.start_attempt, turn]
  dsimp only
  cases ended : ran.1 with
  | ok done => simp [marked, Mark.log]
  | error fault => simp [marked, Mark.log, Op.start_bind]

theorem callListeners_decided (heard : AllHeard elements behaves depth) (event : Event) (listeners : List ι)
    (s : Logged (Watched σ ι)) :
    Decided (fun n => callListeners (reaction behaves (hears elements behaves n)) event listeners) depth s
      fun result trace => result = .ok () ∧ IsHeard elements event listeners trace := by
  induction listeners generalizing s with
  | nil => exact .settled (fun _ _ => rfl) (.refl s) ⟨rfl, .nobody event⟩
  | cons listener rest ih =>
    have moved := fun n =>
      start_callListeners_cons behaves (hears elements behaves n) event listener rest s
    have begins := comes_marked s (.called listener event)
    have turn := Behaviour.decided heard (behaves listener event) (marked s (.called listener event))
    cases turn with
    | settled same comes isTurn =>
      rename_i result after inside
      have ends := comes_marked after (.ended listener event result)
      refine .after (fun n => callListeners (reaction behaves (hears elements behaves n)) event rest)
        (marked after (.ended listener event result)) _ (fun n deep => ?_) ((begins.trans comes).trans ends) ?_
      · have ran := moved n
        rw [same n deep] at ran
        exact ran
      · refine (ih _).mono ?_
        rintro _ marks ⟨rfl, isHeard⟩
        refine ⟨rfl, ?_⟩
        simpa using IsHeard.next listener isTurn result isHeard
    | parted parted =>
      -- The others only write more marks down after those that differ.
      have goesOn : ∀ n given, Keeps (Extends given)
          (callListeners (reaction behaves (hears elements behaves n)) event rest) :=
        fun n _ => keeps_callListeners behaves (keeps_hears elements behaves _ n) event rest
      refine .parted ?_
      rw [moved depth, moved (depth + 1)]
      exact parted.extend (goesOn depth _ _ (List.prefix_append _ _)) (goesOn (depth + 1) _ _ (List.prefix_append _ _))

theorem start_closing_succ (id : ElementId) (event : Event) (s : Logged (Watched σ ι)) (n : Nat) :
    (closing (hears elements behaves (n + 1)) id event).start s =
      (callListeners (reaction behaves (hears elements behaves n)) (event.reaching id)
        ((elements s.state.page).listenersFor id event.type) >>= fun _ => do
          mark (.closed (event.reaching id))
          pure (event.reaching id)).start s := by
  rw [closing, hears, dispatch, bind_assoc, Op.start_bind_ok (Op.start_read _ s), bind_assoc]
  simp only [pure_bind]
  rfl

theorem called_first (n : Nat) (event : Event) (listener : ι) (rest : List ι) (s : Logged (Watched σ ι)) :
    s.state.marks ++ [.called listener event] <+: ((callListeners
      (reaction behaves (hears elements behaves n)) event (listener :: rest)).start s).2.state.marks := by
  rw [start_callListeners_cons behaves]
  have nested := keeps_hears elements behaves (s.state.marks ++ [.called listener event]) n
  have inside := (behaves listener event).keeps nested (marked s (.called listener event))
    (List.prefix_refl _)
  exact keeps_callListeners behaves nested event rest _ (inside.trans (List.prefix_append _ _))

theorem allHeard_zero : AllHeard elements behaves 0 := by
  intro id event s
  have unheard : (closing (hears elements behaves 0) id event).start s = (.ok event, marked s (.closed event)) := by
    rw [closing, hears, dispatch, pure_bind]
    exact Op.start_bind_ok (start_mark rfl s) _
  cases found : (elements s.state.page).listenersFor id event.type with
  | cons listener rest =>
    refine .parted ?_
    rw [unheard, start_closing_succ, found]
    refine ⟨s.state.marks, .closed event, .called listener (event.reaching id), by simp, List.prefix_refl _, ?_⟩
    exact (called_first 0 _ listener rest s).trans
      (extends_bind (fun given _ => (keeps_mark _).bind fun _ => .pure _) s)
  | nil =>
    have heard : ∀ n, (closing (hears elements behaves (n + 1)) id event).start s =
        (.ok (event.reaching id), marked s (.closed (event.reaching id))) := by
      intro n
      rw [start_closing_succ, found, callListeners, pure_bind]
      exact Op.start_bind_ok (start_mark rfl s) _
    by_cases same : event = event.reaching id
    · refine .settled (fun n _ => ?_) (comes_marked s _) ⟨rfl, [], rfl, .nobody _⟩
      cases n with
      | zero => rw [unheard, ← same]
      | succ n => exact heard n
    · refine .parted ⟨s.state.marks, .closed event, .closed (event.reaching id), ?_, ?_, ?_⟩
      · exact fun equal => same (Mark.closed.inj equal)
      · rw [unheard]
        exact List.prefix_refl _
      · rw [heard 0]
        exact List.prefix_refl _

theorem allHeard (elements : σ → Elements ι) (behaves : ι → Event → Behaviour σ) (depth : Nat) :
    AllHeard elements behaves depth := by
  -- A dispatch with one more level calls listeners whose own dispatches have one level less.
  induction depth with
  | zero => exact allHeard_zero
  | succ depth ih =>
    intro id event s
    apply Decided.succ
    refine .after (fun n => callListeners (reaction behaves (hears elements behaves n)) (event.reaching id)
        ((elements s.state.page).listenersFor id event.type) >>= fun _ => do
          mark (.closed (event.reaching id))
          pure (event.reaching id)) s [] (fun n _ => start_closing_succ id event s n) (.refl s) ?_
    refine (callListeners_decided ih _ _ s).bind (fun n given _ => (keeps_mark _).bind fun _ => .pure _) ?_
    rintro _ after trace comes ⟨rfl, isHeard⟩
    refine ⟨(), rfl, .settled (fun n _ => Op.start_bind_ok (start_mark rfl after) _) (comes_marked after _) ?_⟩
    exact ⟨rfl, trace, rfl, isHeard⟩

theorem of_start_closing {again : ElementId → Event → Op (Watched σ ι) Event} {id : ElementId} {event heard : Event}
    {s after : Logged (Watched σ ι)} (ran : (closing again id event).start s = (.ok heard, after)) :
    ∃ before, (again id event).start s = (.ok heard, before) ∧ after = marked before (.closed heard) := by
  rw [closing, Op.start_bind] at ran
  split at ran
  next before inner =>
    rw [Op.start_bind_ok (start_mark rfl before)] at ran
    cases ran
    exact ⟨before, inner, rfl⟩
  next => cases ran

end

/-- Take any listeners, whatever they do, and a dispatch that has all the room it needs: one more level of dispatches
within dispatches makes no difference. However much more room there is, it ends well, with the event at the target
that this had or else at the element. Each listener that the element has for the type of the event when the dispatch
begins has heard it once, in the order in which they were added, and so it is with every dispatch within. All that
is logged is what the listeners log themselves, and once for each call that fails. -/
theorem heard_by_each_once (elements : σ → Elements ι) (behaves : ι → Event → Behaviour σ) (id : ElementId)
    (event : Event) (s : Logged (Watched σ ι)) {depth : Nat}
    (enough : (hears elements behaves (depth + 1) id event).start s = (hears elements behaves depth id event).start s) :
    (∃ after trace,
      (∀ n, depth ≤ n → (hears elements behaves n id event).start s = (.ok (event.reaching id), after)) ∧
      after.state.marks = s.state.marks ++ trace ∧ after.log = s.log ++ trace.flatMap Mark.log ∧
      IsHeard elements (event.reaching id) ((elements s.state.page).listenersFor id event.type) trace) ∧
    (∀ other, (event.reaching id).reaching other = event.reaching id) ∧
    ∀ (table : Elements ι) (other : ElementId) (type : String) (listener : ι), other < table.table.size →
      (table.listen other type listener).listenersFor id event.type =
        table.listenersFor id event.type ++ if id = other ∧ type = event.type then [listener] else [] := by
  refine ⟨?_, fun _ => rfl, fun table other type listener inside => table.listenersFor_listen inside type listener id _⟩
  have decided := allHeard elements behaves depth id event s
  cases decided with
  | parted parted =>
    -- More room makes no difference, so no marks can differ.
    rw [closing, closing, Op.start_bind, Op.start_bind, enough] at parted
    exact parted.irrefl.elim
  | settled same comes ends =>
    rename_i result after trace
    obtain ⟨rfl, inside, rfl, isHeard⟩ := ends
    obtain ⟨before, -, rfl⟩ := of_start_closing (same depth (Nat.le_refl _))
    refine ⟨before, inside, fun n deep => ?_, ?_, ?_, isHeard⟩
    · obtain ⟨alike, ran, written⟩ := of_start_closing (same n deep)
      rw [ran, marked_inj written]
    · have marks := comes.marks
      rw [marked, ← List.append_assoc] at marks
      exact List.append_cancel_right marks
    · simpa [marked, Mark.log] using comes.log

/-- The first listener adds a third one and hands the event on to another element; the second one fails. -/
def handingOn : Nat → Event → Behaviour (Elements Nat)
  | 0, event =>
    .acts (fun page => (page.listen 0 event.type 2, [])) fun _ => .dispatches 1 event fun _ => .ends (.ok ())
  | 1, _ => .ends (.error .noElement)
  | _, _ => .ends (.ok ())

def twoElements : Logged (Watched (Elements Nat) Nat) :=
  { state := { page := ⟨#[{ tag := "p", listeners := [("click", 0), ("click", 1)] },
      { tag := "b", listeners := [("keyup", 0), ("click", 1)] }]⟩ } }

theorem heard_by_each_once_handingOn :
    let event : Event := { type := "click" }
    (hears id handingOn 3 0 event).start twoElements = (hears id handingOn 2 0 event).start twoElements ∧
      ∃ after trace,
        (∀ n, 2 ≤ n → (hears id handingOn n 0 event).start twoElements = (.ok (event.reaching 0), after)) ∧
        after.log = [.listenerFailed "click", .listenerFailed "click"] ∧
        after.log = trace.flatMap Mark.log ∧ IsHeard id (event.reaching 0) [0, 1] trace := by
  intro event
  have enough : (hears id handingOn 3 0 event).start twoElements =
      (hears id handingOn 2 0 event).start twoElements := by cbv
  have log : ((hears id handingOn 2 0 event).start twoElements).2.log =
      [.listenerFailed "click", .listenerFailed "click"] := by cbv
  have found : (id twoElements.state.page : Elements Nat).listenersFor 0 "click" = [0, 1] := by cbv
  obtain ⟨⟨after, trace, ran, -, logged, isHeard⟩, -⟩ := heard_by_each_once id handingOn 0 event twoElements enough
  rw [ran 2 (Nat.le_refl 2)] at log
  rw [found] at isHeard
  exact ⟨enough, after, trace, ran, log, logged, isHeard⟩

end Hearing

end ChatWidget
