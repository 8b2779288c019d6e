import ChatWidget.Proofs.Client.Run
import ChatWidget.Proofs.Page.Dispatch
/-!
What outlasts the turns with a client. Everything that a turn does to a client it does by changing the
widget, by emptying or extending the history, or by issuing a request; and unless it mounts the widget, what
it changes about this is the chat and what is typed into the input. So a property that none of these ends
outlasts all turns.
-/
namespace ChatWidget.Client

open Op (Keeps)

variable {μ : Type} {P : Client × Surroundings μ → Prop}

theorem keeps_current : Keeps P current := Keeps.read _

/-! ### The widget as a whole -/

/-- Does a property not look at the widget? -/
def IsBlind (P : Client × Surroundings μ → Prop) : Prop :=
  ∀ now widget, P now → P (putWidget now widget)

theorem IsBlind.changeWidget (blind : IsBlind P) (change : Widget → Widget) :
    Keeps P (changeWidget change) := .change fun now holds => blind now _ holds

theorem IsBlind.init (blind : IsBlind P) (data : Json) : Keeps P (init data) := by
  intro s holds
  have comes := initializes data s
  generalize ((Client.init data).start s).2.state = last at comes ⊢
  cases comes with
  | idle _ => exact holds
  | half _ _ => exact blind _ _ holds
  | untitled _ _ _ => exact blind _ _ holds
  | mounted _ _ _ => exact blind _ _ holds

/-! ### Requests -/

/-- Does a property not look at requests? -/
def IsDeaf (P : Client × Surroundings μ → Prop) : Prop :=
  ∀ now sent, P now → P (putTransport now sent)

theorem IsDeaf.onTransport (deaf : IsDeaf P) {α : Type} (op : Op (Transport Callback × Wire) α) :
    Keeps P (onTransport op) := fun s holds => deaf s.state _ holds

def OutlastsPosts (P : Client × Surroundings μ → Prop) : Prop := ∀ message, Keeps P (send message)

theorem IsDeaf.posts (deaf : IsDeaf P) : OutlastsPosts P :=
  fun _ => keeps_current.bind fun _ => (Keeps.lift _).bind fun _ => deaf.onTransport _

/-! ### The chat -/

theorem addMessage_error (widget : Widget) {fragment : String} {fault : Fault}
    (failed : Markup.parse fragment = .error fault) : widget.addMessage fragment = .error fault := by
  unfold Widget.addMessage Widget.addMarkup
  rw [failed]
  rfl

theorem keeps_onStore (aside : ∀ now kept, P now → P (putStore now kept)) (op : Op (Store × μ) Unit) :
    Keeps P (onStore op) := fun s holds => aside s.state _ holds

variable [StorageArea μ]

/-- Does a property outlast what is done to the chat, to the input and to the history? -/
structure IsLasting (P : Client × Surroundings μ → Prop) : Prop where
  say : ∀ now node, P now → P (putWidget now (now.1.widget.addNode now.1.widget.window.chat node).2)
  empty : ∀ now, P now → P (putWidget now now.1.widget.clearChat)
  answer : ∀ now, P now → P (putWidget now now.1.widget.removePlaceholders)
  scroll : ∀ now, P now → P (putWidget now now.1.widget.scrollToEnd)
  typed : ∀ now value, P now → P (putWidget now (typing now.1.widget value))
  clear : Keeps P (current >>= fun client => onStore client.history.clear)
  record : ∀ fragment : String, Keeps P (record (.str fragment))

namespace IsLasting

variable (lasting : IsLasting P)

include lasting

theorem message (fragment : String) :
    Keeps P (tryWidget fun widget => (widget.addMessage fragment).map ((), ·)) := by
  intro s holds
  cases read : Markup.parse fragment with
  | ok node =>
    rw [start_addMessage read]
    exact lasting.say s.state node holds
  | error fault =>
    have failed : (s.state.1.widget.addMessage fragment).map ((), ·) = .error fault := by
      rw [addMessage_error _ read]
      rfl
    rw [start_tryWidget_error failed]
    exact holds

theorem replayEntry (index : Nat) (entry : Json) : Keeps P (replayEntry index entry) := by
  unfold Client.replayEntry
  split
  next markup =>
    intro s holds
    rw [Op.start_bind, current, Op.start_read]
    dsimp only
    cases read : Markup.parse markup with
    | ok node =>
      rw [addMessage_ok _ read]
      exact lasting.say s.state node holds
    | error fault =>
      rw [addMessage_error _ read]
      cases fault <;> exact holds
  next => exact .fail _

theorem replay (entries : List Json) (index : Nat) : Keeps P (replay index entries) := by
  induction entries generalizing index with
  | nil => exact .pure ()
  | cons entry entries ih => exact (lasting.replayEntry index entry).bind fun _ => ih (index + 1)

theorem restore (data : Json) : Keeps P (restore data) := by
  have entries : Keeps P Client.entries := keeps_current.bind fun _ => .lift _
  have empty : Keeps P (changeWidget Widget.clearChat) := .change lasting.empty
  have scroll : Keeps P (changeWidget Widget.scrollToEnd) := .change lasting.scroll
  unfold Client.restore
  refine empty.bind fun _ => entries.bind fun entries => ?_
  exact (lasting.replay entries 0).bind fun _ => scroll

theorem reset (data : Json) : Keeps P (reset data) := by
  have empty : Keeps P (changeWidget Widget.clearChat) := .change lasting.empty
  unfold Client.reset
  rw [← bind_assoc]
  exact lasting.clear.bind fun _ => empty

theorem text (data : Json) : Keeps P (text data) := by
  have answer : Keeps P (changeWidget Widget.removePlaceholders) := .change lasting.answer
  have scroll : Keeps P (changeWidget Widget.scrollToEnd) := .change lasting.scroll
  unfold Client.text
  refine (Keeps.lift _).bind fun words => answer.bind fun _ => ?_
  exact (lasting.message _).bind fun _ => scroll.bind fun _ => lasting.record _

variable (posts : OutlastsPosts P)

include posts

theorem submit (text : Json) : Keeps P (submit text) := by
  have ask : Keeps P (changeWidget fun widget => widget.addPlaceholder.scrollToEnd) := by
    intro s holds
    have scrolled := lasting.scroll _ (lasting.say s.state Bubble.placeholder holds)
    rw [putWidget_putWidget, putWidget_widget] at scrolled
    rw [start_changeWidget]
    exact scrolled
  unfold Client.submit
  refine keeps_current.bind fun client => ?_
  split
  · exact (Keeps.note _).bind fun _ => .pure _
  · refine (Keeps.lift _).bind fun message => ?_
    split
    · exact .pure _
    · refine (lasting.message _).bind fun _ => ask.bind fun _ => (lasting.record _).bind fun _ => ?_
      exact (posts message).bind fun _ => .pure _

theorem enter (event : Event) : Keeps P (enter event) := by
  have typed : Keeps P (enter.type (.str "")) := .change fun now holds => lasting.typed now _ holds
  unfold Client.enter
  split
  · refine keeps_current.bind fun client => ?_
    dsimp only
    split
    · split
      · exact .pure _
      · exact typed.bind fun _ => (lasting.submit posts _).discard
    · exact .fail _
  · exact .pure _

omit posts

theorem type (reacts : ∀ now, P now →
      ∀ listener ∈ now.1.widget.elements.listenersFor now.1.widget.window.input "keyup",
        ∀ again event, Keeps P (react (μ := μ) again listener event)) (value key : Json) :
    Keeps P (type value key) := by
  intro s holds
  have typed := lasting.typed s.state value holds
  unfold Client.type happen
  rw [Op.start_bind_ok (start_enter_type value s), Op.start_bind, current, Op.start_read]
  dsimp only
  rw [Op.start_discard]
  exact dispatch_keeps (reacts _ typed) typed 1

end IsLasting

/-! ### All that a turn does -/

/-- Does a property outlast all that commands do to a client? -/
structure IsSteady (P : Client × Surroundings μ → Prop) : Prop where
  blind : IsBlind P
  clear : Keeps P (current >>= fun client => onStore client.history.clear)
  record : ∀ fragment : String, Keeps P (record (.str fragment))

theorem IsSteady.aside (blind : IsBlind P) (aside : ∀ now kept, P now → P (putStore now kept)) :
    IsSteady P :=
  ⟨blind, keeps_current.bind fun _ => keeps_onStore aside _,
    fun _ => keeps_current.bind fun _ => keeps_onStore aside _⟩

namespace IsSteady

variable (steady : IsSteady P)

include steady

theorem lasting : IsLasting P :=
  ⟨fun now _ => steady.blind now _, fun now => steady.blind now _, fun now => steady.blind now _,
    fun now => steady.blind now _, fun now _ => steady.blind now _, steady.clear, steady.record⟩

theorem execute (commands : Json) : Keeps P (execute commands) :=
  execute_keepsEach steady.blind.init steady.lasting.restore steady.lasting.reset steady.lasting.text commands

theorem receive (outcome : Outcome) : Keeps P (receive .runCommands outcome) := by
  cases outcome with
  | success response => exact (steady.execute _).discard
  | failure status message => exact .note _

variable (posts : OutlastsPosts P)

include posts

/-- A steady property that outlasts posts outlasts every turn. -/
theorem turn (turn : Turn) : Keeps P turn.perform := by
  have reacts : ∀ again listener event, Keeps P (react (μ := μ) again listener event) := by
    intro again listener event
    cases listener with
    | scrollToEnd chat => exact steady.blind.changeWidget _
    | toggleWindow window => exact steady.blind.changeWidget _
    | sendOnEnter => exact steady.lasting.enter posts event
  cases turn with
  | init options => exact steady.blind.init options
  | restore data => exact steady.lasting.restore data
  | reset data => exact steady.lasting.reset data
  | text data => exact steady.lasting.text data
  | submit words => exact (steady.lasting.submit posts _).discard
  | enter value => exact steady.lasting.type (fun _ _ listener _ again => reacts again listener) value _
  | execute commands => exact (steady.execute commands).discard
  | receive outcome => exact steady.receive outcome

theorem play (turns : List Turn) {s : Logged (Client × Surroundings μ)} (holds : P s.state) :
    P (play turns s).state := by
  induction turns generalizing s with
  | nil => exact holds
  | cons turn turns ih => exact ih (steady.turn posts turn s holds)

end IsSteady

end ChatWidget.Client
