import ChatWidget.Client.Conversation
import ChatWidget.Proofs.Client.Surface
import ChatWidget.Proofs.Net.Ending
/-!
What becomes of a text that is handed in. It is displayed and recorded first and sent after that, by a
request that leaves the chat and the history alone; or nothing becomes of it at all.
-/
namespace ChatWidget.Client

open Op (Keeps)

variable {μ : Type}

/-! ### Requests -/

def putTransport (now : Client × Surroundings μ) (sent : Transport Callback × Wire) :
    Client × Surroundings μ :=
  ({ now.1 with transport := sent.1 }, { now.2 with wire := sent.2 })

variable {calm : μ → Prop} {posts : List Offered}

theorem Holds.sending {now : Client × Surroundings μ} (holds : Holds calm posts now) {call : Call}
    {sent : Transport Callback × Wire} (issued : sent.1.issued = now.1.transport.issued ++ [call])
    (post : call.method = "POST") : Holds calm (posts ++ [call.data]) (putTransport now sent) := by
  obtain ⟨slots, displays, records⟩ := holds.agrees
  refine ⟨⟨slots, displays, records⟩, holds.way, holds.identity, ?_⟩
  change (sent.1.issued.filter (·.method == "POST")).map (·.data) = posts ++ [call.data]
  have before : (now.1.transport.issued.filter (·.method == "POST")).map (·.data) = posts := holds.posted
  rw [issued, List.filter_append, List.map_append, before, List.filter_cons_of_pos (by simp [post])]
  rfl

def callFor (method folder who : String) (data : Json) : Call :=
  { method, endpoint := folder ++ "/" ++ who.quoted, data := .data data
    options := .obj [("accept", .str Response.jsonType)] }

theorem start_converse {s : Logged (Client × Surroundings μ)} {who : String}
    (identity : s.state.1.site.identity = .str who) (method folder : String) (data : Json) :
    ∃ callbacks log, (converse method folder data).start s = (.ok (), ⟨putTransport s.state
      (s.state.1.transport.afterIssue s.state.2.wire (callFor method folder who data) callbacks), log⟩) := by
  let call := callFor method folder who data
  let callbacks : Callbacks Callback := ⟨call.endpoint, some .runCommands, some .runCommands⟩
  obtain ⟨events, issued⟩ := Transport.start_issue call callbacks s.state.1.transport s.state.2.wire s.log
  have called : endpoint folder s.state.1.site.identity = .ok call.endpoint := by
    rw [identity]
    rfl
  refine ⟨callbacks, s.log ++ events, ?_⟩
  unfold converse
  rw [Op.start_bind, current, Op.start_read]
  dsimp only
  rw [Op.start_bind, Op.start_lift, called]
  change (onTransport (Transport.issue call callbacks)).start s = _
  rw [onTransport, Op.start_within, issued]
  rfl

def send (message : String) : ClientOn μ Unit := converse "POST" "chat" (.obj [("input", .str message)])

def posted (message : String) : Offered := .data (.obj [("input", .str message)])

theorem send_holds {s : Logged (Client × Surroundings μ)} (holds : Holds calm posts s.state)
    (message : String) : Holds calm (posts ++ [posted message]) ((send message).start s).2.state := by
  obtain ⟨who, identity⟩ := holds.identity
  obtain ⟨callbacks, log, sent⟩ := start_converse identity "POST" "chat" (.obj [("input", .str message)])
  have issued := Transport.issued_afterIssue s.state.1.transport s.state.2.wire
    (callFor "POST" "chat" who (.obj [("input", .str message)])) callbacks
  unfold send
  rw [sent]
  exact holds.sending issued rfl

/-! ### Saying something -/

/-- What is taken of a text that is handed in: what is left without the blanks at either end, if anything
is, and nothing before the widget is mounted. -/
def taken (ready : Bool) (text : String) : Option String :=
  if ready && !text.trimBlanks.isEmpty then some text.trimBlanks else none

/-- Did a message come to be sent after it had been recorded? -/
def IsSentAfterwards (message : String) (before after : Client × Surroundings μ) : Prop :=
  ∃ between : Logged (Client × Surroundings μ),
    between.state.1.transport.issued = before.1.transport.issued ∧
    (∀ entries, before.1.history.all before.1.store = .ok entries →
      between.state.1.history.all between.state.1.store = .ok (entries ++ [(Message.user message).entry])) ∧
    after = ((send message).start between).2.state

/-- What becomes of a text: a message that is taken is recorded and posted, and else nothing is. -/
structure Takes (calm : μ → Prop) (posts : List Offered) (message : Option String)
    (before after : Client × Surroundings μ) : Prop where
  holds : Holds calm (posts ++ (message.map posted).toList) after
  ordered : ∀ words ∈ message, IsSentAfterwards words before after

theorem Takes.nothing {before after : Client × Surroundings μ} (holds : Holds calm posts after) :
    Takes calm posts none before after := by
  refine ⟨?_, by simp⟩
  rw [Option.map_none, Option.toList_none, List.append_nil]
  exact holds

theorem Takes.from {message : Option String} {first before after : Client × Surroundings μ}
    (takes : Takes calm posts message before after)
    (issued : before.1.transport.issued = first.1.transport.issued)
    (found : before.1.history.all before.1.store = first.1.history.all first.1.store) :
    Takes calm posts message first after := by
  refine ⟨takes.holds, ?_⟩
  intro words member
  obtain ⟨between, same, recorded, sent⟩ := takes.ordered words member
  refine ⟨between, same.trans issued, ?_, sent⟩
  rw [← found]
  exact recorded

/-! ### Typing -/

def typing (widget : Widget) (value : Json) : Widget :=
  { widget with elements := widget.elements.modify widget.window.input fun e => { e with value := value } }

theorem typing_displays {widget : Widget} {owner : ElementId → Owner} {nodes : List Markup.Node}
    (displays : widget.Displays owner nodes) (value : Json) : (typing widget value).Displays owner nodes :=
  displays.modify (displays.inside _ (by rw [displays.input]; simp)) (fun _ => rfl) (fun _ => rfl)
    fun _ _ => rfl

theorem Holds.typing {now : Client × Surroundings μ} (holds : Holds calm posts now) (value : Json) :
    Holds calm posts (putWidget now (typing now.1.widget value)) := by
  obtain ⟨slots, agrees⟩ := holds.agrees
  obtain ⟨owner, displays⟩ := agrees.displays
  exact holds.reshown slots (agrees.reshown (typing_displays displays value))

theorem Holds.typed {now : Client × Surroundings μ} (holds : Holds calm posts now) (value : Json) :
    ((Client.typing now.1.widget value).elements.get now.1.widget.window.input).value = value := by
  obtain ⟨slots, agrees⟩ := holds.agrees
  obtain ⟨owner, displays⟩ := agrees.displays
  unfold Client.typing
  rw [Elements.get_modify _ _ _ _ (displays.inside _ (by rw [displays.input]; simp)), if_pos rfl]

theorem start_enter_type (value : Json) (s : Logged (Client × Surroundings μ)) :
    (enter.type value).start s =
      (.ok (), { s with state := putWidget s.state (typing s.state.1.widget value) }) := rfl

theorem Holds.listeners {now : Client × Surroundings μ} (holds : Holds calm posts now) :
    now.1.widget.elements.listenersFor now.1.widget.window.input "keyup" =
      if now.1.widget.ready then [.sendOnEnter] else [] := by
  obtain ⟨slots, agrees⟩ := holds.agrees
  obtain ⟨owner, displays⟩ := agrees.displays
  unfold Elements.listenersFor
  rw [displays.listening]
  cases now.1.widget.ready with
  | true => rfl
  | false => rfl

variable [StorageArea μ]

theorem submit_idle (text : String) {s : Logged (Client × Surroundings μ)}
    (idle : taken s.state.1.widget.ready text = none) :
    ((submit (.str text)).start s).1 = .ok false ∧ ((submit (.str text)).start s).2.state = s.state := by
  unfold submit
  rw [Op.start_bind, current, Op.start_read]
  dsimp only
  cases ready : s.state.1.widget.ready with
  | false => exact ⟨rfl, rfl⟩
  | true =>
    have empty : text.trimBlanks.isEmpty = true := by simpa [taken, ready] using idle
    rw [if_neg (by simp), Op.start_bind, Op.start_lift, spoken]
    dsimp only
    rw [if_pos empty]
    exact ⟨rfl, rfl⟩

/-- A widget that shows what the user says and awaits an answer to it. -/
def asking (widget : Widget) (message : String) : Widget :=
  (widget.addNode widget.window.chat (Message.user message).node).2.addPlaceholder.scrollToEnd

theorem asking_displays {widget : Widget} {owner : ElementId → Owner} {slots : List (Option Message)}
    (displays : widget.Displays owner (slots.map Message.slotNode)) (message : String) :
    ∃ owner', (asking widget message).Displays owner'
      ((slots ++ [some (Message.user message), none]).map Message.slotNode) := by
  obtain ⟨owner, spoken⟩ := displays.addToChat (Message.user message).node
  obtain ⟨owner, awaited⟩ := spoken.addToChat Bubble.placeholder
  refine ⟨owner, ?_⟩
  rw [List.map_append]
  rw [List.append_assoc] at awaited
  exact awaited.scrollToEnd

theorem spoken_str (text : String) : spoken (.str text) = .ok text.trimBlanks := rfl

theorem submit_eq {text message : String} {s : Logged (Client × Surroundings μ)}
    (takes : taken s.state.1.widget.ready text = some message) :
    (submit (.str text)).start s =
      (record (Message.user message).entry >>= fun _ => send message >>= fun _ => pure true).start
        { s with state := putWidget s.state (asking s.state.1.widget message) } := by
  unfold taken at takes
  split at takes
  next can =>
    obtain ⟨ready, some⟩ := Bool.and_eq_true_iff.mp can
    rw [Bool.not_eq_true'] at some
    cases takes
    unfold submit
    rw [Op.start_bind, current, Op.start_read]
    dsimp only
    rw [ready, if_neg (by simp), Op.start_bind, Op.start_lift, spoken_str]
    dsimp only
    generalize text.trimBlanks = message at some
    rw [some, if_neg Bool.false_ne_true, Op.start_bind_ok (start_addMessage (Bubble.parse_user message) _),
      Op.start_bind_ok (start_changeWidget _ _)]
    simp only [putWidget_widget, putWidget_putWidget]
    rw [Message.entry_user]
    unfold send asking
    rw [Message.node_user]
  next => cases takes

/-- A message is displayed, with an awaited answer after it, and recorded before it is sent. -/
theorem start_submit (soft : Store.FailsSoftly calm) {s : Logged (Client × Surroundings μ)}
    (holds : Holds calm posts s.state) {text message : String}
    (takes : taken s.state.1.widget.ready text = some message) :
    ∃ between : Logged (Client × Surroundings μ),
      (submit (.str text)).start s = (send message >>= fun _ => pure true).start between ∧
      Holds calm posts between.state ∧
      between.state.1.transport.issued = s.state.1.transport.issued ∧
      ∀ entries, s.state.1.history.all s.state.1.store = .ok entries →
        between.state.1.history.all between.state.1.store =
          .ok (entries ++ [(Message.user message).entry]) := by
  obtain ⟨slots, agrees⟩ := holds.agrees
  obtain ⟨step, rest, way⟩ := holds.way
  obtain ⟨owner, displays⟩ := agrees.displays
  obtain ⟨owner, displays⟩ := asking_displays displays message
  have more : (slots ++ [some (Message.user message), none]).filterMap id =
      slots.filterMap id ++ [Message.user message] := by
    rw [List.filterMap_append]
    rfl
  obtain ⟨kept, log, done, spoken⟩ := agrees.say soft way (.user message) displays more
  refine ⟨⟨putStore (putWidget s.state (asking s.state.1.widget message)) kept, log⟩, ?_,
    holds.changed _ spoken, rfl, ?_⟩
  · exact (submit_eq takes).trans (Op.start_bind_ok done _)
  · intro entries found
    have before : entries = (slots.filterMap id).map Message.entry :=
      Except.ok.inj (found.symm.trans agrees.records.found)
    have after := spoken.records.found
    rw [more, List.map_append, ← before] at after
    exact after

/-- What is handed in is displayed, recorded and then sent, or nothing becomes of it. -/
theorem submit_takes (soft : Store.FailsSoftly calm) {s : Logged (Client × Surroundings μ)}
    (holds : Holds calm posts s.state) (text : String) :
    Takes calm posts (taken s.state.1.widget.ready text) s.state ((submit (.str text)).start s).2.state := by
  cases takes : taken s.state.1.widget.ready text with
  | none =>
    rw [(submit_idle text takes).2]
    exact .nothing holds
  | some message =>
    obtain ⟨between, same, still, issued, recorded⟩ := start_submit soft holds takes
    rw [same, Op.after_bind_pure]
    refine ⟨send_holds still message, ?_⟩
    rintro words ⟨⟩
    exact ⟨between, issued, recorded, rfl⟩

/-! ### Entering -/

/-- What is entered is handed in if it is a text. -/
def entered (ready : Bool) : Json → Option String
  | .str text => taken ready text
  | _ => none

theorem enter_takes (soft : Store.FailsSoftly calm) {s : Logged (Client × Surroundings μ)}
    (holds : Holds calm posts s.state) (ready : s.state.1.widget.ready = true) (event : Event)
    (key : event.key = .str "Enter") :
    Takes calm posts
      (entered true (s.state.1.widget.elements.get s.state.1.widget.window.input).value) s.state
      ((enter event).start s).2.state := by
  unfold enter
  simp only [key]
  rw [Op.start_bind, current, Op.start_read]
  dsimp only
  generalize (s.state.1.widget.elements.get s.state.1.widget.window.input).value = value
  cases value with
  | str text =>
    dsimp only [entered]
    split
    next blank =>
      have nothing : taken true text = none := by
        rw [taken, Text.isEmpty_trimBlanks, blank]
        rfl
      rw [nothing]
      exact .nothing holds
    next words =>
      rw [Op.start_bind_ok (start_enter_type (.str "") s), Op.start_discard]
      have takes := submit_takes soft (s := { s with state := putWidget s.state (typing s.state.1.widget (.str "")) })
        (holds.typing (.str "")) text
      change Takes calm posts (taken s.state.1.widget.ready text) _ _ at takes
      rw [ready] at takes
      exact takes.from rfl rfl
  | _ => exact .nothing holds

theorem state_callListener {σ ι : Type} (call : ι → Event → Op σ Unit) (event : Event) (listener : ι)
    (s : Logged σ) :
    ((callListeners call event [listener]).start s).2.state = ((call listener event).start s).2.state := by
  unfold callListeners callListeners
  rw [Op.start_bind, Op.start_attempt]
  cases ((call listener event).start s).1 with
  | ok done => rfl
  | error fault => rfl

theorem type_takes (soft : Store.FailsSoftly calm) {s : Logged (Client × Surroundings μ)}
    (holds : Holds calm posts s.state) (value : Json) :
    Takes calm posts (entered s.state.1.widget.ready value) s.state
      ((type value (.str "Enter")).start s).2.state := by
  have typed := holds.typed value
  have holds := holds.typing value
  have listeners := holds.listeners
  unfold type
  rw [Op.start_bind_ok (start_enter_type value s), Op.start_bind, current, Op.start_read]
  dsimp only
  unfold happen
  rw [Op.start_discard]
  unfold dispatch
  dsimp only
  rw [Op.start_bind, Op.start_read]
  dsimp only [Option.getD]
  rw [Op.after_bind_pure, listeners]
  cases ready : s.state.1.widget.ready with
  | false =>
    have nothing : entered false value = none := by
      cases value <;> rfl
    rw [putWidget_widget, show (typing s.state.1.widget value).ready = false from ready, nothing,
      if_neg Bool.false_ne_true]
    exact .nothing holds
  | true =>
    have mounted : (typing s.state.1.widget value).ready = true := ready
    rw [putWidget_widget, mounted, if_pos rfl, state_callListener]
    have takes := enter_takes soft (s := ⟨putWidget s.state (typing s.state.1.widget value), s.log⟩) holds
      mounted ⟨"keyup", .str "Enter", some s.state.1.widget.window.input⟩ rfl
    change Takes calm posts (entered true
      ((typing s.state.1.widget value).elements.get s.state.1.widget.window.input).value) _ _ at takes
    rw [typed] at takes
    exact takes.from rfl rfl

end ChatWidget.Client
