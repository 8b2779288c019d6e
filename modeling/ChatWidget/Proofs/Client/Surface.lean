import ChatWidget.Client.Commands
import ChatWidget.Proofs.Command.Batch
import ChatWidget.Proofs.Entries
import ChatWidget.Proofs.Markup.Bubble
import ChatWidget.Proofs.Store.History
import ChatWidget.Proofs.Widget.Display
/-!
The chat and the history of a client agree: apart from awaited answers the chat displays what the history
records, in the same order. Each command keeps it that way, though it changes the one before the other.
-/
namespace ChatWidget

/-- A message of a conversation. -/
inductive Message where
  | user (text : String)
  | bot (text : String)

namespace Message

def markup : Message → String
  | .user text => Bubble.user text
  | .bot text => Bubble.bot text

def node : Message → Markup.Node
  | .user text => Bubble.node Bubble.userClass text
  | .bot text => Bubble.node Bubble.botClass text

def entry (message : Message) : Json := .str message.markup

theorem entry_user (text : String) : (Message.user text).entry = .str (Bubble.user text) := rfl

theorem entry_bot (text : String) : (Message.bot text).entry = .str (Bubble.bot text) := rfl

theorem node_user (text : String) : (Message.user text).node = Bubble.node Bubble.userClass text := rfl

theorem node_bot (text : String) : (Message.bot text).node = Bubble.node Bubble.botClass text := rfl

theorem parse_markup (message : Message) : Markup.parse message.markup = .ok message.node := by
  cases message with
  | user text => exact Bubble.parse_user text
  | bot text => exact Bubble.parse_bot text

theorem areWritable_entries (messages : List Message) :
    Json.areWritable (messages.map entry) = true := by
  rw [Json.areWritable_iff]
  intro item member
  obtain ⟨message, -, rfl⟩ := List.mem_map.mp member
  rfl

/-- What stands in the chat: a message, or the bubble of an answer that is awaited. -/
def slotNode : Option Message → Markup.Node
  | some message => message.node
  | none => Bubble.placeholder

theorem isPending_slotNode (slot : Option Message) : Widget.isPending (slotNode slot) = slot.isNone := by
  cases slot with
  | none => decide
  | some message =>
    cases message with
    | user text => rfl
    | bot text => rfl

theorem lacks_replicate (name : String) (n : Nat) :
    Elements.AllLack name (List.replicate n Markup.breakNode) := by
  induction n with
  | zero =>
    rw [List.replicate_zero, Elements.AllLack]
    trivial
  | succ n ih =>
    rw [List.replicate_succ, Elements.AllLack]
    refine ⟨?_, ih⟩
    rw [Markup.breakNode, Elements.Lacks, Elements.AllLack]
    exact ⟨List.not_mem_nil, trivial⟩

theorem slotNode_flat (name : String) (slot : Option Message) :
    Elements.AllLack name (slotNode slot).children := by
  have bubble : ∀ speaker text, Elements.AllLack name (Bubble.node speaker text).children := by
    intro speaker text
    unfold Bubble.node
    rw [Elements.AllLack, Elements.Lacks, Elements.AllLack]
    exact ⟨⟨List.not_mem_nil, lacks_replicate name _⟩, trivial⟩
  cases slot with
  | none =>
    change Elements.AllLack name []
    rw [Elements.AllLack]
    trivial
  | some message =>
    cases message with
    | user text => exact bubble _ text
    | bot text => exact bubble _ text

end Message

namespace Client

variable {μ : Type}

/-- The data of the requests of one method that were issued, in order. -/
def sent (client : Client) (method : String) : List Offered :=
  (client.transport.issued.filter (·.method == method)).map (·.data)

/-- Does the chat display the slots, and does the history record the messages in them? -/
structure Agrees (calm : μ → Prop) (now : Client × Surroundings μ) (slots : List (Option Message)) :
    Prop where
  displays : ∃ owner, now.1.widget.Displays owner (slots.map Message.slotNode)
  records : now.1.history.Records calm (now.1.store, now.2.medium)
    ((slots.filterMap id).map Message.entry)

/-- What holds of a client with its surroundings at all times, with what has been posted so far. -/
structure Holds (calm : μ → Prop) (posts : List Offered) (now : Client × Surroundings μ) : Prop where
  agrees : ∃ slots, Agrees calm now slots
  way : ∃ step rest, Path.ofJson now.1.history.path = .ok (step :: rest)
  identity : ∃ who, now.1.site.identity = .str who
  posted : now.1.sent "POST" = posts

variable {calm : μ → Prop} {posts : List Offered} {slots : List (Option Message)}

def putWidget (now : Client × Surroundings μ) (widget : Widget) : Client × Surroundings μ :=
  ({ now.1 with widget := widget }, now.2)

def putStore (now : Client × Surroundings μ) (kept : Store × μ) : Client × Surroundings μ :=
  ({ now.1 with store := kept.1 }, { now.2 with medium := kept.2 })

@[simp] theorem putWidget_widget (now : Client × Surroundings μ) (widget : Widget) :
    (putWidget now widget).1.widget = widget := rfl

@[simp] theorem putWidget_putWidget (now : Client × Surroundings μ) (widget other : Widget) :
    putWidget (putWidget now widget) other = putWidget now other := rfl

theorem Agrees.reshown {now : Client × Surroundings μ} (agrees : Agrees calm now slots) {widget : Widget}
    {owner : ElementId → Owner} (displays : widget.Displays owner (slots.map Message.slotNode)) :
    Agrees calm (putWidget now widget) slots :=
  ⟨⟨owner, displays⟩, agrees.records⟩

theorem Holds.changed {now : Client × Surroundings μ} (holds : Holds calm posts now) {widget : Widget}
    {kept : Store × μ} (slots : List (Option Message))
    (agrees : Agrees calm (putStore (putWidget now widget) kept) slots) :
    Holds calm posts (putStore (putWidget now widget) kept) :=
  ⟨⟨slots, agrees⟩, holds.way, holds.identity, holds.posted⟩

theorem Holds.reshown {now : Client × Surroundings μ} (holds : Holds calm posts now) {widget : Widget}
    (slots : List (Option Message)) (agrees : Agrees calm (putWidget now widget) slots) :
    Holds calm posts (putWidget now widget) :=
  ⟨⟨slots, agrees⟩, holds.way, holds.identity, holds.posted⟩

/-! ### How the steps of a command run -/

theorem start_changeWidget (change : Widget → Widget) (s : Logged (Client × Surroundings μ)) :
    (changeWidget change).start s = (.ok (), { s with state := putWidget s.state (change s.state.1.widget) }) :=
  rfl

theorem start_tryWidget_ok {α : Type} {change : Widget → Except Fault (α × Widget)} {a : α}
    {widget : Widget} {s : Logged (Client × Surroundings μ)}
    (done : change s.state.1.widget = .ok (a, widget)) :
    (tryWidget change).start s = (.ok a, { s with state := putWidget s.state widget }) := by
  unfold tryWidget
  rw [Op.start_bind, current, Op.start_read]
  dsimp only
  rw [done]
  rfl

theorem start_tryWidget_error {α : Type} {change : Widget → Except Fault (α × Widget)} {fault : Fault}
    {s : Logged (Client × Surroundings μ)} (failed : change s.state.1.widget = .error fault) :
    (tryWidget change).start s = (.error fault, s) := by
  unfold tryWidget
  rw [Op.start_bind, current, Op.start_read]
  dsimp only
  rw [failed]
  rfl

theorem addMessage_ok (widget : Widget) {fragment : String} {node : Markup.Node}
    (read : Markup.parse fragment = .ok node) :
    widget.addMessage fragment = .ok (widget.addNode widget.window.chat node).2 := by
  unfold Widget.addMessage Widget.addMarkup
  rw [read]
  rfl

theorem start_addMessage {fragment : String} {node : Markup.Node} (read : Markup.parse fragment = .ok node)
    (s : Logged (Client × Surroundings μ)) :
    (tryWidget fun widget => (widget.addMessage fragment).map ((), ·)).start s =
      (.ok (), { s with
        state := putWidget s.state (s.state.1.widget.addNode s.state.1.widget.window.chat node).2 }) := by
  apply start_tryWidget_ok
  rw [addMessage_ok _ read]
  rfl

theorem start_entries (s : Logged (Client × Surroundings μ)) {entries : List Json}
    (found : s.state.1.history.all s.state.1.store = .ok entries) :
    Client.entries.start s = (.ok entries, s) := by
  unfold Client.entries
  rw [Op.start_bind, current, Op.start_read]
  dsimp only
  rw [found]
  rfl

theorem start_replayEntry (index : Nat) (message : Message) (s : Logged (Client × Surroundings μ)) :
    (replayEntry index message.entry).start s =
      (.ok (), { s with
        state := putWidget s.state
          (s.state.1.widget.addNode s.state.1.widget.window.chat message.node).2 }) := by
  unfold replayEntry Message.entry
  dsimp only
  rw [Op.start_bind, current, Op.start_read]
  dsimp only
  rw [addMessage_ok _ message.parse_markup]
  rfl

theorem start_replay (messages : List Message) (index : Nat) {s : Logged (Client × Surroundings μ)}
    {owner : ElementId → Owner} {nodes : List Markup.Node} (displays : s.state.1.widget.Displays owner nodes) :
    ∃ widget owner', (replay index (messages.map Message.entry)).start s =
        (.ok (), { s with state := putWidget s.state widget }) ∧
      widget.Displays owner' (nodes ++ messages.map Message.node) := by
  induction messages generalizing index s owner nodes with
  | nil =>
    refine ⟨s.state.1.widget, owner, rfl, ?_⟩
    rw [List.map_nil, List.append_nil]
    exact displays
  | cons message messages ih =>
    obtain ⟨owner, added⟩ := displays.addToChat message.node
    obtain ⟨widget, owner', done, shown⟩ := ih (index + 1)
      (s := { s with
        state := putWidget s.state (s.state.1.widget.addNode s.state.1.widget.window.chat message.node).2 })
      added
    refine ⟨widget, owner', ?_, ?_⟩
    · rw [List.map_cons, replay, Op.start_bind_ok (start_replayEntry index message s)]
      exact done
    · rw [List.append_assoc] at shown
      exact shown

/-- Restoring displays what the history records, in place of whatever was displayed before. -/
theorem start_restore (data : Json) {s : Logged (Client × Surroundings μ)} {owner : ElementId → Owner}
    {nodes : List Markup.Node} (displays : s.state.1.widget.Displays owner nodes) {messages : List Message}
    (found : s.state.1.history.all s.state.1.store = .ok (messages.map Message.entry)) :
    ∃ widget owner', (restore data).start s = (.ok (), { s with state := putWidget s.state widget }) ∧
      widget.Displays owner' (messages.map Message.node) := by
  obtain ⟨widget, owner', done, shown⟩ := start_replay messages 0
    (s := { s with state := putWidget s.state s.state.1.widget.clearChat }) displays.clearChat
  refine ⟨widget.scrollToEnd, owner', ?_, shown.scrollToEnd⟩
  unfold restore
  rw [Op.start_bind_ok (start_changeWidget _ _),
    Op.start_bind_ok (start_entries ⟨putWidget s.state s.state.1.widget.clearChat, s.log⟩ found),
    Op.start_bind_ok done, start_changeWidget]
  rfl

theorem restore_keeps (data : Json) : (restore data).Keeps (Holds (μ := μ) calm posts) := by
  intro s holds
  obtain ⟨slots, agrees⟩ := holds.agrees
  obtain ⟨owner, displays⟩ := agrees.displays
  obtain ⟨widget, owner', done, shown⟩ := start_restore data displays agrees.records.found
  have nodes : (slots.filterMap id).map Message.node =
      ((slots.filterMap id).map some).map Message.slotNode := by
    rw [List.map_map]
    rfl
  rw [nodes] at shown
  rw [done]
  have same : ((slots.filterMap id).map some).filterMap id = slots.filterMap id := by
    rw [List.filterMap_map]
    exact List.filterMap_some
  refine holds.reshown ((slots.filterMap id).map some) ⟨⟨owner', shown⟩, ?_⟩
  rw [same]
  exact agrees.records

/-! ### An initialization -/

/-- The style that the options of an initialization ask for, or else the settings. -/
def styleOf (settings : Settings) (options : Json) : Json := (options.field "style").orElse (.str settings.style)

/-- The selector that the options of an initialization name, or else the settings. -/
def selectorOf (settings : Settings) (options : Json) : Json :=
  (options.field "selector").orElse (.str settings.selector)

/-- The title that the options of an initialization have, or else the settings. -/
def titleOf (settings : Settings) (options : Json) : Json :=
  (options.field "title").orElse (Json.ofOption settings.title)

/-- The node that the link to the stylesheet for a style is read as, if it is read as one at all. -/
def chosenNode? (site : Site) (style : String) : Except Fault Markup.Node :=
  Markup.parse (Stylesheet.link Stylesheet.chosenId (Stylesheet.chosenAddress site.root style))

/-- What the link to the stylesheet that is always there is read as. -/
def baseNode? (site : Site) : Except Fault Markup.Node :=
  Markup.parse (Stylesheet.link Stylesheet.baseId (Stylesheet.baseAddress site.root))

/-- The caption of the window that the title of an initialization gives. -/
def captionOf (settings : Settings) (options : Json) : Except Fault (Option String) :=
  if (titleOf settings options).isTruthy then (titleOf settings options).toText.map some else .ok none

/-- Has an initialization found a place for the window, and an element to show for the style? -/
structure IsBegun (options : Json) (client : Client) (attachment : ElementId) (style : String)
    (chosen : Markup.Node) : Prop where
  notReady : client.widget.ready = false
  found : client.widget.document.query client.widget.elements (selectorOf client.settings options) =
    .ok (some attachment)
  styled : (styleOf client.settings options).toText = .ok style
  read : chosenNode? client.site style = .ok chosen

/-- How far an initialization comes. What it adds to the page before it fails stays there. -/
inductive Initializes (options : Json) (now : Client × Surroundings μ) : Client × Surroundings μ → Prop
  | idle (never : ∀ attachment style chosen, ¬ IsBegun options now.1 attachment style chosen) :
      Initializes options now now
  | half {attachment : ElementId} {style : String} {chosen : Markup.Node} {fault : Fault}
      (begun : IsBegun options now.1 attachment style chosen) (failed : baseNode? now.1.site = .error fault) :
      Initializes options now
        (putWidget now (now.1.widget.addNode now.1.widget.document.head chosen).2)
  | untitled {attachment : ElementId} {style : String} {chosen base : Markup.Node} {fault : Fault}
      (begun : IsBegun options now.1 attachment style chosen) (read : baseNode? now.1.site = .ok base)
      (failed : captionOf now.1.settings options = .error fault) :
      Initializes options now (putWidget now (now.1.widget.linked chosen base).2)
  | mounted {attachment : ElementId} {style : String} {chosen base : Markup.Node} {caption : Option String}
      (begun : IsBegun options now.1 attachment style chosen) (read : baseNode? now.1.site = .ok base)
      (titled : captionOf now.1.settings options = .ok caption) :
      Initializes options now (putWidget now (now.1.widget.install attachment chosen base caption))

theorem start_addStylesheet_ok {id address : String} {node : Markup.Node}
    (read : Markup.parse (Stylesheet.link id address) = .ok node) (s : Logged (Client × Surroundings μ)) :
    (tryWidget (·.addStylesheet id address)).start s =
      (.ok (s.state.1.widget.addNode s.state.1.widget.document.head node).1, { s with
        state := putWidget s.state (s.state.1.widget.addNode s.state.1.widget.document.head node).2 }) := by
  apply start_tryWidget_ok
  unfold Widget.addStylesheet Widget.addMarkup
  rw [read]
  rfl

theorem start_addStylesheet_error {id address : String} {fault : Fault}
    (failed : Markup.parse (Stylesheet.link id address) = .error fault) (s : Logged (Client × Surroundings μ)) :
    (tryWidget (·.addStylesheet id address)).start s = (.error fault, s) := by
  apply start_tryWidget_error
  unfold Widget.addStylesheet Widget.addMarkup
  rw [failed]
  rfl

/-- An initialization goes through its steps in order, as far as it comes. -/
theorem initializes (options : Json) (s : Logged (Client × Surroundings μ)) :
    Initializes options s.state ((init options).start s).2.state := by
  unfold init
  rw [Op.start_bind, current, Op.start_read]
  dsimp only
  cases ready : s.state.1.widget.ready with
  | true =>
    refine .idle fun _ _ _ begun => ?_
    cases ready.symm.trans begun.notReady
  | false =>
    rw [if_neg Bool.false_ne_true, Op.start_bind, Op.start_lift]
    cases found : s.state.1.widget.document.query s.state.1.widget.elements
        ((options.field "selector").orElse (.str s.state.1.settings.selector)) with
    | error fault =>
      refine .idle fun _ _ _ begun => ?_
      cases found.symm.trans begun.found
    | ok place =>
      cases place with
      | none =>
        refine .idle fun _ _ _ begun => ?_
        cases found.symm.trans begun.found
      | some attachment =>
        dsimp only
        rw [Op.start_bind, Op.start_lift]
        cases styled : ((options.field "style").orElse (.str s.state.1.settings.style)).toText with
        | error fault =>
          refine .idle fun _ _ _ begun => ?_
          cases styled.symm.trans begun.styled
        | ok style =>
          dsimp only
          cases read : chosenNode? s.state.1.site style with
          | error fault =>
            rw [Op.start_bind_error (start_addStylesheet_error read s)]
            refine .idle fun _ _ _ begun => ?_
            cases styled.symm.trans begun.styled
            cases read.symm.trans begun.read
          | ok chosen =>
            have begun : IsBegun options s.state.1 attachment style chosen := ⟨ready, found, styled, read⟩
            rw [Op.start_bind_ok (start_addStylesheet_ok read s)]
            cases base : baseNode? s.state.1.site with
            | error fault =>
              rw [Op.start_bind_error (start_addStylesheet_error base _)]
              exact .half begun base
            | ok baseRead =>
              rw [Op.start_bind_ok (start_addStylesheet_ok base _), Op.start_bind, Op.start_lift]
              cases titled : captionOf s.state.1.settings options with
              | error fault =>
                unfold captionOf titleOf at titled
                rw [titled]
                exact .untitled begun base titled
              | ok caption =>
                unfold captionOf titleOf at titled
                rw [titled]
                exact .mounted begun base titled

/-- Mounting the widget changes nothing that is displayed, wherever it may fail on the way. -/
theorem init_keeps (data : Json) : (init data).Keeps (Holds (μ := μ) calm posts) := by
  intro s holds
  obtain ⟨slots, agrees⟩ := holds.agrees
  obtain ⟨owner, displays⟩ := agrees.displays
  have comes := initializes data s
  generalize ((init data).start s).2.state = last at comes ⊢
  cases comes with
  | idle _ => exact holds
  | half begun _ =>
    obtain ⟨owner', added, -⟩ := displays.addToHead begun.notReady _
    exact holds.reshown slots (agrees.reshown added)
  | untitled begun _ _ =>
    obtain ⟨owner', added, -⟩ := displays.linked begun.notReady _ _
    exact holds.reshown slots (agrees.reshown added)
  | mounted begun _ _ =>
    obtain ⟨owner', mounted⟩ :=
      displays.install begun.notReady (displays.query begun.notReady begun.found) _ _ _
    exact holds.reshown slots (agrees.reshown mounted)

variable [StorageArea μ]

theorem start_record (soft : Store.FailsSoftly calm) {s : Logged (Client × Surroundings μ)} {step : String}
    {rest : Path} (way : Path.ofJson s.state.1.history.path = .ok (step :: rest)) {messages : List Message}
    (records : s.state.1.history.Records calm (s.state.1.store, s.state.2.medium)
      (messages.map Message.entry)) (message : Message) :
    ∃ kept log, (record message.entry).start s = (.ok (), ⟨putStore s.state kept, log⟩) ∧
      s.state.1.history.Records calm kept ((messages ++ [message]).map Message.entry) := by
  have all : (messages ++ [message]).map Message.entry = messages.map Message.entry ++ [message.entry] := by
    rw [List.map_append]
    rfl
  have writable := Message.areWritable_entries (messages ++ [message])
  rw [all] at writable ⊢
  obtain ⟨after, done, recorded⟩ := History.append_records soft way
    ⟨(s.state.1.store, s.state.2.medium), s.log⟩ records writable
  refine ⟨after.state, after.log, ?_, recorded⟩
  unfold record
  rw [Op.start_bind, current, Op.start_read]
  dsimp only
  rw [onStore, Op.start_within]
  dsimp only
  rw [done]
  rfl

theorem filterMap_filter_isSome (slots : List (Option Message)) :
    (slots.filter Option.isSome).filterMap id = slots.filterMap id := by
  induction slots with
  | nil => rfl
  | cons slot slots ih =>
    cases slot with
    | none => simpa using ih
    | some message => simpa using ih

theorem filter_pending (slots : List (Option Message)) :
    (slots.map Message.slotNode).filter (! Widget.isPending ·) =
      (slots.filter Option.isSome).map Message.slotNode := by
  rw [List.filter_map]
  congr 1
  apply List.filter_congr
  intro slot _
  simp only [Function.comp_apply, Message.isPending_slotNode]
  cases slot with
  | none => rfl
  | some message => rfl

theorem Agrees.say (soft : Store.FailsSoftly calm) {s : Logged (Client × Surroundings μ)}
    (agrees : Agrees calm s.state slots) {step : String} {rest : Path}
    (way : Path.ofJson s.state.1.history.path = .ok (step :: rest)) (message : Message) {widget : Widget}
    {others : List (Option Message)} {owner : ElementId → Owner}
    (displays : widget.Displays owner (others.map Message.slotNode))
    (more : others.filterMap id = slots.filterMap id ++ [message]) :
    ∃ kept log, (record message.entry).start { s with state := putWidget s.state widget } =
        (.ok (), ⟨putStore (putWidget s.state widget) kept, log⟩) ∧
      Agrees calm (putStore (putWidget s.state widget) kept) others := by
  obtain ⟨kept, log, done, recorded⟩ := start_record soft
    (s := { s with state := putWidget s.state widget }) way agrees.records message
  rw [← more] at recorded
  exact ⟨kept, log, done, ⟨owner, displays⟩, recorded⟩

/-- A widget that shows what the bot says in place of the awaited answers. -/
def answering (widget : Widget) (words : String) : Widget :=
  (widget.removePlaceholders.addNode widget.window.chat (Message.bot words).node).2.scrollToEnd

theorem answering_displays {widget : Widget} {owner : ElementId → Owner} {slots : List (Option Message)}
    (displays : widget.Displays owner (slots.map Message.slotNode)) (words : String) :
    ∃ owner', (answering widget words).Displays owner'
      ((slots.filter Option.isSome ++ [some (Message.bot words)]).map Message.slotNode) := by
  have left := displays.removePlaceholders (by
    intro node member
    obtain ⟨slot, -, rfl⟩ := List.mem_map.mp member
    exact Message.slotNode_flat _ slot)
  rw [filter_pending] at left
  obtain ⟨owner, added⟩ := left.addToChat (Message.bot words).node
  refine ⟨owner, ?_⟩
  rw [List.map_append]
  exact added.scrollToEnd

/-- What the bot says is recorded after it is shown in place of the awaited answers. -/
theorem text_eq {data : Json} {words : String} (isSaid : said data = .ok words)
    (s : Logged (Client × Surroundings μ)) :
    (text data).start s = (record (Message.bot words).entry).start
      { s with state := putWidget s.state (answering s.state.1.widget words) } := by
  unfold text
  rw [Op.start_bind, Op.start_lift, isSaid]
  dsimp only
  rw [Op.start_bind_ok (start_changeWidget _ _), Op.start_bind_ok (start_addMessage (Bubble.parse_bot words) _),
    Op.start_bind_ok (start_changeWidget _ _)]
  simp only [putWidget_widget, putWidget_putWidget]
  rfl

theorem text_keeps (soft : Store.FailsSoftly calm) (data : Json) :
    (text data).Keeps (Holds (μ := μ) calm posts) := by
  intro s holds
  cases isSaid : said data with
  | error fault =>
    unfold text
    rw [Op.start_bind, Op.start_lift, isSaid]
    exact holds
  | ok words =>
    obtain ⟨slots, agrees⟩ := holds.agrees
    obtain ⟨step, rest, way⟩ := holds.way
    obtain ⟨owner, displays⟩ := agrees.displays
    obtain ⟨owner, shown⟩ := answering_displays displays words
    have more : (slots.filter Option.isSome ++ [some (Message.bot words)]).filterMap id =
        slots.filterMap id ++ [Message.bot words] := by
      rw [List.filterMap_append, filterMap_filter_isSome]
      rfl
    obtain ⟨kept, log, done, agrees⟩ := agrees.say soft way (.bot words) shown more
    rw [text_eq isSaid, done]
    exact holds.changed _ agrees

theorem reset_keeps (soft : Store.FailsSoftly calm) (data : Json) :
    (reset data).Keeps (Holds (μ := μ) calm posts) := by
  intro s holds
  obtain ⟨slots, agrees⟩ := holds.agrees
  obtain ⟨step, rest, way⟩ := holds.way
  obtain ⟨owner, displays⟩ := agrees.displays
  obtain ⟨after, done, records⟩ := History.clear_records soft way
    ⟨(s.state.1.store, s.state.2.medium), s.log⟩ agrees.records
  have cleared : (onStore s.state.1.history.clear).start s =
      (.ok (), ⟨putStore s.state after.state, after.log⟩) := by
    rw [onStore, Op.start_within]
    dsimp only
    rw [done]
    rfl
  unfold reset
  rw [Op.start_bind, current, Op.start_read]
  dsimp only
  rw [Op.start_bind_ok cleared, start_changeWidget]
  exact holds.changed [] ⟨⟨owner, displays.clearChat⟩, records⟩

theorem execute_keepsEach {P : Client × Surroundings μ → Prop} (init_ : ∀ data, (init data).Keeps P)
    (restore_ : ∀ data, (restore data).Keeps P) (reset_ : ∀ data, (reset data).Keeps P)
    (text_ : ∀ data, (text data).Keeps P) (commands : Json) : (execute commands).Keeps P := by
  apply Batch.execute_keeps
  intro name handler found run _ data
  have member := Entries.get?_mem found
  simp only [handlers, List.mem_cons, Prod.mk.injEq, List.not_mem_nil, or_false] at member
  rcases member with ⟨-, rfl⟩ | ⟨-, rfl⟩ | ⟨-, rfl⟩ | ⟨-, rfl⟩
  · exact init_ data
  · exact restore_ data
  · exact reset_ data
  · exact text_ data

/-- Whatever commands a batch has, chat and history agree afterwards. -/
theorem execute_keeps (soft : Store.FailsSoftly calm) (commands : Json) :
    (execute commands).Keeps (Holds (μ := μ) calm posts) :=
  execute_keepsEach init_keeps restore_keeps (reset_keeps soft) (text_keeps soft) commands

end Client

end ChatWidget
