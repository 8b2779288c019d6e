import ChatWidget.Proofs.Client.Speaking
import ChatWidget.Proofs.Store.Area
/-!
Any number of turns with a client. Whatever is done with it and whatever the server sends, in any order,
the chat displays what the history records, and what was posted is what was handed in and taken.
-/
namespace ChatWidget.Client

variable {μ : Type} {calm : μ → Prop} {posts : List Offered}

theorem Agrees.displayed {now : Client × Surroundings μ} {slots : List (Option Message)}
    (agrees : Agrees calm now slots) :
    ∃ nodes, now.1.widget.elements.AllShow (fun _ => True) now.1.widget.messages nodes ∧
      nodes.filter (! Widget.isPending ·) = (slots.filterMap id).map Message.node ∧
      ∀ node ∈ nodes, Widget.isPending node = true → node = Bubble.placeholder := by
  obtain ⟨owner, displays⟩ := agrees.displays
  refine ⟨slots.map Message.slotNode, displays.shown.frame fun _ _ => ⟨trivial, rfl⟩, ?_, ?_⟩
  · rw [filter_pending]
    clear agrees displays
    induction slots with
    | nil => rfl
    | cons slot slots ih =>
      cases slot with
      | none => simpa using ih
      | some message => simpa [Message.slotNode] using ih
  · intro node member pending
    obtain ⟨slot, -, rfl⟩ := List.mem_map.mp member
    rw [Message.isPending_slotNode, Option.isNone_iff_eq_none] at pending
    rw [pending]
    rfl

/-! ### Turns -/

variable [StorageArea μ]

/-- Something that is done with a client, or that reaches it from the server. -/
inductive Turn where
  | init (options : Json)
  | restore (data : Json)
  | reset (data : Json)
  | text (data : Json)
  | submit (text : String)
  | enter (value : Json)
  | execute (commands : Json)
  | receive (outcome : Outcome)

namespace Turn

def perform : Turn → ClientOn μ Unit
  | .init options => Client.init options
  | .restore data => Client.restore data
  | .reset data => Client.reset data
  | .text data => Client.text data
  | .submit words => discard (Client.submit (.str words))
  | .enter value => Client.type value (.str "Enter")
  | .execute commands => discard (Client.execute commands)
  | .receive outcome => Client.receive .runCommands outcome

/-- What is there after a turn, whether it fails or not. -/
def after (turn : Turn) (s : Logged (Client × Surroundings μ)) : Logged (Client × Surroundings μ) :=
  (turn.perform.start s).2

/-- The message that a turn brings before the server. -/
def message? (ready : Bool) : Turn → Option String
  | .submit words => taken ready words
  | .enter value => entered ready value
  | _ => none

end Turn

def play (turns : List Turn) (s : Logged (Client × Surroundings μ)) : Logged (Client × Surroundings μ) :=
  turns.foldl (fun s turn => turn.after s) s

/-- The messages that turns bring before the server, in order. -/
def accepted : List Turn → Logged (Client × Surroundings μ) → List String
  | [], _ => []
  | turn :: turns, s => (turn.message? s.state.1.widget.ready).toList ++ accepted turns (turn.after s)

theorem receive_keeps (soft : Store.FailsSoftly calm) (outcome : Outcome) :
    (receive .runCommands outcome).Keeps (Holds (μ := μ) calm posts) := by
  cases outcome with
  | success response => exact (execute_keeps soft _).discard
  | failure status message => exact .note _

theorem Turn.takes (soft : Store.FailsSoftly calm) (turn : Turn) {s : Logged (Client × Surroundings μ)}
    (holds : Holds calm posts s.state) :
    Takes calm posts (turn.message? s.state.1.widget.ready) s.state (turn.after s).state := by
  cases turn with
  | init options => exact .nothing (init_keeps options s holds)
  | restore data => exact .nothing (restore_keeps data s holds)
  | reset data => exact .nothing (reset_keeps soft data s holds)
  | text data => exact .nothing (text_keeps soft data s holds)
  | submit text =>
    unfold after perform
    rw [Op.start_discard]
    exact submit_takes soft holds text
  | enter value => exact type_takes soft holds value
  | execute commands => exact .nothing ((execute_keeps soft commands).discard s holds)
  | receive outcome => exact .nothing (receive_keeps soft outcome s holds)

theorem play_holds (soft : Store.FailsSoftly calm) (turns : List Turn)
    {s : Logged (Client × Surroundings μ)} (holds : Holds calm posts s.state) :
    Holds calm (posts ++ (accepted turns s).map posted) (play turns s).state := by
  induction turns generalizing s posts with
  | nil =>
    rw [accepted, List.map_nil, List.append_nil]
    exact holds
  | cons turn turns ih =>
    have more := ih (turn.takes soft holds).holds
    rw [List.append_assoc] at more
    rw [accepted, List.map_append, ← Option.toList_map]
    exact more

/-! ### Beginnings -/

/-- Is a document among elements whose children are there too? -/
structure IsPage (document : Document) (elements : Elements Listener) : Prop where
  closed : ∀ id, ∀ child ∈ (elements.get id).children, child < elements.table.size
  root : document.root < elements.table.size
  head : document.head < elements.table.size

/-- Has nothing been done yet with a client? Its window stands nowhere, its store was opened just now and
has no history, and nothing has been posted. -/
structure IsFresh (calm : μ → Prop) (now : Client × Surroundings μ) : Prop where
  page : ∃ document elements, IsPage document elements ∧ now.1.widget = Widget.create document elements
  opened : ∃ key before log, (Store.openOn key).start before = (.ok now.1.store, ⟨now.2.medium, log⟩)
  calm : calm now.2.medium
  way : ∃ step rest, Path.ofJson now.1.history.path = .ok (step :: rest)
  empty : now.1.history.all now.1.store = .ok []
  identity : ∃ who, now.1.site.identity = .str who
  quiet : now.1.sent "POST" = []

theorem IsFresh.holds {now : Client × Surroundings μ} (fresh : IsFresh calm now) : Holds calm [] now := by
  obtain ⟨document, elements, page, widget⟩ := fresh.page
  obtain ⟨owner, displays⟩ := Widget.create_displays page.closed page.root page.head
  obtain ⟨key, before, log, opened⟩ := fresh.opened
  rw [← widget] at displays
  refine ⟨⟨[], ⟨owner, displays⟩, ?_⟩, fresh.way, fresh.identity, fresh.quiet⟩
  exact ⟨Store.openOn_isOrderly opened, fun _ => fresh.calm, fresh.empty⟩

/-- Take a client that nothing has been done with, on a medium whose failures are of a kind on which a store
gives it up. After any turns the chat displays one element for each entry of the history, in order and as
its markup reads, and apart from these only the bubbles of awaited answers; each entry is a bubble of the
user or of the bot; what has been posted is what was taken, in order; and what is taken next is recorded
before it is sent. -/
theorem surface_follows_history (soft : Store.FailsSoftly calm)
    {start : Logged (Client × Surroundings μ)} (fresh : IsFresh calm start.state) (turns : List Turn) :
    let now := (play turns start).state
    (∃ entries nodes, now.1.history.all now.1.store = .ok entries ∧
      now.1.widget.elements.AllShow (fun _ => True) now.1.widget.messages nodes ∧
      List.Forall₂ (fun entry node => ∃ markup, entry = .str markup ∧ Markup.parse markup = .ok node)
        entries (nodes.filter (! Widget.isPending ·)) ∧
      (∀ node ∈ nodes, Widget.isPending node = true → node = Bubble.placeholder) ∧
      ∀ entry ∈ entries, ∃ text, entry = .str (Bubble.user text) ∨ entry = .str (Bubble.bot text)) ∧
    now.1.sent "POST" = (accepted turns start).map posted ∧
    ∀ (turn : Turn) (message : String), turn.message? now.1.widget.ready = some message →
      IsSentAfterwards message now (turn.after (play turns start)).state := by
  have holds := play_holds soft turns fresh.holds
  rw [List.nil_append] at holds
  obtain ⟨slots, agrees⟩ := holds.agrees
  obtain ⟨nodes, shown, messages, pending⟩ := agrees.displayed
  refine ⟨⟨_, nodes, agrees.records.found, shown, ?_, pending, ?_⟩, holds.posted, ?_⟩
  · rw [messages, List.forall₂_map_left_iff, List.forall₂_map_right_iff, List.forall₂_same]
    exact fun message _ => ⟨message.markup, rfl, message.parse_markup⟩
  · intro entry member
    obtain ⟨message, -, rfl⟩ := List.mem_map.mp member
    cases message with
    | user text => exact ⟨text, .inl rfl⟩
    | bot text => exact ⟨text, .inr rfl⟩
  · intro turn message isTaken
    exact (turn.takes soft holds).ordered message isTaken

theorem create_isPage :
    IsPage (Document.create ({} : Elements Listener)).1 (Document.create ({} : Elements Listener)).2 := by
  have closed : ∀ id < 3, ∀ child ∈ ((Document.create ({} : Elements Listener)).2.get id).children,
      child < 3 := by decide
  exact ⟨fun id child member => closed id (Elements.inside_of_children member) child member, by decide,
    by decide⟩

/-- A client on an empty page, with a store that finds nothing on an area in memory. -/
def onEmptyPage (area : MapArea) : Logged (Client × Surroundings MapArea) :=
  let page := Document.create ({} : Elements Listener)
  let site : Site := { root := "", service := "", identity := .str "me" }
  let client : Client :=
    { site, settings := {}, widget := Widget.create page.1 page.2, store := .ofEntries "k" true []
      transport := { site } }
  ⟨(client, { medium := { area with calls := [.set "test" "test", .remove "test", .get "k"] } }), []⟩

/-- Here what is handed in before the widget is mounted is lost, and the medium is given up when the message
that is entered later is recorded. -/
theorem surface_follows_history_givenUp :
    let start := onEmptyPage { setOutages := .at_ [3] }
    let turns : List Turn :=
      [.submit "early", .init .null, .enter (.str " <b>\n"), .text (.str "a&b")]
    IsFresh (fun area : MapArea => Store.isWriteOutage area.outage = true) start.state ∧
      (play turns start).state.1.store.durable = false ∧
      (play turns start).state.1.sent "POST" = [posted "<b>"] ∧
      ∃ entries nodes,
        (play turns start).state.1.history.all (play turns start).state.1.store = .ok entries ∧
        (play turns start).state.1.widget.elements.AllShow (fun _ => True)
          (play turns start).state.1.widget.messages nodes := by
  intro start turns
  have fresh : IsFresh (fun area : MapArea => Store.isWriteOutage area.outage = true) start.state :=
    ⟨⟨_, _, create_isPage, rfl⟩, ⟨some "k", ⟨{ setOutages := .at_ [3] }, []⟩, [], rfl⟩, rfl,
      ⟨"history", [], rfl⟩, rfl, ⟨"me", rfl⟩, rfl⟩
  have words : accepted turns start = ["<b>"] := by decide +kernel
  have givenUp : (play turns start).state.1.store.durable = false := by decide +kernel
  -- The turns need not be looked at any more, and would be run again by each step.
  generalize turns = turns at words givenUp
  obtain ⟨⟨entries, nodes, found, shown, -⟩, sent, -⟩ :=
    surface_follows_history MapArea.failsSoftly fresh turns
  rw [words] at sent
  exact ⟨fresh, givenUp, sent, entries, nodes, found, shown⟩

end ChatWidget.Client
