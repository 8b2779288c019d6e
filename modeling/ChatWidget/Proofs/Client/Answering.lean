import ChatWidget.Proofs.Client.Awaiting
import ChatWidget.Proofs.Page.Sweeping
/-!
What the bot says, on any page. The chat may hold elements of any shape, with awaited answers anywhere among them, also
one within another. All of these are taken out, and what the bot says comes last; the page is otherwise as it was.
-/
namespace ChatWidget

open Markup (Node)

namespace Widget

variable {widget : Widget} {node : Node} {id : ElementId}

/-! ### What comes last into a chat -/

/-- Has an element come last into the chat for a node, with its end shown and all other elements as they were? -/
structure Gains (before after : Widget) (bubble : ElementId) (node : Node) : Prop where
  page : after = { before with elements := after.elements }
  forest : after.elements.IsForest
  new : bubble = before.elements.table.size
  shows : after.elements.Shows (before.elements.table.size ≤ ·) bubble node
  others : ∀ id < before.elements.table.size, id ≠ before.window.chat →
    after.elements.get id = before.elements.get id
  chat : after.elements.get before.window.chat = ((before.elements.get before.window.chat).holding
    ((before.elements.get before.window.chat).children ++ [bubble])).scrollToBottom
  ordered : after.elements.descendants before.window.chat =
    before.elements.descendants before.window.chat ++ bubble :: after.elements.descendants bubble

theorem gains (forest : widget.elements.IsForest) (inside : widget.window.chat < widget.elements.table.size)
    (node : Node) :
    widget.Gains (widget.addNode widget.window.chat node).2.scrollToEnd widget.elements.table.size node := by
  have added := Elements.append_graft_areGrafted widget.elements inside node
  have still := forest.addNode inside node
  have last := forest.descendants_addNode inside node
  dsimp only at last
  rw [(Elements.graft_isGrafted widget.elements node).first] at added still last
  -- The page before the end is shown. Only the chat looks different then.
  obtain ⟨grown, isGrown⟩ : ∃ grown,
    (widget.elements.graft node).2.append widget.window.chat widget.elements.table.size = grown := ⟨_, rfl⟩
  rw [isGrown] at added still last
  have after : (widget.addNode widget.window.chat node).2.scrollToEnd =
      { widget with elements := grown.modify widget.window.chat (·.scrollToBottom) } := by
    rw [← isGrown, ← (Elements.graft_isGrafted widget.elements node).first]
    rfl
  have effect := fun id => Elements.get_modify grown widget.window.chat id (·.scrollToBottom)
    (Nat.lt_of_lt_of_le inside added.grown)
  have lower : ∀ top, (grown.modify widget.window.chat (·.scrollToBottom)).descendants top = grown.descendants top :=
    fun top => grown.descendants_modify widget.window.chat top fun _ => rfl
  rw [after]
  refine ⟨rfl, still.modify _ (fun _ => rfl) (fun _ => rfl), rfl, ?_, fun id old notChat => ?_, ?_, ?_⟩
  · have shows := added.shows
    rw [Elements.AllShow] at shows
    refine shows.1.frame fun id between => ⟨between.1, ?_⟩
    rw [effect]
    split
    next same => rw [same]; rfl
    next => rfl
  · rw [effect, if_neg notChat, added.same id old notChat]
  · rw [effect, if_pos rfl, added.listed]
  · rw [lower, lower, last]

/-! ### Awaited answers -/

theorem addNode_isForest (forest : widget.elements.IsForest) {parent : ElementId}
    (inside : parent < widget.elements.table.size) (node : Node) :
    (widget.addNode parent node).2.elements.IsForest := forest.addNode inside node

/-- The elements of the chat that are no awaited answers, and within none, in the order of the page. -/
def settled (widget : Widget) : List ElementId :=
  (widget.elements.descendants widget.window.chat).filter fun id =>
    ∀ node ∈ widget.placeholders, id ∉ node :: widget.elements.descendants node

theorem settled_lacks (settled : id ∈ widget.settled) :
    (widget.elements.get id).hasClass Bubble.pendingClass = false := by
  obtain ⟨inChat, apart⟩ := List.mem_filter.mp settled
  rw [decide_eq_true_eq] at apart
  rw [← Bool.not_eq_true]
  intro awaited
  exact apart id (List.mem_filter.mpr ⟨inChat, awaited⟩) List.mem_cons_self

theorem placeholders_below (forest : widget.elements.IsForest) (awaited : id ∈ widget.placeholders) :
    widget.elements.IsBelow widget.window.chat id :=
  forest.mem_descendants.mp (List.mem_filter.mp awaited).1

theorem chat_settled (forest : widget.elements.IsForest) : widget.window.chat ∉ widget.placeholders :=
  fun awaited => forest.acyclic _ (placeholders_below forest awaited)

@[simp] theorem removePlaceholders_window (widget : Widget) : widget.removePlaceholders.window = widget.window := rfl

theorem descendants_removePlaceholders (forest : widget.elements.IsForest) :
    widget.removePlaceholders.elements.descendants widget.window.chat = widget.settled :=
  forest.descendants_removeAll fun _ awaited => placeholders_below forest awaited

/-- Has an element come last into the chat for a node, with its end shown, all awaited answers gone from the chat and
nothing else changed? -/
structure Answers (before after : Widget) (bubble : ElementId) (node : Node) : Prop where
  page : after = { before with elements := after.elements }
  forest : after.elements.IsForest
  new : bubble = before.elements.table.size
  shows : after.elements.Shows (before.elements.table.size ≤ ·) bubble node
  others : ∀ id < before.elements.table.size, id ≠ before.window.chat → after.elements.get id =
    (before.elements.get id).without before.placeholders (id ∈ before.placeholders)
  chat : after.elements.get before.window.chat = ((before.elements.get before.window.chat).holding
    ((before.elements.get before.window.chat).children.filter (· ∉ before.placeholders) ++ [bubble])).scrollToBottom
  ordered : after.elements.descendants before.window.chat =
    before.settled ++ bubble :: after.elements.descendants bubble
  none : ∀ id ∈ after.elements.descendants before.window.chat,
    (after.elements.get id).hasClass Bubble.pendingClass = false

theorem answers (forest : widget.elements.IsForest) (inside : widget.window.chat < widget.elements.table.size)
    (lacks : Elements.Lacks Bubble.pendingClass node) :
    widget.Answers (widget.removePlaceholders.addNode widget.window.chat node).2.scrollToEnd
      widget.elements.table.size node := by
  have left : ∀ id, widget.removePlaceholders.elements.get id =
      (widget.elements.get id).without widget.placeholders (id ∈ widget.placeholders) :=
    forest.get_removeAll widget.placeholders
  have size : widget.removePlaceholders.elements.table.size = widget.elements.table.size :=
    Elements.size_removeAll widget.elements widget.placeholders
  have gained := @gains widget.removePlaceholders (forest.removeAll widget.placeholders) (inside.trans_eq size.symm) node
  rw [removePlaceholders_window, size] at gained
  generalize (widget.removePlaceholders.addNode widget.window.chat node).2.scrollToEnd = after at gained
  obtain ⟨page, still, -, shows, others, chat, ordered⟩ := gained
  rw [size] at shows others
  rw [removePlaceholders_window] at others chat ordered
  rw [left, Element.without_children] at chat
  rw [descendants_removePlaceholders forest] at ordered
  have same : ∀ id < widget.elements.table.size, id ≠ widget.window.chat → after.elements.get id =
      (widget.elements.get id).without widget.placeholders (id ∈ widget.placeholders) :=
    fun id old notChat => (others id old notChat).trans (left id)
  refine ⟨page, still, rfl, shows, same, ?_, ordered, fun id inChat => ?_⟩
  · rw [chat, decide_eq_false (chat_settled forest)]
    rfl
  · rw [ordered] at inChat
    rcases List.mem_append.mp inChat with settled | isNew
    · have below := forest.mem_descendants.mp (List.mem_filter.mp settled).1
      obtain ⟨parent, -, link⟩ := Relation.TransGen.tail'_iff.mp below
      have notChat : id ≠ widget.window.chat := fun isChat => forest.acyclic id (isChat ▸ below)
      rw [same id (forest.inside link).2 notChat]
      exact settled_lacks settled
    · have only : after.elements.AllShow (widget.elements.table.size ≤ ·) [widget.elements.table.size] [node] := by
        rw [Elements.AllShow, Elements.AllShow]
        exact ⟨shows, trivial⟩
      have none : Elements.AllLack Bubble.pendingClass [node] := by
        rw [Elements.AllLack, Elements.AllLack]
        exact ⟨lacks, trivial⟩
      exact only.below_lacks none _ _ List.mem_cons_self id isNew

/-! ### New pages -/

theorem create_isForest (document : Document) {elements : Elements Listener} (forest : elements.IsForest) :
    (Widget.create document elements).elements.IsForest := by
  obtain ⟨made, six, plain, same⟩ := create_eq elements
  change (Window.create elements).2.IsForest
  rw [same]
  dsimp only
  have base := forest.createAll fun element member => ⟨(plain element member).2.1, (plain element member).1⟩
  have inside : ∀ offset < 6, elements.table.size + offset < (elements.createAll made).table.size := by
    intro offset few
    rw [Elements.size_createAll, six]
    exact Nat.add_lt_add_left few _
  have free : ∀ offset < 6, ((elements.createAll made).get (elements.table.size + offset)).parent = none := by
    intro offset few
    exact (plain _ (Elements.get_createAll_new elements (by rw [six]; exact few))).1
  have input : (elements.createAll made).CanTake (elements.table.size + 4) [elements.table.size + 5] :=
    .of_free base (free 4 (by decide)) (inside 4 (by decide)) (by simpa using inside 5 (by decide)) (by simp)
  have joined := base.append input
  have links := base.get_append (inside 4 (by decide)) (inside 5 (by decide)) (by simp) elements.table.size
  have top : (((elements.createAll made).append (elements.table.size + 4) (elements.table.size + 5)).get
      elements.table.size).parent = none := by
    rw [links.2, if_neg (by simp)]
    exact free 0 (by decide)
  refine joined.appendAll (.of_free joined top ?_ ?_ (by simp))
  · rw [Elements.size_append]
    exact inside 0 (by decide)
  · intro node member
    rw [Elements.size_append]
    simp only [List.mem_cons, List.not_mem_nil, or_false] at member
    rcases member with rfl | rfl | rfl | rfl
    · exact inside 1 (by decide)
    · exact inside 2 (by decide)
    · exact inside 3 (by decide)
    · exact inside 4 (by decide)

end Widget

theorem Document.create_isForest : (Document.create ({} : Elements Listener)).2.IsForest := by
  have made : (({} : Elements Listener).createAll [.ofTag "html" [], .ofTag "head" [], .ofTag "body" []]).IsForest := by
    refine Elements.IsForest.empty.createAll fun element member => ?_
    simp only [List.mem_cons, List.not_mem_nil, or_false] at member
    rcases member with rfl | rfl | rfl
    · exact ⟨rfl, rfl⟩
    · exact ⟨rfl, rfl⟩
    · exact ⟨rfl, rfl⟩
  exact made.appendAll (.of_free made rfl (by decide) (by decide) (by decide))

theorem Message.bot_lacks (text : String) : Elements.Lacks Bubble.pendingClass (Message.bot text).node := by
  have flat := slotNode_flat Bubble.pendingClass (some (.bot text))
  change Elements.AllLack _ (Message.bot text).node.children at flat
  rw [node_bot] at flat ⊢
  unfold Bubble.node at flat ⊢
  rw [Elements.Lacks]
  exact ⟨by decide, flat⟩

/-! ### What the bot says -/

namespace Client

variable {μ : Type} [StorageArea μ]

/-- Whatever the chat of a page holds, as long as its two sides of each link agree: after the bot has said something,
no element of the chat is an awaited answer, in whichever other elements these were; every element that was none, and
within none, is where it was and as it was, in the same order; and what was said comes last, as a bubble of its own.
That is so whether or not it can be recorded, and apart from the chat only the store is changed. Data that hold a whole
number with too many digits have no text and change nothing; nothing that is read from a response holds one. -/
theorem text_sweeps_chat (data : Json) {s : Logged (Client × Surroundings μ)}
    (forest : s.state.1.widget.elements.IsForest)
    (inside : s.state.1.widget.window.chat < s.state.1.widget.elements.table.size) :
    (data.isWritable = true → ∃ words bubble after kept, said data = .ok words ∧
      s.state.1.widget.Answers after bubble (Bubble.node Bubble.botClass words) ∧
      ((text data).start s).2.state = putStore (putWidget s.state after) kept) ∧
    (data.isWritable = false → (text data).start s = (.error (.badValue Fault.tooLongReason), s)) := by
  constructor
  · intro writable
    obtain ⟨words, isSaid⟩ : ∃ words, said data = .ok words := by
      cases data with
      | null => exact ⟨"", rfl⟩
      | _ => exact ⟨_, (if_pos writable : Json.toText _ = _)⟩
    obtain ⟨kept, left⟩ := state_text isSaid s
    exact ⟨words, _, _, kept, isSaid, Widget.answers forest inside (Message.bot_lacks words), left⟩
  · intro unwritable
    have failed : said data = .error (.badValue Fault.tooLongReason) := by
      cases data with
      | null => cases unwritable
      | _ => exact (if_neg (ne_true_of_eq_false unwritable) : Json.toText _ = _)
    unfold text
    rw [Op.start_bind, Op.start_lift, failed]

/-- Here one awaited answer is within another, with an element in between, and both stand in an element that stays. -/
theorem text_sweeps_chat_nested :
    let start := onEmptyPage {}
    let nested : Node := ⟨"div", [], [], "", [⟨"p", [], [], "one", []⟩,
      ⟨"div", [], [Bubble.pendingClass], "", [⟨"span", [], [], "", [Bubble.placeholder]⟩]⟩, ⟨"p", [], [], "two", []⟩]⟩
    let widget := (start.state.1.widget.addNode 6 nested).2.addPlaceholder
    let s := { start with state := putWidget start.state widget }
    let last := ((text (.str "three")).start s).2.state.1.widget.elements
    widget.window.chat = 6 ∧ widget.placeholders = [11, 13, 15] ∧
      [9, 10, 14, 16] <+: last.descendants 6 ∧ (last.get 9).children = [10, 14] ∧ (last.get 10).text = "one" ∧
      (last.get 16).parent = some 6 := by
  intro start nested widget s last
  have empty : start.state.1.widget.elements.IsForest := Widget.create_isForest _ Document.create_isForest
  have forest : widget.elements.IsForest :=
    Widget.addNode_isForest (Widget.addNode_isForest empty (by decide) nested) (by decide) Bubble.placeholder
  have chat : widget.window.chat = 6 := rfl
  have size : widget.elements.table.size = 16 := by decide
  have awaited : widget.placeholders = [11, 13, 15] := by decide +kernel
  have settled : widget.settled = [9, 10, 14] := by decide +kernel
  have outer : (widget.elements.get 9).children = [10, 11, 14] := by decide +kernel
  have inner : (widget.elements.get 10).text = "one" := by decide +kernel
  have inside : widget.window.chat < widget.elements.table.size := by
    rw [chat, size]
    decide
  -- The page need not be looked at any more, and would be built again by each step.
  clear_value widget
  obtain ⟨words, bubble, after, kept, -, answers, left⟩ :=
    (text_sweeps_chat (.str "three") (s := s) forest inside).1 rfl
  have isLast : last = after.elements := congrArg (fun state => state.1.widget.elements) left
  clear_value last
  subst isLast
  change widget.Answers after bubble _ at answers
  obtain ⟨-, still, new, -, others, added, ordered, -⟩ := answers
  rw [size] at new others
  rw [chat] at others added ordered
  rw [settled, new] at ordered
  have linked : after.elements.IsChild 6 16 := by
    unfold Elements.IsChild
    rw [added, new]
    exact List.mem_append_right _ List.mem_cons_self
  refine ⟨chat, awaited, ⟨_, ordered.symm⟩, ?_, ?_, still.isChild_iff.mp linked⟩
  · rw [others 9 (by decide) (by decide), Element.without_children, outer, awaited]
    decide
  · rw [others 10 (by decide) (by decide)]
    exact inner

end Client

end ChatWidget
