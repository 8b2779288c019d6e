import ChatWidget.Proofs.Op
import ChatWidget.Proofs.Page.Shows
import ChatWidget.Proofs.Widget.Mount
/-!
What the chat of a widget displays, as nodes of markup. Each element belongs to the page, to the window or to
a message, and the operations of the widget stay within these bounds: a message that is added comes with
elements of its own, and before the window is mounted nothing leads from the page into the window.
-/
namespace ChatWidget

open Markup (Node)

/-- Whose an element is. The numbers that no element has yet are nobody's. -/
inductive Owner where
  | page
  | window
  | message
  | nobody

namespace Widget

/-- Is the window in wait to be put into the page, with no way from the page to anything else? -/
structure IsWaiting (widget : Widget) (owner : ElementId → Owner) : Prop where
  free : (widget.elements.get widget.window.frame).parent = none
  root : owner widget.document.root = .page
  head : owner widget.document.head = .page
  closed : ∀ id, owner id = .page → ∀ child ∈ (widget.elements.get id).children, owner child = .page

def inputListeners (ready : Bool) : List (String × Listener) :=
  if ready then [("keyup", .sendOnEnter)] else []

/-- Does the chat show the nodes, one child for each and in order, with elements of messages only? -/
structure Displays (widget : Widget) (owner : ElementId → Owner) (nodes : List Node) : Prop where
  inside : ∀ id, owner id ≠ .nobody → id < widget.elements.table.size
  named : ∀ id ∈ widget.window.parts, owner id = .window
  distinct : widget.window.parts.Nodup
  owned : widget.elements.Owns widget.window.chat
  shown : widget.elements.AllShow (owner · = .message)
    (widget.elements.get widget.window.chat).children nodes
  plain : (widget.elements.get widget.window.title).children = []
  listening : (widget.elements.get widget.window.input).listeners = inputListeners widget.ready
  waiting : widget.ready = false → widget.IsWaiting owner

variable {widget : Widget} {owner : ElementId → Owner} {nodes : List Node}

namespace Displays

theorem chat (displays : widget.Displays owner nodes) : owner widget.window.chat = .window :=
  displays.named _ (by simp [Window.parts])

theorem title (displays : widget.Displays owner nodes) : owner widget.window.title = .window :=
  displays.named _ (by simp [Window.parts])

theorem frame (displays : widget.Displays owner nodes) : owner widget.window.frame = .window :=
  displays.named _ (by simp [Window.parts])

theorem handle (displays : widget.Displays owner nodes) : owner widget.window.handle = .window :=
  displays.named _ (by simp [Window.parts])

theorem input (displays : widget.Displays owner nodes) : owner widget.window.input = .window :=
  displays.named _ (by simp [Window.parts])

theorem apart (displays : widget.Displays owner nodes) :
    widget.window.frame ≠ widget.window.title ∧ widget.window.frame ≠ widget.window.chat ∧
      widget.window.title ≠ widget.window.chat ∧ widget.window.input ≠ widget.window.title ∧
      widget.window.input ≠ widget.window.chat ∧ widget.window.input ≠ widget.window.frame ∧
      widget.window.input ≠ widget.window.handle := by
  have distinct := displays.distinct
  simp only [Window.parts, List.nodup_cons, List.mem_cons, not_or] at distinct
  obtain ⟨frame, handle, title, chat, -⟩ := distinct
  exact ⟨frame.2.1, frame.2.2.1, title.1, Ne.symm title.2.1, Ne.symm chat.1, Ne.symm frame.2.2.2.1,
    Ne.symm handle.2.2.1⟩

theorem isMessage (displays : widget.Displays owner nodes) :
    ∀ child ∈ (widget.elements.get widget.window.chat).children, owner child = .message :=
  displays.shown.isKind

/-- A change that leaves the chat and the messages as they look makes no difference. -/
theorem unchanged (displays : widget.Displays owner nodes) {after : Widget}
    (window : after.window = widget.window)
    (size : after.elements.table.size = widget.elements.table.size)
    (same : ∀ id, owner id = .message ∨ id = widget.window.chat →
      (after.elements.get id).face = (widget.elements.get id).face ∧
        (after.elements.get id).parent = (widget.elements.get id).parent)
    (plain : (after.elements.get widget.window.title).children = [])
    (listening : (after.elements.get widget.window.input).listeners = inputListeners after.ready)
    (waiting : after.ready = false → after.IsWaiting owner) : after.Displays owner nodes := by
  have children : (after.elements.get widget.window.chat).children =
      (widget.elements.get widget.window.chat).children :=
    congrArg (fun face => face.2.2.2.2) (same widget.window.chat (.inr rfl)).1
  refine ⟨?_, ?_, ?_, ?_, ?_, ?_, ?_, waiting⟩
  · intro id owned
    rw [size]
    exact displays.inside id owned
  · rw [window]
    exact displays.named
  · rw [window]
    exact displays.distinct
  · rw [window]
    refine displays.owned.frame ?_ children fun child member => (same child (.inl (displays.isMessage child member))).2
    rw [size]
    exact displays.owned.inside
  · rw [window, children]
    exact displays.shown.frame fun id message => ⟨message, (same id (.inl message)).1⟩
  · rw [window]
    exact plain
  · rw [window]
    exact listening

end Displays

/-! ### Adding elements -/

/-- Whose the elements are after new ones came in for someone. -/
def extend (owner : ElementId → Owner) (before after : Elements Listener) (new : Owner)
    (id : ElementId) : Owner :=
  if before.table.size ≤ id ∧ id < after.table.size then new else owner id

theorem extend_new {before after : Elements Listener} {new : Owner} {id : ElementId}
    (between : Elements.Between before after id) : extend owner before after new id = new :=
  if_pos between

theorem extend_other {before after : Elements Listener} {new : Owner} {id : ElementId}
    (outside : ¬ Elements.Between before after id) : extend owner before after new id = owner id :=
  if_neg outside

theorem Displays.extend_old (displays : widget.Displays owner nodes) (after : Elements Listener)
    (new : Owner) {id : ElementId} (owned : owner id ≠ .nobody) :
    extend owner widget.elements after new id = owner id :=
  extend_other fun between => Nat.not_lt_of_le between.1 (displays.inside id owned)

/-- What is below the page stays the page's when elements come in for the page under the page, or for messages under
the chat. -/
theorem Displays.extend_closed (displays : widget.Displays owner nodes) {parent id : ElementId} {node : Node}
    {elements : Elements Listener} {new : Owner}
    (grafted : Elements.AreGrafted widget.elements parent [node] [id] elements)
    (place : parent = widget.window.chat ∧ new = .message ∨ owner parent = .page ∧ new = .page)
    (closed : ∀ i, owner i = .page → ∀ child ∈ (widget.elements.get i).children, owner child = .page) (i : ElementId)
    (page : extend owner widget.elements elements new i = .page) :
    ∀ child ∈ (elements.get i).children, extend owner widget.elements elements new child = .page := by
  intro child member
  by_cases between : Elements.Between widget.elements elements i
  · rw [extend_new between] at page
    rw [extend_new (grafted.closed i between child member)]
    exact page
  · rw [extend_other between] at page
    have known : ∀ child ∈ (widget.elements.get i).children,
        extend owner widget.elements elements new child = .page := by
      intro child member
      have childPage := closed i page child member
      rw [displays.extend_old _ _ (by rw [childPage]; simp)]
      exact childPage
    by_cases isParent : i = parent
    · subst isParent
      rw [grafted.listed, Element.holding_children] at member
      cases List.mem_append.mp member with
      | inl isOld => exact known child isOld
      | inr isNew =>
        rw [extend_new (grafted.new child isNew)]
        rcases place with ⟨isChat, -⟩ | ⟨-, isPage⟩
        · rw [isChat, displays.chat] at page
          cases page
        · exact isPage
    · rw [grafted.same i (displays.inside i (by rw [page]; simp)) isParent] at member
      exact known child member

/-- Elements that come in for the page under the page, or for messages under the chat, leave everything in
its bounds. -/
theorem Displays.extended (displays : widget.Displays owner nodes) {parent id : ElementId} {node : Node}
    {elements : Elements Listener} {new : Owner} {others : List Node}
    (grafted : Elements.AreGrafted widget.elements parent [node] [id] elements)
    (place : parent = widget.window.chat ∧ new = .message ∨ owner parent = .page ∧ new = .page)
    (owned : elements.Owns widget.window.chat)
    (shown : elements.AllShow (extend owner widget.elements elements new · = .message)
      (elements.get widget.window.chat).children others) :
    { widget with elements := elements : Widget }.Displays
      (extend owner widget.elements elements new) others := by
  have old : ∀ i, owner i ≠ .nobody → extend owner widget.elements elements new i = owner i :=
    fun i owned => displays.extend_old elements new owned
  obtain ⟨-, frameChat, titleChat, -, inputChat, -, -⟩ := displays.apart
  -- No part of the window but the chat has anything put under it.
  have stays : ∀ i, owner i = .window → i ≠ widget.window.chat →
      elements.get i = widget.elements.get i := by
    intro i window other
    apply grafted.same i (displays.inside i (by rw [window]; simp))
    intro isParent
    rcases place with ⟨isChat, -⟩ | ⟨page, -⟩
    · exact other (isParent.trans isChat)
    · rw [← isParent, window] at page
      cases page
  refine ⟨?_, ?_, displays.distinct, owned, shown, ?_, ?_, ?_⟩
  · intro i owned
    by_cases between : Elements.Between widget.elements elements i
    · exact between.2
    · rw [extend_other between] at owned
      exact Nat.lt_of_lt_of_le (displays.inside i owned) grafted.grown
  · intro i part
    have window := displays.named i part
    rw [old i (by rw [window]; simp)]
    exact window
  · rw [stays _ displays.title titleChat]
    exact displays.plain
  · rw [stays _ displays.input inputChat]
    exact displays.listening
  · intro notReady
    obtain ⟨free, root, head, closed⟩ := displays.waiting notReady
    refine ⟨?_, ?_, ?_, displays.extend_closed grafted place closed⟩
    · rw [stays _ displays.frame frameChat]
      exact free
    · rw [old _ (by rw [root]; simp)]
      exact root
    · rw [old _ (by rw [head]; simp)]
      exact head

theorem Displays.addToChat (displays : widget.Displays owner nodes) (node : Node) :
    ∃ owner', (widget.addNode widget.window.chat node).2.Displays owner' (nodes ++ [node]) := by
  have grafted := Elements.append_graft_areGrafted widget.elements displays.owned.inside node
  refine ⟨_, displays.extended grafted (.inl ⟨rfl, rfl⟩) (displays.owned.grafted grafted) ?_⟩
  rw [grafted.listed, Element.holding_children]
  refine Elements.AllShow.append (displays.shown.frame ?_) (grafted.shows.frame ?_)
  · intro i message
    have owned : owner i ≠ .nobody := by
      rw [message]
      simp
    have other : i ≠ widget.window.chat := by
      intro same
      rw [same, displays.chat] at message
      cases message
    refine ⟨(displays.extend_old _ _ owned).trans message, ?_⟩
    rw [grafted.same i (displays.inside i owned) other]
  · exact fun i between => ⟨extend_new between, rfl⟩

/-- A node that is added to the head of the page is no part of what is displayed. -/
theorem Displays.addToHead (displays : widget.Displays owner nodes) (notReady : widget.ready = false)
    (node : Node) :
    ∃ owner', (widget.addNode widget.document.head node).2.Displays owner' nodes ∧
      owner' (widget.addNode widget.document.head node).1 = .page ∧
      ∀ id, owner id = .page → owner' id = .page := by
  have page := (displays.waiting notReady).head
  have inside := displays.inside _ (by rw [page]; simp)
  have grafted := Elements.append_graft_areGrafted widget.elements inside node
  have early : ∀ i, owner i ≠ .nobody → owner i ≠ .page →
      ((widget.addNode widget.document.head node).2.elements.get i) = widget.elements.get i := by
    intro i owned notPage
    exact grafted.same i (displays.inside i owned) fun same => notPage (same ▸ page)
  have chat : (widget.addNode widget.document.head node).2.elements.get widget.window.chat =
      widget.elements.get widget.window.chat :=
    early _ (by rw [displays.chat]; simp) (by rw [displays.chat]; simp)
  have message : ∀ i, owner i = .message →
      (widget.addNode widget.document.head node).2.elements.get i = widget.elements.get i := by
    intro i message
    exact early i (by rw [message]; simp) (by rw [message]; simp)
  refine ⟨_, displays.extended grafted (.inr ⟨page, rfl⟩) ?_ ?_, ?_, ?_⟩
  · exact displays.owned.frame (Nat.lt_of_lt_of_le displays.owned.inside grafted.grown)
      (congrArg Element.children chat)
      fun child member => congrArg Element.parent (message child (displays.isMessage child member))
  · change Elements.AllShow (widget.addNode widget.document.head node).2.elements _
      ((widget.addNode widget.document.head node).2.elements.get widget.window.chat).children nodes
    rw [chat]
    refine displays.shown.frame fun i isMessage => ⟨?_, by rw [message i isMessage]⟩
    exact (displays.extend_old _ _ (by rw [isMessage]; simp)).trans isMessage
  · exact extend_new (grafted.new _ List.mem_cons_self)
  · intro id isPage
    exact (displays.extend_old _ _ (by rw [isPage]; simp)).trans isPage

/-- A widget with two more elements in the head of its page, and the second of these. -/
def linked (widget : Widget) (chosen base : Node) : ElementId × Widget :=
  (widget.addNode widget.document.head chosen).2.addNode widget.document.head base

theorem Displays.linked (displays : widget.Displays owner nodes) (notReady : widget.ready = false)
    (chosen base : Node) :
    ∃ owner', (widget.linked chosen base).2.Displays owner' nodes ∧
      owner' (widget.linked chosen base).1 = .page ∧ ∀ id, owner id = .page → owner' id = .page := by
  obtain ⟨_, first, -, kept⟩ := displays.addToHead notReady chosen
  obtain ⟨owner', second, isLink, still⟩ := first.addToHead notReady base
  exact ⟨owner', second, isLink, fun id page => still id (kept id page)⟩

/-! ### Taking messages out -/

/-- Taking some children out of the chat leaves what the other ones show. -/
theorem Displays.removed (displays : widget.Displays owner nodes) {gone : List ElementId}
    (distinct : gone.Nodup)
    (members : ∀ id ∈ gone, id ∈ (widget.elements.get widget.window.chat).children) {left : List Node}
    (shown : widget.elements.AllShow (owner · = .message)
      ((widget.elements.get widget.window.chat).children.filter fun child => decide (child ∉ gone)) left) :
    { widget with elements := gone.foldl Elements.remove widget.elements : Widget }.Displays owner left := by
  have effect := Elements.get_removeAll displays.owned distinct members
  have owned := displays.owned.removeAll distinct members
  have size := Elements.size_removeAll widget.elements gone
  generalize gone.foldl Elements.remove widget.elements = elements at effect owned size
  have chat : (elements.get widget.window.chat).children =
      (widget.elements.get widget.window.chat).children.filter fun child => decide (child ∉ gone) := by
    rw [effect, if_pos rfl, Element.holding_children]
  have face : ∀ i ≠ widget.window.chat, (elements.get i).face = (widget.elements.get i).face := by
    intro i other
    rw [effect, if_neg other]
    split
    · rw [Element.face_under]
    · rfl
  have children : ∀ i ≠ widget.window.chat,
      (elements.get i).children = (widget.elements.get i).children :=
    fun i other => congrArg (fun face => face.2.2.2.2) (face i other)
  have stays : ∀ i, owner i = .window → i ≠ widget.window.chat →
      elements.get i = widget.elements.get i := by
    intro i window other
    have kept : i ∉ gone := by
      intro member
      rw [displays.isMessage i (members i member)] at window
      cases window
    rw [effect, if_neg other, if_neg kept]
  have notChat : ∀ i, owner i ≠ .window → i ≠ widget.window.chat := by
    intro i notWindow same
    exact notWindow (same ▸ displays.chat)
  obtain ⟨-, frameChat, titleChat, -, inputChat, -, -⟩ := displays.apart
  refine ⟨?_, displays.named, displays.distinct, owned, ?_, ?_, ?_, ?_⟩
  · intro i owned
    rw [size]
    exact displays.inside i owned
  · rw [chat]
    exact shown.frame fun i message => ⟨message, face i (notChat i (by rw [message]; simp))⟩
  · rw [children _ titleChat]
    exact displays.plain
  · rw [stays _ displays.input inputChat]
    exact displays.listening
  · intro notReady
    obtain ⟨free, root, head, closed⟩ := displays.waiting notReady
    refine ⟨?_, root, head, ?_⟩
    · rw [stays _ displays.frame frameChat]
      exact free
    · intro i page
      rw [children i (notChat i (by rw [page]; simp))]
      exact closed i page

theorem Displays.clearChat (displays : widget.Displays owner nodes) :
    widget.clearChat.Displays owner [] := by
  apply displays.removed displays.owned.distinct (fun _ member => member)
  have none : ((widget.elements.get widget.window.chat).children.filter fun child =>
      decide (child ∉ (widget.elements.get widget.window.chat).children)) = [] := by
    rw [List.filter_eq_nil_iff]
    intro child member
    simpa using member
  rw [none, Elements.AllShow]
  trivial

def isPending (node : Node) : Bool := node.classes.contains Bubble.pendingClass

/-- Where awaited answers stand in the chat itself only, all of them are taken out and nothing else is. -/
theorem Displays.removePlaceholders (displays : widget.Displays owner nodes)
    (flat : ∀ node ∈ nodes, Elements.AllLack Bubble.pendingClass node.children) :
    widget.removePlaceholders.Displays owner (nodes.filter (! isPending ·)) := by
  have found : widget.placeholders = (widget.elements.get widget.window.chat).children.filter
      fun id => (widget.elements.get id).hasClass Bubble.pendingClass :=
    Elements.descendants_filter displays.shown flat displays.owned.inside
  unfold Widget.removePlaceholders
  rw [found]
  apply displays.removed (displays.owned.distinct.filter _)
  · exact fun id member => (List.mem_filter.mp member).1
  · have others : ((widget.elements.get widget.window.chat).children.filter fun child =>
        decide (child ∉ (widget.elements.get widget.window.chat).children.filter
          fun id => (widget.elements.get id).hasClass Bubble.pendingClass)) =
        (widget.elements.get widget.window.chat).children.filter
          fun id => ! (widget.elements.get id).hasClass Bubble.pendingClass := by
      apply List.filter_congr
      intro child member
      cases pending : (widget.elements.get child).hasClass Bubble.pendingClass with
      | true => simp [member, pending]
      | false => simp [pending]
    rw [others, Elements.allShow_iff]
    have each := Elements.allShow_iff.mp displays.shown
    refine List.rel_filter ?_ each
    intro id node shows
    change (! (widget.elements.get id).hasClass Bubble.pendingClass) = true ↔ (! isPending node) = true
    rw [Element.hasClass, shows.classes]
    rfl

/-! ### Mounting -/

theorem Displays.modify (displays : widget.Displays owner nodes) {id : ElementId}
    (inside : id < widget.elements.table.size) {change : Element Listener → Element Listener}
    (face : ∀ e, (change e).face = e.face) (parent : ∀ e, (change e).parent = e.parent)
    (listening : id = widget.window.input → ∀ e, (change e).listeners = e.listeners) :
    { widget with elements := widget.elements.modify id change : Widget }.Displays owner nodes := by
  have effect := fun i => Elements.get_modify widget.elements id i change inside
  have faces : ∀ i, ((widget.elements.modify id change).get i).face = (widget.elements.get i).face := by
    intro i
    rw [effect]
    split
    next same => rw [same, face]
    next => rfl
  have parents : ∀ i,
      ((widget.elements.modify id change).get i).parent = (widget.elements.get i).parent := by
    intro i
    rw [effect]
    split
    next same => rw [same, parent]
    next => rfl
  have children : ∀ i,
      ((widget.elements.modify id change).get i).children = (widget.elements.get i).children :=
    fun i => congrArg (fun face => face.2.2.2.2) (faces i)
  refine displays.unchanged rfl (Elements.size_modify _ _ _) (fun i _ => ⟨faces i, parents i⟩) ?_ ?_ ?_
  · rw [children]
    exact displays.plain
  · change ((widget.elements.modify id change).get widget.window.input).listeners = _
    rw [effect]
    split
    next same =>
      rw [listening same.symm, ← same]
      exact displays.listening
    next => exact displays.listening
  · intro notReady
    obtain ⟨free, root, head, closed⟩ := displays.waiting notReady
    refine ⟨(parents _).trans free, root, head, ?_⟩
    intro i page
    rw [children]
    exact closed i page

theorem Displays.scrollToEnd (displays : widget.Displays owner nodes) :
    widget.scrollToEnd.Displays owner nodes :=
  displays.modify displays.owned.inside (fun _ => rfl) (fun _ => rfl) (fun _ _ => rfl)

/-- What is found by a selector in a page with a window in wait belongs to the page. -/
theorem Displays.query (displays : widget.Displays owner nodes) (notReady : widget.ready = false)
    {selector : Json} {found : ElementId}
    (isFound : widget.document.query widget.elements selector = .ok (some found)) :
    owner found = .page := by
  obtain ⟨-, root, -, closed⟩ := displays.waiting notReady
  unfold Document.query at isFound
  obtain ⟨chosen, -, rest⟩ := bind_ok isFound
  split at rest
  next =>
    cases rest
    exact root
  next =>
    exact Elements.descendantsWithin_closed closed _ root found
      (List.mem_of_find?_eq_some (Except.ok.inj rest))

/-- Mounting the window at an element of the page leaves the chat as it is. -/
theorem Displays.mount (displays : widget.Displays owner nodes) (notReady : widget.ready = false)
    {attachment link : ElementId} (attached : owner attachment = .page) (linked : owner link = .page)
    (title : Option String) : (widget.mount attachment link title).Displays owner nodes := by
  have apart : ∀ i, owner i ≠ .page → i ≠ attachment ∧ i ≠ link := by
    intro i notPage
    refine ⟨?_, ?_⟩
    · rintro rfl
      exact notPage attached
    · rintro rfl
      exact notPage linked
  have part : ∀ i ∈ widget.window.parts, i ≠ attachment ∧ i ≠ link := by
    intro i member
    exact apart i (by rw [displays.named i member]; simp)
  have mountable : widget.IsMountable attachment link := by
    refine ⟨?_, (displays.waiting notReady).free, displays.plain, ?_, ?_⟩
    · intro i member
      apply displays.inside
      rcases List.mem_cons.mp member with rfl | member
      · rw [attached]
        simp
      · rcases List.mem_cons.mp member with rfl | member
        · rw [linked]
          simp
        · rw [displays.named i member]
          simp
    · exact Ne.symm (part _ (by simp [Window.parts])).1
    · rw [List.nodup_cons]
      exact ⟨fun member => (part link member).2 rfl, displays.distinct⟩
  have effect := get_mount mountable title
  obtain ⟨frameTitle, frameChat, titleChat, -, -, -, inputHandle⟩ := displays.apart
  refine displays.unchanged (mount_window widget attachment link title) (size_mount widget attachment link title)
    ?_ ?_ ?_ ?_
  · intro i counts
    have notPage : owner i ≠ .page := by
      rcases counts with message | rfl
      · rw [message]
        simp
      · rw [displays.chat]
        simp
    have different : ∀ p ∈ widget.window.parts, p ≠ widget.window.chat → i ≠ p := by
      rintro p member notChat rfl
      rcases counts with message | isChat
      · rw [displays.named i member] at message
        cases message
      · exact notChat isChat
    have notTitle := different widget.window.title (by simp [Window.parts]) titleChat
    have notFrame := different widget.window.frame (by simp [Window.parts]) frameChat
    rw [effect]
    refine ⟨?_, if_neg notFrame⟩
    simp only [Element.face, if_neg notTitle, if_neg (apart i notPage).1]
  · rw [effect]
    dsimp only
    rw [if_neg (part _ (by simp [Window.parts])).1]
    exact displays.plain
  · rw [effect, mount_ready]
    dsimp only
    rw [displays.listening, notReady, listenersAt, if_neg (part _ (by simp [Window.parts])).2, if_neg inputHandle,
      if_pos rfl]
    rfl
  · intro stillNotReady
    rw [mount_ready] at stillNotReady
    cases stillNotReady

/-- A widget that has been put into its page. -/
def install (widget : Widget) (attachment : ElementId) (chosen base : Node) (title : Option String) : Widget :=
  (widget.linked chosen base).2.mount attachment (widget.linked chosen base).1 title

theorem Displays.install (displays : widget.Displays owner nodes) (notReady : widget.ready = false)
    {attachment : ElementId} (attached : owner attachment = .page) (chosen base : Node) (title : Option String) :
    ∃ owner', (widget.install attachment chosen base title).Displays owner' nodes := by
  obtain ⟨owner', linked, isLink, kept⟩ := displays.linked notReady chosen base
  exact ⟨owner', linked.mount notReady (kept attachment attached) isLink title⟩

/-! ### The beginning -/

/-- What making a window comes to. -/
structure IsWindow (before : Elements Listener) (window : Window) (after : Elements Listener) : Prop where
  named : window.parts = [0, 1, 2, 3, 5].map (before.table.size + ·)
  size : after.table.size = before.table.size + 6
  same : ∀ id < before.table.size, after.get id = before.get id
  free : (after.get window.frame).parent = none
  empty : (after.get window.chat).children = []
  plain : (after.get window.title).children = []
  quiet : (after.get window.input).listeners = []

namespace IsWindow

variable {before after : Elements Listener} {window : Window}

theorem part (made : IsWindow before window after) {id : ElementId} (member : id ∈ window.parts) :
    before.table.size ≤ id ∧ id < after.table.size := by
  rw [made.named] at member
  obtain ⟨offset, few, rfl⟩ := List.mem_map.mp member
  have small : offset < 6 := by
    simp only [List.mem_cons, List.not_mem_nil, or_false] at few
    omega
  rw [made.size]
  exact ⟨Nat.le_add_right _ _, Nat.add_lt_add_left small _⟩

theorem distinct (made : IsWindow before window after) : window.parts.Nodup := by
  rw [made.named]
  refine List.Nodup.map ?_ (by decide)
  intro i j equal
  exact Nat.add_left_cancel equal

end IsWindow

theorem create_eq (elements : Elements Listener) :
    ∃ made : List (Element Listener), made.length = 6 ∧
      (∀ e ∈ made, e.parent = none ∧ e.children = [] ∧ e.listeners = []) ∧
      Window.create elements =
        (⟨elements.table.size, elements.table.size + 1, elements.table.size + 2, elements.table.size + 3,
          elements.table.size + 5⟩,
         ((elements.createAll made).append (elements.table.size + 4) (elements.table.size + 5)).appendAll
           elements.table.size [elements.table.size + 1, elements.table.size + 2, elements.table.size + 3,
            elements.table.size + 4]) := by
  refine ⟨[?frame, ?handle, ?title, ?chat, ?footer, ?input], rfl, ?plain, ?same⟩
  case same =>
    unfold Window.create
    simp only [Elements.create, Array.size_push]
    rfl
  case plain => simp

theorem create_isWindow (elements : Elements Listener) :
    IsWindow elements (Window.create elements).1 (Window.create elements).2 := by
  obtain ⟨made, six, plain, same⟩ := create_eq elements
  rw [same]
  dsimp only
  have size := Elements.size_createAll elements made
  rw [six] at size
  have old : ∀ id < elements.table.size, (elements.createAll made).get id = elements.get id :=
    fun id inside => Elements.get_createAll_old inside made
  have blank : ∀ offset < 6, ((elements.createAll made).get (elements.table.size + offset)).parent = none ∧
      ((elements.createAll made).get (elements.table.size + offset)).children = [] ∧
      ((elements.createAll made).get (elements.table.size + offset)).listeners = [] := by
    intro offset few
    exact plain _ (Elements.get_createAll_new elements (by rw [six]; exact few))
  have inside : ∀ offset < 6, elements.table.size + offset < (elements.createAll made).table.size := by
    intro offset few
    rw [size]
    exact Nat.add_lt_add_left few _
  generalize start : elements.table.size = n at *
  have first := Elements.get_append (blank 5 (by decide)).1 (inside 5 (by decide)) (inside 4 (by decide))
    (by simp)
  have firstSize := Elements.size_append (elements.createAll made) (n + 4) (n + 5)
  generalize (elements.createAll made).append (n + 4) (n + 5) = joined at first firstSize
  have second := @Elements.get_appendAll _ joined n [n + 1, n + 2, n + 3, n + 4]
    (by
      intro child member
      simp only [List.mem_cons, List.not_mem_nil, or_false] at member
      rcases member with rfl | rfl | rfl | rfl
      · simpa [first] using (blank 1 (by decide)).1
      · simpa [first] using (blank 2 (by decide)).1
      · simpa [first] using (blank 3 (by decide)).1
      · simpa [first] using (blank 4 (by decide)).1)
    (by simp)
    (by
      intro child member
      rw [firstSize]
      simp only [List.mem_cons, List.not_mem_nil, or_false] at member
      rcases member with rfl | rfl | rfl | rfl
      · exact inside 1 (by decide)
      · exact inside 2 (by decide)
      · exact inside 3 (by decide)
      · exact inside 4 (by decide))
    (by rw [firstSize]; exact inside 0 (by decide)) (by simp)
  have secondSize := Elements.size_appendAll joined n [n + 1, n + 2, n + 3, n + 4]
  refine ⟨by rw [start]; rfl, ?_, ?_, ?_, ?_, ?_, ?_⟩
  · rw [secondSize, firstSize, size, start]
  · intro id early
    rw [start] at early
    have below : ∀ offset, id ≠ n + offset := fun offset =>
      Nat.ne_of_lt (Nat.lt_of_lt_of_le early (Nat.le_add_right n offset))
    have notFrame : id ≠ n := below 0
    rw [second, if_neg notFrame, if_neg (by simp [below]), first, if_neg (below 4), if_neg (below 5),
      old id early]
  · have parent := (blank 0 (by decide)).1
    simpa [second, first] using parent
  · have children := (blank 3 (by decide)).2.1
    simpa [second, first] using children
  · have children := (blank 2 (by decide)).2.1
    simpa [second, first] using children
  · have listeners := (blank 5 (by decide)).2.2
    simpa [second, first, Element.under] using listeners

/-- Whose the elements are when a window has been made. -/
def firstOwner (before after : Elements Listener) (id : ElementId) : Owner :=
  if id < before.table.size then .page else if id < after.table.size then .window else .nobody

theorem firstOwner_eq_page {before after : Elements Listener} {id : ElementId} :
    firstOwner before after id = .page ↔ id < before.table.size := by
  unfold firstOwner
  split
  next inside => simp [inside]
  next outside =>
    split
    · simp [outside]
    · simp [outside]

theorem firstOwner_window {before after : Elements Listener} {id : ElementId} (late : before.table.size ≤ id)
    (inside : id < after.table.size) : firstOwner before after id = .window := by
  unfold firstOwner
  rw [if_neg (Nat.not_lt_of_le late), if_pos inside]

theorem inside_of_firstOwner {before after : Elements Listener} (grown : before.table.size ≤ after.table.size)
    {id : ElementId} (owned : firstOwner before after id ≠ .nobody) : id < after.table.size := by
  unfold firstOwner at owned
  split at owned
  next inside => exact Nat.lt_of_lt_of_le inside grown
  next =>
    split at owned
    next inside => exact inside
    next => exact absurd rfl owned

theorem create_displays {document : Document} {elements : Elements Listener}
    (closed : ∀ id, ∀ child ∈ (elements.get id).children, child < elements.table.size)
    (root : document.root < elements.table.size) (head : document.head < elements.table.size) :
    ∃ owner, (Widget.create document elements).Displays owner [] := by
  have made := create_isWindow elements
  change ∃ owner, ({ elements := (Window.create elements).2, document, window := (Window.create elements).1 } :
    Widget).Displays owner []
  generalize (Window.create elements).1 = window at made
  generalize (Window.create elements).2 = after at made
  refine ⟨firstOwner elements after, fun id owned => inside_of_firstOwner (by rw [made.size]; omega) owned, ?_,
    made.distinct, .of_childless ?_ made.empty, ?_, made.plain, made.quiet, ?_⟩
  · intro id member
    obtain ⟨late, inside⟩ := made.part member
    exact firstOwner_window late inside
  · exact (@IsWindow.part _ _ _ made window.chat (by simp [Window.parts])).2
  · change Elements.AllShow after _ (after.get window.chat).children []
    rw [made.empty, Elements.AllShow]
    trivial
  · intro _
    refine ⟨made.free, firstOwner_eq_page.mpr root, firstOwner_eq_page.mpr head, ?_⟩
    intro id isPage child member
    have inside := firstOwner_eq_page.mp isPage
    change child ∈ (after.get id).children at member
    rw [made.same id inside] at member
    exact firstOwner_eq_page.mpr (closed id child member)

end Widget

end ChatWidget
