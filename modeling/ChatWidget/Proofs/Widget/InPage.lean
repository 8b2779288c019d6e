import ChatWidget.Proofs.Page.Walled
import ChatWidget.Proofs.Widget.Display
import Mathlib.Data.List.Find
/-!
What mounting a widget does to its page. Until then the page has nothing of the widget, and the chat lives
behind a wall of its own; mounting puts two elements into the head, the window at one place and three
listeners on, and nothing that happens in the chat later touches any of these.
-/
namespace ChatWidget.Widget

open Markup (Node)

/-! ### Changes of the chat -/

/-- Has a widget come from another one by changes within a wall around the chat? -/
structure Stays (own : ElementId → Prop) (before widget : Widget) : Prop where
  same : widget = { before with elements := widget.elements }
  walled : Elements.IsWalled own before.window.chat before.elements widget.elements

namespace Stays

variable {own : ElementId → Prop} {before widget : Widget}

theorem refl (walled : Elements.IsWalled own widget.window.chat widget.elements widget.elements) :
    Stays own widget widget := ⟨rfl, walled⟩

theorem window (stays : Stays own before widget) : widget.window = before.window := by
  rw [stays.same]

theorem document (stays : Stays own before widget) : widget.document = before.document := by
  rw [stays.same]

theorem ready (stays : Stays own before widget) : widget.ready = before.ready := by
  rw [stays.same]

theorem within (stays : Stays own before widget) {elements : Elements Listener}
    (walled : Elements.IsWalled own before.window.chat before.elements elements) :
    Stays own before { widget with elements := elements } := by
  refine ⟨?_, walled⟩
  rw [stays.same]

theorem addNode (stays : Stays own before widget) (node : Node) :
    Stays own before (widget.addNode widget.window.chat node).2 := by
  refine stays.within ?_
  rw [stays.window]
  exact stays.walled.addNode node

theorem clearChat (stays : Stays own before widget) : Stays own before widget.clearChat := by
  refine stays.within ?_
  rw [stays.window]
  exact stays.walled.clear

theorem removePlaceholders (stays : Stays own before widget) : Stays own before widget.removePlaceholders := by
  refine stays.within (stays.walled.removeAll ?_)
  unfold placeholders
  rw [stays.window]
  exact fun id member => stays.walled.descendants id (List.mem_filter.mp member).1

theorem scrollToEnd (stays : Stays own before widget) : Stays own before widget.scrollToEnd := by
  refine stays.within ?_
  rw [stays.window]
  refine stays.walled.modify (.inr rfl) ?_ ?_ rfl
  · exact fun _ member => .inl member
  · exact fun _ same => .inl same

end Stays

/-! ### A widget on an empty page -/

def fresh : Widget :=
  let page := Document.create ({} : Elements Listener)
  create page.1 page.2

theorem fresh_size : fresh.elements.table.size = 9 := by decide

theorem fresh_frame : ∀ id < 9, fresh.window.frame ∉ (fresh.elements.get id).children := by decide

theorem fresh_listeners (id : ElementId) : (fresh.elements.get id).listeners = [] := by
  by_cases inside : id < 9
  · have none : ∀ id < 9, (fresh.elements.get id).listeners.isEmpty = true := by decide
    exact List.isEmpty_iff.mp (none id inside)
  · rw [Elements.get_outside _ (by rw [fresh_size]; exact Nat.le_of_not_lt inside)]
    rfl

/-- Is an element none of those that a widget on an empty page begins with? -/
def IsLater (id : ElementId) : Prop := fresh.elements.table.size ≤ id

theorem not_isLater {id : Nat} (few : id < 9) : ¬ IsLater id := by
  unfold IsLater
  rw [fresh_size]
  exact Nat.not_le_of_lt few

/-- Is nothing of a widget in its page yet? -/
structure IsUntouched (widget : Widget) : Prop where
  notReady : widget.ready = false
  head : (widget.elements.get widget.document.head).children = []
  free : (widget.elements.get widget.window.frame).parent = none
  title : (widget.elements.get widget.window.title).children = [] ∧
    (widget.elements.get widget.window.title).text = "Title"
  deaf : ∀ id, (widget.elements.get id).listeners = []

theorem fresh_stays : Stays IsLater fresh fresh := .refl (.start (by decide) (by decide))

/-- Whatever happens in the chat, a widget on an empty page does not touch it. -/
theorem Stays.untouched {widget : Widget} (stays : Stays IsLater fresh widget) : widget.IsUntouched := by
  have outside : ∀ id < 9, id ≠ fresh.window.chat → ∃ value,
      widget.elements.get id = (fresh.elements.get id).valued value :=
    fun id few => stays.walled.same id (not_isLater few)
  refine ⟨stays.ready, ?_, ?_, ?_, ?_⟩
  · obtain ⟨value, same⟩ := outside fresh.document.head (by decide) (by decide)
    rw [stays.document, same]
    rfl
  · obtain ⟨value, same⟩ := outside fresh.window.frame (by decide) (by decide)
    rw [stays.window, same]
    rfl
  · obtain ⟨value, same⟩ := outside fresh.window.title (by decide) (by decide)
    rw [stays.window, same]
    exact ⟨rfl, rfl⟩
  · intro id
    rw [stays.walled.deaf, fresh_listeners]

/-! ### Finding a place -/

theorem meets_valued (selector : Selector) (element : Element Listener) (value : Json) :
    selector.meets (element.valued value) = selector.meets element := by
  cases selector with
  | identifier name => rfl
  | className name => rfl
  | tag name => rfl

theorem query_page {elements : Elements Listener} (large : 2 ≤ elements.table.size)
    (root : (elements.get 0).children = [1, 2]) (head : (elements.get 1).children = [])
    (body : (elements.get 2).children = []) (selector : Json) :
    fresh.document.query elements selector = (do
      let selector ← Elements.selectorFor selector [0]
      pure ([0, 1, 2].find? fun id => selector.meets (elements.get id))) := by
  have below : elements.descendants 0 = [1, 2] := by
    obtain ⟨depth, size⟩ := Nat.exists_eq_add_of_le' large
    simp [Elements.descendants, size, Elements.descendantsWithin, root, head, body]
  have isRoot : fresh.document.root = 0 := rfl
  unfold Document.query Elements.query?
  rw [isRoot, below]
  congr 1
  funext selector
  cases meets : selector.meets (elements.get 0) with
  | true => simp [meets]
  | false => simp [meets]

theorem query_onPage {selector : Json} {found : ElementId}
    (isFound : fresh.document.query fresh.elements selector = .ok (some found)) : found < 3 := by
  rw [query_page (by decide) (by decide) (by decide) (by decide)] at isFound
  obtain ⟨chosen, -, rest⟩ := bind_ok isFound
  have few : ∀ id ∈ ([0, 1, 2] : List ElementId), id < 3 := by decide
  exact few found (List.mem_of_find?_eq_some (Except.ok.inj rest))

theorem Stays.query {widget : Widget} (stays : Stays IsLater fresh widget) (selector : Json) :
    widget.document.query widget.elements selector = fresh.document.query fresh.elements selector := by
  have outside : ∀ id : Nat, id < 3 → ∃ value,
      widget.elements.get id = (fresh.elements.get id).valued value := by
    intro id few
    have notChat : id ≠ 6 := by omega
    exact stays.walled.same id (not_isLater (by omega)) notChat
  have children : ∀ id : Nat, id < 3 → (widget.elements.get id).children = (fresh.elements.get id).children := by
    intro id few
    obtain ⟨value, same⟩ := outside id few
    rw [same]
    rfl
  have large : 2 ≤ widget.elements.table.size := by
    have grown := stays.walled.grown
    rw [fresh_size] at grown
    omega
  rw [stays.document, query_page large (children 0 (by decide)) (children 1 (by decide)) (children 2 (by decide)),
    query_page (by decide) (by decide) (by decide) (by decide)]
  congr 1
  funext selector
  congr 1
  refine List.find?_congr fun id member => ?_
  have few : ∀ id ∈ ([0, 1, 2] : List ElementId), id < 3 := by decide
  obtain ⟨value, same⟩ := outside id (few id member)
  rw [same, meets_valued]

/-! ### Being mounted -/

theorem linked_ne (widget : Widget) (chosen base : Node) :
    (widget.addNode widget.document.head chosen).1 ≠ (widget.linked chosen base).1 := by
  have first := Elements.graft_isGrafted widget.elements chosen
  have second := Elements.graft_isGrafted (widget.addNode widget.document.head chosen).2.elements base
  have size : (widget.addNode widget.document.head chosen).2.elements.table.size =
      (widget.elements.graft chosen).2.table.size := Elements.size_append _ _ _
  have isFirst : (widget.addNode widget.document.head chosen).1 = widget.elements.table.size := first.first
  have isSecond : (widget.linked chosen base).1 =
      (widget.addNode widget.document.head chosen).2.elements.table.size := second.first
  rw [isFirst, isSecond, size]
  exact Nat.ne_of_lt first.grown

theorem linked_window (widget : Widget) (chosen base : Node) :
    (widget.linked chosen base).2.window = widget.window := rfl

theorem linked_document (widget : Widget) (chosen base : Node) :
    (widget.linked chosen base).2.document = widget.document := rfl

theorem install_window (widget : Widget) (attachment : ElementId) (chosen base : Node) (title : Option String) :
    (widget.install attachment chosen base title).window = widget.window := by
  rw [install, mount_window, linked_window]

theorem install_document (widget : Widget) (attachment : ElementId) (chosen base : Node) (title : Option String) :
    (widget.install attachment chosen base title).document = widget.document := by
  rw [install, mount_document, linked_document]

/-- Is a widget in its page once, at one place, with two elements in the head for these nodes, and is nobody
listening but the three listeners of a mounted widget? -/
structure IsInstalled (widget : Widget) (kind : ElementId → Prop) (attachment : ElementId)
    (chosen base : Node) : Prop where
  ready : widget.ready = true
  parent : (widget.elements.get widget.window.frame).parent = some attachment
  once : ∀ id, (widget.elements.get id).children.count widget.window.frame = if id = attachment then 1 else 0
  links : ∃ first second,
    (widget.elements.get widget.document.head).children =
      [first, second] ++ (if attachment = widget.document.head then [widget.window.frame] else []) ∧
    first ≠ second ∧ (second :: widget.window.parts).Nodup ∧
    widget.elements.Shows kind first chosen ∧ widget.elements.Shows kind second base ∧
    ∀ id, (widget.elements.get id).listeners = listenersAt widget.window second id

variable {widget : Widget}

theorem IsInstalled.listening {kind : ElementId → Prop} {attachment : ElementId} {chosen base : Node}
    (installed : widget.IsInstalled kind attachment chosen base) :
    ∀ listener ∈ widget.elements.listenersFor widget.window.input "keyup", listener = .sendOnEnter := by
  unfold Elements.listenersFor
  intro listener member
  obtain ⟨first, second, -, -, -, -, -, listeners⟩ := installed.links
  rw [listeners, listenersAt] at member
  split_ifs at member with isLink isHandle isInput
  · simp at member
  · simp at member
  · simpa using member
  · simp at member

theorem Stays.large (stays : Stays IsLater fresh widget) : 9 ≤ widget.elements.table.size := by
  have grown := stays.walled.grown
  rw [fresh_size] at grown
  exact grown

theorem Stays.linked (stays : Stays IsLater fresh widget) (chosen base : Node) :
    Elements.AreGrafted widget.elements fresh.document.head [chosen, base]
      [(widget.addNode widget.document.head chosen).1, (widget.linked chosen base).1]
      (widget.linked chosen base).2.elements := by
  have inside : fresh.document.head < widget.elements.table.size :=
    Nat.lt_of_lt_of_le (by decide) stays.large
  have later := (Elements.append_graft_areGrafted widget.elements inside chosen).grown
  rw [← stays.document] at inside later ⊢
  exact Elements.IsGrafted.cons inside (Elements.graft_isGrafted widget.elements chosen)
    (Elements.append_graft_areGrafted _ (Nat.lt_of_lt_of_le inside later) base)

theorem Stays.linked_listeners (stays : Stays IsLater fresh widget) (chosen base : Node) (id : ElementId) :
    ((widget.linked chosen base).2.elements.get id).listeners = [] := by
  have inside : widget.document.head < widget.elements.table.size := by
    rw [stays.document]
    exact Nat.lt_of_lt_of_le (by decide) stays.large
  have walled := ((Elements.IsWalled.start inside stays.untouched.head).addNode chosen).addNode base
  exact (walled.deaf id).trans (stays.untouched.deaf id)

theorem Stays.linked_same (stays : Stays IsLater fresh widget) (chosen base : Node) {id : Nat}
    (few : id < widget.elements.table.size) (other : id ≠ fresh.document.head) :
    (widget.linked chosen base).2.elements.get id = widget.elements.get id :=
  (stays.linked chosen base).same id few other

theorem Stays.linked_frame (stays : Stays IsLater fresh widget) (chosen base : Node) (id : ElementId) :
    fresh.window.frame ∉ ((widget.linked chosen base).2.elements.get id).children := by
  have linked := stays.linked chosen base
  have large := stays.large
  have notNew : ¬ Elements.Between widget.elements (widget.linked chosen base).2.elements fresh.window.frame := by
    intro between
    have late : widget.elements.table.size ≤ 3 := between.1
    omega
  have notLater : ¬ IsLater fresh.window.frame := not_isLater (by decide)
  intro member
  by_cases old : id < widget.elements.table.size
  · by_cases isHead : id = fresh.document.head
    · have childless := stays.untouched.head
      rw [stays.document] at childless
      rw [isHead, linked.listed, Element.holding_children, childless, List.nil_append] at member
      exact notNew (linked.new _ member)
    · rw [stays.linked_same chosen base old isHead] at member
      by_cases within : IsLater id ∨ id = fresh.window.chat
      · exact notLater (stays.walled.below id within _ member).1
      · rw [not_or] at within
        obtain ⟨value, same⟩ := stays.walled.same id within.1 within.2
        rw [same] at member
        refine fresh_frame id ?_ member
        have early := within.1
        unfold IsLater at early
        rw [fresh_size] at early
        exact Nat.lt_of_not_le early
  · have inside := Elements.inside_of_children member
    exact notNew (linked.closed id ⟨Nat.le_of_not_lt old, inside⟩ _ member)

theorem Stays.mountable (stays : Stays IsLater fresh widget) (chosen base : Node) {attachment : ElementId}
    (onPage : attachment < 3) :
    (widget.linked chosen base).2.IsMountable attachment (widget.linked chosen base).1 := by
  have linked := stays.linked chosen base
  have large := stays.large
  have new := linked.new (widget.linked chosen base).1 (by simp)
  have window : (widget.linked chosen base).2.window = fresh.window := by rw [linked_window, stays.window]
  have small : ∀ id ∈ fresh.window.parts, id < 9 ∧ id ≠ fresh.document.head := by decide
  have old : ∀ id ∈ fresh.window.parts,
      (widget.linked chosen base).2.elements.get id = widget.elements.get id := fun id part =>
    stays.linked_same chosen base (Nat.lt_of_lt_of_le (small id part).1 large) (small id part).2
  refine ⟨?_, ?_, ?_, ?_, ?_⟩
  · rw [window]
    intro id member
    rcases List.mem_cons.mp member with rfl | member
    · exact Nat.lt_of_lt_of_le (Nat.lt_of_lt_of_le onPage (by decide)) (Nat.le_trans large linked.grown)
    · rcases List.mem_cons.mp member with rfl | part
      · exact new.2
      · exact Nat.lt_of_lt_of_le (small id part).1 (Nat.le_trans large linked.grown)
  · have free := stays.untouched.free
    rw [stays.window] at free
    rw [window, old _ (by decide)]
    exact free
  · have plain := stays.untouched.title.1
    rw [stays.window] at plain
    rw [window, old _ (by decide)]
    exact plain
  · rw [window]
    exact Nat.ne_of_lt onPage
  · rw [window, List.nodup_cons]
    refine ⟨?_, by decide⟩
    intro part
    exact Nat.not_lt_of_le (Nat.le_trans large new.1) (small _ part).1

def IsLinks (widget : Widget) (chosen base : Node) (id : ElementId) : Prop :=
  Elements.Between widget.elements (widget.linked chosen base).2.elements id

/-- The elements within the wall around the chat once the widget is mounted. -/
def IsChats (widget : Widget) (chosen base : Node) (id : ElementId) : Prop :=
  IsLater id ∧ ¬ IsLinks widget chosen base id

theorem Stays.isLater_links (stays : Stays IsLater fresh widget) {chosen base : Node} {id : ElementId}
    (isLink : IsLinks widget chosen base id) : IsLater id :=
  Nat.le_trans stays.walled.grown isLink.1

/-- An element for a stylesheet looks the same before and after, as it is no part of the window. -/
theorem Stays.face_install (stays : Stays IsLater fresh widget) (chosen base : Node) {attachment : ElementId}
    (onPage : attachment < 3) (title : Option String) {id : ElementId} (isLink : IsLinks widget chosen base id) :
    ((widget.install attachment chosen base title).elements.get id).face =
      ((widget.linked chosen base).2.elements.get id).face := by
  have effect : ∀ id, (widget.install attachment chosen base title).elements.get id = _ :=
    get_mount (stays.mountable chosen base onPage) title
  rw [linked_window, stays.window] at effect
  have later := stays.isLater_links isLink
  have notTitle : id ≠ fresh.window.title := fun same => not_isLater (by decide) (same ▸ later)
  have notAttachment : id ≠ attachment := by
    rintro rfl
    exact not_isLater (Nat.lt_trans onPage (by decide)) later
  rw [effect]
  simp only [Element.face, if_neg notTitle, if_neg notAttachment]

theorem Stays.links_install (stays : Stays IsLater fresh widget) (chosen base : Node) {attachment : ElementId}
    (onPage : attachment < 3) (title : Option String) {id : ElementId} (within : IsLater id ∨ id = fresh.window.chat)
    (old : id < widget.elements.table.size) :
    ((widget.install attachment chosen base title).elements.get id).children = (widget.elements.get id).children ∧
      ((widget.install attachment chosen base title).elements.get id).parent = (widget.elements.get id).parent := by
  have effect : ∀ id, (widget.install attachment chosen base title).elements.get id = _ :=
    get_mount (stays.mountable chosen base onPage) title
  rw [linked_window, stays.window] at effect
  have notSmall : ∀ other : Nat, other < 9 → other ≠ fresh.window.chat → id ≠ other := by
    rintro other few notChat rfl
    exact within.elim (not_isLater few) notChat
  have notChat : attachment ≠ fresh.window.chat := Nat.ne_of_lt (Nat.lt_trans onPage (by decide))
  rw [effect]
  dsimp only
  rw [if_neg (notSmall attachment (Nat.lt_trans onPage (by decide)) notChat),
    if_neg (notSmall fresh.window.frame (by decide) (by decide)),
    stays.linked_same chosen base old (notSmall fresh.document.head (by decide) (by decide))]
  exact ⟨rfl, rfl⟩

/-- A widget whose chat is all that has changed is mounted once, with one element for each stylesheet. -/
theorem Stays.installed (stays : Stays IsLater fresh widget) (chosen base : Node) {attachment : ElementId}
    (onPage : attachment < 3) (title : Option String) :
    (widget.install attachment chosen base title).IsInstalled (IsLinks widget chosen base) attachment chosen
      base := by
  have linked := stays.linked chosen base
  have effect : ∀ id, (widget.install attachment chosen base title).elements.get id = _ :=
    get_mount (stays.mountable chosen base onPage) title
  have window := install_window widget attachment chosen base title
  have document := install_document widget attachment chosen base title
  rw [linked_window] at effect
  rw [stays.window] at window effect
  rw [stays.document] at document
  have shows := linked.shows
  rw [Elements.AllShow, Elements.AllShow] at shows
  have distinct := (stays.mountable chosen base onPage).distinct
  rw [linked_window, stays.window] at distinct
  refine ⟨mount_ready _ _ _ _, ?_, ?_, (widget.addNode widget.document.head chosen).1, (widget.linked chosen base).1,
    ?_, linked_ne widget chosen base, by rw [window]; exact distinct,
    shows.1.frame fun id isLink => ⟨isLink, stays.face_install chosen base onPage title isLink⟩,
    shows.2.1.frame fun id isLink => ⟨isLink, stays.face_install chosen base onPage title isLink⟩, ?_⟩
  · rw [window, effect, if_pos rfl]
  · intro id
    have none := List.count_eq_zero_of_not_mem (stays.linked_frame chosen base id)
    rw [window, effect]
    dsimp only
    split
    next => rw [List.count_append, none, List.count_singleton_self]
    next => exact none
  · have childless := stays.untouched.head
    rw [stays.document] at childless
    rw [window, document, effect]
    dsimp only
    rw [linked.listed, Element.holding_children, childless, List.nil_append]
    by_cases isHead : attachment = fresh.document.head
    · rw [if_pos isHead.symm, if_pos isHead]
    · rw [if_neg (Ne.symm isHead), if_neg isHead, List.append_nil]
  · intro id
    rw [window, effect]
    dsimp only
    rw [stays.linked_listeners, List.nil_append]

/-- Once a widget is mounted its chat is behind a wall again, with what came in for stylesheets outside. -/
theorem Stays.walledAgain (stays : Stays IsLater fresh widget) (chosen base : Node) {attachment : ElementId}
    (onPage : attachment < 3) (title : Option String) :
    Stays (IsChats widget chosen base) (widget.install attachment chosen base title)
      (widget.install attachment chosen base title) := by
  have linked := stays.linked chosen base
  have size : (widget.install attachment chosen base title).elements.table.size =
      (widget.linked chosen base).2.elements.table.size := size_mount _ _ _ _
  have window := install_window widget attachment chosen base title
  rw [stays.window] at window
  have grown : widget.elements.table.size ≤ (widget.install attachment chosen base title).elements.table.size := by
    rw [size]
    exact linked.grown
  have isChats : ∀ id, IsLater id → id < widget.elements.table.size → IsChats widget chosen base id :=
    fun id later old => ⟨later, fun isLink => Nat.not_lt_of_le isLink.1 old⟩
  have outside : ∀ id, IsChats widget chosen base id → ¬ id < widget.elements.table.size →
      (widget.install attachment chosen base title).elements.get id = default := by
    intro id isChat new
    refine Elements.get_outside _ ?_
    rw [size]
    by_contra inside
    exact isChat.2 ⟨Nat.le_of_not_lt new, Nat.lt_of_not_le inside⟩
  refine .refl ?_
  rw [window]
  refine .refl (Nat.lt_of_lt_of_le stays.walled.inside grown) ?_ ?_ ?_
  · intro id late
    rw [size] at late
    exact ⟨Nat.le_trans (Nat.le_trans stays.walled.grown linked.grown) late,
      fun isLink => Nat.not_lt_of_le late isLink.2⟩
  · intro id within child member
    have widely : IsLater id ∨ id = fresh.window.chat := within.imp_left And.left
    by_cases old : id < widget.elements.table.size
    · rw [(stays.links_install chosen base onPage title widely old).1] at member
      obtain ⟨later, inside⟩ := stays.walled.below id widely child member
      exact ⟨isChats child later inside, Nat.lt_of_lt_of_le inside grown⟩
    · rcases within with isChat | rfl
      · rw [outside id isChat old] at member
        cases member
      · exact absurd stays.walled.inside old
  · intro id isChat parent isParent
    by_cases old : id < widget.elements.table.size
    · rw [(stays.links_install chosen base onPage title (.inl isChat.1) old).2] at isParent
      obtain ⟨within, inside⟩ := stays.walled.above id isChat.1 parent isParent
      exact ⟨within.imp_left fun later => isChats parent later inside, Nat.lt_of_lt_of_le inside grown⟩
    · rw [outside id isChat old] at isParent
      cases isParent

/-- A mounted widget stays as it was mounted, whatever happens in the chat. -/
theorem IsInstalled.stays {own : ElementId → Prop} {mounted : Widget} {attachment : ElementId}
    {chosen base : Node} {kind : ElementId → Prop} (installed : mounted.IsInstalled kind attachment chosen base)
    (walled : Stays own mounted mounted) (stays : Stays own mounted widget)
    (apart : ∀ id, kind id → ¬ own id ∧ id ≠ mounted.window.chat)
    (frame : ¬ own mounted.window.frame ∧ mounted.window.frame ≠ mounted.window.chat)
    (head : ¬ own mounted.document.head ∧ mounted.document.head ≠ mounted.window.chat) :
    widget.IsInstalled (fun _ => True) attachment chosen base := by
  have outside : ∀ id, ¬ own id ∧ id ≠ mounted.window.chat →
      (widget.elements.get id).face = (mounted.elements.get id).face ∧
      (widget.elements.get id).parent = (mounted.elements.get id).parent := by
    intro id out
    obtain ⟨value, same⟩ := stays.walled.same id out.1 out.2
    rw [same]
    exact ⟨rfl, rfl⟩
  have children : ∀ id, ¬ own id ∧ id ≠ mounted.window.chat →
      (widget.elements.get id).children = (mounted.elements.get id).children :=
    fun id out => congrArg (fun face => face.2.2.2.2) (outside id out).1
  obtain ⟨first, second, links, different, distinct, showsFirst, showsSecond, listeners⟩ := installed.links
  refine ⟨?_, ?_, ?_, first, second, ?_, different, by rw [stays.window]; exact distinct, ?_, ?_, ?_⟩
  · rw [stays.ready]
    exact installed.ready
  · rw [stays.window, (outside _ frame).2]
    exact installed.parent
  · intro id
    rw [stays.window, ← installed.once id]
    by_cases out : ¬ own id ∧ id ≠ mounted.window.chat
    · rw [children id out]
    · have within : own id ∨ id = mounted.window.chat := by
        by_contra not
        exact out (not_or.mp not)
      -- The window is under nothing within the wall, before and after.
      rw [List.count_eq_zero_of_not_mem fun member => frame.1 (stays.walled.below id within _ member).1,
        List.count_eq_zero_of_not_mem fun member => frame.1 (walled.walled.below id within _ member).1]
  · rw [stays.window, stays.document, children _ head]
    exact links
  · exact showsFirst.frame fun id isKind => ⟨trivial, (outside id (apart id isKind)).1⟩
  · exact showsSecond.frame fun id isKind => ⟨trivial, (outside id (apart id isKind)).1⟩
  · intro id
    rw [stays.window, stays.walled.deaf]
    exact listeners id

/-- After a widget was mounted it stays as it was mounted, as long as nothing but its chat changes. -/
theorem Stays.goesOn {earlier : Widget} (before : Stays IsLater fresh earlier) {chosen base : Node}
    {attachment : ElementId} (onPage : attachment < 3) {title : Option String}
    (stays : Stays (IsChats earlier chosen base) (earlier.install attachment chosen base title) widget) :
    widget.IsInstalled (fun _ => True) attachment chosen base := by
  have window := install_window earlier attachment chosen base title
  have document := install_document earlier attachment chosen base title
  rw [before.window] at window
  rw [before.document] at document
  refine (before.installed chosen base onPage title).stays (before.walledAgain chosen base onPage title) stays ?_ ?_ ?_
  · intro id isLink
    refine ⟨fun isChat => isChat.2 isLink, ?_⟩
    rw [window]
    rintro rfl
    exact not_isLater (by decide) (before.isLater_links isLink)
  · rw [window]
    exact ⟨fun isChat => not_isLater (by decide) isChat.1, by decide⟩
  · rw [window, document]
    exact ⟨fun isChat => not_isLater (by decide) isChat.1, by decide⟩

end ChatWidget.Widget
