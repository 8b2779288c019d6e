import ChatWidget.Proofs.Page.Links
import ChatWidget.Widget.Basic
/-!
What mounting a widget does to each single element: it sets a title, puts the window under an element, and adds
three listeners.
-/
namespace ChatWidget

/-- The elements of a window that the widget works with, as a list. -/
def Window.parts (window : Window) : List ElementId :=
  [window.frame, window.handle, window.title, window.chat, window.input]

namespace Widget

theorem get_setTextContent {elements : Elements Listener} {id : ElementId}
    (plain : (elements.get id).children = []) (inside : id < elements.table.size) (text : String)
    (other : ElementId) :
    (elements.setTextContent id text).get other =
      { elements.get other with text := if other = id then text else (elements.get other).text } := by
  rw [Elements.setTextContent, Elements.clear, plain, List.foldl_nil, Elements.get_modify _ _ _ _ inside]
  by_cases same : other = id
  · subst same
    rw [if_pos rfl, if_pos rfl]
  · rw [if_neg same, if_neg same]

theorem size_setTextContent {elements : Elements Listener} {id : ElementId}
    (plain : (elements.get id).children = []) (text : String) :
    (elements.setTextContent id text).table.size = elements.table.size := by
  rw [Elements.setTextContent, Elements.clear, plain, List.foldl_nil, Elements.size_modify]

/-- The listeners of a mounted widget, by the elements they listen to. -/
def listenersAt (window : Window) (link id : ElementId) : List (String × Listener) :=
  if id = link then [("load", .scrollToEnd window.chat)]
  else if id = window.handle then [("click", .toggleWindow window.frame)]
  else if id = window.input then [("keyup", .sendOnEnter)]
  else []

/-- May a window be mounted at an element, with another one for the link to a stylesheet? -/
structure IsMountable (widget : Widget) (attachment link : ElementId) : Prop where
  inside : ∀ id ∈ attachment :: link :: widget.window.parts, id < widget.elements.table.size
  free : (widget.elements.get widget.window.frame).parent = none
  plain : (widget.elements.get widget.window.title).children = []
  apart : attachment ≠ widget.window.frame
  distinct : (link :: widget.window.parts).Nodup

theorem IsMountable.insidePart {widget : Widget} {attachment link : ElementId}
    (mountable : widget.IsMountable attachment link) {part : ElementId} (member : part ∈ widget.window.parts) :
    part < widget.elements.table.size :=
  mountable.inside part (List.mem_cons_of_mem _ (List.mem_cons_of_mem _ member))

theorem get_mountUntitled {widget : Widget} {attachment link : ElementId}
    (mountable : widget.IsMountable attachment link) (id : ElementId) :
    (widget.mount attachment link none).elements.get id = { widget.elements.get id with
      parent := if id = widget.window.frame then some attachment else (widget.elements.get id).parent
      children := if id = attachment then (widget.elements.get id).children ++ [widget.window.frame]
        else (widget.elements.get id).children
      listeners := (widget.elements.get id).listeners ++ listenersAt widget.window link id } := by
  have part : ∀ {part : ElementId}, part ∈ widget.window.parts → part < widget.elements.table.size :=
    mountable.insidePart
  have onFrame := Elements.get_append mountable.free (part (by simp [Window.parts]))
    (mountable.inside attachment (by simp)) mountable.apart
  have size := Elements.size_append widget.elements attachment widget.window.frame
  unfold Widget.mount
  dsimp only
  generalize widget.elements.append attachment widget.window.frame = first at onFrame size
  have input : widget.window.input < first.table.size := size.symm ▸ part (by simp [Window.parts])
  have handle : widget.window.handle < first.table.size := size.symm ▸ part (by simp [Window.parts])
  have linked : link < first.table.size := size.symm ▸ mountable.inside link (by simp)
  rw [Elements.get_listen _ _ (by rw [Elements.size_listen, Elements.size_listen]; exact input),
    Elements.get_listen _ _ (by rw [Elements.size_listen]; exact handle), Elements.get_listen _ _ linked]
  have joined : first.get id = { widget.elements.get id with
      parent := if id = widget.window.frame then some attachment else (widget.elements.get id).parent
      children := if id = attachment then (widget.elements.get id).children ++ [widget.window.frame]
        else (widget.elements.get id).children } := by
    rw [onFrame]
    by_cases isAttachment : id = attachment
    · subst isAttachment
      rw [if_pos rfl, if_pos rfl, if_neg mountable.apart]
      rfl
    · rw [if_neg isAttachment, if_neg isAttachment]
      by_cases isFrame : id = widget.window.frame
      · subst isFrame
        rw [if_pos rfl, if_pos rfl]
        rfl
      · rw [if_neg isFrame, if_neg isFrame]
  have listening : (if id = link then [("load", Listener.scrollToEnd widget.window.chat)] else []) ++
      ((if id = widget.window.handle then [("click", .toggleWindow widget.window.frame)] else []) ++
        if id = widget.window.input then [("keyup", .sendOnEnter)] else []) =
      listenersAt widget.window link id := by
    have distinct := mountable.distinct
    simp only [Window.parts, List.nodup_cons, List.mem_cons, not_or] at distinct
    obtain ⟨⟨-, linkHandle, -, -, linkInput, -⟩, -, ⟨-, -, handleInput, -⟩, -⟩ := distinct
    unfold listenersAt
    by_cases isLink : id = link
    · simp [isLink, linkHandle, linkInput]
    · by_cases isHandle : id = widget.window.handle
      · simp [isHandle, Ne.symm linkHandle, handleInput]
      · simp [isLink, isHandle]
  rw [joined, ← listening]
  simp only [List.append_assoc]

/-- What mounting does to each element. -/
theorem get_mount {widget : Widget} {attachment link : ElementId}
    (mountable : widget.IsMountable attachment link) (title : Option String) (id : ElementId) :
    (widget.mount attachment link title).elements.get id = { widget.elements.get id with
      text := if id = widget.window.title then title.getD (widget.elements.get id).text
        else (widget.elements.get id).text
      parent := if id = widget.window.frame then some attachment else (widget.elements.get id).parent
      children := if id = attachment then (widget.elements.get id).children ++ [widget.window.frame]
        else (widget.elements.get id).children
      listeners := (widget.elements.get id).listeners ++ listenersAt widget.window link id } := by
  cases title with
  | none =>
    rw [get_mountUntitled mountable]
    simp
  | some text =>
    have onTitle := get_setTextContent mountable.plain (mountable.insidePart (by simp [Window.parts])) text
    have size := size_setTextContent mountable.plain text
    have titled : { widget with
        elements := widget.elements.setTextContent widget.window.title text }.IsMountable attachment link := by
      refine ⟨?_, ?_, ?_, mountable.apart, mountable.distinct⟩
      · dsimp only
        rw [size]
        exact mountable.inside
      · dsimp only
        rw [onTitle]
        exact mountable.free
      · dsimp only
        rw [onTitle]
        exact mountable.plain
    have mounted := get_mountUntitled titled id
    dsimp only at mounted
    rw [onTitle] at mounted
    exact mounted

theorem mount_window (widget : Widget) (attachment link : ElementId) (title : Option String) :
    (widget.mount attachment link title).window = widget.window := by
  unfold mount
  rfl

theorem mount_document (widget : Widget) (attachment link : ElementId) (title : Option String) :
    (widget.mount attachment link title).document = widget.document := by
  unfold mount
  rfl

theorem mount_ready (widget : Widget) (attachment link : ElementId) (title : Option String) :
    (widget.mount attachment link title).ready = true := rfl

theorem size_mount (widget : Widget) (attachment link : ElementId) (title : Option String) :
    (widget.mount attachment link title).elements.table.size = widget.elements.table.size := by
  unfold mount
  dsimp only
  rw [Elements.size_listen, Elements.size_listen, Elements.size_listen, Elements.size_append]
  cases title with
  | none => rfl
  | some text => exact (Elements.size_modify _ _ _).trans (Elements.size_removeAll _ _)

end Widget

end ChatWidget
