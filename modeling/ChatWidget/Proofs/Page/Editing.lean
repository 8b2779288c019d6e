import ChatWidget.Proofs.Page.Dispatch
import ChatWidget.Proofs.Page.Order
/-!
Editing a page. A program edits the page, looks at it, and dispatches events, whose listeners are programs
themselves. Whatever programs do comes to the edits that are made, one after the other. So what an edit keeps holds
at every moment, and as long as no edit puts an element under itself or under one below it, the page is a forest.
-/
namespace ChatWidget

open Elements
open Op (Keeps)

variable {ι : Type}

/-! ### Edits -/

/-- A change of the elements of a page and of the links between them. -/
inductive Edit (ι : Type) where
  | create (tag : String) (attributes : List (String × Option String))
  /-- Make the first element of some markup, with all below it. -/
  | parse (markup : String)
  | append (parent : ElementId) (nodes : List ElementId)
  | remove (id : ElementId)
  | clear (id : ElementId)
  | setText (id : ElementId) (text : String)
  | listen (id : ElementId) (type : String) (listener : ι)

namespace Edit

/-- The elements after an edit. Markup without an element is refused. -/
def apply (elements : Elements ι) : Edit ι → Elements ι
  | .create tag attributes => (elements.create (.ofTag tag attributes)).2
  | .parse markup => match Markup.parse markup with
    | .ok node => (elements.graft node).2
    | .error _ => elements
  | .append parent nodes => elements.appendAll parent nodes
  | .remove id => elements.remove id
  | .clear id => elements.clear id
  | .setText id text => elements.setTextContent id text
  | .listen id type listener => elements.listen id type listener

def replay (edits : List (Edit ι)) : Elements ι := edits.foldl apply {}

/-- Does an edit put no element under itself or under one below it? -/
def IsLawful (elements : Elements ι) : Edit ι → Prop
  | .append parent nodes => elements.CanTake parent nodes
  | _ => True

/-- Are edits lawful, each where it is made? -/
def AreLawful (edits : List (Edit ι)) : Prop :=
  ∀ before edit, before ++ [edit] <+: edits → edit.IsLawful (replay before)

theorem AreLawful.nil : AreLawful ([] : List (Edit ι)) := by
  intro before edit made
  cases List.append_eq_nil_iff.mp (List.prefix_nil.mp made) |>.2

theorem AreLawful.concat {edits : List (Edit ι)} (lawful : AreLawful edits) (edit : Edit ι)
    (last : edit.IsLawful (replay edits)) : AreLawful (edits ++ [edit]) := by
  intro before other made
  rcases List.prefix_concat_iff.mp made with whole | earlier
  · obtain ⟨rfl, isLast⟩ := List.append_inj' whole rfl
    cases isLast
    exact last
  · exact lawful before other earlier

theorem AreLawful.of_prefix {edits more : List (Edit ι)} (lawful : AreLawful more) (made : edits <+: more) :
    AreLawful edits := fun before edit first => lawful before edit (first.trans made)

theorem keeps_forest {elements : Elements ι} (forest : elements.IsForest) {edit : Edit ι}
    (lawful : edit.IsLawful elements) : (edit.apply elements).IsForest := by
  cases edit with
  | create tag attributes => exact forest.create rfl rfl
  | parse markup =>
    unfold apply
    dsimp only
    split
    next node _ => exact forest.graft node
    next => exact forest
  | append parent nodes => exact forest.appendAll lawful
  | remove id => exact forest.remove id
  | clear id => exact forest.clear id
  | setText id text => exact forest.setTextContent id text
  | listen id type listener => exact forest.listen id type listener

theorem replay_isForest {edits : List (Edit ι)} (lawful : AreLawful edits) : (replay edits).IsForest := by
  induction edits using List.reverseRecOn with
  | nil => exact .empty
  | append_singleton edits edit ih =>
    have before := ih (lawful.of_prefix (List.prefix_append edits [edit]))
    unfold replay
    rw [List.foldl_append]
    exact keeps_forest before (lawful edits edit (List.prefix_refl _))

end Edit

/-! ### Programs -/

/-- What edits a page. How it goes on may depend on all that it finds, and it may fail. -/
inductive Program (ι : Type) where
  | done
  | fail (fault : Fault)
  | look (next : Elements ι → Program ι)
  | edit (edit : Edit ι) (next : Program ι)
  | dispatch (id : ElementId) (event : Event) (next : Event → Program ι)

/-- A page together with the edits made so far. -/
structure Edited (ι : Type) where
  elements : Elements ι := {}
  edits : List (Edit ι) := []

def Edited.take (page : Edited ι) (edit : Edit ι) : Edited ι := ⟨edit.apply page.elements, page.edits ++ [edit]⟩

namespace Program

/-- Perform a program, given how to dispatch events. -/
def perform (again : ElementId → Event → Op (Edited ι) Event) : Program ι → Op (Edited ι) Unit
  | .done => pure ()
  | .fail fault => Op.fail fault
  | .look next => do perform again (next (← Op.read Edited.elements))
  | .edit first next => do
    Op.change fun page => page.take first
    perform again next
  | .dispatch id event next => do perform again (next (← again id event))

def reaction (behave : ι → Event → Program ι) : Reaction (Edited ι) ι := fun again listener event =>
  perform again (behave listener event)

/-- The page after a program, from an empty one, with dispatches nested down to a depth. -/
def run (behave : ι → Event → Program ι) (depth : Nat) (program : Program ι) : Edited ι :=
  ((program.perform (ChatWidget.dispatch Edited.elements (reaction behave) depth)).start { state := {} }).2.state

variable {P : Edited ι → Prop}

theorem perform_keeps {again : ElementId → Event → Op (Edited ι) Event} (inner : ∀ id event, Keeps P (again id event))
    (each : ∀ page edit, P page → P (page.take edit)) (program : Program ι) : Keeps P (program.perform again) := by
  induction program with
  | done => exact .pure ()
  | fail fault => exact .fail fault
  | look next ih => exact (Keeps.read _).bind ih
  | edit first next ih => exact (Keeps.change fun page holds => each page first holds).bind fun _ => ih
  | dispatch id event next ih => exact (inner id event).bind ih

/-- What every edit keeps holds after a program, whatever the listeners do. -/
theorem run_induct (start : P {}) (each : ∀ page edit, P page → P (page.take edit)) (behave : ι → Event → Program ι)
    (depth : Nat) (program : Program ι) : P (run behave depth program) := by
  have nested : ∀ id event, Keeps P (ChatWidget.dispatch Edited.elements (reaction behave) depth id event) :=
    dispatch_keeps_nested (fun _ inner listener event => perform_keeps inner each (behave listener event)) depth
  exact perform_keeps nested each program _ start

theorem elements_run (behave : ι → Event → Program ι) (depth : Nat) (program : Program ι) :
    (run behave depth program).elements = Edit.replay (run behave depth program).edits := by
  refine run_induct (P := fun page => page.elements = Edit.replay page.edits) rfl ?_ behave depth program
  intro page edit same
  unfold Edited.take Edit.replay
  rw [List.foldl_append, same]
  rfl

end Program

/-! ### The page at every moment -/

/-- Is a page in order? It is a forest. Elements that may be put under another come to stand last there, emptying an
element comes to an end and frees its children, and a query finds what is below in the order of the page. -/
structure Elements.IsInOrder (elements : Elements ι) : Prop where
  forest : elements.IsForest
  moves : ∀ parent nodes, elements.CanTake parent nodes → Moves elements parent nodes (elements.appendAll parent nodes)
  clears : ∀ id, Clears elements id (elements.clear id)
  answered : ∀ id text, elements.IsAnswered id (.ofText text)
  asymm : ∀ before after, elements.Precedes before after → ¬ elements.Precedes after before

theorem Elements.IsForest.isInOrder {elements : Elements ι} (forest : elements.IsForest) : elements.IsInOrder :=
  ⟨forest, fun _ _ => forest.appendAll_moves, forest.clears, fun id _ => forest.isAnswered id _,
    fun _ _ => forest.precedes_asymm⟩

/-- Whatever programs and listeners do to a page, it is in order after every edit, as long as none puts an element
under itself or under one below it. -/
theorem Program.inOrder_throughout (behave : ι → Event → Program ι) (depth : Nat) (program : Program ι)
    (lawful : Edit.AreLawful (run behave depth program).edits) :
    (run behave depth program).elements = Edit.replay (run behave depth program).edits ∧
      ∀ edits, edits <+: (run behave depth program).edits → (Edit.replay edits).IsInOrder := by
  refine ⟨elements_run behave depth program, fun edits made => ?_⟩
  exact (Edit.replay_isForest (lawful.of_prefix made)).isInOrder

/-- A program that puts three elements together, one of them mentioned twice, and then clicks on the first. -/
def Program.nesting : Program Unit :=
  .edit (.create "div" []) <| .edit (.create "p" []) <| .edit (.create "b" []) <| .edit (.append 1 [2]) <|
    .edit (.append 0 [1, 2, 1]) <| .edit (.listen 0 "click" ()) <| .dispatch 0 { type := "click" } fun _ => .done

/-- A listener that empties the first element. -/
def Program.emptying (_ : Unit) (_ : Event) : Program Unit := .edit (.clear 0) .done

theorem Program.inOrder_throughout_nesting :
    Edit.AreLawful (run emptying 1 nesting).edits ∧ (run emptying 1 nesting).edits.length = 7 ∧
      (run emptying 1 nesting).elements = Edit.replay (run emptying 1 nesting).edits ∧
      ∀ edits, edits <+: (run emptying 1 nesting).edits → (Edit.replay edits).IsInOrder := by
  have made : Edit.AreLawful (ι := Unit) [.create "div" [], .create "p" [], .create "b" []] :=
    ((Edit.AreLawful.nil.concat (.create "div" []) trivial).concat (.create "p" []) trivial).concat
      (.create "b" []) trivial
  have inner := made.concat (.append 1 [2])
    (CanTake.of_free (Edit.replay_isForest made) rfl (by decide) (by decide) (by decide))
  have outer := inner.concat (.append 0 [1, 2, 1])
    (CanTake.of_free (Edit.replay_isForest inner) rfl (by decide) (by decide) (by decide))
  have lawful : Edit.AreLawful (run emptying 1 nesting).edits :=
    (outer.concat (.listen 0 "click" ()) trivial).concat (.clear 0) trivial
  exact ⟨lawful, rfl, inOrder_throughout emptying 1 nesting lawful⟩

end ChatWidget
