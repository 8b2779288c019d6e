import ChatWidget.Proofs.Page.Order
import Mathlib.Data.List.Flatten
/-!
Taking elements out of a page one after the other. Each is taken out of the parent that it has, also where it
stands within one that is out already. Below an element there remain those that are within none of the elements taken
out, in the order in which they were; and nothing but the links to the ones taken out is changed.
-/
namespace ChatWidget

open Markup (Node)
open Relation (TransGen ReflTransGen)

variable {ι : Type}

namespace Element

def bare (element : Element ι) : Element ι := (element.holding []).under none

/-- Two elements that are alike, with the same links, are the same. -/
theorem eq_of_bare {element other : Element ι} (alike : element.bare = other.bare)
    (children : element.children = other.children) (parent : element.parent = other.parent) : element = other := by
  have whole : ∀ e : Element ι, e = (e.bare.holding e.children).under e.parent := fun _ => rfl
  rw [whole element, whole other, alike, children, parent]

/-- The element without those of its children that are gone, and without its parent if it is gone itself. -/
def without (element : Element ι) (gone : List ElementId) (isGone : Bool) : Element ι :=
  (element.holding (element.children.filter (· ∉ gone))).under (if isGone then none else element.parent)

variable (element : Element ι) (gone : List ElementId) (isGone : Bool)

@[simp] theorem without_bare : (element.without gone isGone).bare = element.bare := rfl

@[simp] theorem without_children : (element.without gone isGone).children = element.children.filter (· ∉ gone) := rfl

@[simp] theorem without_parent :
    (element.without gone isGone).parent = if isGone then none else element.parent := rfl

end Element

namespace Elements

variable {elements after : Elements ι} {top parent child id other : ElementId} {gone : List ElementId}

/-! ### What is left of each element -/

theorem bare_modify (elements : Elements ι) (id other : ElementId) {change : Element ι → Element ι}
    (keeps : ∀ e, (change e).bare = e.bare) :
    ((elements.modify id change).get other).bare = (elements.get other).bare := by
  rcases get_modify_cases elements id other change with same | ⟨-, changed⟩
  · rw [same]
  · rw [changed, keeps]

theorem bare_remove (elements : Elements ι) (id other : ElementId) :
    ((elements.remove id).get other).bare = (elements.get other).bare := by
  unfold remove
  split
  next => rfl
  next parent _ =>
    refine (bare_modify (elements.modify parent _) id other ?_).trans (bare_modify elements parent other ?_)
    · exact fun _ => rfl
    · exact fun _ => rfl

/-- An element that is taken out has no parent, and is nobody's child; all else is as before. -/
theorem IsForest.get_removeAll (forest : elements.IsForest) (gone : List ElementId) (other : ElementId) :
    (gone.foldl Elements.remove elements).get other = (elements.get other).without gone (other ∈ gone) := by
  induction gone generalizing elements with
  | nil => simp [Element.without, Element.holding, Element.under]
  | cons id gone ih =>
    obtain ⟨children, parent⟩ := forest.get_remove id other
    rw [List.foldl_cons, ih (forest.remove id)]
    apply Element.eq_of_bare
    · rw [Element.without_bare, Element.without_bare, bare_remove]
    · rw [Element.without_children, Element.without_children, children, filter_erase (forest.nodup other)]
    · rw [Element.without_parent, Element.without_parent, parent]
      by_cases first : other = id
      · simp [first]
      · simp [first]

/-! ### Who is below an element then -/

theorem IsForest.isChild_removeAll (forest : elements.IsForest) (gone : List ElementId) :
    (gone.foldl Elements.remove elements).IsChild parent child ↔ elements.IsChild parent child ∧ child ∉ gone := by
  unfold IsChild
  rw [forest.get_removeAll, Element.without_children, List.mem_filter, decide_eq_true_eq]

theorem IsForest.isBelow_removeAll (forest : elements.IsForest) (below : ∀ node ∈ gone, elements.IsBelow top node) :
    (gone.foldl Elements.remove elements).IsBelow top id ↔
      elements.IsBelow top id ∧ ∀ node ∈ gone, ¬ elements.IsWithin node id := by
  have step : ∀ parent child, (gone.foldl Elements.remove elements).IsChild parent child ↔
      elements.IsChild parent child ∧ child ∉ gone := fun _ _ => forest.isChild_removeAll gone
  -- Whoever has a child in it that was not taken out has the parent of that child in it, too.
  have up : ∀ {node above here}, elements.IsChild above here → here ∉ gone → node ∈ gone →
      elements.IsWithin node here → elements.IsWithin node above := by
    intro node above here isChild stays isGone within
    rcases within.cases_tail with same | ⟨last, way, link⟩
    · exact absurd (same ▸ isGone) stays
    · rwa [Option.some.inj ((forest.isChild_iff.mp isChild).symm.trans (forest.isChild_iff.mp link))]
  constructor
  · intro remains
    induction remains with
    | single link =>
      obtain ⟨isChild, stays⟩ := (step _ _).mp link
      refine ⟨.single isChild, fun node isGone within => ?_⟩
      exact forest.acyclic top (TransGen.trans_left (below node isGone) (up isChild stays isGone within))
    | tail _ link ih =>
      obtain ⟨isChild, stays⟩ := (step _ _).mp link
      exact ⟨.tail ih.1 isChild, fun node isGone within => ih.2 node isGone (up isChild stays isGone within)⟩
  · rintro ⟨way, apart⟩
    induction way with
    | single isChild => exact .single ((step _ _).mpr ⟨isChild, fun isGone => apart _ isGone .refl⟩)
    | tail _ isChild ih =>
      refine .tail (ih fun node isGone within => apart node isGone (within.tail isChild)) ((step _ _).mpr ⟨isChild, ?_⟩)
      exact fun isGone => apart _ isGone .refl

theorem IsForest.mem_within (forest : elements.IsForest) :
    other ∈ id :: elements.descendants id ↔ elements.IsWithin id other := by
  rw [List.mem_cons, forest.mem_descendants]
  exact Relation.reflTransGen_iff_eq_or_transGen.symm

theorem sublist_eq_filter {α : Type} {list rest : List α} (part : List.Sublist rest list) (nodup : list.Nodup)
    {stays : α → Bool} (members : ∀ a, a ∈ rest ↔ a ∈ list ∧ stays a = true) : rest = list.filter stays := by
  have inside : List.Sublist rest (list.filter stays) := by
    have all : rest.filter stays = rest := List.filter_eq_self.mpr fun a member => ((members a).mp member).2
    rw [← all]
    exact part.filter stays
  have same : rest.Perm (list.filter stays) := by
    rw [List.perm_ext_iff_of_nodup (part.nodup nodup) (nodup.filter _)]
    intro a
    rw [members, List.mem_filter]
  exact inside.eq_of_length same.length_eq

theorem IsForest.descendantsWithin_removeAll (forest : elements.IsForest) (gone : List ElementId) (depth : Nat)
    (id : ElementId) :
    List.Sublist ((gone.foldl Elements.remove elements).descendantsWithin depth id)
      (elements.descendantsWithin depth id) := by
  induction depth generalizing id with
  | zero => exact .slnil
  | succ depth ih =>
    rw [descendantsWithin, descendantsWithin, forest.get_removeAll]
    refine List.Sublist.trans (List.Sublist.flatMap List.filter_sublist _) ?_
    exact List.Sublist.flatMap_right _ fun child _ => (ih child).cons_cons child

/-- Those below an element that are within none of the elements taken out from below it remain there, in order. -/
theorem IsForest.descendants_removeAll (forest : elements.IsForest)
    (below : ∀ node ∈ gone, elements.IsBelow top node) :
    (gone.foldl Elements.remove elements).descendants top =
      (elements.descendants top).filter fun id => ∀ node ∈ gone, id ∉ node :: elements.descendants node := by
  apply sublist_eq_filter
  · unfold descendants
    rw [size_removeAll]
    exact forest.descendantsWithin_removeAll gone _ top
  · exact forest.nodup_descendantsWithin _ top
  · intro id
    rw [(forest.removeAll gone).mem_descendants, forest.isBelow_removeAll below, forest.mem_descendants]
    simp only [forest.mem_within, decide_eq_true_eq]

/-! ### Putting an element last -/

/-- Where all within an element have the children that they had, the same elements are below it. -/
theorem descendantsWithin_congr {depth : Nat}
    (same : ∀ other, elements.IsWithin id other → (after.get other).children = (elements.get other).children) :
    after.descendantsWithin depth id = elements.descendantsWithin depth id := by
  induction depth generalizing id with
  | zero => rfl
  | succ depth ih =>
    rw [descendantsWithin, descendantsWithin, same id .refl]
    apply List.flatMap_congr
    intro child isChild
    rw [ih fun other within => same other (.head isChild within)]

theorem IsForest.descendants_congr (forest : elements.IsForest) (grown : elements.table.size ≤ after.table.size)
    (same : ∀ other, elements.IsWithin id other → (after.get other).children = (elements.get other).children) :
    after.descendants id = elements.descendants id := by
  obtain ⟨more, size⟩ := Nat.exists_eq_add_of_le grown
  unfold descendants
  rw [descendantsWithin_congr same, size, forest.descendantsWithin_add (elements.card_lower id)]

theorem descendants_modify (elements : Elements ι) (id top : ElementId) {change : Element ι → Element ι}
    (children : ∀ e, (change e).children = e.children) :
    (elements.modify id change).descendants top = elements.descendants top := by
  unfold descendants
  rw [size_modify]
  apply descendantsWithin_congr
  intro other _
  rcases get_modify_cases elements id other change with same | ⟨-, changed⟩
  · rw [same]
  · rw [changed, children]

theorem IsForest.addNode (forest : elements.IsForest) (inside : top < elements.table.size) (node : Node) :
    ((elements.graft node).2.append top (elements.graft node).1).IsForest :=
  (forest.graft node).append ((graft_isGrafted elements node).canTake inside)

theorem IsForest.descendants_addNode (forest : elements.IsForest) (inside : top < elements.table.size) (node : Node) :
    let bubble := (elements.graft node).1
    let after := (elements.graft node).2.append top bubble
    after.descendants top = elements.descendants top ++ bubble :: after.descendants bubble := by
  intro bubble after
  have added : AreGrafted elements top [node] [bubble] after := append_graft_areGrafted elements inside node
  have still : after.IsForest := forest.addNode inside node
  have old : ∀ child, elements.IsChild top child → after.descendants child = elements.descendants child := by
    intro child isChild
    refine forest.descendants_congr added.grown fun other within => ?_
    have notTop : other ≠ top := by
      rintro rfl
      exact forest.acyclic other (.head' isChild within)
    have present : other < elements.table.size := by
      rcases within.cases_tail with rfl | ⟨_, -, link⟩
      · exact (forest.inside isChild).2
      · exact (forest.inside link).2
    rw [added.same other present notTop]
  have kept : (elements.get top).children.flatMap (fun child => child :: after.descendants child) =
      elements.descendants top := by
    rw [forest.descendants_eq top]
    apply List.flatMap_congr
    intro child isChild
    rw [old child isChild]
  rw [still.descendants_eq, added.listed, Element.holding_children, List.flatMap_append, kept, List.flatMap_singleton]

end Elements

end ChatWidget
