import ChatWidget.Page.Event
import Mathlib.Data.List.Nodup
/-!
What each operation on the links between elements does to every single element. An operation has an effect
on the elements that it names and on their parents, and none on any other.
-/
namespace ChatWidget

variable {ι : Type}

namespace Element

def holding (element : Element ι) (children : List ElementId) : Element ι :=
  { element with children := children }

def under (element : Element ι) (parent : Option ElementId) : Element ι :=
  { element with parent := parent }

@[simp] theorem holding_children (element : Element ι) (children : List ElementId) :
    (element.holding children).children = children := rfl

@[simp] theorem holding_parent (element : Element ι) (children : List ElementId) :
    (element.holding children).parent = element.parent := rfl

@[simp] theorem holding_holding (element : Element ι) (children others : List ElementId) :
    (element.holding children).holding others = element.holding others := rfl

@[simp] theorem holding_self (element : Element ι) : element.holding element.children = element := rfl

@[simp] theorem under_children (element : Element ι) (parent : Option ElementId) :
    (element.under parent).children = element.children := rfl

@[simp] theorem under_parent (element : Element ι) (parent : Option ElementId) :
    (element.under parent).parent = parent := rfl

end Element

namespace Elements

theorem get_modify (elements : Elements ι) (id other : ElementId)
    (change : Element ι → Element ι) (inside : id < elements.table.size) :
    (elements.modify id change).get other =
      if other = id then change (elements.get id) else elements.get other := by
  unfold modify get
  by_cases same : other = id
  · subst same
    simp [inside, Array.getElem_modify]
  · simp [same, Ne.symm same, Array.getElem?_modify]

theorem size_modify (elements : Elements ι) (id : ElementId) (change : Element ι → Element ι) :
    (elements.modify id change).table.size = elements.table.size := by
  simp [modify]

theorem get_listen (elements : Elements ι) (id : ElementId) (inside : id < elements.table.size)
    (type : String) (listener : ι) (other : ElementId) :
    (elements.listen id type listener).get other = { elements.get other with
      listeners := (elements.get other).listeners ++ if other = id then [(type, listener)] else [] } := by
  rw [listen, get_modify _ _ _ _ inside]
  by_cases same : other = id
  · subst same
    rw [if_pos rfl, if_pos rfl]
  · rw [if_neg same, if_neg same, List.append_nil]

theorem size_listen (elements : Elements ι) (id : ElementId) (type : String) (listener : ι) :
    (elements.listen id type listener).table.size = elements.table.size := size_modify _ _ _

/-- A listener that is added comes last among those for its type, and is none for another type. -/
theorem listenersFor_listen (elements : Elements ι) {id : ElementId} (inside : id < elements.table.size)
    (type : String) (listener : ι) (other : ElementId) (wanted : String) :
    (elements.listen id type listener).listenersFor other wanted =
      elements.listenersFor other wanted ++ if other = id ∧ type = wanted then [listener] else [] := by
  rw [listenersFor, listenersFor, get_listen _ _ inside]
  by_cases here : other = id
  · by_cases isWanted : type = wanted
    · simp [here, isWanted]
    · simp [here, isWanted]
  · simp [here]

theorem get_create (elements : Elements ι) (element : Element ι) (other : ElementId) :
    (elements.create element).2.get other =
      if other = elements.table.size then element else elements.get other := by
  unfold create get
  by_cases same : other = elements.table.size
  · subst same
    simp
  · simp [same, Array.getElem?_push]

theorem size_create (elements : Elements ι) (element : Element ι) :
    (elements.create element).2.table.size = elements.table.size + 1 := by
  simp [create]

def createAll (elements : Elements ι) (made : List (Element ι)) : Elements ι :=
  made.foldl (fun elements element => (elements.create element).2) elements

theorem size_createAll (elements : Elements ι) (made : List (Element ι)) :
    (elements.createAll made).table.size = elements.table.size + made.length := by
  unfold createAll
  induction made generalizing elements with
  | nil => rfl
  | cons element made ih =>
    rw [List.foldl_cons, ih, size_create, List.length_cons, Nat.add_assoc, Nat.add_comm 1]

theorem get_createAll_old {elements : Elements ι} {id : ElementId} (inside : id < elements.table.size)
    (made : List (Element ι)) : (elements.createAll made).get id = elements.get id := by
  unfold createAll
  induction made generalizing elements with
  | nil => rfl
  | cons element made ih =>
    rw [List.foldl_cons, ih (by rw [size_create]; exact Nat.lt_succ_of_lt inside), get_create,
      if_neg (Nat.ne_of_lt inside)]

theorem get_createAll_new (elements : Elements ι) {made : List (Element ι)} {offset : Nat}
    (few : offset < made.length) :
    (elements.createAll made).get (elements.table.size + offset) ∈ made := by
  induction made generalizing elements offset with
  | nil => cases few
  | cons element made ih =>
    have rest : elements.createAll (element :: made) = (elements.create element).2.createAll made := rfl
    rw [rest]
    cases offset with
    | zero =>
      rw [Nat.add_zero, get_createAll_old (by rw [size_create]; exact Nat.lt_succ_self _), get_create,
        if_pos rfl]
      exact List.mem_cons_self
    | succ offset =>
      have later := ih (elements.create element).2 (Nat.lt_of_succ_lt_succ few)
      rw [size_create, Nat.add_right_comm] at later
      exact List.mem_cons_of_mem _ later
theorem get_outside (elements : Elements ι) {id : ElementId} (outside : elements.table.size ≤ id) :
    elements.get id = default := by
  simp [get, outside]

theorem inside_of_parent {elements : Elements ι} {id parent : ElementId}
    (linked : (elements.get id).parent = some parent) : id < elements.table.size := by
  by_contra outside
  rw [get_outside elements (Nat.le_of_not_lt outside)] at linked
  cases linked

theorem inside_of_children {elements : Elements ι} {id child : ElementId}
    (linked : child ∈ (elements.get id).children) : id < elements.table.size := by
  by_contra outside
  rw [get_outside elements (Nat.le_of_not_lt outside)] at linked
  cases linked

theorem remove_free {elements : Elements ι} {id : ElementId}
    (free : (elements.get id).parent = none) : elements.remove id = elements := by
  unfold remove
  rw [free]

theorem size_remove (elements : Elements ι) (id : ElementId) :
    (elements.remove id).table.size = elements.table.size := by
  unfold remove
  split
  · rfl
  · rw [size_modify, size_modify]

theorem get_remove {elements : Elements ι} {id parent : ElementId}
    (linked : (elements.get id).parent = some parent) (inside : parent < elements.table.size)
    (different : parent ≠ id) (other : ElementId) :
    (elements.remove id).get other =
      if other = id then (elements.get id).under none
      else if other = parent then
        (elements.get parent).holding ((elements.get parent).children.erase id)
      else elements.get other := by
  unfold remove
  rw [linked]
  dsimp only
  rw [get_modify _ _ _ _ (by rw [size_modify]; exact inside_of_parent linked),
    get_modify _ _ _ _ inside, get_modify _ _ _ _ inside, if_neg (Ne.symm different)]
  rfl

theorem size_append (elements : Elements ι) (parent child : ElementId) :
    (elements.append parent child).table.size = elements.table.size := by
  unfold append
  rw [size_modify, size_modify, size_remove]

theorem get_append {elements : Elements ι} {parent child : ElementId}
    (free : (elements.get child).parent = none) (childInside : child < elements.table.size)
    (parentInside : parent < elements.table.size) (different : parent ≠ child) (other : ElementId) :
    (elements.append parent child).get other =
      if other = parent then
        (elements.get parent).holding ((elements.get parent).children ++ [child])
      else if other = child then (elements.get child).under (some parent)
      else elements.get other := by
  unfold append
  rw [remove_free free, get_modify _ _ _ _ (by rw [size_modify]; exact parentInside),
    get_modify _ _ _ _ childInside, get_modify _ _ _ _ childInside, if_neg different]
  rfl

theorem size_appendAll (elements : Elements ι) (parent : ElementId) (children : List ElementId) :
    (elements.appendAll parent children).table.size = elements.table.size := by
  unfold appendAll
  induction children generalizing elements with
  | nil => rfl
  | cons child children ih => rw [List.foldl_cons, ih, size_append]

theorem get_appendAll {elements : Elements ι} {parent : ElementId} {children : List ElementId}
    (free : ∀ child ∈ children, (elements.get child).parent = none) (distinct : children.Nodup)
    (inside : ∀ child ∈ children, child < elements.table.size)
    (parentInside : parent < elements.table.size) (apart : parent ∉ children) (other : ElementId) :
    (elements.appendAll parent children).get other =
      if other = parent then
        (elements.get parent).holding ((elements.get parent).children ++ children)
      else if other ∈ children then (elements.get other).under (some parent)
      else elements.get other := by
  unfold appendAll
  induction children generalizing elements with
  | nil =>
    by_cases same : other = parent
    · subst same
      simp
    · simp [same]
  | cons child children ih =>
    obtain ⟨new, distinct⟩ := List.nodup_cons.mp distinct
    rw [List.mem_cons, not_or] at apart
    have effect := get_append (free child List.mem_cons_self) (inside child List.mem_cons_self)
      parentInside apart.1
    have size := size_append elements parent child
    rw [List.foldl_cons, ih ?free distinct ?inside (by rw [size]; exact parentInside) apart.2]
    case free =>
      intro later member
      have notParent : later ≠ parent := fun same => apart.2 (same ▸ member)
      have notFirst : later ≠ child := fun same => new (same ▸ member)
      rw [effect, if_neg notParent, if_neg notFirst]
      exact free later (List.mem_cons_of_mem _ member)
    case inside =>
      intro later member
      rw [size]
      exact inside later (List.mem_cons_of_mem _ member)
    by_cases isParent : other = parent
    · subst isParent
      rw [if_pos rfl, if_pos rfl, effect, if_pos rfl]
      simp
    · rw [if_neg isParent, if_neg isParent, effect, if_neg isParent]
      by_cases isFirst : other = child
      · subst isFirst
        rw [if_neg new, if_pos rfl, if_pos List.mem_cons_self]
      · have same : (other ∈ child :: children) = (other ∈ children) := by simp [isFirst]
        rw [if_neg isFirst]
        simp only [same]

/-! ### Taking several children out -/

theorem size_removeAll (elements : Elements ι) (gone : List ElementId) :
    (gone.foldl remove elements).table.size = elements.table.size := by
  induction gone generalizing elements with
  | nil => rfl
  | cons id gone ih => rw [List.foldl_cons, ih, size_remove]

/-- Is each child of an element listed there once, and does it know its parent? -/
structure Owns (elements : Elements ι) (parent : ElementId) : Prop where
  inside : parent < elements.table.size
  distinct : (elements.get parent).children.Nodup
  linked : ∀ child ∈ (elements.get parent).children, (elements.get child).parent = some parent
  apart : parent ∉ (elements.get parent).children

theorem Owns.of_childless {elements : Elements ι} {parent : ElementId} (inside : parent < elements.table.size)
    (none : (elements.get parent).children = []) : elements.Owns parent :=
  ⟨inside, by simp [none], by simp [none], by simp [none]⟩

/-- Whoever owns its children still does after a change that leaves them, and their parents, as they are. -/
theorem Owns.frame {elements after : Elements ι} {parent : ElementId} (owns : elements.Owns parent)
    (inside : parent < after.table.size) (children : (after.get parent).children = (elements.get parent).children)
    (parents : ∀ child ∈ (elements.get parent).children, (after.get child).parent = (elements.get child).parent) :
    after.Owns parent := by
  refine ⟨inside, ?_, ?_, ?_⟩
  · rw [children]
    exact owns.distinct
  · rw [children]
    exact fun child member => (parents child member).trans (owns.linked child member)
  · rw [children]
    exact owns.apart

theorem Owns.get_remove {elements : Elements ι} {parent id : ElementId} (owns : elements.Owns parent)
    (member : id ∈ (elements.get parent).children) (other : ElementId) :
    (elements.remove id).get other =
      if other = id then (elements.get id).under none
      else if other = parent then (elements.get parent).holding ((elements.get parent).children.erase id)
      else elements.get other :=
  Elements.get_remove (owns.linked id member) owns.inside (fun same => owns.apart (same ▸ member)) other

theorem Owns.children_remove {elements : Elements ι} {parent id : ElementId} (owns : elements.Owns parent)
    (member : id ∈ (elements.get parent).children) :
    ((elements.remove id).get parent).children = (elements.get parent).children.erase id := by
  have different : parent ≠ id := fun same => owns.apart (same ▸ member)
  rw [owns.get_remove member, if_neg different, if_pos rfl, Element.holding_children]

theorem Owns.remove {elements : Elements ι} {parent id : ElementId} (owns : elements.Owns parent)
    (member : id ∈ (elements.get parent).children) : (elements.remove id).Owns parent := by
  have left := owns.children_remove member
  refine ⟨by rw [size_remove]; exact owns.inside, ?_, ?_, ?_⟩
  · rw [left]
    exact owns.distinct.erase id
  · intro child stays
    rw [left, owns.distinct.mem_erase_iff] at stays
    have other : child ≠ parent := fun same => owns.apart (same ▸ stays.2)
    rw [owns.get_remove member, if_neg stays.1, if_neg other]
    exact owns.linked child stays.2
  · rw [left]
    intro member
    exact owns.apart (List.mem_of_mem_erase member)

theorem Owns.removeAll {elements : Elements ι} {parent : ElementId} (owns : elements.Owns parent)
    {gone : List ElementId} (distinct : gone.Nodup)
    (members : ∀ id ∈ gone, id ∈ (elements.get parent).children) : (gone.foldl Elements.remove elements).Owns parent := by
  induction gone generalizing elements with
  | nil => exact owns
  | cons id gone ih =>
    obtain ⟨new, distinct⟩ := List.nodup_cons.mp distinct
    have member := members id List.mem_cons_self
    refine ih (owns.remove member) distinct fun later inGone => ?_
    rw [owns.children_remove member, owns.distinct.mem_erase_iff]
    exact ⟨fun same => new (same ▸ inGone), members later (List.mem_cons_of_mem _ inGone)⟩

/-- Taking out some children leaves the other ones in their order. The elements taken out have no parent
then, and nothing else changes. -/
theorem get_removeAll {elements : Elements ι} {parent : ElementId} (owns : elements.Owns parent)
    {gone : List ElementId} (distinct : gone.Nodup)
    (members : ∀ id ∈ gone, id ∈ (elements.get parent).children) (other : ElementId) :
    (gone.foldl remove elements).get other =
      if other = parent then
        (elements.get parent).holding
          ((elements.get parent).children.filter fun child => decide (child ∉ gone))
      else if other ∈ gone then (elements.get other).under none
      else elements.get other := by
  induction gone generalizing elements with
  | nil =>
    by_cases same : other = parent
    · subst same
      simp
    · simp [same]
  | cons id gone ih =>
    obtain ⟨new, distinct⟩ := List.nodup_cons.mp distinct
    have member := members id List.mem_cons_self
    have different : parent ≠ id := fun same => owns.apart (same ▸ member)
    have effect := owns.get_remove member
    have left := owns.children_remove member
    have rest : ∀ later ∈ gone, later ∈ ((elements.remove id).get parent).children := by
      intro later inGone
      rw [left, owns.distinct.mem_erase_iff]
      exact ⟨fun same => new (same ▸ inGone), members later (List.mem_cons_of_mem _ inGone)⟩
    rw [List.foldl_cons, ih (owns.remove member) distinct rest]
    by_cases isParent : other = parent
    · subst isParent
      rw [if_pos rfl, if_pos rfl, left, owns.distinct.erase_eq_filter, List.filter_filter, effect,
        if_neg different, if_pos rfl, Element.holding_holding]
      congr 1
      apply List.filter_congr
      intro child _
      by_cases same : child = id
      · simp [same]
      · simp [same]
    · rw [if_neg isParent, if_neg isParent]
      by_cases first : other = id
      · subst first
        rw [if_neg new, if_pos List.mem_cons_self, effect, if_pos rfl]
      · have same : (other ∈ id :: gone) = (other ∈ gone) := by simp [first]
        rw [effect, if_neg first, if_neg isParent]
        simp only [same]

end Elements

end ChatWidget
