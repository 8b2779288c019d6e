import ChatWidget.Page.Event
import ChatWidget.Proofs.Page.Walled
import Mathlib.Data.List.Dedup
import Mathlib.Logic.Relation
/-!
The elements of a page are a forest. Each element stands among the children of its parent, once, and among
those of no other element, and none is below itself. Every operation on the links keeps it that way, as long as no
element is put under itself or under one below it.
-/
namespace ChatWidget.Elements

open Markup (Node)
open Relation (TransGen ReflTransGen)

variable {ι : Type}

def IsChild (elements : Elements ι) (parent child : ElementId) : Prop := child ∈ (elements.get parent).children

/-- Is an element somewhere below another? -/
def IsBelow (elements : Elements ι) : ElementId → ElementId → Prop := TransGen elements.IsChild

/-- Is an element another one or somewhere below it? -/
def IsWithin (elements : Elements ι) : ElementId → ElementId → Prop := ReflTransGen elements.IsChild

/-- Do the two sides of each link agree, with no element below itself? -/
structure IsForest (elements : Elements ι) : Prop where
  linked : ∀ parent child, (elements.get parent).children.count child =
    if (elements.get child).parent = some parent then 1 else 0
  acyclic : ∀ id, ¬ elements.IsBelow id id

variable {elements after : Elements ι} {parent child id : ElementId}

namespace IsForest

theorem isChild_iff (forest : elements.IsForest) :
    elements.IsChild parent child ↔ (elements.get child).parent = some parent := by
  unfold IsChild
  rw [← List.count_pos_iff, forest.linked]
  split
  next linked => simp [linked]
  next unlinked => simp [unlinked]

theorem nodup (forest : elements.IsForest) (parent : ElementId) : (elements.get parent).children.Nodup := by
  rw [List.nodup_iff_count_le_one]
  intro child
  rw [forest.linked]
  split
  · exact Nat.le_refl 1
  · exact Nat.zero_le 1

theorem of_links (nodup : ∀ parent, (elements.get parent).children.Nodup)
    (isChild_iff : ∀ parent child, elements.IsChild parent child ↔ (elements.get child).parent = some parent)
    (acyclic : ∀ id, ¬ elements.IsBelow id id) : elements.IsForest := by
  refine ⟨fun parent child => ?_, acyclic⟩
  split
  next linked => exact List.count_eq_one_of_mem (nodup parent) ((isChild_iff parent child).mpr linked)
  next unlinked => exact List.count_eq_zero.mpr fun member => unlinked ((isChild_iff parent child).mp member)

theorem empty : ({} : Elements ι).IsForest := by
  have childless : ∀ parent, (({} : Elements ι).get parent).children = [] := fun _ => rfl
  refine of_links (fun parent => ?_) (fun parent child => ?_) fun id below => ?_
  · rw [childless]
    exact List.nodup_nil
  · unfold IsChild
    rw [childless]
    constructor
    · intro member
      cases member
    · intro linked
      cases linked
  · obtain ⟨child, member, -⟩ := TransGen.head'_iff.mp below
    unfold IsChild at member
    rw [childless] at member
    cases member

theorem congr (forest : elements.IsForest) (children : ∀ id, (after.get id).children = (elements.get id).children)
    (parents : ∀ id, (after.get id).parent = (elements.get id).parent) : after.IsForest := by
  have same : after.IsChild = elements.IsChild := by
    funext parent child
    unfold IsChild
    rw [children]
  refine ⟨fun parent child => ?_, fun id => ?_⟩
  · rw [children, parents]
    exact forest.linked parent child
  · unfold IsBelow
    rw [same]
    exact forest.acyclic id

theorem modify (forest : elements.IsForest) (id : ElementId) {change : Element ι → Element ι}
    (children : ∀ e, (change e).children = e.children) (parents : ∀ e, (change e).parent = e.parent) :
    (elements.modify id change).IsForest := by
  apply forest.congr
  · intro other
    rcases get_modify_cases elements id other change with same | ⟨-, changed⟩
    · rw [same]
    · rw [changed, children]
  · intro other
    rcases get_modify_cases elements id other change with same | ⟨-, changed⟩
    · rw [same]
    · rw [changed, parents]

theorem create (forest : elements.IsForest) {element : Element ι} (childless : element.children = [])
    (free : element.parent = none) : (elements.create element).2.IsForest := by
  have outside := get_outside elements (Nat.le_refl elements.table.size)
  apply forest.congr
  · intro id
    rw [get_create]
    split
    next new =>
      rw [new, childless, outside]
      rfl
    next => rfl
  · intro id
    rw [get_create]
    split
    next new =>
      rw [new, free, outside]
      rfl
    next => rfl

theorem createAll (forest : elements.IsForest) {made : List (Element ι)}
    (plain : ∀ element ∈ made, element.children = [] ∧ element.parent = none) :
    (elements.createAll made).IsForest := by
  unfold Elements.createAll
  induction made generalizing elements with
  | nil => exact forest
  | cons element made ih =>
    obtain ⟨childless, free⟩ := plain element List.mem_cons_self
    exact ih (forest.create childless free) fun later member => plain later (List.mem_cons_of_mem _ member)

theorem inside (forest : elements.IsForest) (isChild : elements.IsChild parent child) :
    parent < elements.table.size ∧ child < elements.table.size :=
  ⟨inside_of_children isChild, inside_of_parent (forest.isChild_iff.mp isChild)⟩

theorem ne_of_isChild (forest : elements.IsForest) (isChild : elements.IsChild parent child) : parent ≠ child := by
  rintro rfl
  exact forest.acyclic _ (.single isChild)

theorem owns (forest : elements.IsForest) (inside : parent < elements.table.size) : elements.Owns parent :=
  ⟨inside, forest.nodup parent, fun _ member => forest.isChild_iff.mp member,
    fun member => forest.ne_of_isChild member rfl⟩

/-! ### Taking elements out -/

theorem get_remove (forest : elements.IsForest) (id other : ElementId) :
    ((elements.remove id).get other).children = (elements.get other).children.erase id ∧
      ((elements.remove id).get other).parent = if other = id then none else (elements.get other).parent := by
  cases linked : (elements.get id).parent with
  | none =>
    rw [remove_free linked]
    constructor
    · rw [List.erase_of_not_mem]
      intro member
      cases linked.symm.trans (forest.isChild_iff.mp member)
    · split
      next same => rw [same, linked]
      next => rfl
  | some parent =>
    have isChild := forest.isChild_iff.mpr linked
    have different := forest.ne_of_isChild isChild
    rw [Elements.get_remove linked (forest.inside isChild).1 different]
    by_cases isIt : other = id
    · subst isIt
      rw [if_pos rfl, if_pos rfl]
      refine ⟨?_, rfl⟩
      rw [List.erase_of_not_mem fun member => forest.ne_of_isChild member rfl]
      rfl
    · rw [if_neg isIt, if_neg isIt]
      by_cases isParent : other = parent
      · subst isParent
        rw [if_pos rfl]
        exact ⟨rfl, rfl⟩
      · rw [if_neg isParent]
        refine ⟨?_, rfl⟩
        rw [List.erase_of_not_mem]
        intro member
        exact isParent (Option.some.inj ((forest.isChild_iff.mp member).symm.trans linked))

theorem isChild_remove (forest : elements.IsForest) (id : ElementId) :
    (elements.remove id).IsChild parent child ↔ elements.IsChild parent child ∧ child ≠ id := by
  unfold IsChild
  rw [(forest.get_remove id parent).1, (forest.nodup parent).mem_erase_iff, and_comm]

theorem remove (forest : elements.IsForest) (id : ElementId) : (elements.remove id).IsForest := by
  refine of_links (fun parent => ?_) (fun parent child => ?_) fun other below => ?_
  · rw [(forest.get_remove id parent).1]
    exact (forest.nodup parent).erase id
  · rw [forest.isChild_remove, forest.isChild_iff, (forest.get_remove id child).2]
    split
    next same => simp [same]
    next other => simp [other]
  · have fewer : ∀ a b, (elements.remove id).IsChild a b → elements.IsChild a b :=
      fun _ _ isChild => ((forest.isChild_remove id).mp isChild).1
    exact forest.acyclic other (TransGen.mono fewer other other below)

theorem removeAll (forest : elements.IsForest) (gone : List ElementId) :
    (gone.foldl Elements.remove elements).IsForest := by
  induction gone generalizing elements with
  | nil => exact forest
  | cons id gone ih => exact ih (forest.remove id)

theorem clear (forest : elements.IsForest) (id : ElementId) : (elements.clear id).IsForest :=
  forest.removeAll _

theorem setTextContent (forest : elements.IsForest) (id : ElementId) (text : String) :
    (elements.setTextContent id text).IsForest :=
  (forest.clear id).modify id (fun _ => rfl) fun _ => rfl

theorem listen (forest : elements.IsForest) (id : ElementId) (type : String) (listener : ι) :
    (elements.listen id type listener).IsForest :=
  forest.modify id (fun _ => rfl) fun _ => rfl

end IsForest

/-! ### Emptying an element -/

/-- Where emptying an element ends up that takes the first child out until there is none. -/
inductive Empties (id : ElementId) : Elements ι → Elements ι → Prop
  | done {elements : Elements ι} (empty : (elements.get id).children = []) : Empties id elements elements
  | next {elements last : Elements ι} {child : ElementId} {rest : List ElementId}
      (first : (elements.get id).children = child :: rest) (later : Empties id (elements.remove child) last) :
      Empties id elements last

/-- Taking the first child out again and again comes to an end. -/
theorem IsForest.empties (forest : elements.IsForest) (id : ElementId) : Empties id elements (elements.clear id) := by
  unfold Elements.clear
  generalize same : (elements.get id).children = children
  induction children generalizing elements with
  | nil => exact .done same
  | cons child rest ih =>
    have left : ((elements.remove child).get id).children = rest := by
      rw [(forest.get_remove child id).1, same, List.erase_cons_head]
    exact .next same (ih (forest.remove child) left)

theorem IsForest.get_clear (forest : elements.IsForest) (id other : ElementId) :
    ((elements.clear id).get other).children = (if other = id then [] else (elements.get other).children) ∧
      ((elements.clear id).get other).parent =
        if other ∈ (elements.get id).children then none else (elements.get other).parent := by
  unfold Elements.clear
  by_cases inside : id < elements.table.size
  · have owns := forest.owns inside
    rw [get_removeAll owns (forest.nodup id) (fun _ member => member) other]
    by_cases isIt : other = id
    · subst isIt
      rw [if_pos rfl, if_pos rfl, if_neg owns.apart]
      refine ⟨?_, rfl⟩
      rw [Element.holding_children, List.filter_eq_nil_iff]
      intro child member
      simpa using member
    · rw [if_neg isIt, if_neg isIt]
      split
      next => exact ⟨rfl, rfl⟩
      next => exact ⟨rfl, rfl⟩
  · have childless : (elements.get id).children = [] := by
      rw [get_outside elements (Nat.le_of_not_lt inside)]
      rfl
    rw [childless]
    refine ⟨?_, rfl⟩
    split
    next same => rw [same, List.foldl_nil, childless]
    next => rfl

/-- What emptying an element comes to: the children are taken out one by one until there is none, they have no
parent then, and all other links are as before. -/
structure Clears (before : Elements ι) (id : ElementId) (after : Elements ι) : Prop where
  ends : Empties id before after
  empty : (after.get id).children = []
  others : ∀ other, other ≠ id → (after.get other).children = (before.get other).children
  parents : ∀ other, (after.get other).parent =
    if other ∈ (before.get id).children then none else (before.get other).parent

theorem IsForest.clears (forest : elements.IsForest) (id : ElementId) : Clears elements id (elements.clear id) := by
  have effect := forest.get_clear id
  refine ⟨forest.empties id, ?_, fun other different => ?_, fun other => (effect other).2⟩
  · rw [(effect id).1, if_pos rfl]
  · rw [(effect other).1, if_neg different]

/-! ### Putting elements under others -/

/-- With one more link the new ways down are those that lead over it. -/
theorem below_of_link {old new : ElementId → ElementId → Prop} {first last : ElementId}
    (step : ∀ a b, new a b → old a b ∨ a = parent ∧ b = child) (way : TransGen new first last) :
    TransGen old first last ∨ ReflTransGen old first parent ∧ ReflTransGen old child last := by
  induction way with
  | single link =>
    rcases step _ _ link with kept | ⟨rfl, rfl⟩
    · exact .inl (.single kept)
    · exact .inr ⟨.refl, .refl⟩
  | tail _ link ih =>
    rcases step _ _ link with kept | ⟨rfl, rfl⟩
    · exact ih.imp (fun way => way.tail kept) fun ⟨above, below⟩ => ⟨above, below.tail kept⟩
    · exact .inr ⟨ih.elim TransGen.to_reflTransGen And.left, .refl⟩

/-- May elements be put under another? All are there, and none is the other one or above it. -/
structure CanTake (elements : Elements ι) (parent : ElementId) (nodes : List ElementId) : Prop where
  inside : parent < elements.table.size
  present : ∀ node ∈ nodes, node < elements.table.size
  apart : ∀ node ∈ nodes, node ≠ parent
  notAbove : ∀ node ∈ nodes, ¬ elements.IsBelow node parent

theorem CanTake.of_free (forest : elements.IsForest) (free : (elements.get parent).parent = none)
    {nodes : List ElementId} (inside : parent < elements.table.size)
    (present : ∀ node ∈ nodes, node < elements.table.size) (apart : ∀ node ∈ nodes, node ≠ parent) :
    elements.CanTake parent nodes := by
  refine ⟨inside, present, apart, fun node _ below => ?_⟩
  obtain ⟨above, -, link⟩ := TransGen.tail'_iff.mp below
  cases free.symm.trans (forest.isChild_iff.mp link)

namespace IsForest

theorem get_append (forest : elements.IsForest) (parentInside : parent < elements.table.size)
    (childInside : child < elements.table.size) (different : child ≠ parent) (other : ElementId) :
    ((elements.append parent child).get other).children =
        (elements.get other).children.erase child ++ (if other = parent then [child] else []) ∧
      ((elements.append parent child).get other).parent =
        if other = child then some parent else (elements.get other).parent := by
  have removed := forest.get_remove child
  have free : ((elements.remove child).get child).parent = none := by
    rw [(removed child).2, if_pos rfl]
  have same : elements.append parent child = (elements.remove child).append parent child := by
    unfold Elements.append
    rw [remove_free free]
  rw [same, Elements.get_append free (by rw [size_remove]; exact childInside)
    (by rw [size_remove]; exact parentInside) (Ne.symm different)]
  by_cases isParent : other = parent
  · subst isParent
    rw [if_pos rfl, if_pos rfl, if_neg (Ne.symm different), Element.holding_children, (removed other).1,
      Element.holding_parent, (removed other).2, if_neg (Ne.symm different)]
    exact ⟨rfl, rfl⟩
  · rw [if_neg isParent, if_neg isParent, List.append_nil]
    by_cases isChild : other = child
    · subst isChild
      rw [if_pos rfl, if_pos rfl, Element.under_children, (removed other).1]
      exact ⟨rfl, rfl⟩
    · rw [if_neg isChild, if_neg isChild, (removed other).1, (removed other).2, if_neg isChild]
      exact ⟨rfl, rfl⟩

theorem isChild_append (forest : elements.IsForest) (parentInside : parent < elements.table.size)
    (childInside : child < elements.table.size) (different : child ≠ parent) (above below : ElementId) :
    (elements.append parent child).IsChild above below ↔
      elements.IsChild above below ∧ below ≠ child ∨ above = parent ∧ below = child := by
  unfold IsChild
  rw [(forest.get_append parentInside childInside different above).1, List.mem_append,
    (forest.nodup above).mem_erase_iff, and_comm]
  split
  next same => simp [same]
  next other => simp [other]

theorem not_isBelow_append (forest : elements.IsForest) (canTake : elements.CanTake parent [child])
    (notAbove : ¬ elements.IsBelow id parent) : ¬ (elements.append parent child).IsBelow id parent := by
  have here := List.mem_singleton_self child
  have apart := canTake.apart child here
  have step := fun a b => forest.isChild_append canTake.inside (canTake.present child here) apart a b
  intro below
  rcases below_of_link (fun a b link => ((step a b).mp link).imp_left And.left) below with old | ⟨-, way⟩
  · exact notAbove old
  · rcases way.cases_head with same | ⟨first, link, rest⟩
    · exact apart same
    · exact canTake.notAbove child here (.head' link rest)

theorem append (forest : elements.IsForest) (canTake : elements.CanTake parent [child]) :
    (elements.append parent child).IsForest := by
  have here := List.mem_singleton_self child
  have apart := canTake.apart child here
  have effect := forest.get_append canTake.inside (canTake.present child here) apart
  have step := fun a b => forest.isChild_append canTake.inside (canTake.present child here) apart a b
  refine of_links (fun other => ?_) (fun above below => ?_) fun other cycle => ?_
  · rw [(effect other).1]
    have kept := (forest.nodup other).erase child
    split
    next =>
      refine List.nodup_append.mpr ⟨kept, List.nodup_singleton child, ?_⟩
      rintro later member _ isChild rfl
      exact ((forest.nodup other).mem_erase_iff.mp member).1 (List.mem_singleton.mp isChild)
    next =>
      rw [List.append_nil]
      exact kept
  · rw [step, (effect below).2, forest.isChild_iff]
    split
    next same => simp [same, eq_comm]
    next other => simp [other]
  · rcases below_of_link (fun a b link => ((step a b).mp link).imp_left And.left) cycle with old | ⟨down, up⟩
    · exact forest.acyclic other old
    · rcases (up.trans down).cases_head with same | ⟨first, link, rest⟩
      · exact apart same
      · exact canTake.notAbove child here (.head' link rest)

end IsForest

theorem CanTake.first {rest : List ElementId} (canTake : elements.CanTake parent (child :: rest)) :
    elements.CanTake parent [child] := by
  have only : ∀ node ∈ [child], node ∈ child :: rest := fun node member =>
    List.mem_singleton.mp member ▸ List.mem_cons_self
  exact ⟨canTake.inside, fun node member => canTake.present node (only node member),
    fun node member => canTake.apart node (only node member),
    fun node member => canTake.notAbove node (only node member)⟩

theorem CanTake.rest {rest : List ElementId} (canTake : elements.CanTake parent (child :: rest))
    (forest : elements.IsForest) : (elements.append parent child).CanTake parent rest := by
  have later : ∀ node ∈ rest, node ∈ child :: rest := fun _ member => List.mem_cons_of_mem child member
  refine ⟨?_, fun node member => ?_, fun node member => canTake.apart node (later node member),
    fun node member => forest.not_isBelow_append canTake.first (canTake.notAbove node (later node member))⟩
  · rw [size_append]
    exact canTake.inside
  · rw [size_append]
    exact canTake.present node (later node member)

theorem IsForest.appendAll (forest : elements.IsForest) {nodes : List ElementId}
    (canTake : elements.CanTake parent nodes) : (elements.appendAll parent nodes).IsForest := by
  unfold Elements.appendAll
  induction nodes generalizing elements with
  | nil => exact forest
  | cons node nodes ih => exact ih (forest.append canTake.first) (canTake.rest forest)

/-- What putting elements under another comes to: they stand last there, in the order of their final mentions,
and are gone from everywhere else; all others stay where they were. -/
structure Moves (before : Elements ι) (parent : ElementId) (nodes : List ElementId) (after : Elements ι) : Prop where
  listed : (after.get parent).children = (before.get parent).children.filter (· ∉ nodes) ++ nodes.dedup
  others : ∀ other, other ≠ parent → (after.get other).children = (before.get other).children.filter (· ∉ nodes)
  parents : ∀ id, (after.get id).parent = if id ∈ nodes then some parent else (before.get id).parent

theorem filter_erase {children rest : List ElementId} (nodup : children.Nodup) :
    (children.erase child).filter (· ∉ rest) = children.filter (· ∉ child :: rest) := by
  rw [nodup.erase_eq_filter, List.filter_filter]
  apply List.filter_congr
  intro other _
  by_cases same : other = child
  · simp [same]
  · simp [same]

theorem IsForest.appendAll_moves (forest : elements.IsForest) {nodes : List ElementId}
    (canTake : elements.CanTake parent nodes) : Moves elements parent nodes (elements.appendAll parent nodes) := by
  unfold Elements.appendAll
  induction nodes generalizing elements with
  | nil => exact ⟨by simp, by simp, by simp⟩
  | cons node nodes ih =>
    have rest := ih (forest.append canTake.first) (canTake.rest forest)
    have effect := forest.get_append canTake.inside (canTake.present node List.mem_cons_self)
      (canTake.apart node List.mem_cons_self)
    refine ⟨?_, fun other different => ?_, fun id => ?_⟩
    · rw [List.foldl_cons, rest.listed, (effect parent).1, if_pos rfl, List.filter_append,
        filter_erase (forest.nodup parent), List.append_assoc]
      congr 1
      by_cases again : node ∈ nodes
      · rw [List.dedup_cons_of_mem again]
        simp [again]
      · rw [List.dedup_cons_of_notMem again]
        simp [again]
    · rw [List.foldl_cons, rest.others other different, (effect other).1, if_neg different, List.append_nil,
        filter_erase (forest.nodup other)]
    · rw [List.foldl_cons, rest.parents id, (effect id).2]
      by_cases first : id = node
      · simp [first]
      · simp [first]

/-! ### Making elements for markup -/

theorem IsGrafted.below {node : Node} (grafted : IsGrafted elements node id after) {other : ElementId}
    (below : after.IsBelow id other) : Between elements after other := by
  have start : Between elements after id := grafted.shows.isKind
  induction below with
  | single link => exact grafted.closed _ start _ link
  | tail _ link ih => exact grafted.closed _ ih _ link

theorem IsGrafted.canTake {node : Node} (grafted : IsGrafted elements node id after)
    (inside : parent < elements.table.size) : after.CanTake parent [id] := by
  have start : Between elements after id := grafted.shows.isKind
  refine ⟨Nat.lt_trans inside grafted.grown, ?_, ?_, ?_⟩
  · intro other member
    rw [List.mem_singleton.mp member]
    exact start.2
  · intro other member
    rw [List.mem_singleton.mp member]
    exact Nat.ne_of_gt (Nat.lt_of_lt_of_le inside start.1)
  · intro other member below
    rw [List.mem_singleton.mp member] at below
    exact Nat.not_lt_of_le (grafted.below below).1 inside

namespace IsForest

mutual

theorem graft {elements : Elements ι} (forest : elements.IsForest) : (node : Node) → (elements.graft node).2.IsForest
  | ⟨tag, attributes, classes, text, children⟩ => by
    rw [Elements.graft]
    exact (forest.create rfl rfl).graftAll (by rw [size_create]; exact Nat.lt_succ_self _) children

theorem graftAll {elements : Elements ι} (forest : elements.IsForest) {parent : ElementId}
    (inside : parent < elements.table.size) : (nodes : List Node) → (elements.graftAll parent nodes).IsForest
  | [] => by
    rw [Elements.graftAll]
    exact forest
  | node :: nodes => by
    have grafted := graft_isGrafted elements node
    rw [Elements.graftAll]
    refine ((forest.graft node).append (grafted.canTake inside)).graftAll ?_ nodes
    rw [size_append]
    exact Nat.lt_trans inside grafted.grown

end

end IsForest

end ChatWidget.Elements
