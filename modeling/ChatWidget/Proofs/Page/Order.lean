import ChatWidget.Page.Selector
import ChatWidget.Proofs.Page.Forest
import Mathlib.Data.Finset.Card
/-!
The order of a page. In a forest the elements below one are listed each once, an element before those below it,
and what is within an earlier child before what is within a later one. No way down is longer than there are
elements, so that the list stops short of none of them.
-/
namespace ChatWidget.Elements

open Relation (TransGen ReflTransGen)

variable {ι : Type} {elements : Elements ι} {parent child id other : ElementId}

/-! ### Ways down -/

theorem isBelow_iff : elements.IsBelow id other ↔
    ∃ child ∈ (elements.get id).children, other = child ∨ elements.IsBelow child other := by
  unfold IsBelow
  rw [TransGen.head'_iff]
  refine exists_congr fun child => and_congr_right fun _ => ?_
  rw [Relation.reflTransGen_iff_eq_or_transGen]

/-- Of two elements that have the same one within them, one is within the other. -/
theorem IsForest.within_total (forest : elements.IsForest) {first second : ElementId}
    (inFirst : elements.IsWithin first other) (inSecond : elements.IsWithin second other) :
    elements.IsWithin first second ∨ elements.IsWithin second first := by
  have oneParent : Relator.RightUnique (Function.swap elements.IsChild) := by
    intro below _ _ link another
    exact Option.some.inj ((forest.isChild_iff.mp link).symm.trans (forest.isChild_iff.mp another))
  rcases ReflTransGen.total_of_right_unique oneParent (Relation.reflTransGen_swap.mpr inFirst)
    (Relation.reflTransGen_swap.mpr inSecond) with up | up
  · exact .inr (Relation.reflTransGen_swap.mp up)
  · exact .inl (Relation.reflTransGen_swap.mp up)

theorem IsForest.same_child (forest : elements.IsForest) {first second : ElementId}
    (isFirst : elements.IsChild parent first) (isSecond : elements.IsChild parent second)
    (inFirst : elements.IsWithin first other) (inSecond : elements.IsWithin second other) : first = second := by
  -- Of two children one within the other, the inner one has its parent below itself.
  have nested : ∀ {outer inner}, elements.IsChild parent outer → elements.IsChild parent inner →
      elements.IsWithin outer inner → inner = outer := by
    intro outer inner isOuter isInner within
    rcases within.cases_tail with same | ⟨last, way, link⟩
    · exact same
    · have isParent := Option.some.inj ((forest.isChild_iff.mp link).symm.trans (forest.isChild_iff.mp isInner))
      subst isParent
      exact absurd (TransGen.head' isOuter way) (forest.acyclic last)
  rcases forest.within_total inFirst inSecond with way | way
  · exact (nested isFirst isSecond way).symm
  · exact nested isSecond isFirst way

open scoped Classical in
/-- The elements below one, as a set. -/
noncomputable def lower (elements : Elements ι) (id : ElementId) : Finset ElementId :=
  (Finset.range elements.table.size).filter fun other => elements.IsBelow id other

theorem IsForest.mem_lower (forest : elements.IsForest) : other ∈ elements.lower id ↔ elements.IsBelow id other := by
  classical
  unfold lower
  rw [Finset.mem_filter, Finset.mem_range, and_iff_right_iff_imp]
  intro below
  obtain ⟨parent, -, link⟩ := TransGen.tail'_iff.mp below
  exact (forest.inside link).2

theorem card_lower (elements : Elements ι) (id : ElementId) : (elements.lower id).card ≤ elements.table.size := by
  classical
  exact (Finset.card_filter_le _ _).trans (Finset.card_range _).le

theorem IsForest.card_lower_lt (forest : elements.IsForest) (isChild : elements.IsChild parent child) :
    (elements.lower child).card < (elements.lower parent).card := by
  apply Finset.card_lt_card
  rw [Finset.ssubset_iff_of_subset]
  · refine ⟨child, forest.mem_lower.mpr (.single isChild), ?_⟩
    rw [forest.mem_lower]
    exact forest.acyclic child
  · intro other below
    exact forest.mem_lower.mpr (.head isChild (forest.mem_lower.mp below))

/-! ### The list of those below -/

theorem IsForest.descendantsWithin_add (forest : elements.IsForest) {depth : Nat}
    (enough : (elements.lower id).card ≤ depth) (more : Nat) :
    elements.descendantsWithin (depth + more) id = elements.descendantsWithin depth id := by
  induction depth generalizing id with
  | zero =>
    have childless : (elements.get id).children = [] := by
      rw [List.eq_nil_iff_forall_not_mem]
      intro child isChild
      exact Nat.not_lt_zero _ (Nat.lt_of_lt_of_le (forest.card_lower_lt isChild) enough)
    cases more with
    | zero => rfl
    | succ more => rw [Nat.zero_add, descendantsWithin, descendantsWithin, childless, List.flatMap_nil]
  | succ depth ih =>
    rw [Nat.add_right_comm, descendantsWithin, descendantsWithin]
    apply List.flatMap_congr
    intro child isChild
    rw [ih (Nat.le_of_lt_succ (Nat.lt_of_lt_of_le (forest.card_lower_lt isChild) enough))]

theorem IsForest.descendants_eq (forest : elements.IsForest) (id : ElementId) :
    elements.descendants id =
      (elements.get id).children.flatMap fun child => child :: elements.descendants child := by
  have whole := forest.descendantsWithin_add (elements.card_lower id) 1
  unfold descendants
  rw [← whole, descendantsWithin]

theorem isBelow_of_mem_descendantsWithin {depth : Nat} (member : other ∈ elements.descendantsWithin depth id) :
    elements.IsBelow id other := by
  induction depth generalizing id with
  | zero =>
    rw [descendantsWithin] at member
    cases member
  | succ depth ih =>
    rw [descendantsWithin] at member
    obtain ⟨child, isChild, here⟩ := List.mem_flatMap.mp member
    exact isBelow_iff.mpr ⟨child, isChild, (List.mem_cons.mp here).imp_right ih⟩

theorem IsForest.mem_descendants (forest : elements.IsForest) :
    other ∈ elements.descendants id ↔ elements.IsBelow id other := by
  refine ⟨isBelow_of_mem_descendantsWithin, fun below => ?_⟩
  induction below using TransGen.head_induction_on with
  | single isChild =>
    rw [forest.descendants_eq]
    exact List.mem_flatMap.mpr ⟨_, isChild, List.mem_cons_self⟩
  | head isChild _ ih =>
    rw [forest.descendants_eq]
    exact List.mem_flatMap.mpr ⟨_, isChild, List.mem_cons_of_mem _ ih⟩

theorem isWithin_of_mem {depth : Nat} (member : other ∈ child :: elements.descendantsWithin depth child) :
    elements.IsWithin child other :=
  (List.mem_cons.mp member).elim (fun same => same ▸ .refl) fun below =>
    TransGen.to_reflTransGen (isBelow_of_mem_descendantsWithin below)

theorem IsForest.nodup_descendantsWithin (forest : elements.IsForest) (depth : Nat) (id : ElementId) :
    (elements.descendantsWithin depth id).Nodup := by
  induction depth generalizing id with
  | zero => exact List.nodup_nil
  | succ depth ih =>
    rw [descendantsWithin, List.nodup_flatMap]
    constructor
    · intro child _
      refine List.nodup_cons.mpr ⟨fun member => ?_, ih child⟩
      exact forest.acyclic child (isBelow_of_mem_descendantsWithin member)
    · apply (forest.nodup id).imp_of_mem
      intro first second isFirst isSecond different other inFirst inSecond
      exact different (forest.same_child isFirst isSecond (isWithin_of_mem inFirst) (isWithin_of_mem inSecond))

/-! ### Document order -/

/-- Does an element come before another on the page? Either it is above that one, or some element has a child with
the first in it before a child with the second in it. -/
def Precedes (elements : Elements ι) (before after : ElementId) : Prop :=
  elements.IsBelow before after ∨
    ∃ parent first second, List.Sublist [first, second] (elements.get parent).children ∧
      elements.IsWithin first before ∧ elements.IsWithin second after

theorem pairwise_descendantsWithin (depth : Nat) (id : ElementId) :
    (elements.descendantsWithin depth id).Pairwise elements.Precedes := by
  induction depth generalizing id with
  | zero => exact .nil
  | succ depth ih =>
    rw [descendantsWithin, List.pairwise_flatMap]
    constructor
    · intro child _
      exact List.pairwise_cons.mpr ⟨fun other below => .inl (isBelow_of_mem_descendantsWithin below), ih child⟩
    · rw [List.pairwise_iff_forall_sublist]
      intro first second inOrder before inFirst after inSecond
      exact .inr ⟨id, first, second, inOrder, isWithin_of_mem inFirst, isWithin_of_mem inSecond⟩

theorem not_sublist_swap {α : Type} {list : List α} {first second : α} (nodup : list.Nodup)
    (inOrder : List.Sublist [first, second] list) : ¬ List.Sublist [second, first] list := by
  induction list with
  | nil => cases inOrder
  | cons head tail ih =>
    obtain ⟨new, nodup⟩ := List.nodup_cons.mp nodup
    intro swapped
    cases inOrder with
    | cons _ later =>
      cases swapped with
      | cons _ again => exact ih nodup later again
      | cons_cons _ _ => exact new (later.subset (by simp))
    | cons_cons _ later =>
      cases swapped with
      | cons _ again => exact new (again.subset (by simp))
      | cons_cons _ _ => exact new (later.subset (by simp))

theorem IsForest.not_both (forest : elements.IsForest) {first second : ElementId}
    (inOrder : List.Sublist [first, second] (elements.get parent).children) (inFirst : elements.IsWithin first other)
    (inSecond : elements.IsWithin second other) : False := by
  have distinct := inOrder.nodup (forest.nodup parent)
  have same := forest.same_child (inOrder.subset (by simp)) (inOrder.subset (by simp)) inFirst inSecond
  simp [same] at distinct

/-- Where two children of an element have an element each in them, both of these are within no element below but
within the one that has the two children. -/
theorem IsForest.within_of_both (forest : elements.IsForest) {first second before after top : ElementId}
    (inOrder : List.Sublist [first, second] (elements.get parent).children)
    (inFirst : elements.IsWithin first before) (inSecond : elements.IsWithin second after)
    (aboveBefore : elements.IsWithin top before) (aboveAfter : elements.IsWithin top after)
    (below : elements.IsWithin parent top) : top = parent := by
  rcases below.cases_head with same | ⟨child, isChild, way⟩
  · exact same.symm
  · have isFirst := forest.same_child isChild (inOrder.subset (by simp)) (way.trans aboveBefore) inFirst
    have isSecond := way.trans aboveAfter
    rw [isFirst] at isSecond
    exact (forest.not_both inOrder isSecond inSecond).elim

theorem IsForest.precedes_asymm (forest : elements.IsForest) {before after : ElementId}
    (precedes : elements.Precedes before after) : ¬ elements.Precedes after before := by
  rintro (up | ⟨other, third, fourth, otherOrder, inThird, inFourth⟩)
  · rcases precedes with down | ⟨parent, first, second, inOrder, inFirst, inSecond⟩
    · exact forest.acyclic before (down.trans up)
    · exact forest.not_both inOrder inFirst (inSecond.trans up.to_reflTransGen)
  · rcases precedes with down | ⟨parent, first, second, inOrder, inFirst, inSecond⟩
    · exact forest.not_both otherOrder inThird (inFourth.trans down.to_reflTransGen)
    · have isThird := otherOrder.subset (by simp : third ∈ [third, fourth])
      have isFourth := otherOrder.subset (by simp : fourth ∈ [third, fourth])
      have isFirst := inOrder.subset (by simp : first ∈ [first, second])
      have isSecond := inOrder.subset (by simp : second ∈ [first, second])
      -- Both pairs of children are those of the same element, the lowest one that has both in it.
      have same : other = parent := by
        rcases forest.within_total (inFirst.head isFirst) (inFourth.head isFourth) with under | under
        · exact forest.within_of_both inOrder inFirst inSecond (inFourth.head isFourth) (inThird.head isThird) under
        · exact (forest.within_of_both otherOrder inThird inFourth (inSecond.head isSecond) (inFirst.head isFirst)
            under).symm
      subst same
      have firstIs := forest.same_child isFirst isFourth inFirst inFourth
      have secondIs := forest.same_child isSecond isThird inSecond inThird
      subst firstIs secondIs
      exact not_sublist_swap (forest.nodup other) inOrder otherOrder

/-! ### Queries -/

/-- What a query has to find: every element below that meets the selector, each once and in the order of the
page; where only one is asked for it is the first of them. -/
structure IsAnswered (elements : Elements ι) (id : ElementId) (selector : Selector) : Prop where
  found : ∀ other, other ∈ elements.queryAll id selector ↔
    elements.IsBelow id other ∧ selector.meets (elements.get other) = true
  once : (elements.queryAll id selector).Nodup
  ordered : (elements.queryAll id selector).Pairwise elements.Precedes
  first : elements.query? id selector = (elements.queryAll id selector).head?

theorem IsForest.isAnswered (forest : elements.IsForest) (id : ElementId) (selector : Selector) :
    elements.IsAnswered id selector := by
  refine ⟨fun other => ?_, ?_, ?_, ?_⟩
  · unfold queryAll
    rw [List.mem_filter, forest.mem_descendants]
  · exact (forest.nodup_descendantsWithin _ id).filter _
  · exact (pairwise_descendantsWithin _ id).filter _
  · unfold queryAll query?
    rw [List.head?_filter]

end ChatWidget.Elements
