import ChatWidget.Proofs.Page.Shows
/-!
A wall around an element. Within it are the element and some that are its own, all that came in later among
them; no link leads over it but the one to the element itself. Whatever is done within a wall, the elements
outside stay as they were, but for the value that one of them may be given, and nobody comes to listen.
-/
namespace ChatWidget

open Markup (Node)

variable {ι : Type}

def Element.valued (element : Element ι) (value : Json) : Element ι := { element with value := value }

namespace Elements

/-- Have elements come from earlier ones by changes within a wall around one of them? -/
structure IsWalled (own : ElementId → Prop) (top : ElementId) (before now : Elements ι) : Prop where
  inside : top < now.table.size
  grown : before.table.size ≤ now.table.size
  new : ∀ id, before.table.size ≤ id → own id
  below : ∀ id, own id ∨ id = top → ∀ child ∈ (now.get id).children, own child ∧ child < now.table.size
  above : ∀ id, own id → ∀ parent, (now.get id).parent = some parent →
    (own parent ∨ parent = top) ∧ parent < now.table.size
  same : ∀ id, ¬ own id → id ≠ top → ∃ value, now.get id = (before.get id).valued value
  deaf : ∀ id, (now.get id).listeners = (before.get id).listeners

theorem get_modify_cases (elements : Elements ι) (id other : ElementId) (change : Element ι → Element ι) :
    (elements.modify id change).get other = elements.get other ∨
      other = id ∧ (elements.modify id change).get other = change (elements.get other) := by
  by_cases inside : id < elements.table.size
  · rw [get_modify _ _ _ _ inside]
    by_cases same : other = id
    · rw [if_pos same, same]
      exact .inr ⟨rfl, rfl⟩
    · rw [if_neg same]
      exact .inl rfl
  · refine .inl ?_
    unfold modify get
    by_cases same : other = id
    · subst same
      simp [inside]
    · simp [Ne.symm same, Array.getElem?_modify]

namespace IsWalled

variable {own : ElementId → Prop} {top : ElementId} {before now : Elements ι}

theorem refl {elements : Elements ι} (inside : top < elements.table.size)
    (new : ∀ id, elements.table.size ≤ id → own id)
    (below : ∀ id, own id ∨ id = top → ∀ child ∈ (elements.get id).children,
      own child ∧ child < elements.table.size)
    (above : ∀ id, own id → ∀ parent, (elements.get id).parent = some parent →
      (own parent ∨ parent = top) ∧ parent < elements.table.size) :
    IsWalled own top elements elements :=
  ⟨inside, Nat.le_refl _, new, below, above, fun id _ _ => ⟨(elements.get id).value, rfl⟩, fun _ => rfl⟩

theorem start {elements : Elements ι} (inside : top < elements.table.size)
    (childless : (elements.get top).children = []) :
    IsWalled (elements.table.size ≤ ·) top elements elements := by
  refine refl inside (fun _ later => later) ?_ ?_
  · rintro id (later | rfl) child member
    · rw [get_outside _ later] at member
      cases member
    · rw [childless] at member
      cases member
  · intro id later parent linked
    rw [get_outside _ later] at linked
    cases linked

/-- Within a wall an element may be changed as long as its links stay there. -/
theorem modify (walled : IsWalled own top before now) {id : ElementId} (within : own id ∨ id = top)
    {change : Element ι → Element ι}
    (children : ∀ child ∈ (change (now.get id)).children,
      child ∈ (now.get id).children ∨ own child ∧ child < now.table.size)
    (parent : ∀ parent, (change (now.get id)).parent = some parent →
      (now.get id).parent = some parent ∨ (own parent ∨ parent = top) ∧ parent < now.table.size)
    (listeners : (change (now.get id)).listeners = (now.get id).listeners) :
    IsWalled own top before (now.modify id change) := by
  have size := size_modify now id change
  refine ⟨?_, ?_, walled.new, ?_, ?_, ?_, ?_⟩
  · rw [size]
    exact walled.inside
  · rw [size]
    exact walled.grown
  · intro other inWall child member
    rw [size]
    rcases get_modify_cases now id other change with kept | ⟨rfl, changed⟩
    · rw [kept] at member
      exact walled.below other inWall child member
    · rw [changed] at member
      rcases children child member with old | ⟨isOwn, inside⟩
      · exact walled.below other inWall child old
      · exact ⟨isOwn, inside⟩
  · intro other isOwn above linked
    rw [size]
    rcases get_modify_cases now id other change with kept | ⟨rfl, changed⟩
    · rw [kept] at linked
      exact walled.above other isOwn above linked
    · rw [changed] at linked
      rcases parent above linked with old | new
      · exact walled.above other isOwn above old
      · exact new
  · intro other outside notTop
    have different : other ≠ id := by
      rintro rfl
      exact within.elim outside notTop
    rcases get_modify_cases now id other change with kept | ⟨same, -⟩
    · rw [kept]
      exact walled.same other outside notTop
    · exact absurd same different
  · intro other
    rcases get_modify_cases now id other change with kept | ⟨rfl, changed⟩
    · rw [kept]
      exact walled.deaf other
    · rw [changed, listeners]
      exact walled.deaf other

theorem value (walled : IsWalled own top before now) (id : ElementId) (value : Json) :
    IsWalled own top before (now.modify id fun e => e.valued value) := by
  have size := size_modify now id fun e => e.valued value
  have links : ∀ other, ((now.modify id fun e => e.valued value).get other).children = (now.get other).children ∧
      ((now.modify id fun e => e.valued value).get other).parent = (now.get other).parent ∧
      ((now.modify id fun e => e.valued value).get other).listeners = (now.get other).listeners := by
    intro other
    rcases get_modify_cases now id other fun e => e.valued value with kept | ⟨-, changed⟩
    · rw [kept]
      exact ⟨rfl, rfl, rfl⟩
    · rw [changed]
      exact ⟨rfl, rfl, rfl⟩
  refine ⟨by rw [size]; exact walled.inside, by rw [size]; exact walled.grown, walled.new, ?_, ?_, ?_, ?_⟩
  · intro other
    rw [(links other).1, size]
    exact walled.below other
  · intro other
    rw [(links other).2.1, size]
    exact walled.above other
  · intro other outside notTop
    obtain ⟨old, same⟩ := walled.same other outside notTop
    rcases get_modify_cases now id other fun e => e.valued value with kept | ⟨-, changed⟩
    · exact ⟨old, kept.trans same⟩
    · refine ⟨value, changed.trans ?_⟩
      rw [same]
      rfl
  · intro other
    rw [(links other).2.2]
    exact walled.deaf other

/-! ### Taking elements out -/

theorem remove (walled : IsWalled own top before now) {id : ElementId} (isOwn : own id) :
    IsWalled own top before (now.remove id) := by
  unfold Elements.remove
  cases linked : (now.get id).parent with
  | none => exact walled
  | some parent =>
    have erased : IsWalled own top before
        (now.modify parent fun p => { p with children := p.children.erase id }) :=
      walled.modify (walled.above id isOwn parent linked).1
        (fun _ member => .inl (List.mem_of_mem_erase member)) (fun _ same => .inl same) rfl
    exact erased.modify (.inl isOwn) (fun _ member => .inl member) (fun _ none => by cases none) rfl

theorem removeAll (walled : IsWalled own top before now) {gone : List ElementId} (areOwn : ∀ id ∈ gone, own id) :
    IsWalled own top before (gone.foldl Elements.remove now) := by
  induction gone generalizing now with
  | nil => exact walled
  | cons id gone ih =>
    exact ih (walled.remove (areOwn id List.mem_cons_self)) fun later member =>
      areOwn later (List.mem_cons_of_mem id member)

theorem clear (walled : IsWalled own top before now) : IsWalled own top before (now.clear top) :=
  walled.removeAll fun child member => (walled.below top (.inr rfl) child member).1

theorem descendants (walled : IsWalled own top before now) : ∀ id ∈ now.descendants top, own id := by
  intro id member
  obtain ⟨depth, size⟩ := Nat.exists_eq_succ_of_ne_zero (Nat.ne_zero_of_lt walled.inside)
  rw [Elements.descendants, size, descendantsWithin] at member
  obtain ⟨child, isChild, here⟩ := List.mem_flatMap.mp member
  have first := (walled.below top (.inr rfl) child isChild).1
  cases List.mem_cons.mp here with
  | inl same => exact same ▸ first
  | inr deeper =>
    exact descendantsWithin_closed (fun id isOwn child member => (walled.below id (.inl isOwn) child member).1)
      depth first id deeper

/-! ### Putting elements in -/

theorem create (walled : IsWalled own top before now) (node : Node) :
    IsWalled own top before (now.create (.ofNode node)).2 := by
  have size := size_create now (.ofNode node : Element ι)
  have effect := get_create now (.ofNode node : Element ι)
  refine ⟨?_, ?_, walled.new, ?_, ?_, ?_, ?_⟩
  · rw [size]
    exact Nat.lt_succ_of_lt walled.inside
  · rw [size]
    exact Nat.le_succ_of_le walled.grown
  · intro id inWall child member
    rw [effect] at member
    rw [size]
    split at member
    next => cases member
    next =>
      obtain ⟨isOwn, inside⟩ := walled.below id inWall child member
      exact ⟨isOwn, Nat.lt_succ_of_lt inside⟩
  · intro id isOwn parent linked
    rw [effect] at linked
    rw [size]
    split at linked
    next => cases linked
    next =>
      obtain ⟨inWall, inside⟩ := walled.above id isOwn parent linked
      exact ⟨inWall, Nat.lt_succ_of_lt inside⟩
  · intro id outside notTop
    have old : id ≠ now.table.size := by
      rintro rfl
      exact outside (walled.new _ walled.grown)
    rw [effect, if_neg old]
    exact walled.same id outside notTop
  · intro id
    rw [effect]
    split
    next new =>
      rw [get_outside before (new ▸ walled.grown)]
      rfl
    next => exact walled.deaf id

theorem append (walled : IsWalled own top before now) {parent child : ElementId}
    (within : own parent ∨ parent = top) (parentInside : parent < now.table.size)
    (isOwn : own child) (childInside : child < now.table.size) :
    IsWalled own top before (now.append parent child) := by
  unfold Elements.append
  have linked : IsWalled own top before
      ((now.remove child).modify child fun e => { e with parent := some parent }) := by
    refine (walled.remove isOwn).modify (.inl isOwn) (fun _ member => .inl member) ?_ rfl
    rintro _ ⟨⟩
    rw [size_remove]
    exact .inr ⟨within, parentInside⟩
  refine linked.modify within ?_ (fun _ same => .inl same) rfl
  intro later member
  cases List.mem_append.mp member with
  | inl old => exact .inl old
  | inr new =>
    rw [List.mem_singleton.mp new, size_modify, size_remove]
    exact .inr ⟨isOwn, childInside⟩

mutual

theorem graft {now : Elements ι} (walled : IsWalled own top before now) :
    (node : Node) → IsWalled own top before (now.graft node).2
  | ⟨tag, attributes, classes, text, children⟩ => by
    rw [Elements.graft]
    exact (walled.create _).graftAll (walled.new _ walled.grown)
      (by rw [size_create]; exact Nat.lt_succ_self _) children

theorem graftAll {now : Elements ι} (walled : IsWalled own top before now) {parent : ElementId}
    (isOwn : own parent) (inside : parent < now.table.size) : (nodes : List Node) →
    IsWalled own top before (now.graftAll parent nodes)
  | [] => by
    rw [Elements.graftAll]
    exact walled
  | node :: nodes => by
    have grafted := graft_isGrafted now node
    have first := grafted.first
    have grown := grafted.grown
    rw [Elements.graftAll]
    refine ((walled.graft node).append (.inl isOwn) (Nat.lt_trans inside grown) ?_ ?_).graftAll isOwn ?_ nodes
    · rw [first]
      exact walled.new _ walled.grown
    · rw [first]
      exact grown
    · rw [size_append]
      exact Nat.lt_trans inside grown

end

theorem addNode (walled : IsWalled own top before now) (node : Node) :
    IsWalled own top before ((now.graft node).2.append top (now.graft node).1) := by
  have grafted := graft_isGrafted now node
  refine (walled.graft node).append (.inr rfl) (Nat.lt_trans walled.inside grafted.grown) ?_ ?_
  · rw [grafted.first]
    exact walled.new _ walled.grown
  · rw [grafted.first]
    exact grafted.grown

end IsWalled

end Elements

end ChatWidget
