import ChatWidget.Proofs.Page.Links
/-!
An element that shows a node of markup: it looks as the node says, and its children show the node's
children in order. All that counts is how the elements in question look and which children they have, so
whatever happens to other elements, and who listens to these, makes no difference.
-/
namespace ChatWidget

open Markup (Node)

variable {ι : Type}

def Element.face (element : Element ι) :
    String × Entries (Option String) × List String × String × List ElementId :=
  (element.tag, element.attributes, element.classes, element.text, element.children)

@[simp] theorem Element.face_under (element : Element ι) (parent : Option ElementId) :
    (element.under parent).face = element.face := rfl

namespace Elements

mutual

/-- Does an element show a node with elements of the given kind only? -/
def Shows (elements : Elements ι) (kind : ElementId → Prop) (id : ElementId) : Node → Prop
  | ⟨tag, attributes, classes, text, children⟩ =>
    kind id ∧ (elements.get id).tag = tag ∧
      (elements.get id).attributes = attributes.map (fun (name, value) => (name, some value)) ∧
      (elements.get id).classes = classes ∧ (elements.get id).text = text ∧
      AllShow elements kind (elements.get id).children children

/-- Do elements show nodes, one each and in order? -/
def AllShow (elements : Elements ι) (kind : ElementId → Prop) : List ElementId → List Node → Prop
  | [], [] => True
  | id :: ids, node :: nodes => Shows elements kind id node ∧ AllShow elements kind ids nodes
  | [], _ :: _ => False
  | _ :: _, [] => False

end

variable {elements after : Elements ι} {kind other : ElementId → Prop}

theorem Shows.isKind {id : ElementId} {node : Node} (shows : elements.Shows kind id node) : kind id := by
  cases node
  rw [Shows] at shows
  exact shows.1

theorem Shows.tag {id : ElementId} {node : Node} (shows : elements.Shows kind id node) :
    (elements.get id).tag = node.tag := by
  cases node
  rw [Shows] at shows
  exact shows.2.1

theorem Shows.classes {id : ElementId} {node : Node} (shows : elements.Shows kind id node) :
    (elements.get id).classes = node.classes := by
  cases node
  rw [Shows] at shows
  exact shows.2.2.2.1

theorem allShow_iff {ids : List ElementId} {nodes : List Node} :
    elements.AllShow kind ids nodes ↔ List.Forall₂ (elements.Shows kind) ids nodes := by
  induction ids generalizing nodes with
  | nil =>
    cases nodes with
    | nil => simp [AllShow]
    | cons node nodes => simp [AllShow]
  | cons id ids ih =>
    cases nodes with
    | nil => simp [AllShow]
    | cons node nodes => simp [AllShow, ih]

theorem AllShow.isKind {ids : List ElementId} {nodes : List Node}
    (shows : elements.AllShow kind ids nodes) : ∀ id ∈ ids, kind id := by
  rw [allShow_iff] at shows
  induction shows with
  | nil => simp
  | cons first _ ih =>
    intro id member
    rcases List.mem_cons.mp member with rfl | later
    · exact first.isKind
    · exact ih id later

theorem AllShow.append {ids more : List ElementId} {nodes others : List Node}
    (shows : elements.AllShow kind ids nodes) (rest : elements.AllShow kind more others) :
    elements.AllShow kind (ids ++ more) (nodes ++ others) := by
  rw [allShow_iff] at shows rest ⊢
  exact List.rel_append shows rest

mutual

/-- An element goes on showing what it shows while the elements for it look as before. -/
theorem Shows.frame {id : ElementId} : {node : Node} → elements.Shows kind id node →
    (∀ i, kind i → other i ∧ (after.get i).face = (elements.get i).face) →
    after.Shows other id node
  | ⟨tag, attributes, classes, text, children⟩, shows, same => by
    rw [Shows] at shows ⊢
    obtain ⟨here, tags, named, classed, written, below⟩ := shows
    obtain ⟨stays, face⟩ := same id here
    simp only [Element.face, Prod.mk.injEq] at face
    obtain ⟨sameTag, sameAttributes, sameClasses, sameText, sameChildren⟩ := face
    rw [sameTag, sameAttributes, sameClasses, sameText, sameChildren]
    exact ⟨stays, tags, named, classed, written, AllShow.frame below same⟩

theorem AllShow.frame : {ids : List ElementId} → {nodes : List Node} →
    elements.AllShow kind ids nodes →
    (∀ i, kind i → other i ∧ (after.get i).face = (elements.get i).face) →
    after.AllShow other ids nodes
  | [], [], _, _ => by rw [AllShow]; trivial
  | _ :: _, _ :: _, shows, same => by
    rw [AllShow] at shows ⊢
    exact ⟨Shows.frame shows.1 same, AllShow.frame shows.2 same⟩
  | [], _ :: _, shows, _ => by rw [AllShow] at shows; exact absurd shows id
  | _ :: _, [], shows, _ => by rw [AllShow] at shows; exact absurd shows id

end

/-! ### Making elements for nodes -/

def Between (before after : Elements ι) (id : ElementId) : Prop :=
  before.table.size ≤ id ∧ id < after.table.size

def NewAreClosed (before after : Elements ι) : Prop :=
  ∀ id, Between before after id → ∀ child ∈ (after.get id).children, Between before after child

/-- What making an element for a node comes to: a new element without a parent shows it, and nothing
happens to the ones that were there. -/
structure IsGrafted (before : Elements ι) (node : Node) (id : ElementId) (after : Elements ι) : Prop where
  first : id = before.table.size
  grown : before.table.size < after.table.size
  same : ∀ i < before.table.size, after.get i = before.get i
  free : (after.get id).parent = none
  shows : after.Shows (Between before after) id node
  closed : NewAreClosed before after

/-- What making elements for nodes under a parent comes to. -/
structure AreGrafted (before : Elements ι) (parent : ElementId) (nodes : List Node)
    (ids : List ElementId) (after : Elements ι) : Prop where
  grown : before.table.size ≤ after.table.size
  same : ∀ i < before.table.size, i ≠ parent → after.get i = before.get i
  listed : after.get parent = (before.get parent).holding ((before.get parent).children ++ ids)
  new : ∀ id ∈ ids, Between before after id
  linked : ∀ id ∈ ids, (after.get id).parent = some parent
  shows : after.AllShow (Between before after) ids nodes
  closed : NewAreClosed before after

theorem Between.weaken {first second third fourth : Elements ι} {id : ElementId}
    (between : Between second third id) (lower : first.table.size ≤ second.table.size)
    (upper : third.table.size ≤ fourth.table.size) : Between first fourth id :=
  ⟨Nat.le_trans lower between.1, Nat.lt_of_lt_of_le between.2 upper⟩

theorem AreGrafted.nil (elements : Elements ι) (parent : ElementId) :
    AreGrafted elements parent [] [] elements := by
  refine ⟨Nat.le_refl _, fun _ _ _ => rfl, by simp, by simp, by simp, by rw [AllShow]; trivial, ?_⟩
  intro id between
  exact absurd between.2 (Nat.not_lt_of_le between.1)

theorem AreGrafted.top {before after : Elements ι} {tag text : String} {attributes : Entries String}
    {classes : List String} {children : List Node} {ids : List ElementId}
    (below : AreGrafted (before.create (.ofNode ⟨tag, attributes, classes, text, []⟩)).2
      before.table.size children ids after) :
    IsGrafted before ⟨tag, attributes, classes, text, children⟩ before.table.size after := by
  have made := size_create before (.ofNode ⟨tag, attributes, classes, text, []⟩)
  have here := get_create before (.ofNode ⟨tag, attributes, classes, text, []⟩)
  have grown := below.grown
  have lower : before.table.size ≤
      (before.create (.ofNode ⟨tag, attributes, classes, text, []⟩)).2.table.size := by
    rw [made]
    exact Nat.le_succ _
  have inside : before.table.size < after.table.size := by
    rw [made] at grown
    exact grown
  have top : after.get before.table.size =
      (Element.ofNode ⟨tag, attributes, classes, text, []⟩).holding ids := by
    rw [below.listed, here, if_pos rfl]
    rfl
  refine ⟨rfl, inside, ?_, by rw [top]; rfl, ?_, ?_⟩
  · intro i early
    have different := Nat.ne_of_lt early
    rw [below.same i (by rw [made]; exact Nat.lt_succ_of_lt early) different, here, if_neg different]
  · rw [Shows, top]
    refine ⟨⟨Nat.le_refl _, inside⟩, rfl, rfl, rfl, rfl, ?_⟩
    exact AllShow.frame below.shows fun i between => ⟨between.weaken lower (Nat.le_refl _), rfl⟩
  · intro i between child member
    by_cases isTop : i = before.table.size
    · rw [isTop, top] at member
      exact (below.new child member).weaken lower (Nat.le_refl _)
    · have inner : Between (before.create (.ofNode ⟨tag, attributes, classes, text, []⟩)).2 after i := by
        refine ⟨?_, between.2⟩
        rw [made]
        exact Nat.lt_of_le_of_ne between.1 (Ne.symm isTop)
      exact (below.closed i inner child member).weaken lower (Nat.le_refl _)

/-- An element that was made is put under a parent before those for the nodes after it are made. -/
theorem IsGrafted.cons {before middle after : Elements ι} {parent id : ElementId} {node : Node}
    {nodes : List Node} {ids : List ElementId} (inside : parent < before.table.size)
    (first : IsGrafted before node id middle)
    (rest : AreGrafted (middle.append parent id) parent nodes ids after) :
    AreGrafted before parent (node :: nodes) (id :: ids) after := by
  have isFirst := first.first
  have grown := first.grown
  have more := rest.grown
  have sized := size_append middle parent id
  rw [sized] at more
  have different : parent ≠ id := Nat.ne_of_lt (isFirst ▸ inside)
  have effect := get_append first.free (by rw [isFirst]; exact grown)
    (Nat.lt_trans inside grown) different
  -- The first element stays as it was made, apart from the parent that it has now.
  have kept : ∀ i, Between before middle i → (after.get i).face = (middle.get i).face := by
    intro i between
    have other : i ≠ parent := Nat.ne_of_gt (Nat.lt_of_lt_of_le inside between.1)
    rw [rest.same i (by rw [sized]; exact between.2) other, effect, if_neg other]
    split
    next same => rw [same, Element.face_under]
    next => rfl
  have wider : ∀ i, Between before middle i → Between before after i := fun i between =>
    between.weaken (Nat.le_refl _) more
  have later : ∀ i, Between (middle.append parent id) after i → Between before after i :=
    fun i between => between.weaken (by rw [sized]; exact Nat.le_of_lt grown) (Nat.le_refl _)
  refine ⟨Nat.le_trans (Nat.le_of_lt grown) more, ?_, ?_, ?_, ?_, ?_, ?_⟩
  · intro i early other
    rw [rest.same i (by rw [sized]; exact Nat.lt_trans early grown) other, effect, if_neg other,
      if_neg (by rw [isFirst]; exact Nat.ne_of_lt early), first.same i early]
  · rw [rest.listed, effect, if_pos rfl, first.same parent inside]
    simp
  · intro child member
    cases List.mem_cons.mp member with
    | inl same => exact same ▸ wider id first.shows.isKind
    | inr isLater => exact later child (rest.new child isLater)
  · intro child member
    cases List.mem_cons.mp member with
    | inl same =>
      have old : id < (middle.append parent id).table.size := by
        rw [sized, isFirst]
        exact grown
      rw [same, rest.same id old (Ne.symm different), effect, if_neg (Ne.symm different), if_pos rfl,
        Element.under_parent]
    | inr isLater => exact rest.linked child isLater
  · rw [AllShow]
    refine ⟨first.shows.frame fun i between => ⟨wider i between, kept i between⟩, ?_⟩
    exact rest.shows.frame fun i between => ⟨later i between, rfl⟩
  · intro i between child member
    by_cases early : i < middle.table.size
    · have face := kept i ⟨between.1, early⟩
      simp only [Element.face, Prod.mk.injEq] at face
      rw [face.2.2.2.2] at member
      exact wider child (first.closed i ⟨between.1, early⟩ child member)
    · have inner : Between (middle.append parent id) after i := by
        refine ⟨?_, between.2⟩
        rw [sized]
        exact Nat.le_of_not_lt early
      exact later child (rest.closed i inner child member)

mutual

theorem graft_isGrafted (elements : Elements ι) : (node : Node) →
    IsGrafted elements node (elements.graft node).1 (elements.graft node).2
  | ⟨tag, attributes, classes, text, children⟩ => by
    obtain ⟨ids, below⟩ := graftAll_areGrafted
      (elements.create (.ofNode ⟨tag, attributes, classes, text, []⟩)).2 elements.table.size children
      (by rw [size_create]; exact Nat.lt_succ_self _)
    rw [graft]
    exact below.top

theorem graftAll_areGrafted (elements : Elements ι) (parent : ElementId) : (nodes : List Node) →
    parent < elements.table.size →
    ∃ ids, AreGrafted elements parent nodes ids (elements.graftAll parent nodes)
  | [], _ => by
    rw [graftAll]
    exact ⟨[], .nil elements parent⟩
  | node :: nodes, inside => by
    have first := graft_isGrafted elements node
    have stays : parent < ((elements.graft node).2.append parent (elements.graft node).1).table.size := by
      rw [size_append]
      exact Nat.lt_trans inside first.grown
    obtain ⟨ids, rest⟩ := graftAll_areGrafted
      ((elements.graft node).2.append parent (elements.graft node).1) parent nodes stays
    rw [graftAll]
    exact ⟨_, IsGrafted.cons inside first rest⟩

end

theorem Owns.grafted {parent id : ElementId} {node : Node} (owns : elements.Owns parent)
    (grafted : AreGrafted elements parent [node] [id] after) : after.Owns parent := by
  have new := grafted.new id List.mem_cons_self
  have early : ∀ child ∈ (elements.get parent).children, child < elements.table.size :=
    fun child member => inside_of_parent (owns.linked child member)
  have different : parent ≠ id := Nat.ne_of_lt (Nat.lt_of_lt_of_le owns.inside new.1)
  refine ⟨Nat.lt_of_lt_of_le owns.inside grafted.grown, ?_, ?_, ?_⟩
  · rw [grafted.listed, Element.holding_children, List.nodup_append]
    refine ⟨owns.distinct, List.nodup_singleton id, ?_⟩
    intro child member last isLast same
    rw [List.mem_singleton.mp isLast] at same
    exact Nat.not_lt_of_le new.1 (same ▸ early child member)
  · rw [grafted.listed, Element.holding_children]
    intro child member
    cases List.mem_append.mp member with
    | inr isNew => exact grafted.linked child isNew
    | inl isOld =>
      have other : child ≠ parent := fun same => owns.apart (same ▸ isOld)
      rw [grafted.same child (early child isOld) other]
      exact owns.linked child isOld
  · rw [grafted.listed, Element.holding_children]
    intro member
    cases List.mem_append.mp member with
    | inl isOld => exact owns.apart isOld
    | inr isNew => exact different (List.mem_singleton.mp isNew)

theorem append_graft_areGrafted (elements : Elements ι) {parent : ElementId}
    (inside : parent < elements.table.size) (node : Node) :
    AreGrafted elements parent [node] [(elements.graft node).1]
      ((elements.graft node).2.append parent (elements.graft node).1) :=
  IsGrafted.cons inside (graft_isGrafted elements node) (.nil _ parent)

/-! ### What is below an element -/

mutual

/-- Is there no element of a class in a node? -/
def Lacks (name : String) : Node → Prop
  | ⟨_, _, classes, _, children⟩ => name ∉ classes ∧ AllLack name children

/-- Is there no element of a class in any of several nodes? -/
def AllLack (name : String) : List Node → Prop
  | [] => True
  | node :: nodes => Lacks name node ∧ AllLack name nodes

end

mutual

theorem Shows.below_lacks {name : String} {id : ElementId} : {node : Node} →
    elements.Shows kind id node → AllLack name node.children →
    ∀ depth, ∀ d ∈ elements.descendantsWithin depth id, (elements.get d).hasClass name = false
  | ⟨tag, attributes, classes, text, children⟩, shows, lack, depth => by
    rw [Shows] at shows
    cases depth with
    | zero =>
      rw [descendantsWithin]
      simp
    | succ depth =>
      rw [descendantsWithin]
      intro d member
      obtain ⟨child, isChild, here⟩ := List.mem_flatMap.mp member
      exact AllShow.below_lacks shows.2.2.2.2.2 lack depth child isChild d here

theorem AllShow.below_lacks {name : String} : {ids : List ElementId} → {nodes : List Node} →
    elements.AllShow kind ids nodes → AllLack name nodes →
    ∀ depth, ∀ id ∈ ids, ∀ d ∈ id :: elements.descendantsWithin depth id,
      (elements.get d).hasClass name = false
  | [], _, _, _, _ => by simp
  | _ :: _, [], shows, _, _ => by
    rw [AllShow] at shows
    exact absurd shows (fun impossible => impossible)
  | first :: rest, ⟨tag, attributes, classes, text, children⟩ :: nodes, shows, lack, depth => by
    rw [AllShow] at shows
    rw [AllLack, Lacks] at lack
    intro id member d below
    cases List.mem_cons.mp member with
    | inr later => exact AllShow.below_lacks shows.2 lack.2 depth id later d below
    | inl isFirst =>
      subst isFirst
      cases List.mem_cons.mp below with
      | inr deeper => exact Shows.below_lacks shows.1 lack.1.2 depth d deeper
      | inl isTop =>
        subst isTop
        have same := shows.1.classes
        unfold Element.hasClass
        rw [same]
        simpa using lack.1.1

end

theorem descendantsWithin_closed {holds : ElementId → Prop}
    (closed : ∀ id, holds id → ∀ child ∈ (elements.get id).children, holds child) (depth : Nat)
    {id : ElementId} (here : holds id) : ∀ d ∈ elements.descendantsWithin depth id, holds d := by
  induction depth generalizing id with
  | zero =>
    rw [descendantsWithin]
    simp
  | succ depth ih =>
    rw [descendantsWithin]
    intro d member
    obtain ⟨child, isChild, below⟩ := List.mem_flatMap.mp member
    have next := closed id here child isChild
    cases List.mem_cons.mp below with
    | inl same => exact same ▸ next
    | inr deeper => exact ih next d deeper

/-- Where only the children themselves may be of a class, they are all that is found. -/
theorem descendants_filter {name : String} {id : ElementId} {nodes : List Node}
    (shows : elements.AllShow kind (elements.get id).children nodes)
    (lack : ∀ node ∈ nodes, AllLack name node.children) (inside : id < elements.table.size) :
    (elements.descendants id).filter (fun d => (elements.get d).hasClass name) =
      (elements.get id).children.filter fun d => (elements.get d).hasClass name := by
  obtain ⟨depth, size⟩ := Nat.exists_eq_succ_of_ne_zero (Nat.ne_zero_of_lt inside)
  rw [descendants, size, descendantsWithin, List.filter_flatMap]
  rw [allShow_iff] at shows
  generalize (elements.get id).children = ids at shows
  induction shows with
  | nil => rfl
  | @cons child node ids nodes first _ ih =>
    have below := first.below_lacks (lack node List.mem_cons_self) depth
    have none : (elements.descendantsWithin depth child).filter
        (fun d => (elements.get d).hasClass name) = [] := by
      rw [List.filter_eq_nil_iff]
      intro d member
      rw [below d member]
      exact Bool.false_ne_true
    have rest := ih fun node member => lack node (List.mem_cons_of_mem _ member)
    rw [List.flatMap_cons, rest, List.filter_cons, List.filter_cons, none]
    split
    · rfl
    · rfl

end Elements

end ChatWidget
