import ChatWidget.Proofs.Page.Assembly
import ChatWidget.Proofs.Page.Sweeping
import Mathlib.Data.List.Chain
/-!
The open elements of a fragment that is being put together. From the root inwards each is the last child of the one
around it, so that whatever comes in comes last on the whole page: the elements stand on the page in the order in which
they were made, each once. A closing tag closes the innermost open element of its name and all within it, or nothing.
-/
namespace ChatWidget

open Markup (Node Token Building)
open Relation (ReflTransGen TransGen)

variable {ι : Type}

/-! ### A new element comes last -/

def Element.described (element : Element ι) : String × Entries (Option String) × List String :=
  (element.tag, element.attributes, element.classes)

def Markup.Node.described (node : Node) : String × Entries (Option String) × List String :=
  (node.tag, node.attributes.map fun (name, value) => (name, some value), node.classes)

/-- The node that a token makes, if it makes one. -/
def Markup.Token.node? : Token → Option Node
  | .opening name attributes _ => some (.ofTag name attributes)
  | _ => none

namespace Elements

variable {elements after : Elements ι} {parent child innermost id : ElementId} {node : Node}

def IsLastChild (elements : Elements ι) (parent child : ElementId) : Prop :=
  (elements.get parent).children.getLast? = some child

theorem IsLastChild.isChild (last : elements.IsLastChild parent child) : elements.IsChild parent child :=
  List.mem_of_getLast? last

theorem get_graftAll_leaf (inside : parent < elements.table.size) (leaf : node.children = []) (id : ElementId) :
    (elements.graftAll parent [node]).get id =
      if id = parent then (elements.get parent).addChild elements.table.size
      else if id = elements.table.size then (Element.ofNode node).under (some parent)
      else elements.get id := by
  have made := get_create elements (.ofNode node)
  have size := size_create elements (.ofNode node)
  have different : parent ≠ elements.table.size := Nat.ne_of_lt inside
  rw [graftAll_single, graft_childless elements leaf]
  change ((elements.create (.ofNode node)).2.append parent elements.table.size).get id = _
  rw [get_append (by rw [made, if_pos rfl]; rfl) (by rw [size]; exact Nat.lt_succ_self _)
    (by rw [size]; exact Nat.lt_succ_of_lt inside) different, made, if_neg different, made, if_pos rfl, made]
  by_cases isParent : id = parent
  · rw [if_pos isParent, if_pos isParent]
    rfl
  · rw [if_neg isParent, if_neg isParent]
    by_cases new : id = elements.table.size
    · rw [if_pos new, if_pos new]
    · rw [if_neg new, if_neg new, if_neg new]

theorem size_graftAll_leaf (elements : Elements ι) (parent : ElementId) (leaf : node.children = []) :
    (elements.graftAll parent [node]).table.size = elements.table.size + 1 := by
  rw [graftAll_single, graft_childless elements leaf, size_append, size_create]

theorem children_graftAll_leaf (inside : parent < elements.table.size) (leaf : node.children = [])
    (other : id ≠ parent) : ((elements.graftAll parent [node]).get id).children = (elements.get id).children := by
  rw [get_graftAll_leaf inside leaf, if_neg other]
  split
  next new =>
    rw [new, get_outside elements (Nat.le_refl _)]
    rfl
  next => rfl

theorem described_graftAll_leaf (inside : parent < elements.table.size) (leaf : node.children = [])
    (old : id < elements.table.size) :
    ((elements.graftAll parent [node]).get id).described = (elements.get id).described := by
  rw [get_graftAll_leaf inside leaf, if_neg (Nat.ne_of_lt old)]
  split
  next same =>
    rw [same]
    rfl
  next => rfl

theorem get_addText (elements : Elements ι) (id : ElementId) (text : String) (other : ElementId) :
    ∃ more, (elements.modify id (·.addText text)).get other = (elements.get other).addText more := by
  rcases get_modify_cases elements id other (·.addText text) with same | ⟨-, same⟩
  · refine ⟨"", same.trans ?_⟩
    rw [Element.addText, String.append_empty]
  · exact ⟨text, same⟩

theorem descendants_addText (elements : Elements ι) (id : ElementId) (text : String) (top : ElementId) :
    (elements.modify id (·.addText text)).descendants top = elements.descendants top :=
  elements.descendants_modify id top fun _ => rfl

theorem IsForest.descendants_concat (forest : elements.IsForest) (still : after.IsForest)
    (grown : elements.table.size ≤ after.table.size) (last : elements.IsLastChild parent child)
    (within : elements.IsWithin child innermost)
    (same : ∀ other, other ≠ innermost → (after.get other).children = (elements.get other).children)
    {more : List ElementId} (below : after.descendants child = elements.descendants child ++ more) :
    after.descendants parent = elements.descendants parent ++ more := by
  obtain ⟨earlier, children⟩ : ∃ earlier, (elements.get parent).children = earlier ++ [child] :=
    List.getLast?_eq_some_iff.mp last
  have isChild := last.isChild
  have notInnermost : parent ≠ innermost := by
    rintro rfl
    exact forest.acyclic parent (.head' isChild within)
  -- The innermost element is within the last child only, so nothing changes below the earlier ones.
  have kept : ∀ other ∈ earlier, after.descendants other = elements.descendants other := by
    intro other isEarlier
    refine forest.descendants_congr grown fun inner inOther => same inner ?_
    rintro rfl
    have isOther : elements.IsChild parent other := by
      unfold IsChild
      rw [children]
      exact List.mem_append_left _ isEarlier
    have nodup := forest.nodup parent
    rw [children, ← forest.same_child isOther isChild inOther within] at nodup
    exact (List.nodup_append.mp nodup).2.2 other isEarlier other List.mem_cons_self rfl
  rw [still.descendants_eq, forest.descendants_eq parent, same parent notInnermost, children, List.flatMap_append,
    List.flatMap_append, List.flatMap_singleton, List.flatMap_singleton, below, List.append_assoc, List.cons_append]
  refine congrArg (· ++ _) (List.flatMap_congr fun other isEarlier => ?_)
  rw [kept other isEarlier]

/-- What comes last in an element comes last in each that has it at the end of a way over last children. -/
theorem IsForest.descendants_chain (forest : elements.IsForest) (still : after.IsForest)
    (grown : elements.table.size ≤ after.table.size) {outer : List ElementId}
    (nested : (innermost :: outer).IsChain fun inner outer => elements.IsLastChild outer inner)
    (same : ∀ other, other ≠ innermost → (after.get other).children = (elements.get other).children)
    {more : List ElementId} (first : after.descendants innermost = elements.descendants innermost ++ more) :
    ∀ id ∈ innermost :: outer, elements.IsWithin id innermost ∧
      after.descendants id = elements.descendants id ++ more := by
  refine List.IsChain.induction _ _ nested ?_ fun _ => ⟨.refl, first⟩
  rintro inner around last ⟨within, below⟩
  exact ⟨within.head last.isChild, forest.descendants_concat still grown last within same below⟩

end Elements

namespace Assembly

variable {assembly after : Assembly ι} {innermost : ElementId} {outer : List ElementId} {node : Node}

/-! ### The open elements are the way to what came last -/

/-- Are the open elements, from the root inwards, each the last child of the one around it, on a page on which the
elements stand in the order of their numbers? The root is under no other element, and none is open that is closed by
its own tag. -/
structure IsUpright (assembly : Assembly ι) : Prop where
  forest : assembly.elements.IsForest
  bottom : assembly.opened.getLast? = some root
  free : (assembly.elements.get root).parent = none
  nested : assembly.opened.IsChain fun inner outer => assembly.elements.IsLastChild outer inner
  holding : ∀ id ∈ assembly.opened, (assembly.elements.get id).tag ∉ Building.voidTags
  ordered : root :: assembly.elements.descendants root = List.range assembly.elements.table.size

namespace IsUpright

theorem start : (Assembly.start : Assembly ι).IsUpright := by
  refine ⟨Elements.IsForest.empty.create rfl rfl, rfl, rfl, .singleton _, ?_, rfl⟩
  intro id member
  rw [List.mem_singleton.mp member]
  change "#fragment".lowered ∉ Building.voidTags
  decide +kernel

theorem exists_innermost (upright : assembly.IsUpright) :
    ∃ innermost outer, assembly.opened = innermost :: outer := by
  have bottom := upright.bottom
  cases opened : assembly.opened with
  | nil =>
    rw [opened] at bottom
    cases bottom
  | cons innermost outer => exact ⟨innermost, outer, rfl⟩

theorem root_inside (upright : assembly.IsUpright) : root < assembly.elements.table.size := by
  rw [← List.mem_range, ← upright.ordered]
  exact List.mem_cons_self

theorem root_open (upright : assembly.IsUpright) : root ∈ assembly.opened := List.mem_of_getLast? upright.bottom

theorem below (upright : assembly.IsUpright) (opened : assembly.opened = innermost :: outer) :
    ∀ id ∈ outer, assembly.elements.IsBelow id innermost := by
  have nested := upright.nested
  rw [opened] at nested
  have trans : Trans (fun inner outer => assembly.elements.IsBelow outer inner)
      (fun inner outer => assembly.elements.IsBelow outer inner)
      (fun inner outer => assembly.elements.IsBelow outer inner) := ⟨fun first second => second.trans first⟩
  have chain := nested.imp fun inner outer last => TransGen.single (Elements.IsLastChild.isChild last)
  exact (List.pairwise_cons.mp (List.isChain_iff_pairwise.mp chain)).1

theorem inside (upright : assembly.IsUpright) : ∀ id ∈ assembly.opened, id < assembly.elements.table.size := by
  obtain ⟨innermost, outer, opened⟩ := upright.exists_innermost
  have below := upright.below opened
  rw [opened]
  intro id member
  rcases List.mem_cons.mp member with rfl | around
  · cases outer with
    | nil =>
      have isRoot := upright.root_open
      rw [opened] at isRoot
      rw [← List.mem_singleton.mp isRoot]
      exact upright.root_inside
    | cons around outer =>
      obtain ⟨_, -, link⟩ := TransGen.tail'_iff.mp (below around List.mem_cons_self)
      exact (upright.forest.inside link).2
  · obtain ⟨_, link, -⟩ := TransGen.head'_iff.mp (below id around)
    exact (upright.forest.inside link).1

theorem below_inside {id : ElementId} (upright : assembly.IsUpright)
    (below : id ∈ assembly.elements.descendants root) : id < assembly.elements.table.size := by
  rw [← List.mem_range, ← upright.ordered]
  exact List.mem_cons_of_mem root below

theorem innermost_inside (upright : assembly.IsUpright) (opened : assembly.opened = innermost :: outer) :
    innermost < assembly.elements.table.size :=
  upright.inside innermost (opened ▸ List.mem_cons_self)

theorem ordered_add (upright : assembly.IsUpright) (opened : assembly.opened = innermost :: outer)
    (leaf : node.children = []) :
    (assembly.elements.graftAll innermost [node]).descendants root =
      assembly.elements.descendants root ++ [assembly.elements.table.size] := by
  have inside := upright.innermost_inside opened
  have forest := upright.forest.addNode inside node
  have first := upright.forest.descendants_addNode inside node
  have grown : assembly.elements.table.size ≤ (assembly.elements.graftAll innermost [node]).table.size := by
    rw [Elements.size_graftAll_leaf _ _ leaf]
    exact Nat.le_succ _
  have childless : ((assembly.elements.graftAll innermost [node]).get assembly.elements.table.size).children = [] := by
    rw [Elements.children_graftAll_leaf inside leaf (Nat.ne_of_gt inside),
      Elements.get_outside _ (Nat.le_refl _)]
    rfl
  rw [← Elements.graftAll_single] at forest
  dsimp only at first
  rw [← Elements.graftAll_single, (Elements.graft_isGrafted assembly.elements node).first,
    forest.descendants_eq assembly.elements.table.size, childless] at first
  have nested := upright.nested
  rw [opened] at nested
  exact (upright.forest.descendants_chain forest grown nested
    (fun _ apart => Elements.children_graftAll_leaf inside leaf apart) first root (opened ▸ upright.root_open)).2

theorem add (upright : assembly.IsUpright) (opened : assembly.opened = innermost :: outer)
    (leaf : node.children = []) :
    (⟨assembly.elements.graftAll innermost [node], assembly.opened⟩ : Assembly ι).IsUpright := by
  have inside := upright.innermost_inside opened
  have forest := upright.forest.addNode inside node
  rw [← Elements.graftAll_single] at forest
  refine ⟨forest, upright.bottom, ?_, ?_, fun id member => ?_, ?_⟩
  · dsimp only
    rw [Elements.get_graftAll_leaf inside leaf]
    split
    next same =>
      rw [← same]
      exact upright.free
    next =>
      rw [if_neg (Nat.ne_of_lt upright.root_inside)]
      exact upright.free
  · have nested := upright.nested
    have below := upright.below opened
    dsimp only
    rw [opened] at nested ⊢
    refine nested.imp_of_mem_tail_imp fun inner around _ isOuter last => ?_
    have apart : around ≠ innermost := by
      rintro rfl
      exact upright.forest.acyclic around (below around isOuter)
    unfold Elements.IsLastChild
    rw [Elements.children_graftAll_leaf inside leaf apart]
    exact last
  · rw [tag_graftAll inside (upright.inside id member)]
    exact upright.holding id member
  · dsimp only
    rw [upright.ordered_add opened leaf, Elements.size_graftAll_leaf _ _ leaf, List.range_succ, ← upright.ordered]
    rfl

theorem enter (upright : assembly.IsUpright) (leaf : node.children = []) (holds : node.tag ∉ Building.voidTags) :
    (assembly.enter node).IsUpright := by
  obtain ⟨innermost, outer, opened⟩ := upright.exists_innermost
  have inside := upright.innermost_inside opened
  have added := upright.add opened leaf
  have made := Elements.get_graftAll_leaf inside leaf assembly.elements.table.size
  rw [if_neg (Nat.ne_of_gt inside), if_pos rfl] at made
  have bottom := added.bottom
  have nested := added.nested
  have holding := added.holding
  dsimp only at bottom nested holding
  rw [opened] at bottom nested holding
  rw [enter_eq opened]
  refine ⟨added.forest, ?_, added.free, ?_, ?_, added.ordered⟩
  · rw [List.getLast?_cons_cons]
    exact bottom
  · refine List.isChain_cons_cons.mpr ⟨?_, nested⟩
    unfold Elements.IsLastChild
    rw [Elements.get_graftAll_leaf inside leaf, if_pos rfl]
    exact List.getLast?_concat
  · refine List.forall_mem_cons.mpr ⟨?_, holding⟩
    rw [made]
    exact holds

theorem close {above below : List ElementId} (upright : assembly.IsUpright) (opened : assembly.opened = above ++ below)
    (some : below ≠ []) : (⟨assembly.elements, below⟩ : Assembly ι).IsUpright := by
  have bottom := upright.bottom
  have nested := upright.nested
  have holding := upright.holding
  rw [opened] at bottom nested holding
  refine ⟨upright.forest, ?_, upright.free, nested.right_of_append, ?_, upright.ordered⟩
  · rwa [List.getLast?_append_of_ne_nil _ some] at bottom
  · exact fun id member => holding id (List.mem_append_right _ member)

theorem addText (upright : assembly.IsUpright) (id : ElementId) (text : String) :
    (⟨assembly.elements.modify id (·.addText text), assembly.opened⟩ : Assembly ι).IsUpright := by
  have effect := assembly.elements.get_addText id text
  refine ⟨upright.forest.modify id (fun _ => rfl) fun _ => rfl, upright.bottom, ?_, ?_, fun other member => ?_, ?_⟩
  · obtain ⟨more, same⟩ := effect root
    rw [same]
    exact upright.free
  · refine upright.nested.imp fun inner outer last => ?_
    obtain ⟨more, same⟩ := effect outer
    unfold Elements.IsLastChild
    rw [same]
    exact last
  · obtain ⟨more, same⟩ := effect other
    rw [same]
    exact upright.holding other member
  · rw [assembly.elements.descendants_addText id text, Elements.size_modify]
    exact upright.ordered

end IsUpright

/-! ### What a closing tag closes -/

/-- Does a closing tag close the innermost open element of its name and all within it, or nothing where none is open?
The root is not looked at. -/
inductive Closes (name : String) (before after : Assembly ι) : Prop where
  | innermost (within : List ElementId) (id : ElementId) (around : List ElementId)
      (opened : before.opened = within ++ id :: around) (some : around ≠ [])
      (named : (before.elements.get id).tag = name.lowered)
      (others : ∀ other ∈ within, (before.elements.get other).tag ≠ name.lowered)
      (left : after = { before with opened := around })
  | nothing (unnamed : ∀ id ∈ before.opened.dropLast, (before.elements.get id).tag ≠ name.lowered)
      (left : after = before)

theorem IsUpright.closes (upright : assembly.IsUpright) (name : String) :
    ∃ after, assembly.take? (.closing name) = some after ∧ Closes name assembly after := by
  obtain ⟨inner, opened⟩ := List.getLast?_eq_some_iff.mp upright.bottom
  have above : assembly.opened.dropLast = inner := by rw [opened, List.dropLast_concat]
  unfold take?
  dsimp only
  rw [above]
  split
  next n found =>
    obtain ⟨few, named, others⟩ := List.findIdx?_eq_some_iff_getElem.mp found
    have split : assembly.opened = inner.take n ++ inner[n] :: (inner.drop (n + 1) ++ [root]) := by
      rw [opened, ← List.cons_append, ← List.drop_eq_getElem_cons few, ← List.append_assoc, List.take_append_drop]
    have rest : assembly.opened.drop (n + 1) = inner.drop (n + 1) ++ [root] := by
      rw [opened, List.drop_append_of_le_length few]
    refine ⟨_, rfl, .innermost _ _ _ split ?_ ?_ ?_ ?_⟩
    · simp
    · simpa using named
    · intro other member
      obtain ⟨i, small, rfl⟩ := List.mem_take_iff_getElem.mp member
      have apart := others i (Nat.lt_of_lt_of_le small (Nat.min_le_left _ _))
      simpa using apart
    · rw [rest]
  next missing =>
    refine ⟨_, rfl, .nothing ?_ rfl⟩
    rw [above]
    intro id member
    have apart := List.findIdx?_eq_none_iff.mp missing id member
    simpa using apart

theorem IsUpright.closed {name : String} (upright : assembly.IsUpright) (closes : Closes name assembly after) :
    after.IsUpright := by
  cases closes with
  | innermost within id around opened some _ _ left =>
    rw [left]
    rw [List.append_cons] at opened
    exact upright.close opened some
  | nothing _ left =>
    rw [left]
    exact upright

theorem Closes.elements {name : String} (closes : Closes name assembly after) : after.elements = assembly.elements := by
  cases closes with
  | innermost _ _ _ _ _ _ _ left => rw [left]
  | nothing _ left => rw [left]

/-! ### A whole run -/

/-- Is a page what comes of some tokens? It is upright, and its elements, in their order, are as the tags among the
tokens say. -/
structure IsAssembled (tokens : List Token) (assembly : Assembly ι) : Prop where
  upright : assembly.IsUpright
  described : (assembly.elements.descendants root).map (fun id => (assembly.elements.get id).described) =
    (tokens.filterMap Token.node?).map Node.described

theorem ofTag_leaf (name : String) (attributes : List (String × String)) :
    (Node.ofTag name attributes).children = [] := rfl

theorem IsUpright.described_add (upright : assembly.IsUpright) (opened : assembly.opened = innermost :: outer)
    (leaf : node.children = []) :
    ((assembly.elements.graftAll innermost [node]).descendants root).map
        (fun id => ((assembly.elements.graftAll innermost [node]).get id).described) =
      (assembly.elements.descendants root).map (fun id => (assembly.elements.get id).described) ++
        [node.described] := by
  have inside := upright.innermost_inside opened
  have new : ((assembly.elements.graftAll innermost [node]).get assembly.elements.table.size).described =
      node.described := by
    rw [Elements.get_graftAll_leaf inside leaf, if_neg (Nat.ne_of_gt inside), if_pos rfl]
    rfl
  rw [upright.ordered_add opened leaf, List.map_append, List.map_singleton, new]
  refine congrArg (· ++ [node.described]) (List.map_congr_left fun id below => ?_)
  exact Elements.described_graftAll_leaf inside leaf (upright.below_inside below)

theorem described_concat (tokens : List Token) (token : Token) :
    ((tokens ++ [token]).filterMap Token.node?).map Node.described =
      (tokens.filterMap Token.node?).map Node.described ++ (token.node?.map Node.described).toList := by
  rw [List.filterMap_append, List.map_append]
  refine congrArg (_ ++ ·) ?_
  cases token with
  | opening => rfl
  | closing => rfl
  | text => rfl

theorem IsAssembled.take? {tokens : List Token} {token : Token} (assembled : IsAssembled tokens assembly)
    (taken : assembly.take? token = some after) : IsAssembled (tokens ++ [token]) after := by
  obtain ⟨upright, described⟩ := assembled
  obtain ⟨innermost, outer, opened⟩ := upright.exists_innermost
  have whole := described_concat tokens token
  rw [← described] at whole
  cases token with
  | opening name attributes closed =>
    have made := (upright.described_add opened (ofTag_leaf name attributes)).trans whole.symm
    rw [take?_opening opened] at taken
    split at taken
    next =>
      cases taken
      exact ⟨upright.add opened (ofTag_leaf name attributes), made⟩
    next stays =>
      cases taken
      have holds : (Node.ofTag name attributes).tag ∉ Building.voidTags := fun isVoid => stays (by simp [isVoid])
      refine ⟨upright.enter (ofTag_leaf name attributes) holds, ?_⟩
      rw [enter_eq opened]
      exact made
  | closing name =>
    obtain ⟨other, closed, closes⟩ := upright.closes name
    cases closed.symm.trans taken
    refine ⟨upright.closed closes, ?_⟩
    rw [closes.elements, whole]
    exact (List.append_nil _).symm
  | text content =>
    have same := whole.trans (List.append_nil _)
    rw [take?_text opened] at taken
    split at taken
    next =>
      cases taken
      exact ⟨upright, same.symm⟩
    next =>
      cases taken
      refine ⟨upright.addText innermost content, ?_⟩
      rw [same, assembly.elements.descendants_addText]
      apply List.map_congr_left
      intro id _
      obtain ⟨more, only⟩ := assembly.elements.get_addText innermost content id
      rw [only]
      rfl

theorem IsAssembled.start : IsAssembled [] (Assembly.start : Assembly ι) := ⟨.start, rfl⟩

theorem isAssembled_run {tokens : List Token} (run : tokens.foldlM take? (start : Assembly ι) = some assembly) :
    IsAssembled tokens assembly := by
  induction tokens using List.reverseRecOn generalizing assembly with
  | nil =>
    cases run
    exact .start
  | append_singleton tokens token ih =>
    rw [List.foldlM_append] at run
    obtain ⟨before, earlier, last⟩ := Option.bind_eq_some_iff.mp run
    rw [List.foldlM_cons] at last
    obtain ⟨after, taken, done⟩ := Option.bind_eq_some_iff.mp last
    cases done
    exact (ih earlier).take? taken

/-- Whatever tags and text come in, and in whatever order, nothing fails. After each of them the open elements are the
way from the root to what came last, each the last child of the one around it and none of them closed by its own tag;
the elements on the page are a forest in which each stands once below the root, in the order in which they were made,
and is what its tag says. A closing tag closes the innermost open element of its name with all within it, or nothing.
And this page is the one on which the tree of nodes is made that the same tokens are read as, with the elements open
that are nodes of its path. -/
theorem open_path_throughout (tokens : List Token) :
    let building := tokens.foldl Building.take Building.start
    ∃ built : Assembly ι, tokens.foldlM take? start = some built ∧ built.IsUpright ∧
      (built.elements.descendants root).map (fun id => (built.elements.get id).described) =
        (tokens.filterMap Token.node?).map Node.described ∧
      (∀ name, ∃ after, built.take? (.closing name) = some after ∧ Closes name built after) ∧
      ({} : Elements ι).graft building.finish = (root, built.elements) ∧
      built.opened.dropLast.map (fun id => (built.elements.get id).tag) = building.path.map (·.tag) := by
  intro building
  have run : tokens.foldlM take? (start : Assembly ι) = some (ofBuilding building) := run_eq tokens
  obtain ⟨upright, described⟩ := isAssembled_run run
  exact ⟨ofBuilding building, run, upright, described, upright.closes, graft_finish building,
    (isLaid_ofBuilding building).tags⟩

/-- The case of a name does not matter, and a closing tag without its partner closes nothing. -/
example : (([.opening "DIV" [] false, .opening "br" [] false, .opening "p" [] false, .closing "b",
    .opening "i" [] false, .closing "P", .opening "u" [] false] : List Token).foldlM take?
      (start : Assembly Unit)).map (fun built => (built.opened, built.elements.descendants root)) =
    some ([5, 1, 0], [1, 2, 3, 4, 5]) := by decide +kernel

end Assembly

end ChatWidget
