import ChatWidget.Proofs.Page.Shows
import Mathlib.Logic.Function.Conjugate
/-!
A fragment of markup put together on a page. Every element is made when its tag comes in and stands under the innermost
open element from then on, also while it is open itself. What comes of it is the page on which the finished tree of
nodes is made at one go, after each token: the elements have the same numbers, looks and links, and the open ones are
those of the path of nodes that are not finished yet.
-/
namespace ChatWidget

open Markup (Node Token Building)

variable {ι : Type}

namespace Element

def addChild (element : Element ι) (child : ElementId) : Element ι := element.holding (element.children ++ [child])

def addText (element : Element ι) (text : String) : Element ι := { element with text := element.text ++ text }

theorem addText_addChild (text : String) (child : ElementId) :
    Function.Commute (fun e : Element ι => e.addText text) (fun e => e.addChild child) := fun _ => rfl

theorem addText_under (text : String) (parent : Option ElementId) :
    Function.Commute (fun e : Element ι => e.addText text) (fun e => e.under parent) := fun _ => rfl

theorem under_addChild (parent : Option ElementId) (child : ElementId) :
    Function.Commute (fun e : Element ι => e.under parent) (fun e => e.addChild child) := fun _ => rfl

end Element

/-! ### Changes that pass by one another -/

namespace Elements

variable {elements : Elements ι} {id other parent child : ElementId} {change : Element ι → Element ι}

theorem ext_get {first second : Elements ι} (size : first.table.size = second.table.size)
    (same : ∀ id, first.get id = second.get id) : first = second := by
  obtain ⟨first⟩ := first
  obtain ⟨second⟩ := second
  congr 1
  apply Array.ext size
  intro id inFirst inSecond
  have equal := same id
  simpa [get, inFirst, inSecond] using equal

theorem modify_comm {again : Element ι → Element ι} (apart : id = other → Function.Commute change again) :
    (elements.modify id change).modify other again = (elements.modify other again).modify id change := by
  apply ext_get
  · rw [size_modify, size_modify, size_modify, size_modify]
  · intro here
    by_cases inside : here < elements.table.size
    · by_cases first : id = here
      · by_cases second : other = here
        · have commute := apart (first.trans second.symm)
          simp [get, modify, inside, first, second, Array.getElem_modify, commute.eq]
        · simp [get, modify, inside, first, second, Array.getElem_modify]
      · simp [get, modify, inside, first, Array.getElem_modify]
    · have outside := Nat.le_of_not_lt inside
      rw [get_outside _ (by rwa [size_modify, size_modify]), get_outside _ (by rwa [size_modify, size_modify])]

theorem create_modify (inside : id < elements.table.size) (element : Element ι) :
    (elements.modify id change).create element =
      ((elements.create element).1, (elements.create element).2.modify id change) := by
  have size := size_modify elements id change
  refine Prod.ext size (ext_get ?_ fun here => ?_)
  · rw [size_create, size, size_modify, size_create]
  · rw [get_create, size, get_modify _ _ _ _ inside,
      get_modify _ _ _ _ (by rw [size_create]; exact Nat.lt_succ_of_lt inside), get_create, get_create,
      if_neg (Nat.ne_of_lt inside)]
    by_cases new : here = elements.table.size
    · rw [if_pos new, if_neg (fun same => Nat.ne_of_lt inside (same.symm.trans new)), if_pos new]
    · rw [if_neg new, if_neg new]

theorem append_free (free : (elements.get child).parent = none) (parent : ElementId) :
    elements.append parent child =
      (elements.modify child (·.under (some parent))).modify parent (·.addChild child) := by
  unfold append
  rw [remove_free free]
  rfl

theorem append_modify (free : (elements.get child).parent = none)
    (stillFree : ((elements.modify id change).get child).parent = none)
    (atChild : id = child → Function.Commute change fun e => e.under (some parent))
    (atParent : id = parent → Function.Commute change fun e => e.addChild child) :
    (elements.modify id change).append parent child = (elements.append parent child).modify id change := by
  rw [append_free free, append_free stillFree, modify_comm atChild, modify_comm atParent]

theorem graftAll_single (elements : Elements ι) (parent : ElementId) (node : Node) :
    elements.graftAll parent [node] = (elements.graft node).2.append parent (elements.graft node).1 := by
  simp only [graftAll]

theorem graftAll_cons (elements : Elements ι) (parent : ElementId) (node : Node) (nodes : List Node) :
    elements.graftAll parent (node :: nodes) = (elements.graftAll parent [node]).graftAll parent nodes := by
  rw [graftAll_single, graftAll]

mutual

theorem graft_modify {elements : Elements ι} (inside : id < elements.table.size) : (node : Node) →
    (elements.modify id change).graft node = ((elements.graft node).1, (elements.graft node).2.modify id change)
  | ⟨tag, attributes, classes, text, children⟩ => by
    obtain ⟨made, isMade⟩ : ∃ made, elements.create (.ofNode ⟨tag, attributes, classes, text, []⟩) = made :=
      ⟨_, rfl⟩
    have first : made.1 = elements.table.size := by rw [← isMade, create]
    have size : made.2.table.size = elements.table.size + 1 := by rw [← isMade, size_create]
    have here : id < made.2.table.size := size ▸ Nat.lt_succ_of_lt inside
    have new : made.1 < made.2.table.size := by rw [first, size]; exact Nat.lt_succ_self _
    have apart : id ≠ made.1 := first ▸ Nat.ne_of_lt inside
    rw [graft, graft, create_modify inside, isMade]
    dsimp only
    rw [graftAll_modify here new (fun same => absurd same apart) children]

theorem graftAll_modify {elements : Elements ι} {parent : ElementId} (inside : id < elements.table.size)
    (parentInside : parent < elements.table.size)
    (atParent : id = parent → ∀ child, Function.Commute change fun e => e.addChild child) : (nodes : List Node) →
    (elements.modify id change).graftAll parent nodes = (elements.graftAll parent nodes).modify id change
  | [] => by rw [graftAll, graftAll]
  | node :: nodes => by
    have made := graft_isGrafted elements node
    have apart : id ≠ (elements.graft node).1 := Nat.ne_of_lt (made.first ▸ inside)
    have stillFree : (((elements.graft node).2.modify id change).get (elements.graft node).1).parent = none := by
      rw [get_modify _ _ _ _ (Nat.lt_trans inside made.grown), if_neg (Ne.symm apart), made.free]
    rw [graftAll_cons, graftAll_cons elements, graftAll_single, graftAll_single, graft_modify inside]
    dsimp only
    rw [append_modify made.free stillFree (fun same => absurd same apart) fun same => atParent same _]
    refine graftAll_modify ?_ ?_ atParent nodes
    · rw [size_append]
      exact Nat.lt_trans inside made.grown
    · rw [size_append]
      exact Nat.lt_trans parentInside made.grown

end

/-! ### What is made for a node that has more in it -/

theorem graftAll_append (elements : Elements ι) (parent : ElementId) (nodes more : List Node) :
    elements.graftAll parent (nodes ++ more) = (elements.graftAll parent nodes).graftAll parent more := by
  induction nodes generalizing elements with
  | nil => rw [List.nil_append, graftAll]
  | cons node nodes ih => rw [List.cons_append, graftAll_cons, ih, graftAll_cons elements parent node nodes]

theorem graft_childless (elements : Elements ι) {node : Node} (childless : node.children = []) :
    elements.graft node = elements.create (.ofNode node) := by
  obtain ⟨tag, attributes, classes, text, children⟩ := node
  cases childless
  rw [graft]
  rfl

theorem graft_add (elements : Elements ι) : (node inner : Node) →
    elements.graft (node.add inner) =
      ((elements.graft node).1, (elements.graft node).2.graftAll (elements.graft node).1 [inner])
  | ⟨tag, attributes, classes, text, children⟩, inner => by
    rw [Node.add, graft, graft]
    dsimp only
    rw [graftAll_append]

theorem graft_addText (elements : Elements ι) (text : String) : (node : Node) →
    elements.graft (node.addText text) =
      ((elements.graft node).1, (elements.graft node).2.modify (elements.graft node).1 (·.addText text))
  | ⟨tag, attributes, classes, before, children⟩ => by
    have made := size_create elements (.ofNode ⟨tag, attributes, classes, before, []⟩)
    have more : elements.create (.ofNode ⟨tag, attributes, classes, before ++ text, []⟩) =
        (elements.table.size, (elements.create (.ofNode ⟨tag, attributes, classes, before, []⟩)).2.modify
          elements.table.size (·.addText text)) := by
      refine Prod.ext rfl (ext_get ?_ fun here => ?_)
      · rw [size_modify, size_create, size_create]
      · rw [get_modify _ _ _ _ (by rw [made]; exact Nat.lt_succ_self _), get_create, get_create, get_create]
        split
        next => rw [if_pos rfl]; rfl
        next => rfl
    have inside : elements.table.size <
        (elements.create (.ofNode ⟨tag, attributes, classes, before, []⟩)).2.table.size := by
      rw [made]
      exact Nat.lt_succ_self _
    rw [Node.addText, graft, graft, more]
    dsimp only
    rw [graftAll_modify inside inside fun _ child => Element.addText_addChild text child]
    rfl

/-- It makes no difference whether another child of a node is made before the element for the node is put in its
place or after that. -/
theorem graftAll_add (inside : parent < elements.table.size) (node inner : Node) :
    elements.graftAll parent [node.add inner] =
      (elements.graftAll parent [node]).graftAll elements.table.size [inner] := by
  have made := graft_isGrafted elements node
  have wider := graft_isGrafted elements (node.add inner)
  have free : (((elements.graft node).2.graftAll elements.table.size [inner]).get elements.table.size).parent =
      none := by
    have free := wider.free
    rwa [graft_add, made.first] at free
  have here := made.grown
  have above := Nat.lt_trans inside made.grown
  rw [graftAll_single, graftAll_single elements, graft_add]
  dsimp only
  rw [made.first, append_free free, append_free (made.first ▸ made.free), graftAll_modify, graftAll_modify]
  · exact here
  · exact here
  · exact fun _ child => Element.under_addChild (some parent) child
  · rw [size_modify]
    exact above
  · rw [size_modify]
    exact here
  · exact fun same => absurd same (Nat.ne_of_lt inside)

theorem graftAll_addText (inside : parent < elements.table.size) (text : String) (node : Node) :
    elements.graftAll parent [node.addText text] =
      (elements.graftAll parent [node]).modify elements.table.size (·.addText text) := by
  have made := graft_isGrafted elements node
  have free := made.free
  rw [made.first] at free
  rw [graftAll_single, graftAll_single, graft_addText]
  dsimp only
  rw [made.first]
  apply append_modify free
  · rw [get_modify _ _ _ _ made.grown, if_pos rfl]
    exact free
  · exact fun _ => Element.addText_under text (some parent)
  · exact fun same => absurd same.symm (Nat.ne_of_lt inside)

end Elements

/-! ### Putting a fragment together -/

/-- A fragment that is being put together: the elements made so far, and the open ones, the innermost first and the
root last. -/
structure Assembly (ι : Type) where
  elements : Elements ι
  opened : List ElementId

namespace Assembly

/-- The root is the first element of all. -/
def root : ElementId := 0

/-- The root alone, which is open. -/
def start : Assembly ι := ⟨(({} : Elements ι).create (.ofNode (.ofTag "#fragment" []))).2, [root]⟩

/-- Take a token in. What goes into the innermost open element fails if none is open. The search for the element that
a closing tag closes stops short of the root. -/
def take? (assembly : Assembly ι) : Token → Option (Assembly ι)
  | .opening name attributes closed => do
    let innermost ← assembly.opened.head?
    let node := Node.ofTag name attributes
    let (id, elements) := assembly.elements.create (.ofNode node)
    let elements := elements.append innermost id
    if closed || Building.voidTags.contains node.tag then some ⟨elements, assembly.opened⟩
    else some ⟨elements, id :: assembly.opened⟩
  | .closing name =>
    match assembly.opened.dropLast.findIdx? fun id => (assembly.elements.get id).tag == name.lowered with
    | some n => some { assembly with opened := assembly.opened.drop (n + 1) }
    | none => some assembly
  | .text content =>
    if Text.allBlank content.toList then some assembly
    else do
      let innermost ← assembly.opened.head?
      some { assembly with elements := assembly.elements.modify innermost (·.addText content) }

/-- The assembly with a new open element within the innermost one, made for a node with all that is in it. -/
def enter (assembly : Assembly ι) (node : Node) : Assembly ι :=
  match assembly.opened with
  | [] => assembly
  | innermost :: _ =>
    ⟨assembly.elements.graftAll innermost [node], assembly.elements.table.size :: assembly.opened⟩

/-- The page on which a root is made with what is in it, and then the nodes of a path, the innermost first, each within
the one around it. -/
def lay (root : Node) : List Node → Assembly ι
  | [] => ⟨(({} : Elements ι).graft root).2, [Assembly.root]⟩
  | node :: path => (lay root path).enter node

def ofBuilding (building : Building) : Assembly ι := lay building.root building.path

variable {assembly : Assembly ι} {building : Building} {path : List Node} {innermost : ElementId}
  {outer : List ElementId}

theorem enter_eq (opened : assembly.opened = innermost :: outer) (node : Node) :
    assembly.enter node =
      ⟨assembly.elements.graftAll innermost [node], assembly.elements.table.size :: innermost :: outer⟩ := by
  unfold enter
  rw [opened]

/-- A tag makes an element in the innermost open one, which is open from then on if it can be. -/
theorem take?_opening (opened : assembly.opened = innermost :: outer) (name : String)
    (attributes : List (String × String)) (closed : Bool) :
    assembly.take? (.opening name attributes closed) =
      if closed || Building.voidTags.contains (Node.ofTag name attributes).tag then
        some ⟨assembly.elements.graftAll innermost [.ofTag name attributes], assembly.opened⟩
      else some (assembly.enter (.ofTag name attributes)) := by
  rw [enter_eq opened, Elements.graftAll_single, Elements.graft_childless _ rfl]
  unfold take?
  rw [opened]
  rfl

theorem take?_text (opened : assembly.opened = innermost :: outer) (content : String) :
    assembly.take? (.text content) =
      if Text.allBlank content.toList then some assembly
      else some ⟨assembly.elements.modify innermost (·.addText content), assembly.opened⟩ := by
  unfold take?
  rw [opened]
  rfl

/-! ### The open elements are those of the path -/

/-- Is one element open for each node of a path, and the root as well? -/
structure IsLaid (path : List Node) (assembly : Assembly ι) : Prop where
  some : assembly.opened ≠ []
  inside : ∀ id ∈ assembly.opened, id < assembly.elements.table.size
  tags : assembly.opened.dropLast.map (fun id => (assembly.elements.get id).tag) = path.map (·.tag)

theorem tag_graftAll {elements : Elements ι} {parent id : ElementId} (inside : parent < elements.table.size)
    (old : id < elements.table.size) (node : Node) :
    ((elements.graftAll parent [node]).get id).tag = (elements.get id).tag := by
  have added := Elements.append_graft_areGrafted elements inside node
  rw [← Elements.graftAll_single] at added
  by_cases isParent : id = parent
  · rw [isParent, added.listed]
    rfl
  · rw [added.same id old isParent]

theorem IsLaid.enter (laid : IsLaid path assembly) (node : Node) : IsLaid (node :: path) (assembly.enter node) := by
  obtain ⟨innermost, outer, opened⟩ := List.exists_cons_of_ne_nil laid.some
  have inside : innermost < assembly.elements.table.size := laid.inside innermost (opened ▸ List.mem_cons_self)
  have added := Elements.append_graft_areGrafted assembly.elements inside node
  rw [← Elements.graftAll_single, (Elements.graft_isGrafted assembly.elements node).first] at added
  rw [enter_eq opened]
  refine ⟨List.cons_ne_nil _ _, fun id member => ?_, ?_⟩
  · rcases List.mem_cons.mp member with rfl | old
    · exact (added.new _ List.mem_cons_self).2
    · exact Nat.lt_of_lt_of_le (laid.inside id (opened ▸ old)) added.grown
  · have tag : ((assembly.elements.graftAll innermost [node]).get assembly.elements.table.size).tag = node.tag := by
      have shows := added.shows
      rw [Elements.AllShow] at shows
      exact shows.1.tag
    rw [List.dropLast_cons_of_ne_nil (List.cons_ne_nil _ _), List.map_cons, List.map_cons, tag, ← laid.tags, opened]
    refine congrArg (node.tag :: ·) (List.map_congr_left fun id member => ?_)
    exact tag_graftAll inside (laid.inside id (opened ▸ (List.dropLast_sublist _).subset member)) node

theorem isLaid_lay (root : Node) (path : List Node) : IsLaid path (lay root path : Assembly ι) := by
  induction path with
  | nil =>
    refine ⟨List.cons_ne_nil _ _, fun id member => ?_, rfl⟩
    rw [List.mem_singleton.mp member]
    exact (Elements.graft_isGrafted ({} : Elements ι) root).grown
  | cons node path ih => exact ih.enter node

theorem isLaid_ofBuilding (building : Building) : IsLaid building.path (ofBuilding building : Assembly ι) :=
  isLaid_lay building.root building.path

/-! ### What happens to a building happens on the page -/

theorem ofBuilding_start : ofBuilding Building.start = (start : Assembly ι) := by
  unfold ofBuilding lay
  rw [Building.start, Elements.graft_childless {} rfl]
  rfl

theorem graft_root (root : Node) : (({} : Elements ι).graft root).1 = Assembly.root :=
  (Elements.graft_isGrafted {} root).first

/-- What a change of a node does to the page on which the node is made is what the change of the innermost node does to
the page of a building. -/
theorem ofBuilding_onInnermost (change : Node → Node) (effect : ElementId → Elements ι → Elements ι)
    (onRoot : ∀ node, (({} : Elements ι).graft (change node)).2 = effect root (({} : Elements ι).graft node).2)
    (onNode : ∀ (elements : Elements ι) (parent : ElementId), parent < elements.table.size → ∀ node,
      elements.graftAll parent [change node] = effect elements.table.size (elements.graftAll parent [node]))
    (opened : (ofBuilding building : Assembly ι).opened = innermost :: outer) :
    ofBuilding (building.onInnermost change) =
      ⟨effect innermost (ofBuilding building : Assembly ι).elements, innermost :: outer⟩ := by
  obtain ⟨root, path⟩ := building
  cases path with
  | nil =>
    cases opened
    unfold Building.onInnermost ofBuilding lay
    rw [onRoot]
  | cons inner path =>
    have laid : IsLaid path (lay root path : Assembly ι) := isLaid_lay root path
    obtain ⟨parent, around, within⟩ := List.exists_cons_of_ne_nil laid.some
    have inside := laid.inside parent (within ▸ List.mem_cons_self)
    unfold ofBuilding lay at opened ⊢
    unfold Building.onInnermost
    dsimp only at opened ⊢
    rw [enter_eq within] at opened ⊢
    cases opened
    rw [enter_eq within, onNode _ _ inside]

theorem ofBuilding_add (opened : (ofBuilding building : Assembly ι).opened = innermost :: outer) (node : Node) :
    ofBuilding (building.onInnermost (·.add node)) =
      ⟨(ofBuilding building : Assembly ι).elements.graftAll innermost [node], innermost :: outer⟩ := by
  apply ofBuilding_onInnermost (·.add node) (fun id elements => elements.graftAll id [node]) _ _ opened
  · intro root
    rw [Elements.graft_add, graft_root]
  · exact fun _ _ inside inner => Elements.graftAll_add inside inner node

theorem ofBuilding_addText (opened : (ofBuilding building : Assembly ι).opened = innermost :: outer) (text : String) :
    ofBuilding (building.onInnermost (·.addText text)) =
      ⟨(ofBuilding building : Assembly ι).elements.modify innermost (·.addText text), innermost :: outer⟩ := by
  apply ofBuilding_onInnermost (·.addText text) (fun id elements => elements.modify id (·.addText text)) _ _ opened
  · intro root
    rw [Elements.graft_addText, graft_root]
  · exact fun _ _ inside inner => Elements.graftAll_addText inside text inner

theorem length_path_onInnermost (change : Node → Node) (building : Building) :
    (building.onInnermost change).path.length = building.path.length := by
  obtain ⟨root, path⟩ := building
  cases path with
  | nil => rfl
  | cons node path => rfl

theorem length_path_closeInnermost (building : Building) :
    building.closeInnermost.path.length = building.path.length - 1 := by
  obtain ⟨root, path⟩ := building
  cases path with
  | nil => rfl
  | cons node path => exact length_path_onInnermost _ ⟨root, path⟩

/-- To close an element changes nothing on the page: it stands in its place already. -/
theorem ofBuilding_closeInnermost (some : building.path ≠ []) :
    ofBuilding building.closeInnermost =
      { (ofBuilding building : Assembly ι) with opened := (ofBuilding building : Assembly ι).opened.drop 1 } := by
  obtain ⟨root, path⟩ := building
  obtain ⟨node, path, rfl⟩ := List.exists_cons_of_ne_nil some
  have laid : IsLaid path (lay root path : Assembly ι) := isLaid_lay root path
  obtain ⟨innermost, outer, opened⟩ := List.exists_cons_of_ne_nil laid.some
  have before : (ofBuilding ⟨root, path⟩ : Assembly ι).opened = innermost :: outer := opened
  have whole : ofBuilding ⟨root, node :: path⟩ = (lay root path : Assembly ι).enter node := rfl
  rw [whole, enter_eq opened]
  exact ofBuilding_add before node

theorem ofBuilding_closeMany {n : Nat} (few : n ≤ building.path.length) :
    ofBuilding (building.closeMany n) =
      { (ofBuilding building : Assembly ι) with opened := (ofBuilding building : Assembly ι).opened.drop n } := by
  induction n generalizing building with
  | zero => rfl
  | succ n ih =>
    have some : building.path ≠ [] := List.ne_nil_of_length_pos (Nat.lt_of_lt_of_le (Nat.succ_pos n) few)
    have left : n ≤ building.closeInnermost.path.length := by
      rw [length_path_closeInnermost]
      exact Nat.le_sub_one_of_lt few
    rw [Building.closeMany, ih left, ofBuilding_closeInnermost some, List.drop_drop, Nat.add_comm 1]

theorem path_closeMany (n : Nat) (building : Building) :
    (building.closeMany n).path.length = building.path.length - n := by
  induction n generalizing building with
  | zero => rfl
  | succ n ih => rw [Building.closeMany, ih, length_path_closeInnermost, Nat.sub_sub, Nat.add_comm 1]

theorem graft_finish (building : Building) :
    ({} : Elements ι).graft building.finish = (root, (ofBuilding building : Assembly ι).elements) := by
  have finished : ofBuilding (building.closeMany building.path.length) =
      (⟨(({} : Elements ι).graft building.finish).2, [root]⟩ : Assembly ι) := by
    have none : (building.closeMany building.path.length).path = [] := by
      rw [← List.length_eq_zero_iff, path_closeMany, Nat.sub_self]
    unfold ofBuilding
    rw [none]
    rfl
  rw [ofBuilding_closeMany (Nat.le_refl _)] at finished
  have elements := congrArg Assembly.elements finished
  exact Prod.ext (graft_root _) elements.symm

/-- Each token does the same to a building and to the page on which it is. -/
theorem take?_ofBuilding (building : Building) (token : Token) :
    (ofBuilding building : Assembly ι).take? token = some (ofBuilding (building.take token)) := by
  have laid : IsLaid building.path (ofBuilding building : Assembly ι) := isLaid_ofBuilding building
  obtain ⟨innermost, outer, opened⟩ := List.exists_cons_of_ne_nil laid.some
  cases token with
  | opening name attributes closed =>
    rw [take?_opening opened]
    unfold Building.take
    dsimp only
    split
    next ends => rw [ofBuilding_add opened, opened]
    next stays => rfl
  | closing name =>
    have same : (ofBuilding building : Assembly ι).opened.dropLast.findIdx?
        (fun id => ((ofBuilding building : Assembly ι).elements.get id).tag == name.lowered) =
          building.path.findIdx? (·.tag == name.lowered) := by
      have tags := congrArg (List.findIdx? (· == name.lowered)) laid.tags
      rw [List.findIdx?_map, List.findIdx?_map] at tags
      exact tags
    unfold take? Building.take
    dsimp only
    rw [same]
    cases found : building.path.findIdx? (·.tag == name.lowered) with
    | some n =>
      have few : n + 1 ≤ building.path.length := (List.findIdx?_eq_some_iff_getElem.mp found).1
      dsimp only
      rw [ofBuilding_closeMany few]
    | none => rfl
  | text content =>
    rw [take?_text opened]
    unfold Building.take
    dsimp only
    split
    next blank => rfl
    next shown => rw [ofBuilding_addText opened, opened]

/-- Whatever tokens come in, nothing fails, and the page is that of the building. -/
theorem run_eq (tokens : List Token) :
    tokens.foldlM take? (start : Assembly ι) = some (ofBuilding (tokens.foldl Building.take Building.start)) := by
  rw [← ofBuilding_start]
  generalize Building.start = building
  induction tokens generalizing building with
  | nil => rfl
  | cons token tokens ih =>
    rw [List.foldlM_cons, take?_ofBuilding]
    exact ih (building.take token)

end Assembly

end ChatWidget
