import ChatWidget.Proofs.Markup.Rendering
/-!
The text in an element and in all below it. An element keeps its own text in one piece, apart from its children,
so the text of each element comes before that of the elements in it, wherever it was written. This is the order
of the document as long as no text stands after an element that has text.
-/
namespace ChatWidget

namespace Markup

/-! ### The text of a node -/

mutual

def Node.fullText : Node → String
  | ⟨_, _, _, text, children⟩ => text ++ allText children

def allText : List Node → String
  | [] => ""
  | node :: nodes => node.fullText ++ allText nodes

end

mutual

def Node.size : Node → Nat
  | ⟨_, _, _, _, children⟩ => allSize children + 1

def allSize : List Node → Nat
  | [] => 0
  | node :: nodes => node.size + allSize nodes

end

/-! ### The runs of text in an element -/

mutual

/-- All runs of text in an element, in the order of the document. -/
def Written.runs : Written → List (List Char)
  | .single _ _ _ => []
  | .whole _ _ _ content => content.allRuns []

/-- All runs of text in a content and in its elements, in the order of the document, after what stands before. -/
def Content.allRuns (before : List Char) : Content → List (List Char)
  | .nil => [before]
  | .text run rest => rest.allRuns (before ++ run.toList)
  | .element first rest => before :: (first.runs ++ rest.allRuns [])

end

mutual

/-- All runs of text in an element: its own in order, and then those of each element in it. -/
def Written.ownFirst : Written → List (List Char)
  | .single _ _ _ => []
  | .whole _ _ _ content => content.runs [] ++ content.inElements

def Content.inElements : Content → List (List Char)
  | .nil => []
  | .text _ rest => rest.inElements
  | .element first rest => first.ownFirst ++ rest.inElements

end

mutual

/-- Does nothing that shows stand directly in an element after an element in it that shows text? -/
def Written.LeadsWithText : Written → Prop
  | .single _ _ _ => True
  | .whole _ _ _ content => content.LeadsWithText

def Content.LeadsWithText : Content → Prop
  | .nil => True
  | .text _ rest => rest.LeadsWithText
  | .element first rest => first.LeadsWithText ∧ rest.LeadsWithText ∧
      (shownLines first.runs = "" ∨ shownLines (rest.runs []) = "")

end

theorem Node.size_pos (node : Node) : 0 < node.size := by
  cases node
  rw [Node.size]
  exact Nat.succ_pos _

theorem shownLines_append (lines more : List (List Char)) :
    shownLines (lines ++ more) = shownLines lines ++ shownLines more := by
  rw [shownLines, shownLines, shownLines, List.filter_append, List.flatten_append, String.ofList_append]

mutual

theorem Written.fullText_node : (written : Written) → written.node.fullText = shownLines written.ownFirst
  | .single tag _ _ => by simp [Written.node, Tag.node, Node.fullText, allText, Written.ownFirst, shownLines]
  | .whole tag _ _ content => by
    rw [Written.node, Tag.node, Node.fullText, content.allText_nodes, Written.ownFirst, shownLines_append]

theorem Content.allText_nodes : (content : Content) → allText content.nodes = shownLines content.inElements
  | .nil => by simp [Content.nodes, allText, Content.inElements, shownLines]
  | .text _ content => content.allText_nodes
  | .element first content => by
    rw [Content.nodes, allText, first.fullText_node, content.allText_nodes, Content.inElements, shownLines_append]

end

mutual

theorem Written.ownFirst_perm : (written : Written) → written.ownFirst.Perm written.runs
  | .single _ _ _ => .refl _
  | .whole _ _ _ content => content.runs_perm []

theorem Content.runs_perm : (content : Content) → (before : List Char) →
    (content.runs before ++ content.inElements).Perm (content.allRuns before)
  | .nil, before => by simp [Content.runs, Content.inElements, Content.allRuns]
  | .text run content, before => content.runs_perm (before ++ run.toList)
  | .element first content, before => by
    have inside := first.ownFirst_perm
    have after := content.runs_perm []
    rw [Content.runs, Content.inElements, Content.allRuns, List.cons_append]
    apply List.Perm.cons
    calc content.runs [] ++ (first.ownFirst ++ content.inElements)
        = content.runs [] ++ first.ownFirst ++ content.inElements := (List.append_assoc ..).symm
      _ |>.Perm (first.ownFirst ++ content.runs [] ++ content.inElements) := List.perm_append_comm.append_right _
      _ = first.ownFirst ++ (content.runs [] ++ content.inElements) := List.append_assoc ..
      _ |>.Perm (first.runs ++ content.allRuns []) := inside.append after

end

mutual

theorem Written.shown_ownFirst : (written : Written) → written.LeadsWithText →
    shownLines written.ownFirst = shownLines written.runs
  | .single _ _ _, _ => rfl
  | .whole _ _ _ content, leads => by
    rw [Written.ownFirst, shownLines_append, Written.runs]
    exact content.shown_runs [] leads

theorem Content.shown_runs : (content : Content) → (before : List Char) → content.LeadsWithText →
    shownLines (content.runs before) ++ shownLines content.inElements = shownLines (content.allRuns before)
  | .nil, before, _ => by simp [Content.runs, Content.inElements, Content.allRuns, shownLines]
  | .text run content, before, leads => content.shown_runs (before ++ run.toList) leads
  | .element first content, before, leads => by
    -- The runs of the element and those that come after it trade places; one of the two does not show.
    rw [Content.LeadsWithText] at leads
    obtain ⟨firstLeads, laterLead, apart⟩ := leads
    have inside := first.shown_ownFirst firstLeads
    have after := content.shown_runs [] laterLead
    rw [Content.runs, Content.inElements, Content.allRuns, shownLines_cons before (content.runs []),
      shownLines_cons before (first.runs ++ _), shownLines_append, shownLines_append, inside, ← after]
    rcases apart with silent | silent
    · rw [silent, String.empty_append, String.empty_append, String.append_assoc]
    · rw [silent, String.append_empty, String.empty_append]

end

end Markup

/-! ### The text of an element -/

namespace Elements

open Markup (Node)

variable {ι : Type} {elements : Elements ι}

def textOf (elements : Elements ι) (ids : List ElementId) : String :=
  String.join (ids.map fun id => (elements.get id).text)

theorem textContent_eq (elements : Elements ι) (id : ElementId) :
    elements.textContent id = elements.textOf (id :: elements.descendants id) := by
  rw [textContent, textOf, String.join, List.foldl_map]

theorem textOf_cons (id : ElementId) (ids : List ElementId) :
    elements.textOf (id :: ids) = (elements.get id).text ++ elements.textOf ids := by
  rw [textOf, List.map_cons, String.join_cons, textOf]

theorem textOf_append (ids more : List ElementId) :
    elements.textOf (ids ++ more) = elements.textOf ids ++ elements.textOf more := by
  rw [textOf, List.map_append, String.join_append, textOf, textOf]

mutual

theorem size_graft (elements : Elements ι) : (node : Node) →
    (elements.graft node).2.table.size = elements.table.size + node.size
  | ⟨tag, attributes, classes, text, children⟩ => by
    rw [graft]
    dsimp only
    rw [size_graftAll, size_create, Node.size]
    omega

theorem size_graftAll (elements : Elements ι) (parent : ElementId) : (nodes : List Node) →
    (elements.graftAll parent nodes).table.size = elements.table.size + Markup.allSize nodes
  | [] => rfl
  | node :: nodes => by
    rw [graftAll]
    dsimp only
    rw [size_graftAll, size_append, size_graft, Markup.allSize]
    omega

end

variable {kind : ElementId → Prop}

mutual

/-- As far down as a node goes, an element that shows it has its text with all that is below. -/
theorem Shows.textOf_below {id : ElementId} : {node : Node} → elements.Shows kind id node → {depth : Nat} →
    node.size ≤ depth + 1 → elements.textOf (id :: elements.descendantsWithin depth id) = node.fullText
  | ⟨tag, attributes, classes, text, children⟩, shows, depth, deep => by
    rw [Shows] at shows
    obtain ⟨-, -, -, -, written, below⟩ := shows
    rw [Node.size] at deep
    rw [textOf_cons, written, Node.fullText]
    congr 1
    cases depth with
    | succ depth => exact below.textOf_below (Nat.le_of_succ_le_succ deep)
    | zero =>
      -- There is no room for a child, so there is none.
      cases children with
      | nil => rfl
      | cons node nodes =>
        have one := node.size_pos
        rw [Markup.allSize] at deep
        omega

theorem AllShow.textOf_below : {ids : List ElementId} → {nodes : List Node} → elements.AllShow kind ids nodes →
    {depth : Nat} → Markup.allSize nodes ≤ depth + 1 →
    elements.textOf (ids.flatMap fun id => id :: elements.descendantsWithin depth id) = Markup.allText nodes
  | [], [], _, _, _ => rfl
  | id :: ids, node :: nodes, shows, _, deep => by
    rw [AllShow] at shows
    rw [Markup.allSize] at deep
    have first := shows.1.textOf_below (Nat.le_of_add_right_le deep)
    have rest := shows.2.textOf_below (Nat.le_of_add_left_le deep)
    rw [List.flatMap_cons, textOf_append, first, rest, Markup.allText]
  | [], _ :: _, shows, _, _ => by rw [AllShow] at shows; exact absurd shows id
  | _ :: _, [], shows, _, _ => by rw [AllShow] at shows; exact absurd shows id

end

theorem textContent_graft (elements : Elements ι) (node : Node) :
    (elements.graft node).2.textContent (elements.graft node).1 = node.fullText := by
  have grafted := graft_isGrafted elements node
  -- The descendants are looked for as deep as there are elements, which is deep enough for the node.
  rw [textContent_eq]
  apply grafted.shows.textOf_below
  rw [size_graft]
  omega

end Elements

/-! ### The text of what is written -/

namespace Markup

/-- The text of an element as it is read back is that of its runs which are not blank, each once: first its own
in their order, then in turn those of each element in it. Where nothing that shows stands directly in an element
after an element in it that shows text, this is the order of the document. -/
theorem textContent_markup (written : Written) :
    ∃ node, parse (String.ofList written.markup) = .ok node ∧ written.ownFirst.Perm written.runs ∧
      ∀ {ι : Type} (elements : Elements ι),
        let text := (elements.graft node).2.textContent (elements.graft node).1
        text = shownLines written.ownFirst ∧ (written.LeadsWithText → text = shownLines written.runs) := by
  refine ⟨written.node, written.parse_markup, written.ownFirst_perm, fun elements => ?_⟩
  rw [elements.textContent_graft, written.fullText_node]
  exact ⟨rfl, written.shown_ownFirst⟩

def bold : Tag :=
  ⟨"b", [], ⟨'b', [], rfl, by decide, List.all_eq_true.mp (by decide)⟩, by simp, List.nodup_nil⟩

def paragraph : Tag :=
  ⟨"p", [], ⟨'p', [], rfl, by decide, List.all_eq_true.mp (by decide)⟩, by simp, List.nodup_nil⟩

/-- Text before an element, and blanks after it, come in the order in which they are written. -/
theorem textContent_markup_leading :
    let written : Written := .whole paragraph (by decide) (by decide)
      (.text "a" (.element (.whole bold (by decide) (by decide) (.text "b" .nil)) (.text " " .nil)))
    String.ofList written.markup = "<p>a<b>b</b> </p>" ∧ written.LeadsWithText ∧
      ∃ node, parse (String.ofList written.markup) = .ok node ∧
        let made := ({} : Elements Unit).graft node
        made.2.textContent made.1 = "ab" := by
  intro written
  have leads : written.LeadsWithText := by
    refine ⟨trivial, trivial, .inr ?_⟩
    decide +kernel
  obtain ⟨node, parsed, -, text⟩ := textContent_markup written
  refine ⟨by decide +kernel, leads, node, parsed, ?_⟩
  dsimp only
  rw [(text {}).2 leads]
  decide +kernel

/-- A text that stands after an element comes before the text of that element. -/
theorem textContent_overtakes :
    let written : Written := .whole paragraph (by decide) (by decide)
      (.element (.whole bold (by decide) (by decide) (.text "a" .nil)) (.text "b" .nil))
    String.ofList written.markup = "<p><b>a</b>b</p>" ∧ shownLines written.runs = "ab" ∧
      ∃ node, parse (String.ofList written.markup) = .ok node ∧
        let made := ({} : Elements Unit).graft node
        made.2.textContent made.1 = "ba" := by
  intro written
  refine ⟨by decide +kernel, by decide +kernel, _, written.parse_markup, by decide +kernel⟩

end Markup

end ChatWidget
