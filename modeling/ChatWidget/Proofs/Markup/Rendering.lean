import ChatWidget.Proofs.Entries
import ChatWidget.Proofs.Markup.Reading
import ChatWidget.Proofs.Page.Shows
/-!
Elements as they are written, of any depth and breadth, and what they are read back as. A tag on its own is
one that is marked as closed or one whose elements hold nothing; any other element has a closing tag, and
between the two text and elements in any order. Values and texts are arbitrary: what could end them early is
written as a reference, and what is read has each reference resolved once.
-/
namespace ChatWidget.Markup

/-! ### Values and texts -/

/-- A character of a text; a line feed stays as it is. -/
def textChar (c : Char) : List Char := if c = '\n' then [c] else escapeChar c

def valueChar (c : Char) : List Char := if c = '"' then ['&', 'q', 'u', 'o', 't', ';'] else textChar c

def textMarkup (cs : List Char) : List Char := cs.flatMap textChar

def valueMarkup (cs : List Char) : List Char := cs.flatMap valueChar

theorem unescapeFrom_textChar (c : Char) (rest : List Char) :
    unescapeFrom 0 (textChar c ++ rest) = c :: unescapeFrom 0 rest := by
  unfold textChar
  split
  next feed =>
    subst feed
    simp [unescapeFrom]
  next inLine => exact unescapeFrom_escapeChar inLine rest

theorem reference_quot (rest : List Char) :
    reference? (['q', 'u', 'o', 't', ';'] ++ rest) = some (['"'], 5) := rfl

theorem unescapeFrom_valueChar (c : Char) (rest : List Char) :
    unescapeFrom 0 (valueChar c ++ rest) = c :: unescapeFrom 0 rest := by
  unfold valueChar
  split
  next quote =>
    subst quote
    exact unescapeFrom_reference (reference_quot rest)
  next => exact unescapeFrom_textChar c rest

theorem unescape_flatMap {write : Char → List Char}
    (each : ∀ c rest, unescapeFrom 0 (write c ++ rest) = c :: unescapeFrom 0 rest) (cs : List Char) :
    unescape (cs.flatMap write) = cs := by
  induction cs with
  | nil => rfl
  | cons c cs ih =>
    rw [List.flatMap_cons, unescape, each]
    exact congrArg (c :: ·) ih

@[simp] theorem unescape_textMarkup (cs : List Char) : unescape (textMarkup cs) = cs :=
  unescape_flatMap unescapeFrom_textChar cs

@[simp] theorem unescape_valueMarkup (cs : List Char) : unescape (valueMarkup cs) = cs :=
  unescape_flatMap unescapeFrom_valueChar cs

theorem lt_not_mem_textMarkup (cs : List Char) : '<' ∉ textMarkup cs := by
  intro member
  obtain ⟨c, -, written⟩ := List.mem_flatMap.mp member
  unfold textChar at written
  split at written
  next feed => simp [feed] at written
  next inLine => exact lt_not_mem_escapeChar inLine written

theorem quote_not_mem_valueMarkup (cs : List Char) : '"' ∉ valueMarkup cs := by
  intro member
  obtain ⟨c, -, written⟩ := List.mem_flatMap.mp member
  unfold valueChar textChar at written
  split at written
  next => simp at written
  next other =>
    split at written
    next feed => simp [feed] at written
    next =>
      rcases escapeChar_cases c with rfl | rfl | rfl | rfl | ⟨-, -, -, -, plain⟩
      · simp [escapeChar] at written
      · simp [escapeChar] at written
      · simp [escapeChar] at written
      · simp [escapeChar] at written
      · simp [plain, Ne.symm other] at written

theorem textMarkup_eq_nil {cs : List Char} : textMarkup cs = [] ↔ cs = [] := by
  constructor
  · intro empty
    have resolved := unescape_textMarkup cs
    rw [empty] at resolved
    exact resolved.symm
  · rintro rfl
    rfl

theorem textMarkup_append (cs ds : List Char) : textMarkup (cs ++ ds) = textMarkup cs ++ textMarkup ds :=
  List.flatMap_append

/-! ### Elements -/

/-- What a tag says of its element: a plain name, and values under distinct plain names. -/
structure Tag where
  name : String
  attributes : Entries String
  named : IsPlainName name.toList
  plain : ∀ entry ∈ attributes, IsPlainName entry.1.toList
  distinct : attributes.HasDistinctNames

namespace Tag

/-- The attributes as they are written. -/
def written (tag : Tag) : List (List Char × List Char) :=
  tag.attributes.map fun (name, value) => (name.toList, valueMarkup value.toList)

/-- The tag that opens the element, marked as closed or not, with what comes after it. -/
def opening (tag : Tag) (closed : Bool) (rest : List Char) : List Char :=
  '<' :: (tag.name.toList ++ (tag.written.flatMap attributeMarkup ++ tagEnd closed rest))

def closing (tag : Tag) (rest : List Char) : List Char := '<' :: '/' :: (tag.name.toList ++ '>' :: rest)

/-- The element with a text and children. The words of the attribute for classes are the classes. -/
def node (tag : Tag) (text : String) (children : List Node) : Node :=
  ⟨tag.name, tag.attributes.erase "class", ((tag.attributes.get? "class").getD "").blankSeparated, text, children⟩

variable (tag : Tag)

theorem written_plain : ArePlain tag.written := by
  intro pair member
  obtain ⟨entry, inside, rfl⟩ := List.mem_map.mp member
  exact ⟨tag.plain entry inside, quote_not_mem_valueMarkup _⟩

theorem written_read : tag.written.map attributeRead = tag.attributes := by
  simp [written, attributeRead, Function.comp_def]

theorem ofTag_eq : Node.ofTag tag.name tag.attributes = tag.node "" [] := by
  rw [Node.ofTag, tag.distinct.ofWrites, lowered_plain tag.named]
  rfl

theorem opening_append (closed : Bool) (cs rest : List Char) :
    tag.opening closed cs ++ rest = tag.opening closed (cs ++ rest) := by
  cases closed <;> simp [opening, tagEnd]

theorem closing_append (cs rest : List Char) : tag.closing cs ++ rest = tag.closing (cs ++ rest) := by
  simp [closing]

theorem reads_opening (closed : Bool) (markup : closed = false → isRawTag tag.name = false) {rest : List Char}
    {ts : List Token} (reads : Reads rest ts) :
    Reads (tag.opening closed rest) (.opening tag.name tag.attributes closed :: ts) := by
  have read := Reads.opening tag.named tag.written_plain closed (by simpa using markup) reads
  rw [written_read, String.ofList_toList] at read
  exact read

theorem reads_closing {rest : List Char} {ts : List Token} (reads : Reads rest ts) :
    Reads (tag.closing rest) (.closing tag.name :: ts) := by
  have read := Reads.closing tag.named reads
  rw [String.ofList_toList] at read
  exact read

end Tag

mutual

/-- An element as it is written: one tag, or an opening tag, a content and a closing tag. -/
inductive Written where
  | single (tag : Tag) (closed : Bool) (ends : closed = true ∨ tag.name ∈ Building.voidTags)
  | whole (tag : Tag) (holds : tag.name ∉ Building.voidTags) (markup : isRawTag tag.name = false)
      (content : Content)

/-- What is written between two tags: texts and elements. -/
inductive Content where
  | nil
  | text (run : String) (rest : Content)
  | element (first : Written) (rest : Content)

end

/-- The runs of text that stand in a content outside its elements, after what stands before it. Neighbours
make one run, and an element ends a run. -/
def Content.runs (before : List Char) : Content → List (List Char)
  | .nil => [before]
  | .text run rest => rest.runs (before ++ run.toList)
  | .element _ rest => before :: rest.runs []

mutual

def Written.markup : Written → List Char
  | .single tag closed _ => tag.opening closed []
  | .whole tag _ _ content => tag.opening false (content.markup ++ tag.closing [])

def Content.markup : Content → List Char
  | .nil => []
  | .text run rest => textMarkup run.toList ++ rest.markup
  | .element first rest => first.markup ++ rest.markup

end

mutual

/-- The element as a node: its text is that of its runs which are not blank, its children are the elements in
its content in order. -/
def Written.node : Written → Node
  | .single tag _ _ => tag.node "" []
  | .whole tag _ _ content => tag.node (shownLines (content.runs [])) content.nodes

def Content.nodes : Content → List Node
  | .nil => []
  | .text _ rest => rest.nodes
  | .element first rest => first.node :: rest.nodes

end

mutual

def Written.tokens : Written → List Token
  | .single tag closed _ => [.opening tag.name tag.attributes closed]
  | .whole tag _ _ content => .opening tag.name tag.attributes false :: (content.tokens [] ++ [.closing tag.name])

/-- The tokens of a content, after a text that stands before it. -/
def Content.tokens (before : List Char) : Content → List Token
  | .nil => lineTokens before
  | .text run rest => rest.tokens (before ++ run.toList)
  | .element first rest => lineTokens before ++ (first.tokens ++ rest.tokens [])

end

/-! ### Reading what is written -/

theorem Reads.textMarkup (cs : List Char) {rest : List Char} {ts : List Token} (reads : Reads ('<' :: rest) ts) :
    Reads (textMarkup cs ++ '<' :: rest) (lineTokens cs ++ ts) := by
  cases cs with
  | nil => exact reads
  | cons c cs =>
    have written : Markup.textMarkup (c :: cs) ≠ [] := by
      rw [ne_eq, textMarkup_eq_nil]
      exact List.cons_ne_nil c cs
    have read := Reads.text written (lt_not_mem_textMarkup (c :: cs)) (.inr ⟨rest, rfl⟩) reads
    rw [unescape_textMarkup] at read
    exact read

theorem Written.markup_append (written : Written) (rest : List Char) :
    ∃ more, written.markup ++ rest = '<' :: more := by
  cases written with
  | single tag closed _ => exact ⟨_, tag.opening_append closed [] rest⟩
  | whole tag _ _ content => exact ⟨_, tag.opening_append false _ rest⟩

theorem isRawTag_of_void {name : String} (void : name ∈ Building.voidTags) : isRawTag name = false := by
  have none : ∀ name ∈ Building.voidTags, isRawTag name = false := by decide
  exact none name void

mutual

theorem Written.reads : (written : Written) → {rest : List Char} → {ts : List Token} → Reads rest ts →
    Reads (written.markup ++ rest) (written.tokens ++ ts)
  | .single tag closed ends, rest, ts, reads => by
    have markup : closed = false → isRawTag tag.name = false := by
      rintro rfl
      exact isRawTag_of_void (ends.resolve_left Bool.false_ne_true)
    rw [Written.markup, tag.opening_append, List.nil_append]
    exact tag.reads_opening closed markup reads
  | .whole tag holds markup content, rest, ts, reads => by
    have inside : Reads (content.markup ++ tag.closing rest) (content.tokens [] ++ .closing tag.name :: ts) :=
      content.reads [] (tag.reads_closing reads)
    rw [Written.markup, tag.opening_append, List.append_assoc, tag.closing_append, List.nil_append]
    simpa [Written.tokens] using tag.reads_opening false (fun _ => markup) inside

theorem Content.reads : (content : Content) → (before : List Char) → {rest : List Char} → {ts : List Token} →
    Reads ('<' :: rest) ts →
    Reads (Markup.textMarkup before ++ (content.markup ++ '<' :: rest)) (content.tokens before ++ ts)
  | .nil, before, rest, ts, reads => Reads.textMarkup before reads
  | .text run content, before, rest, ts, reads => by
    -- Runs that stand side by side are one token, so the text is only added to what stands before.
    have read := content.reads (before ++ run.toList) reads
    rw [textMarkup_append, List.append_assoc] at read
    rw [Content.markup, List.append_assoc]
    exact read
  | .element first content, before, rest, ts, reads => by
    have read := first.reads (content.reads [] reads)
    obtain ⟨more, begins⟩ := first.markup_append (content.markup ++ '<' :: rest)
    rw [Content.markup, List.append_assoc, begins, Content.tokens, List.append_assoc, List.append_assoc]
    apply Reads.textMarkup
    rw [← begins]
    exact read

end

namespace Building

theorem take_single (tag : Tag) {closed : Bool} (ends : closed = true ∨ tag.name ∈ voidTags) (building : Building) :
    building.take (.opening tag.name tag.attributes closed) = building.onInnermost (·.add (tag.node "" [])) := by
  have isSingle : (closed || voidTags.contains (tag.node "" []).tag) = true := by simpa [Tag.node] using ends
  rw [take, tag.ofTag_eq, if_pos isSingle]

theorem take_opening (tag : Tag) (holds : tag.name ∉ voidTags) (building : Building) :
    building.take (.opening tag.name tag.attributes false) =
      { building with path := tag.node "" [] :: building.path } := by
  have notVoid : ¬ (false || voidTags.contains (tag.node "" []).tag) = true := by simpa [Tag.node] using holds
  rw [take, tag.ofTag_eq, if_neg notVoid]

theorem take_closing (root node : Node) (lowered : node.tag.lowered = node.tag) (path : List Node) :
    take ⟨root, node :: path⟩ (.closing node.tag) = onInnermost (·.add node) ⟨root, path⟩ := by
  simp [take, lowered, List.findIdx?_cons, closeMany, closeInnermost]

end Building

def Node.extend (node : Node) (text : String) (children : List Node) : Node :=
  { node with text := node.text ++ text, children := node.children ++ children }

theorem shownLines_cons (line : List Char) (lines : List (List Char)) :
    shownLines (line :: lines) = shownLines [line] ++ shownLines lines := by
  rw [shownLines, shownLines, shownLines, ← String.ofList_append, ← List.flatten_append, ← List.filter_append]
  rfl

open Building in
mutual

theorem Written.taken : (written : Written) → (building : Building) →
    written.tokens.foldl take building = building.onInnermost (·.add written.node)
  | .single tag closed ends, building => take_single tag ends building
  | .whole tag holds markup content, ⟨root, path⟩ => by
    -- The opening tag puts an empty node on the path, its content fills it, and the closing tag takes it off.
    have inside := content.taken [] root (tag.node "" []) path
    have built : (tag.node "" []).extend (shownLines (content.runs [])) content.nodes =
        (Written.whole tag holds markup content).node := by
      simp [Node.extend, Written.node, Tag.node]
    rw [Written.tokens, List.foldl_cons, take_opening tag holds, List.foldl_append, inside, built,
      List.foldl_cons, List.foldl_nil]
    exact take_closing root (Written.whole tag holds markup content).node (lowered_plain tag.named) path

theorem Content.taken : (content : Content) → (before : List Char) → (root node : Node) → (path : List Node) →
    (content.tokens before).foldl take ⟨root, node :: path⟩ =
      ⟨root, node.extend (shownLines (content.runs before)) content.nodes :: path⟩
  | .nil, before, root, node, path => by
    rw [Content.tokens, take_lineTokens]
    simp [Node.extend, Content.runs, Content.nodes]
  | .text run content, before, root, node, path => content.taken (before ++ run.toList) root node path
  | .element first content, before, root, node, path => by
    rw [Content.tokens, List.foldl_append, take_lineTokens, List.foldl_append, first.taken, onInnermost,
      content.taken]
    simp [Node.extend, Node.add, Content.runs, Content.nodes, shownLines_cons before (content.runs []),
      String.append_assoc]

end

theorem Written.tokens_eq (written : Written) : Markup.tokens (String.ofList written.markup) = .ok written.tokens := by
  apply Reads.tokens
  have read := written.reads Reads.nil
  rw [List.append_nil, List.append_nil] at read
  rw [String.toList_ofList]
  exact read

theorem Written.parse_markup (written : Written) : parse (String.ofList written.markup) = .ok written.node := by
  have built : written.tokens.foldl Building.take Building.start =
      ⟨{ Building.start.root with children := [written.node] }, []⟩ := written.taken Building.start
  rw [parse, fragment, written.tokens_eq]
  simp [bind, Except.bind, pure, Except.pure, built, Building.finish, Building.closeMany]

/-- Whatever is written is read as the element it is written for: its tag, its attributes with the classes apart,
the elements in it in order, each read so in turn, and as its text its own runs that are not blank. The element
made for it shows all this and is under no other. -/
theorem written_reads_back (written : Written) :
    parse (String.ofList written.markup) = .ok written.node ∧
      ∀ {ι : Type} (elements : Elements ι),
        let made := elements.graft written.node
        (made.2.get made.1).parent = none ∧ made.2.Shows (elements.Between made.2) made.1 written.node := by
  refine ⟨written.parse_markup, fun elements => ?_⟩
  have grafted := Elements.graft_isGrafted elements written.node
  exact ⟨grafted.free, grafted.shows⟩

end ChatWidget.Markup
