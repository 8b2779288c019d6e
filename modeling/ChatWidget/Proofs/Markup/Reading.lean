import ChatWidget.Markup.Fragment
import ChatWidget.Proofs.Markup.Escape
import ChatWidget.Proofs.Markup.Tag
import Mathlib.Data.List.TakeWhile
/-!
Markup read from the front: rules that say which tokens a piece of markup gives, one for each sort of
piece, and what text between tags comes to in the tree. Each rule takes the tokens of what follows and
adds its own.
-/
namespace ChatWidget.Markup

/-- The markup is read as these tokens, given a bound on their number that its length warrants. -/
def Reads (cs : List Char) (ts : List Token) : Prop :=
  ∀ fuel, cs.length < fuel → tokensWithin fuel cs = .ok ts

theorem Reads.tokens {markup : String} {ts : List Token} (reads : Reads markup.toList ts) :
    tokens markup = .ok ts :=
  reads _ (Nat.lt_succ_self _)

theorem Reads.nil : Reads [] [] := by
  intro fuel bound
  cases fuel with
  | zero => exact absurd bound (Nat.not_lt_zero _)
  | succ fuel => rfl

theorem Reads.opening {name : List Char} (named : IsPlainName name)
    {written : List (List Char × List Char)} (plain : ArePlain written) (closed : Bool)
    (markup : closed = false → isRawTag (String.ofList name) = false)
    {rest : List Char} {ts : List Token} (reads : Reads rest ts) :
    Reads ('<' :: (name ++ (written.flatMap attributeMarkup ++ tagEnd closed rest)))
      (.opening (String.ofList name) (written.map attributeRead) closed :: ts) := by
  intro fuel bound
  obtain ⟨fuel, rfl⟩ : ∃ n, fuel = n + 1 := ⟨fuel - 1, by omega⟩
  have shorter : rest.length < fuel := by
    have ending : rest.length < (tagEnd closed rest).length := by
      cases closed with
      | false => simp [tagEnd]
      | true =>
        simp only [tagEnd, if_true, List.length_cons]
        omega
    simp only [List.length_cons, List.length_append] at bound
    omega
  rw [tokensWithin, construct_named named, openingTag_written named plain closed rest]
  cases closed with
  | false => simp [bind, Except.bind, markup rfl, reads fuel shorter, pure, Except.pure]
  | true => simp [bind, Except.bind, reads fuel shorter, pure, Except.pure]

theorem Reads.closing {name : List Char} (named : IsPlainName name) {rest : List Char}
    {ts : List Token} (reads : Reads rest ts) :
    Reads ('<' :: '/' :: (name ++ '>' :: rest)) (.closing (String.ofList name) :: ts) := by
  intro fuel bound
  obtain ⟨fuel, rfl⟩ : ∃ n, fuel = n + 1 := ⟨fuel - 1, by omega⟩
  have shorter : rest.length < fuel := by
    simp only [List.length_cons, List.length_append] at bound
    omega
  have begins : construct? ('/' :: (name ++ '>' :: rest)) =
      .ok (some (.token (.closing (String.ofList name)) rest)) := by
    rw [← closingTag_written named rest]
    rfl
  rw [tokensWithin, begins]
  simp [bind, Except.bind, reads fuel shorter, pure, Except.pure]

theorem Reads.text {cs : List Char} (some : cs ≠ []) (plain : '<' ∉ cs) {rest : List Char}
    (tag : rest = [] ∨ ∃ more, rest = '<' :: more) {ts : List Token} (reads : Reads rest ts) :
    Reads (cs ++ rest) (.text (String.ofList (unescape cs)) :: ts) := by
  intro fuel bound
  obtain ⟨fuel, rfl⟩ : ∃ n, fuel = n + 1 := ⟨fuel - 1, by omega⟩
  obtain ⟨c, more, rfl⟩ := List.exists_cons_of_ne_nil some
  have shorter : rest.length < fuel := by
    simp only [List.length_append, List.length_cons] at bound
    omega
  have other : c ≠ '<' := fun same => plain (by simp [same])
  have passed : ∀ d ∈ c :: more, decide (d ≠ '<') = true := by
    intro d member
    exact decide_eq_true (fun same => plain (same ▸ member))
  have cut : (c :: more ++ rest).takeWhile (· ≠ '<') = c :: more ∧
      (c :: more ++ rest).dropWhile (· ≠ '<') = rest := by
    rcases tag with rfl | ⟨after, rfl⟩
    · rw [List.append_nil]
      exact ⟨List.takeWhile_eq_self_iff.mpr passed, List.dropWhile_eq_nil_iff.mpr passed⟩
    · exact takeWhile_stop passed (by decide) after
  have step : tokensWithin (fuel + 1) (c :: more ++ rest) = (do
      pure (.text (String.ofList (unescape ((c :: more ++ rest).takeWhile (· ≠ '<')))) ::
        (← tokensWithin fuel ((c :: more ++ rest).dropWhile (· ≠ '<'))))) := by
    rw [List.cons_append, tokensWithin]
    · exact List.cons_ne_nil c _
    · intro after same
      exact other (List.cons.inj same).1
  rw [step, cut.1, cut.2, reads fuel shorter]
  rfl

/-! ### Escaped text -/

/-- The token of an escaped line; an empty one has none. -/
def lineTokens (line : List Char) : List Token :=
  if line.isEmpty then [] else [.text (String.ofList line)]

/-- The tokens of escaped lines with breaks between them. -/
def linesTokens : List (List Char) → List Token
  | [] => []
  | [line] => lineTokens line
  | line :: next :: lines =>
    lineTokens line ++ .opening "br" [] true :: linesTokens (next :: lines)

theorem Reads.line {line : List Char} (single : '\n' ∉ line) {rest : List Char}
    (tag : rest = [] ∨ ∃ more, rest = '<' :: more) {ts : List Token} (reads : Reads rest ts) :
    Reads (escape line ++ rest) (lineTokens line ++ ts) := by
  cases line with
  | nil => exact reads
  | cons c line =>
    have written : escape (c :: line) ≠ [] := fun empty => by
      rw [escape_eq_nil] at empty
      contradiction
    have read := Reads.text written (lt_not_mem_escape single) tag reads
    rw [unescape_escape single] at read
    exact read

theorem isPlainName_break : IsPlainName "br".toList :=
  ⟨'b', ['r'], rfl, by decide, List.all_eq_true.mp (by decide)⟩

theorem Reads.lines {lines : List (List Char)} (single : ∀ line ∈ lines, '\n' ∉ line)
    {rest : List Char} (tag : rest = [] ∨ ∃ more, rest = '<' :: more) {ts : List Token}
    (reads : Reads rest ts) :
    Reads (Text.joinWith breakMarkup (lines.map escape) ++ rest) (linesTokens lines ++ ts) := by
  induction lines with
  | nil => exact reads
  | cons line lines ih =>
    have inLine := single line (by simp)
    have others : ∀ next ∈ lines, '\n' ∉ next := fun next member => single next (by simp [member])
    cases lines with
    | nil => exact Reads.line inLine tag reads
    | cons next lines =>
      have named : IsPlainName ['b', 'r'] := isPlainName_break
      have broken := Reads.opening named ArePlain.nil true (by decide) (ih others)
      have read := Reads.line inLine (.inr ⟨_, rfl⟩) broken
      simpa [Text.joinWith, breakMarkup, linesTokens, tagEnd] using read

/-- Escaped text between tags gives its lines, and a break for each line feed. -/
theorem Reads.escaped (cs : List Char) {rest : List Char}
    (tag : rest = [] ∨ ∃ more, rest = '<' :: more) {ts : List Token} (reads : Reads rest ts) :
    Reads (escape cs ++ rest) (linesTokens (Text.splitAt '\n' cs) ++ ts) := by
  rw [escape_lines]
  exact Reads.lines (Text.separator_not_mem_splitAt '\n' cs) tag reads

def breakNode : Node := ⟨"br", [], [], "", []⟩

/-- The text that is shown of lines: those of blanks alone are passed over. -/
def shownLines (lines : List (List Char)) : String :=
  String.ofList (lines.filter (! Text.allBlank ·)).flatten

theorem ofTag_break : Node.ofTag "br" [] = breakNode := by
  simp [Node.ofTag, lowered_plain isPlainName_break, Entries.ofWrites, Entries.putAll, Entries.erase,
    String.blankSeparated, Text.words, breakNode]

namespace Building

theorem take_lineTokens (line : List Char) (root node : Node) (path : List Node) :
    (lineTokens line).foldl take ⟨root, node :: path⟩ =
      ⟨root, { node with text := node.text ++ shownLines [line] } :: path⟩ := by
  obtain ⟨tag, attributes, classes, text, children⟩ := node
  cases line with
  | nil => simp [lineTokens, shownLines, Text.allBlank]
  | cons c line =>
    by_cases blank : Text.allBlank (c :: line) = true
    · simp [lineTokens, shownLines, take, blank]
    · simp [lineTokens, shownLines, take, blank, onInnermost, Node.addText]

/-- Lines of text in an open element add what they show to its text and their breaks to its children. -/
theorem take_linesTokens {lines : List (List Char)} (some : lines ≠ []) (root node : Node)
    (path : List Node) :
    (linesTokens lines).foldl take ⟨root, node :: path⟩ =
      ⟨root, { node with
        text := node.text ++ shownLines lines
        children := node.children ++ List.replicate (lines.length - 1) breakNode } :: path⟩ := by
  induction lines generalizing node with
  | nil => exact absurd rfl some
  | cons line lines ih =>
    cases lines with
    | nil => simp [linesTokens, take_lineTokens]
    | cons next lines =>
      have text : node.text ++ shownLines [line] ++ shownLines (next :: lines) =
          node.text ++ shownLines (line :: next :: lines) := by
        rw [String.append_assoc, shownLines, shownLines, ← String.ofList_append]
        by_cases blank : Text.allBlank line = true <;> simp [shownLines, blank]
      rw [linesTokens, List.foldl_append, take_lineTokens, List.foldl_cons]
      simp only [take, Bool.true_or, if_true, onInnermost, Node.add, ofTag_break]
      rw [ih (by simp), text]
      simp [List.replicate_succ]

end Building

/-! ### Markup that is refused -/

theorem construct?_error {cs : List Char} {fault : Fault} (failed : construct? cs = .error fault) :
    fault = .badDeclaration := by
  unfold construct? at failed
  split at failed
  case h_4 rest =>
    unfold markedSection at failed
    grind [Except.map]
  all_goals grind

theorem tokensWithin_error {fuel : Nat} {cs : List Char} {fault : Fault}
    (failed : tokensWithin fuel cs = .error fault) : fault = .badDeclaration := by
  -- Tokens that are put before others fail if these fail.
  have passed : ∀ {more : Except Fault (List Token)} {add : List Token → List Token},
      (more >>= fun tokens => pure (add tokens)) = .error fault → more = .error fault := by
    intro more add stopped
    cases more with
    | error other =>
      cases stopped
      rfl
    | ok tokens => cases stopped
  fun_induction tokensWithin fuel cs with
  | case1 => cases failed
  | case2 => cases failed
  | case3 fuel rest onwards after =>
    cases begins : construct? rest with
    | error other =>
      rw [begins] at failed
      cases failed
      exact construct?_error begins
    | ok found =>
      rw [begins] at failed
      dsimp only [bind, Except.bind] at failed
      split at failed
      · exact onwards (passed failed)
      · exact after _ failed
      · exact after _ (passed failed)
      · exact after _ (passed failed)
      · exact after _ (passed failed)
  | case4 fuel cs _ _ _ onwards => exact onwards (passed failed)

/-- Markup is refused for want of an element, or for a declaration that is none. -/
theorem parse_error {markup : String} {fault : Fault} (failed : parse markup = .error fault) :
    fault = .noElement ∨ fault = .badDeclaration := by
  unfold parse fragment at failed
  cases read : tokens markup with
  | error other =>
    rw [read] at failed
    cases failed
    exact .inr (tokensWithin_error read)
  | ok found =>
    rw [read] at failed
    dsimp only [bind, Except.bind, pure, Except.pure] at failed
    split at failed
    · cases failed
    · cases failed
      exact .inl rfl

end ChatWidget.Markup
