import ChatWidget.Markup.Escape
import ChatWidget.Markup.Reference
import ChatWidget.Proofs.Text.Pieces
/-!
What escaping does and how it is undone. Of an escaped text a mark of markup is left only in the breaks
that stand for its line feeds; between them, resolving the references gives the lines back as they were.
-/
namespace ChatWidget.Markup

theorem unescapeFrom_passed (passed rest : List Char) :
    unescapeFrom passed.length (passed ++ rest) = unescapeFrom 0 rest := by
  induction passed with
  | nil => rfl
  | cons c passed ih => exact ih

theorem unescapeFrom_reference {cs taken rest : List Char}
    (read : reference? (taken ++ rest) = some (cs, taken.length)) :
    unescapeFrom 0 ('&' :: (taken ++ rest)) = cs ++ unescapeFrom 0 rest := by
  rw [unescapeFrom, if_pos rfl, read]
  dsimp only
  rw [unescapeFrom_passed]

theorem reference_amp (rest : List Char) :
    reference? (['a', 'm', 'p', ';'] ++ rest) = some (['&'], 4) := rfl

theorem reference_lt (rest : List Char) :
    reference? (['l', 't', ';'] ++ rest) = some (['<'], 3) := rfl

theorem reference_gt (rest : List Char) :
    reference? (['g', 't', ';'] ++ rest) = some (['>'], 3) := rfl

theorem unescape_literal {cs : List Char} (none : '&' ∉ cs) : unescape cs = cs := by
  unfold unescape
  induction cs with
  | nil => rfl
  | cons c cs ih =>
    rw [List.mem_cons, not_or] at none
    obtain ⟨other, later⟩ := none
    rw [unescapeFrom, if_neg (Ne.symm other), ih later]

theorem escapeChar_cases (c : Char) :
    c = '&' ∨ c = '<' ∨ c = '>' ∨ c = '\n' ∨
      (c ≠ '&' ∧ c ≠ '<' ∧ c ≠ '>' ∧ c ≠ '\n' ∧ escapeChar c = [c]) := by
  unfold escapeChar
  split
  · exact .inl rfl
  · exact .inr (.inl rfl)
  · exact .inr (.inr (.inl rfl))
  · exact .inr (.inr (.inr (.inl rfl)))
  · rename_i amp lt gt feed
    exact .inr (.inr (.inr (.inr ⟨amp, lt, gt, feed, rfl⟩)))

theorem unescapeFrom_escapeChar {c : Char} (inLine : c ≠ '\n') (rest : List Char) :
    unescapeFrom 0 (escapeChar c ++ rest) = c :: unescapeFrom 0 rest := by
  rcases escapeChar_cases c with rfl | rfl | rfl | rfl | ⟨amp, -, -, -, plain⟩
  · exact unescapeFrom_reference (reference_amp rest)
  · exact unescapeFrom_reference (reference_lt rest)
  · exact unescapeFrom_reference (reference_gt rest)
  · exact absurd rfl inLine
  · rw [plain]
    simp [unescapeFrom, amp]

theorem escape_cons (c : Char) (cs : List Char) : escape (c :: cs) = escapeChar c ++ escape cs := List.flatMap_cons

/-- Resolving the references of an escaped line gives the line back. -/
theorem unescape_escape {line : List Char} (single : '\n' ∉ line) :
    unescape (escape line) = line := by
  induction line with
  | nil => rfl
  | cons c line ih =>
    have inLine : c ≠ '\n' := fun same => single (by simp [same])
    have rest : '\n' ∉ line := fun member => single (by simp [member])
    rw [escape_cons, unescape, unescapeFrom_escapeChar inLine]
    exact congrArg (c :: ·) (ih rest)

theorem escapeChar_ne_nil (c : Char) : escapeChar c ≠ [] := by
  rcases escapeChar_cases c with rfl | rfl | rfl | rfl | ⟨-, -, -, -, plain⟩
  · decide
  · decide
  · decide
  · decide
  · rw [plain]
    exact List.cons_ne_nil c []

theorem lt_not_mem_escapeChar {c : Char} (inLine : c ≠ '\n') : '<' ∉ escapeChar c := by
  rcases escapeChar_cases c with rfl | rfl | rfl | rfl | ⟨-, lt, -, -, plain⟩
  · decide
  · decide
  · decide
  · exact absurd rfl inLine
  · simpa [plain] using lt.symm

theorem lt_not_mem_escape {line : List Char} (single : '\n' ∉ line) : '<' ∉ escape line := by
  intro member
  obtain ⟨c, inside, written⟩ := List.mem_flatMap.mp member
  exact lt_not_mem_escapeChar (fun same => single (same ▸ inside)) written

theorem escape_eq_nil {line : List Char} : escape line = [] ↔ line = [] := by
  cases line with
  | nil => simp [escape]
  | cons c line => simp [escape, escapeChar_ne_nil]

def breakMarkup : List Char := ['<', 'b', 'r', '/', '>']

/-- An escaped text is its escaped lines with breaks between them. -/
theorem escape_lines (cs : List Char) :
    escape cs = Text.joinWith breakMarkup ((Text.splitAt '\n' cs).map escape) := by
  induction cs with
  | nil => rfl
  | cons c cs ih =>
    rw [escape_cons, ih]
    by_cases feed : c = '\n'
    · subst feed
      rw [Text.splitAt_separator]
      cases cut : Text.splitAt '\n' cs with
      | nil => exact absurd cut (Text.splitAt_ne_nil '\n' cs)
      | cons line lines => rfl
    · obtain ⟨line, lines, cut, grown⟩ := Text.splitAt_other feed cs
      rw [cut, grown, List.map_cons, List.map_cons, escape_cons]
      cases lines with
      | nil => rfl
      | cons next more => simp [Text.joinWith]

end ChatWidget.Markup
