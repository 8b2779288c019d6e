import ChatWidget.Proofs.Markup.Bubble
import Mathlib.Data.List.Basic
/-!
Escaping loses nothing. It comes to four replacements, each made in what the one before it left, and still each
character of a text can be told from what was put in its place. So replacing the breaks by line feeds again and
resolving the references gives the text back, and different texts have different bubbles.
-/
namespace ChatWidget

/-! ### Replacing -/

namespace Text

/-- A text with the occurrences of a pattern replaced, where so many characters at the front are passed over because
an occurrence took them. -/
def replaceFrom (pattern replacement : List Char) : Nat → List Char → List Char
  | _, [] => []
  | skip + 1, _ :: rest => replaceFrom pattern replacement skip rest
  | 0, c :: rest =>
    if pattern.isPrefixOf (c :: rest) then
      replacement ++ replaceFrom pattern replacement (pattern.length - 1) rest
    else c :: replaceFrom pattern replacement 0 rest

/-- A text with every occurrence of a pattern replaced. They are found from the left, and none begins within another. -/
def replaceAll (pattern replacement cs : List Char) : List Char := replaceFrom pattern replacement 0 cs

variable {pattern replacement : List Char}

theorem replaceFrom_passed (passed rest : List Char) :
    replaceFrom pattern replacement passed.length (passed ++ rest) = replaceFrom pattern replacement 0 rest := by
  induction passed with
  | nil => rfl
  | cons c passed ih => exact ih

theorem replaceFrom_occurrence (c : Char) (pattern rest : List Char) :
    replaceFrom (c :: pattern) replacement 0 (c :: pattern ++ rest) =
      replacement ++ replaceFrom (c :: pattern) replacement 0 rest := by
  have front : (c :: pattern).isPrefixOf (c :: (pattern ++ rest)) = true :=
    List.isPrefixOf_iff_prefix.mpr (List.prefix_append (c :: pattern) rest)
  rw [List.cons_append, replaceFrom, if_pos front, List.length_cons, Nat.add_sub_cancel, replaceFrom_passed]

theorem replaceFrom_other {c : Char} {front : List Char} (absent : c ∉ front) (rest : List Char) :
    replaceFrom (c :: pattern) replacement 0 (front ++ rest) =
      front ++ replaceFrom (c :: pattern) replacement 0 rest := by
  induction front with
  | nil => rfl
  | cons d front ih =>
    obtain ⟨other, later⟩ := List.ne_and_not_mem_of_not_mem_cons absent
    have begins : (c :: pattern).isPrefixOf (d :: (front ++ rest)) = false := by
      rw [List.isPrefixOf, beq_eq_false_iff_ne.mpr other, Bool.false_and]
    rw [List.cons_append, replaceFrom, begins, if_neg Bool.false_ne_true, ih later]
    rfl

theorem replaceAll_char (c : Char) (replacement cs : List Char) :
    replaceAll [c] replacement cs = cs.flatMap fun d => if d = c then replacement else [d] := by
  unfold replaceAll
  induction cs with
  | nil => rfl
  | cons d cs ih =>
    rw [List.flatMap_cons, ← ih]
    by_cases same : d = c
    · subst same
      rw [if_pos rfl]
      exact replaceFrom_occurrence d [] cs
    · rw [if_neg same]
      have absent : c ∉ [d] := fun member => same (List.mem_singleton.mp member).symm
      exact replaceFrom_other absent cs

end Text

namespace Markup

open Text (replaceAll replaceFrom replaceFrom_occurrence replaceFrom_other)

/-! ### What escaping does -/

/-- The ampersands are replaced before the references come in that have one, and the line feeds come last, so that
the marks of the breaks are left alone. -/
theorem escape_eq_replaced (cs : List Char) :
    replaceAll ['\n'] breakMarkup (replaceAll ['>'] "&gt;".toList (replaceAll ['<'] "&lt;".toList
      (replaceAll ['&'] "&amp;".toList cs))) = escape cs := by
  simp only [Text.replaceAll_char, List.flatMap_assoc]
  unfold escape
  congr 1
  funext c
  rcases escapeChar_cases c with rfl | rfl | rfl | rfl | ⟨amp, lt, gt, feed, plain⟩
  · rfl
  · rfl
  · rfl
  · rfl
  · simp [plain, amp, lt, gt, feed]

theorem escape_append (cs more : List Char) : escape (cs ++ more) = escape cs ++ escape more := List.flatMap_append

/-- Replacing the breaks by line feeds takes back what was done to the line feeds and nothing else. -/
theorem replaceFrom_break (cs : List Char) :
    replaceFrom breakMarkup ['\n'] 0 (escape cs) = cs.flatMap fun c => if c = '\n' then ['\n'] else escapeChar c := by
  induction cs with
  | nil => rfl
  | cons c cs ih =>
    rw [escape_cons, List.flatMap_cons, ← ih]
    by_cases feed : c = '\n'
    · subst feed
      exact replaceFrom_occurrence '<' ['b', 'r', '/', '>'] (escape cs)
    · rw [if_neg feed]
      exact replaceFrom_other (lt_not_mem_escapeChar feed) (escape cs)

theorem unescape_replaceAll_break (cs : List Char) : unescape (replaceAll breakMarkup ['\n'] (escape cs)) = cs := by
  unfold replaceAll
  rw [replaceFrom_break, unescape]
  induction cs with
  | nil => rfl
  | cons c cs ih =>
    rw [List.flatMap_cons]
    by_cases feed : c = '\n'
    · subst feed
      exact congrArg ('\n' :: ·) ih
    · rw [if_neg feed, unescapeFrom_escapeChar feed, ih]

theorem escape_injective : Function.Injective escape :=
  Function.LeftInverse.injective (g := fun cs => unescape (replaceAll breakMarkup ['\n'] cs)) unescape_replaceAll_break

/-! ### Where the marks stand -/

/-- A place in an escaped text is a place in what was written for one of its characters. -/
theorem escape_eq_append_cons {cs before after : List Char} {mark : Char} (cut : escape cs = before ++ mark :: after) :
    ∃ front c back left right, cs = front ++ c :: back ∧ escapeChar c = left ++ mark :: right ∧
      before = escape front ++ left ∧ after = right ++ escape back := by
  induction cs generalizing before with
  | nil => simp [escape] at cut
  | cons c cs ih =>
    rw [escape_cons] at cut
    rcases List.append_eq_append_iff.mp cut with ⟨later, rfl, rest⟩ | ⟨part, here, rest⟩
    · obtain ⟨front, d, back, left, right, rfl, written, rfl, rfl⟩ := ih rest
      refine ⟨c :: front, d, back, left, right, rfl, written, ?_, rfl⟩
      rw [← List.append_assoc]
      rfl
    · cases part with
      | nil =>
        rw [List.append_nil] at here
        have again : escape cs = [] ++ mark :: after := rest.symm
        obtain ⟨front, d, back, left, right, rfl, written, empty, rfl⟩ := ih again
        refine ⟨c :: front, d, back, left, right, rfl, written, ?_, rfl⟩
        rw [← here, ← List.append_nil (escapeChar c), empty, ← List.append_assoc]
        rfl
      | cons other right =>
        obtain ⟨rfl, rfl⟩ := List.cons.inj rest
        exact ⟨[], c, cs, before, right, rfl, here, rfl, rfl⟩

/-- Markup on one line, with no tag in it but breaks, and with no reference to any other character than those with a
meaning of their own. -/
structure IsEscaped (cs : List Char) : Prop where
  opens : ∀ before after, cs = before ++ '<' :: after → ['b', 'r', '/', '>'] <+: after
  closes : ∀ before after, cs = before ++ '>' :: after → ['<', 'b', 'r', '/'] <:+ before
  refers : ∀ before after, cs = before ++ '&' :: after →
    ['a', 'm', 'p', ';'] <+: after ∨ ['l', 't', ';'] <+: after ∨ ['g', 't', ';'] <+: after
  singleLine : '\n' ∉ cs

theorem around_once (front back : List Char) {left right : List Char} {mark : Char} (before : mark ∉ front)
    (after : mark ∉ back) (written : front ++ mark :: back = left ++ mark :: right) :
    left = front ∧ right = back := by
  obtain ⟨same, -, same'⟩ := (List.append_cons_inj_of_notMem before after).mp written
  exact ⟨same.symm, same'.symm⟩

theorem opens_escape {cs before after : List Char} (cut : escape cs = before ++ '<' :: after) :
    ['b', 'r', '/', '>'] <+: after := by
  obtain ⟨front, c, back, left, right, -, written, -, rfl⟩ := escape_eq_append_cons cut
  have feed : c = '\n' := by
    by_contra inLine
    exact lt_not_mem_escapeChar inLine (by simp [written])
  subst feed
  obtain ⟨-, rfl⟩ := around_once [] ['b', 'r', '/', '>'] (by decide) (by decide) written
  exact List.prefix_append _ _

theorem closes_escape {cs before after : List Char} (cut : escape cs = before ++ '>' :: after) :
    ['<', 'b', 'r', '/'] <:+ before := by
  obtain ⟨front, c, back, left, right, -, written, rfl, -⟩ := escape_eq_append_cons cut
  have member : '>' ∈ escapeChar c := by simp [written]
  rcases escapeChar_cases c with rfl | rfl | rfl | rfl | ⟨-, -, gt, -, plain⟩
  · exact absurd member (by decide)
  · exact absurd member (by decide)
  · exact absurd member (by decide)
  · obtain ⟨rfl, -⟩ := around_once ['<', 'b', 'r', '/'] [] (by decide) (by decide) written
    exact List.suffix_append _ _
  · rw [plain, List.mem_singleton] at member
    exact absurd member.symm gt

theorem refers_escape {cs before after : List Char} (cut : escape cs = before ++ '&' :: after) :
    ['a', 'm', 'p', ';'] <+: after ∨ ['l', 't', ';'] <+: after ∨ ['g', 't', ';'] <+: after := by
  obtain ⟨front, c, back, left, right, -, written, -, rfl⟩ := escape_eq_append_cons cut
  have member : '&' ∈ escapeChar c := by simp [written]
  rcases escapeChar_cases c with rfl | rfl | rfl | rfl | ⟨amp, -, -, -, plain⟩
  · obtain ⟨-, rfl⟩ := around_once [] ['a', 'm', 'p', ';'] (by decide) (by decide) written
    exact .inl (List.prefix_append _ _)
  · obtain ⟨-, rfl⟩ := around_once [] ['l', 't', ';'] (by decide) (by decide) written
    exact .inr (.inl (List.prefix_append _ _))
  · obtain ⟨-, rfl⟩ := around_once [] ['g', 't', ';'] (by decide) (by decide) written
    exact .inr (.inr (List.prefix_append _ _))
  · exact absurd member (by decide)
  · rw [plain, List.mem_singleton] at member
    exact absurd member.symm amp

theorem feed_not_mem_escape (cs : List Char) : '\n' ∉ escape cs := by
  intro member
  obtain ⟨c, -, inside⟩ := List.mem_flatMap.mp member
  rcases escapeChar_cases c with rfl | rfl | rfl | rfl | ⟨-, -, -, feed, plain⟩
  · exact absurd inside (by decide)
  · exact absurd inside (by decide)
  · exact absurd inside (by decide)
  · exact absurd inside (by decide)
  · rw [plain, List.mem_singleton] at inside
    exact feed inside.symm

theorem isEscaped_escape (cs : List Char) : IsEscaped (escape cs) where
  opens _ _ := opens_escape
  closes _ _ := closes_escape
  refers _ _ := refers_escape
  singleLine := feed_not_mem_escape cs

end Markup

/-! ### Texts and bubbles -/

theorem toList_escaped (text : String) : text.escaped.toList = Markup.escape text.toList := String.toList_ofList

theorem escaped_append (text other : String) : (text ++ other).escaped = text.escaped ++ other.escaped := by
  unfold String.escaped
  rw [String.toList_append, Markup.escape_append, String.ofList_append]

theorem escaped_injective : Function.Injective String.escaped := by
  intro text other same
  have chars : Markup.escape text.toList = Markup.escape other.toList := by
    rw [← toList_escaped, ← toList_escaped, same]
  exact String.toList_injective (Markup.escape_injective chars)

namespace Bubble

theorem withText_injective (speaker : String) : Function.Injective (withText speaker) := by
  intro text other same
  have inner := (String.append_right_inj _).mp ((String.append_left_inj _).mp same)
  exact escaped_injective inner

theorem user_ne_bot (text other : String) : user text ≠ bot other := by
  intro same
  have read := parse_user text
  rw [same, parse_bot other] at read
  have classes : [messageClass, botClass] = [messageClass, userClass] :=
    congrArg Markup.Node.classes (Except.ok.inj read)
  exact absurd classes (by decide)

end Bubble

namespace Markup

open Text (replaceAll)

/-- Escaping texts one after the other is escaping them as one, and comes to replacing the ampersands, the marks of
tags and the line feeds in this order. What is escaped is on one line, with no tag but breaks and no reference but the
three to the characters with a meaning of their own. Replacing its breaks by line feeds and then resolving its
references gives the text back. So different texts are escaped differently, and they have different bubbles, whoever
speaks; and no bubble is one of both speakers. -/
theorem escaped_loses_nothing (text other : String) :
    (text ++ other).escaped = text.escaped ++ other.escaped ∧
    text.escaped.toList = replaceAll ['\n'] "<br/>".toList (replaceAll ['>'] "&gt;".toList
      (replaceAll ['<'] "&lt;".toList (replaceAll ['&'] "&amp;".toList text.toList))) ∧
    IsEscaped text.escaped.toList ∧
    String.ofList (unescape (replaceAll "<br/>".toList ['\n'] text.escaped.toList)) = text ∧
    (text.escaped = other.escaped ↔ text = other) ∧
    (Bubble.user text = Bubble.user other ↔ text = other) ∧
    (Bubble.bot text = Bubble.bot other ↔ text = other) ∧
    Bubble.user text ≠ Bubble.bot other := by
  have breaks : "<br/>".toList = breakMarkup := rfl
  refine ⟨escaped_append text other, ?_, ?_, ?_, escaped_injective.eq_iff, (Bubble.withText_injective _).eq_iff,
    (Bubble.withText_injective _).eq_iff, Bubble.user_ne_bot text other⟩
  · rw [toList_escaped, breaks, escape_eq_replaced]
  · rw [toList_escaped]
    exact isEscaped_escape text.toList
  · rw [toList_escaped, breaks, unescape_replaceAll_break, String.ofList_toList]

end Markup

end ChatWidget
