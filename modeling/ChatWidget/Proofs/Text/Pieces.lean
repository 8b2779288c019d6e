import ChatWidget.Text.Blank
import ChatWidget.Text.LowerCase
import Mathlib.Data.List.Basic
import Mathlib.Data.List.TakeWhile
/-!
Cutting a text at a separator and putting the pieces together again, and the texts that have no upper
case to lose. The pieces hold no separator, there is one more of them than there are separators, and
joined by the separator they are the text. A text that is trimmed is empty if it was blank.
-/
namespace ChatWidget.Text

theorem splitAt_separator (separator : Char) (cs : List Char) :
    splitAt separator (separator :: cs) = [] :: splitAt separator cs := by
  simp [splitAt]

theorem splitAt_other {separator c : Char} (other : c ≠ separator) (cs : List Char) :
    ∃ piece pieces, splitAt separator cs = piece :: pieces ∧
      splitAt separator (c :: cs) = (c :: piece) :: pieces := by
  cases cut : splitAt separator cs with
  | nil => exact absurd cut (splitAt_ne_nil separator cs)
  | cons piece pieces => exact ⟨piece, pieces, rfl, by simp [splitAt, other, cut]⟩

theorem separator_not_mem_splitAt (separator : Char) (cs : List Char) :
    ∀ piece ∈ splitAt separator cs, separator ∉ piece := by
  induction cs with
  | nil => simp [splitAt]
  | cons c cs ih =>
    by_cases same : c = separator
    · subst same
      rw [splitAt_separator]
      intro piece member
      rcases List.mem_cons.mp member with rfl | later
      · simp
      · exact ih piece later
    · obtain ⟨first, pieces, cut, grown⟩ := splitAt_other same cs
      rw [grown]
      rw [cut] at ih
      intro piece member
      rcases List.mem_cons.mp member with rfl | later
      · have absent := ih first (by simp)
        simp [Ne.symm same, absent]
      · exact ih piece (by simp [later])

theorem length_splitAt (separator : Char) (cs : List Char) :
    (splitAt separator cs).length = cs.count separator + 1 := by
  induction cs with
  | nil => simp [splitAt]
  | cons c cs ih =>
    by_cases same : c = separator
    · subst same
      rw [splitAt_separator, List.length_cons, ih, List.count_cons_self]
    · obtain ⟨first, pieces, cut, grown⟩ := splitAt_other same cs
      rw [grown, List.length_cons, List.count_cons_of_ne same, ← ih, cut, List.length_cons]

theorem splitAt_whole {separator : Char} {cs : List Char} (absent : separator ∉ cs) : splitAt separator cs = [cs] := by
  induction cs with
  | nil => rfl
  | cons c cs ih =>
    obtain ⟨different, later⟩ := List.ne_and_not_mem_of_not_mem_cons absent
    simp [splitAt, Ne.symm different, ih later]

theorem splitAt_append (separator : Char) (before after : List Char) :
    splitAt separator (before ++ separator :: after) = splitAt separator before ++ splitAt separator after := by
  induction before with
  | nil => exact splitAt_separator separator after
  | cons c before ih =>
    by_cases same : c = separator
    · subst same
      rw [List.cons_append, splitAt_separator, splitAt_separator, ih]
      rfl
    · obtain ⟨piece, pieces, cut, grown⟩ := splitAt_other same before
      obtain ⟨first, others, cut', grown'⟩ := splitAt_other same (before ++ separator :: after)
      rw [ih, cut, List.cons_append] at cut'
      cases cut'
      rw [List.cons_append, grown', grown, List.cons_append]

theorem joinWith_append (separator : List Char) {first second : List (List Char)} (some : first ≠ [])
    (other : second ≠ []) :
    joinWith separator (first ++ second) = joinWith separator first ++ separator ++ joinWith separator second := by
  induction first with
  | nil => exact absurd rfl some
  | cons piece first ih =>
    obtain ⟨head, rest, rfl⟩ := List.exists_cons_of_ne_nil other
    cases first with
    | nil => simp [joinWith]
    | cons next first =>
      have inner := ih (List.cons_ne_nil _ _)
      simp only [List.cons_append, joinWith, List.append_assoc] at inner ⊢
      rw [inner]

theorem mem_joinWith {separator : List Char} {c : Char} {pieces : List (List Char)}
    (member : c ∈ joinWith separator pieces) : c ∈ separator ∨ ∃ piece ∈ pieces, c ∈ piece := by
  induction pieces with
  | nil => cases member
  | cons piece pieces ih =>
    cases pieces with
    | nil => exact .inr ⟨piece, List.mem_cons_self, member⟩
    | cons next pieces =>
      rw [joinWith, List.append_assoc, List.mem_append, List.mem_append] at member
      rcases member with first | between | later
      · exact .inr ⟨piece, List.mem_cons_self, first⟩
      · exact .inl between
      · exact (ih later).imp_right fun ⟨other, inside, found⟩ => ⟨other, List.mem_cons_of_mem _ inside, found⟩

/-- The pieces joined by the separator are the text. -/
theorem joinWith_splitAt (separator : Char) (cs : List Char) : joinWith [separator] (splitAt separator cs) = cs := by
  induction cs with
  | nil => rfl
  | cons c cs ih =>
    by_cases same : c = separator
    · subst same
      have joined := joinWith_append [c] (List.cons_ne_nil ([] : List Char) []) (splitAt_ne_nil c cs)
      rw [ih] at joined
      rw [splitAt_separator]
      exact joined
    · obtain ⟨piece, pieces, cut, grown⟩ := splitAt_other same cs
      rw [cut] at ih
      rw [grown]
      cases pieces with
      | nil =>
        rw [joinWith] at ih ⊢
        rw [ih]
      | cons next pieces =>
        rw [joinWith] at ih ⊢
        rw [List.cons_append, List.cons_append, ih]

/-- Pieces without the separator are found again in the text that they are joined to. -/
theorem splitAt_joinWith {separator : Char} {pieces : List (List Char)} (some : pieces ≠ [])
    (absent : ∀ piece ∈ pieces, separator ∉ piece) : splitAt separator (joinWith [separator] pieces) = pieces := by
  induction pieces with
  | nil => exact absurd rfl some
  | cons piece pieces ih =>
    have first := splitAt_whole (absent piece List.mem_cons_self)
    cases pieces with
    | nil => exact first
    | cons next pieces =>
      rw [joinWith, List.append_assoc, List.singleton_append, splitAt_append, first,
        ih (List.cons_ne_nil _ _) fun other inside => absent other (List.mem_cons_of_mem _ inside)]
      rfl

/-- Letters, digits and marks of ASCII that have no upper case to lose. -/
def isSmall (c : Char) : Bool := c.toNat < 0x80 && !(0x41 ≤ c.toNat && c.toNat ≤ 0x5A)

theorem lowerChar_small {c : Char} (small : isSmall c = true) : lowerChar c = c := by
  simp only [isSmall, Bool.and_eq_true, decide_eq_true_eq, Bool.not_eq_true'] at small
  simp [lowerChar, small]

theorem lowerAfter_small (cs before : List Char) (small : ∀ c ∈ cs, isSmall c = true) :
    lowerAfter before cs = cs := by
  induction cs generalizing before with
  | nil => rfl
  | cons c cs ih =>
    have first := small c (by simp)
    have ascii : c.toNat < 0x80 := by
      simp only [isSmall, Bool.and_eq_true, decide_eq_true_eq] at first
      exact first.1
    have dotted : c.toNat ≠ 0x130 := by omega
    have sigma : c.toNat ≠ 0x3A3 := by omega
    rw [lowerAfter, if_neg dotted, if_neg sigma, lowerChar_small first,
      ih _ (fun d member => small d (by simp [member]))]
    rfl

theorem lower_small {cs : List Char} (small : ∀ c ∈ cs, isSmall c = true) : lower cs = cs :=
  lowerAfter_small cs [] small

theorem strip_eq_nil_iff (cs : List Char) : strip cs = [] ↔ allBlank cs = true := by
  have trailing : ∀ cs : List Char, stripRight cs = [] ↔ ∀ c ∈ cs, isBlank c = true := by
    intro cs
    rw [stripRight, List.reverse_eq_nil_iff, List.dropWhile_eq_nil_iff]
    simp only [List.mem_reverse]
  rw [strip, trailing, allBlank, List.all_eq_true]
  constructor
  · intro rest
    by_contra some
    have left : cs.dropWhile isBlank ≠ [] := fun none => some (List.dropWhile_eq_nil_iff.mp none)
    have first := List.head_dropWhile_not isBlank left
    rw [rest _ (List.head_mem left)] at first
    cases first
  · intro all c member
    exact all c ((List.dropWhile_sublist isBlank).subset member)

theorem isEmpty_trimBlanks (text : String) : text.trimBlanks.isEmpty = allBlank text.toList := by
  rw [Bool.eq_iff_iff, String.isEmpty_iff, String.trimBlanks, String.ofList_eq_empty_iff,
    strip_eq_nil_iff]

end ChatWidget.Text
