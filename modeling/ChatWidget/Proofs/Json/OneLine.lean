import ChatWidget.Proofs.Json.RoundTrip
import ChatWidget.Text.LineEnds
/-!
A written form stands on one line: it holds no control characters, since those of a text are escaped. So it
is the same after line ends have been unified.
-/
namespace ChatWidget

namespace Text

def IsOneLine (cs : List Char) : Prop := ∀ c ∈ cs, 0x20 ≤ c.toNat

instance (cs : List Char) : Decidable (IsOneLine cs) :=
  List.decidableBAll (fun c : Char => 0x20 ≤ c.toNat) cs

theorem IsOneLine.append {front back : List Char} (first : IsOneLine front) (second : IsOneLine back) :
    IsOneLine (front ++ back) := List.forall_mem_append.mpr ⟨first, second⟩

theorem IsOneLine.cons {c : Char} {cs : List Char} (first : 0x20 ≤ c.toNat) (rest : IsOneLine cs) :
    IsOneLine (c :: cs) := List.forall_mem_cons.mpr ⟨first, rest⟩

theorem IsOneLine.not_mem {cs : List Char} (line : IsOneLine cs) {c : Char} (control : c.toNat < 0x20) : c ∉ cs :=
  fun member => absurd (line c member) (Nat.not_le_of_lt control)

theorem IsOneLine.of_digits {cs : List Char} (digits : ∀ c ∈ cs, isDigit c = true) : IsOneLine cs := by
  intro c member
  have digit := digits c member
  rw [isDigit, Bool.and_eq_true, decide_eq_true_eq, decide_eq_true_eq] at digit
  omega

theorem unifyLineEnds_oneLine {cs : List Char} (line : IsOneLine cs) : unifyLineEnds cs = cs := by
  induction cs with
  | nil => rfl
  | cons c cs ih =>
    obtain ⟨first, rest⟩ := List.forall_mem_cons.mp line
    have other : c ≠ '\r' := by
      rintro rfl
      exact absurd first (by decide)
    rw [unifyLineEnds.eq_3 _ _ (by simp [other]) (by simp [other]), ih rest]

end Text

namespace Binary64

open Text (IsOneLine)
open Json (isDigit_toDigits zeros_isDigit)

theorem toDigits_oneLine (n : Nat) : IsOneLine (Nat.toDigits 10 n) :=
  .of_digits fun _ member => isDigit_toDigits member

theorem significantDigits_oneLine (n : Nat) : IsOneLine (significantDigits n) := by
  intro c member
  unfold significantDigits at member
  rw [List.mem_reverse] at member
  have kept := (List.dropWhile_sublist _).subset member
  exact toDigits_oneLine n c (List.mem_reverse.mp kept)

theorem zeros_oneLine (n : Nat) : IsOneLine (List.replicate n '0') := .of_digits (zeros_isDigit n)

theorem layOut_oneLine {digits : List Char} (line : IsOneLine digits) (point : Int) :
    IsOneLine (layOut digits point) := by
  have point_ : 0x20 ≤ '.'.toNat := by decide
  unfold layOut
  dsimp only
  split
  · split
    · exact .cons (by decide) (.cons point_ ((zeros_oneLine _).append line))
    · split
      · exact (line.append (zeros_oneLine _)).append (by decide)
      · have front : IsOneLine (digits.take point.toNat) := fun c member => line c (List.mem_of_mem_take member)
        have back : IsOneLine (digits.drop point.toNat) := fun c member => line c (List.mem_of_mem_drop member)
        exact front.append (.cons point_ back)
  · have size : IsOneLine (Nat.toDigits 10 (point - 1).natAbs) := toDigits_oneLine _
    have sign : 0x20 ≤ (if point - 1 < 0 then '-' else '+').toNat := by split <;> decide
    refine IsOneLine.append ?_ (.cons (by decide) (.cons sign ((zeros_oneLine _).append size)))
    split
    next => decide
    next => exact line
    next d rest _ =>
      obtain ⟨first, rest⟩ := List.forall_mem_cons.mp line
      exact .cons first (.cons point_ rest)

theorem textWith_oneLine {infinity notANumber : String} (first : IsOneLine infinity.toList)
    (second : IsOneLine notANumber.toList) (value : Binary64) :
    IsOneLine (value.textWith infinity notANumber) := by
  have sign : ∀ negative : Bool, IsOneLine (if negative then ['-'] else []) := by decide
  cases value with
  | finite negative magnitude =>
    refine (sign negative).append ?_
    unfold magnitudeText
    split
    · decide
    · exact layOut_oneLine (significantDigits_oneLine _) _
  | infinite negative => exact (sign negative).append first
  | nan => exact second

end Binary64

namespace Json

open Text (IsOneLine)

theorem writtenChar_oneLine (c : Char) : IsOneLine (writtenChar c) := by
  have digits : ∀ n < 0x20, IsOneLine ('\\' :: 'u' :: Text.hexDigits 4 n) := by decide
  unfold writtenChar
  split_ifs with _ _ _ _ _ _ _ control
  · decide
  · decide
  · decide
  · decide
  · decide
  · decide
  · decide
  · exact digits _ control
  · exact .cons (Nat.le_of_not_lt control) (by decide)

theorem writtenText_oneLine (s : String) : IsOneLine (writtenText s) := by
  have chars : IsOneLine (s.toList.flatMap writtenChar) := by
    intro c member
    obtain ⟨d, -, inside⟩ := List.mem_flatMap.mp member
    exact writtenChar_oneLine d c inside
  exact .cons (by decide) (chars.append (by decide))

theorem writtenItems_oneLine {items : List Json} (each : ∀ item ∈ items, IsOneLine item.writtenChars)
    (first : Bool) : IsOneLine (writtenItems first items) := by
  have comma : ∀ first : Bool, IsOneLine (if first then [] else [',', ' ']) := by decide
  induction items generalizing first with
  | nil =>
    rw [writtenItems]
    decide
  | cons item items ih =>
    obtain ⟨here, later⟩ := List.forall_mem_cons.mp each
    rw [writtenItems]
    exact ((comma first).append here).append (ih later false)

theorem writtenFields_oneLine {fields : Entries Json} (each : ∀ field ∈ fields, IsOneLine field.2.writtenChars)
    (first : Bool) : IsOneLine (writtenFields first fields) := by
  have comma : ∀ first : Bool, IsOneLine (if first then [] else [',', ' ']) := by decide
  induction fields generalizing first with
  | nil =>
    rw [writtenFields]
    decide
  | cons field fields ih =>
    obtain ⟨name, value⟩ := field
    obtain ⟨here, later⟩ := List.forall_mem_cons.mp each
    rw [writtenFields]
    exact ((((comma first).append (writtenText_oneLine name)).append (by decide)).append here).append
      (ih later false)

theorem writtenChars_oneLine (value : Json) : IsOneLine value.writtenChars := by
  induction value using byParts with
  | null => decide
  | bool value => cases value <;> decide
  | int value =>
    rw [writtenChars, toString_int]
    have sign : IsOneLine (if decide (value < 0) then ['-'] else []) := by split <;> decide
    exact sign.append (Binary64.toDigits_oneLine _)
  | float value =>
    rw [writtenChars]
    exact Binary64.textWith_oneLine (by decide) (by decide) value
  | str value =>
    rw [writtenChars]
    exact writtenText_oneLine value
  | arr items each =>
    rw [writtenChars]
    exact .cons (by decide) ((writtenItems_oneLine each true).append (by decide))
  | obj fields each =>
    rw [writtenChars]
    exact .cons (by decide) ((writtenFields_oneLine each true).append (by decide))

end Json

end ChatWidget
