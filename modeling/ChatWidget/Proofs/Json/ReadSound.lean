import ChatWidget.Proofs.Json.Derivation
import ChatWidget.Proofs.Json.Tidy
/-!
Whatever is read is a value that can be kept: a name that comes twice is written once, and a whole number
with too many digits is not read.
-/
namespace ChatWidget.Json

theorem isWritable_digits {whole : List Char} (all : ∀ c ∈ whole, Text.isDigit c = true)
    (nonempty : whole ≠ []) (few : whole.length ≤ digitLimit) (negative : Bool) :
    isWritable (.int (if negative then -(digitsValue whole : Int) else digitsValue whole)) = true := by
  have size : (if negative then -(digitsValue whole : Int) else digitsValue whole).natAbs =
      digitsValue whole := by
    cases negative with
    | true => simp
    | false => simp
  have bound := (Binary64.digitCount_le_iff (List.length_pos_of_ne_nil nonempty)).mpr
    (digitsValue_lt all)
  rw [isWritable, size]
  exact decide_eq_true (Nat.le_trans bound few)

theorem IsNumber.sound {negative : Bool} {cs : List Char} {value : Json} (number : IsNumber negative cs value) :
    IsSound value := by
  cases number with
  | whole isWhole few =>
    rcases isWhole with rfl | ⟨⟨c, more, rfl, -⟩, all⟩
    · exact ⟨trivial, isWritable_digits (List.forall_mem_singleton.mpr rfl) (by simp) few negative⟩
    · exact ⟨trivial, isWritable_digits all (by simp) few negative⟩
  | decimal => exact ⟨trivial, rfl⟩

theorem IsSound.putAll {entries more : Entries Json} (sound : IsSound (.obj entries))
    (each : ∀ field ∈ more, IsSound field.2) : IsSound (.obj (entries.putAll more)) := by
  induction more generalizing entries with
  | nil => exact sound
  | cons field more ih =>
    exact ih (sound.put field.1 (each field List.mem_cons_self)) fun other member =>
      each other (List.mem_cons_of_mem _ member)

mutual

theorem IsValue.sound {cs : List Char} {value : Json} : IsValue cs value → IsSound value
  | .word known => by
    simp only [wordValues, List.mem_cons, Prod.mk.injEq, List.not_mem_nil, or_false] at known
    obtain ⟨-, rfl⟩ | ⟨-, rfl⟩ | ⟨-, rfl⟩ | ⟨-, rfl⟩ | ⟨-, rfl⟩ | ⟨-, rfl⟩ := known <;> exact ⟨trivial, rfl⟩
  | .positive number => number.sound
  | .negative number => number.sound
  | .text _ => ⟨trivial, rfl⟩
  | .noItems _ => isSound_arr.mpr (by simp)
  | .list each => isSound_arr.mpr each.sound
  | .noFields _ => isSound_empty
  | .mapping each => isSound_empty.putAll each.sound

theorem IsElement.sound {cs : List Char} {value : Json} : IsElement cs value → IsSound value
  | .mk _ inner _ => inner.sound

theorem AreItems.sound {cs : List Char} {items : List Json} : AreItems cs items → ∀ item ∈ items, IsSound item
  | .last only => by
    intro item member
    rw [List.mem_singleton.mp member]
    exact only.sound
  | .more first others => by
    intro item member
    cases List.mem_cons.mp member with
    | inl same => exact same ▸ first.sound
    | inr later => exact others.sound item later

theorem AreFields.sound {cs : List Char} {fields : List (String × Json)} :
    AreFields cs fields → ∀ field ∈ fields, IsSound field.2
  | .last _ only => by
    intro field member
    rw [List.mem_singleton.mp member]
    exact only.sound
  | .more _ first others => by
    intro field member
    cases List.mem_cons.mp member with
    | inl same => exact same ▸ first.sound
    | inr later => exact others.sound field later

end

/-- Whatever is read can be written and read again. -/
theorem read_sound {text : String} {value : Json} (found : read text = .ok value) : IsSound value :=
  (read_ok_iff.mp found).sound

end ChatWidget.Json
