import ChatWidget.Text.Utf8
import Mathlib.Data.List.Basic
/-!
Reading UTF-8 undoes writing it: at the bytes of a character one step of reading finds this character, so a
text is found again in its bytes.
-/
namespace ChatWidget.Text

theorem continuation_byte : ∀ x < 64, isContinuation (UInt8.ofNat (x + 128)) = true ∧
    sixBits (UInt8.ofNat (x + 128)) = x := by
  decide

theorem first_of_two : ∀ a < 32, 2 ≤ a →
    let first := UInt8.ofNat (a + 192)
    ¬ first < 0x80 ∧ (first < 0xC2 || 0xF4 < first) = false ∧ first < 0xE0 ∧ (first &&& 0x1F).toNat = a := by
  decide

theorem first_of_three : ∀ a < 16,
    let first := UInt8.ofNat (a + 224)
    ¬ first < 0x80 ∧ (first < 0xC2 || 0xF4 < first) = false ∧ ¬ first < 0xE0 ∧ first < 0xF0 ∧
      (first &&& 0x0F).toNat = a := by
  decide

theorem first_of_four : ∀ a < 5,
    let first := UInt8.ofNat (a + 240)
    ¬ first < 0x80 ∧ (first < 0xC2 || 0xF4 < first) = false ∧ ¬ first < 0xE0 ∧ ¬ first < 0xF0 ∧
      (first &&& 0x07).toNat = a := by
  decide

theorem second_of_three : ∀ a < 16, ∀ b < 64, (a = 0 → 32 ≤ b) → (a = 13 → b < 32) →
    isSecondByte (UInt8.ofNat (a + 224)) (UInt8.ofNat (b + 128)) = true := by
  decide +kernel

theorem second_of_four : ∀ a < 5, ∀ b < 64, (a = 0 → 16 ≤ b) → (a = 4 → b < 16) →
    isSecondByte (UInt8.ofNat (a + 240)) (UInt8.ofNat (b + 128)) = true := by
  decide +kernel

theorem utf8Step_one {v : Nat} (most : v < 128) (rest : List UInt8) :
    utf8Step (UInt8.ofNat v) rest = .character (Char.ofNat v) 1 := by
  have byte : ∀ v < 128, UInt8.ofNat v < 0x80 ∧ (UInt8.ofNat v).toNat = v := by decide
  obtain ⟨one, same⟩ := byte v most
  unfold utf8Step
  rw [if_pos one, same]

theorem utf8Step_two {a b : Nat} (least : 2 ≤ a) (most : a < 32) (six : b < 64) (rest : List UInt8) :
    utf8Step (UInt8.ofNat (a + 192)) (UInt8.ofNat (b + 128) :: rest) = .character (Char.ofNat (a * 64 + b)) 2 := by
  obtain ⟨notOne, valid, two, bits⟩ := first_of_two a most least
  obtain ⟨continues, low⟩ := continuation_byte b six
  unfold utf8Step
  rw [if_neg notOne, valid, if_neg Bool.false_ne_true, if_pos two, bits]
  dsimp only
  rw [continues, if_pos rfl, low]

theorem utf8Step_three {a b c : Nat} (most : a < 16) (six : b < 64) (last : c < 64) (least : a = 0 → 32 ≤ b)
    (surrogates : a = 13 → b < 32) (rest : List UInt8) :
    utf8Step (UInt8.ofNat (a + 224)) (UInt8.ofNat (b + 128) :: UInt8.ofNat (c + 128) :: rest) =
      .character (Char.ofNat ((a * 64 + b) * 64 + c)) 3 := by
  obtain ⟨notOne, valid, notTwo, three, bits⟩ := first_of_three a most
  obtain ⟨-, middle⟩ := continuation_byte b six
  obtain ⟨continues, low⟩ := continuation_byte c last
  unfold utf8Step
  rw [if_neg notOne, valid, if_neg Bool.false_ne_true, if_neg notTwo, if_pos three, bits]
  dsimp only
  rw [second_of_three a most b six least surrogates, Bool.not_true, if_neg Bool.false_ne_true, continues,
    if_pos rfl, middle, low]

theorem utf8Step_four {a b c d : Nat} (most : a < 5) (six : b < 64) (third : c < 64) (last : d < 64)
    (least : a = 0 → 16 ≤ b) (greatest : a = 4 → b < 16) (rest : List UInt8) :
    utf8Step (UInt8.ofNat (a + 240))
        (UInt8.ofNat (b + 128) :: UInt8.ofNat (c + 128) :: UInt8.ofNat (d + 128) :: rest) =
      .character (Char.ofNat (((a * 64 + b) * 64 + c) * 64 + d)) 4 := by
  obtain ⟨notOne, valid, notTwo, notThree, bits⟩ := first_of_four a most
  obtain ⟨-, second⟩ := continuation_byte b six
  obtain ⟨continues, middle⟩ := continuation_byte c third
  obtain ⟨ends, low⟩ := continuation_byte d last
  unfold utf8Step
  rw [if_neg notOne, valid, if_neg Bool.false_ne_true, if_neg notTwo, if_neg notThree, bits]
  dsimp only
  rw [second_of_four a most b six least greatest, Bool.not_true, if_neg Bool.false_ne_true, continues,
    Bool.not_true, if_neg Bool.false_ne_true, ends, if_pos rfl, second, middle, low]

/-- At the bytes of a character reading finds the character, and passes over these bytes. -/
theorem utf8Step_encoded (c : Char) : ∃ first more, String.utf8EncodeChar c = first :: more ∧
    ∀ rest, utf8Step first (more ++ rest) = .character c (more.length + 1) := by
  have valid : c.val.toNat.isValidChar := c.valid
  have same : Char.ofNat c.val.toNat = c := Char.ofNat_toNat c
  unfold String.utf8EncodeChar
  generalize c.val.toNat = v at same valid
  unfold Nat.isValidChar at valid
  dsimp only
  rw [← same]
  split_ifs with one two three
  · exact ⟨_, _, rfl, fun rest => utf8Step_one (by omega) rest⟩
  · refine ⟨_, _, rfl, fun rest => ?_⟩
    have whole : v / 64 % 32 * 64 + v % 64 = v := by omega
    have step := utf8Step_two (a := v / 64 % 32) (b := v % 64) (by omega) (by omega) (by omega) rest
    rw [whole] at step
    exact step
  · refine ⟨_, _, rfl, fun rest => ?_⟩
    have whole : (v / 4096 % 16 * 64 + v / 64 % 64) * 64 + v % 64 = v := by omega
    have step := utf8Step_three (a := v / 4096 % 16) (b := v / 64 % 64) (c := v % 64) (by omega) (by omega)
      (by omega) (by omega) (by omega) rest
    rw [whole] at step
    exact step
  · refine ⟨_, _, rfl, fun rest => ?_⟩
    have whole : ((v / 262144 % 8 * 64 + v / 4096 % 64) * 64 + v / 64 % 64) * 64 + v % 64 = v := by omega
    have step := utf8Step_four (a := v / 262144 % 8) (b := v / 4096 % 64) (c := v / 64 % 64) (d := v % 64)
      (by omega) (by omega) (by omega) (by omega) (by omega) (by omega) rest
    rw [whole] at step
    exact step

theorem utf8Steps_encoded (c : Char) (rest : List UInt8) (position : Nat) :
    ∃ first size, utf8Steps position (String.utf8EncodeChar c ++ rest) =
      (.character c size, position, first) :: utf8Steps (position + size) rest := by
  obtain ⟨first, more, bytes, step⟩ := utf8Step_encoded c
  refine ⟨first, more.length + 1, ?_⟩
  rw [bytes, List.cons_append, utf8Steps, step rest]
  dsimp only
  rw [Nat.add_sub_cancel, List.drop_left]

/-- A text is found again in its bytes. -/
theorem decodeUtf8_encodeUtf8 (cs : List Char) : decodeUtf8 (encodeUtf8 cs) = .ok cs := by
  unfold decodeUtf8 encodeUtf8
  generalize 0 = position
  induction cs generalizing position with
  | nil =>
    rw [List.flatMap_nil, utf8Steps]
    rfl
  | cons c cs ih =>
    obtain ⟨first, size, steps⟩ := utf8Steps_encoded c (cs.flatMap String.utf8EncodeChar) position
    rw [List.flatMap_cons, steps, List.mapM_cons, ih]
    rfl

theorem decodeUtf8Lossy_encodeUtf8 (cs : List Char) : decodeUtf8Lossy (encodeUtf8 cs) = cs := by
  unfold decodeUtf8Lossy encodeUtf8
  generalize 0 = position
  induction cs generalizing position with
  | nil =>
    rw [List.flatMap_nil, utf8Steps]
    rfl
  | cons c cs ih =>
    obtain ⟨first, size, steps⟩ := utf8Steps_encoded c (cs.flatMap String.utf8EncodeChar) position
    rw [List.flatMap_cons, steps, List.map_cons, ih]

end ChatWidget.Text
