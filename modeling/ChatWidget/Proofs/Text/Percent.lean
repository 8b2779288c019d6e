import ChatWidget.Proofs.Text.Utf8
import ChatWidget.Text.LowerCase
import ChatWidget.Text.Percent
/-!
Percent coding as it is read. A text that was coded as one segment of a path is found again by decoding, so different
texts make different segments, and a segment holds none of the marks that have a meaning between segments.
-/
namespace ChatWidget.Text

/-- The bytes of a text, where a percent sign with two hexadecimal digits after it is the byte with that number. -/
def percentDecode : List Char → List UInt8
  | [] => []
  | c :: rest =>
    match c, rest with
    | '%', high :: low :: more =>
      match hexValue? high, hexValue? low with
      | some high, some low => UInt8.ofNat (high * 16 + low) :: percentDecode more
      | _, _ => String.utf8EncodeChar c ++ percentDecode (high :: low :: more)
    | c, rest => String.utf8EncodeChar c ++ percentDecode rest

def unquoted (cs : List Char) : Except Utf8Error (List Char) := decodeUtf8 (percentDecode cs)

theorem percentDecode_cons {c : Char} (other : c ≠ '%') (rest : List Char) :
    percentDecode (c :: rest) = String.utf8EncodeChar c ++ percentDecode rest := by
  rw [percentDecode.eq_def]
  split
  next => contradiction
  next split =>
    obtain ⟨rfl, rfl⟩ := List.cons.inj split
    split
    next => contradiction
    next => rfl

theorem percentByte_digits : ∀ n < 256, ∃ high low, percentByte (UInt8.ofNat n) = ['%', high, low] ∧
    hexValue? high = some (n / 16) ∧ hexValue? low = some (n % 16) := by
  have digits : ∀ n < 256,
      let written := percentByte (UInt8.ofNat n)
      written = ['%', written.getD 1 ' ', written.getD 2 ' '] ∧ hexValue? (written.getD 1 ' ') = some (n / 16) ∧
        hexValue? (written.getD 2 ' ') = some (n % 16) := by
    decide +kernel
  intro n byte
  exact ⟨_, _, digits n byte⟩

theorem percentDecode_percentByte (b : UInt8) (rest : List Char) :
    percentDecode (percentByte b ++ rest) = b :: percentDecode rest := by
  obtain ⟨high, low, written, first, second⟩ := percentByte_digits b.toNat (UInt8.toNat_lt b)
  have whole : b.toNat / 16 * 16 + b.toNat % 16 = b.toNat := by omega
  rw [UInt8.ofNat_toNat] at written
  rw [written]
  change percentDecode ('%' :: high :: low :: rest) = _
  rw [percentDecode, first, second]
  dsimp only
  rw [whole, UInt8.ofNat_toNat]

theorem percentDecode_flatMap (bytes : List UInt8) (rest : List Char) :
    percentDecode (bytes.flatMap percentByte ++ rest) = bytes ++ percentDecode rest := by
  induction bytes with
  | nil => rfl
  | cons b bytes ih =>
    rw [List.flatMap_cons, List.append_assoc, percentDecode_percentByte, ih]
    rfl

/-! ### Segments -/

theorem isUnreserved_percent : isUnreserved '%' = false := by decide

theorem percentDecode_quoted_append (cs rest : List Char) :
    percentDecode (quoted cs ++ rest) = encodeUtf8 cs ++ percentDecode rest := by
  unfold quoted percentEncode encodeUtf8
  induction cs with
  | nil => rfl
  | cons c cs ih =>
    rw [List.flatMap_cons, List.flatMap_cons, List.append_assoc, List.append_assoc, ← ih]
    by_cases kept : isUnreserved c = true
    · have other : c ≠ '%' := by
        rintro rfl
        exact absurd (isUnreserved_percent.symm.trans kept) Bool.false_ne_true
      rw [if_pos kept]
      exact percentDecode_cons other _
    · rw [if_neg kept]
      exact percentDecode_flatMap _ _

theorem percentDecode_quoted (cs : List Char) : percentDecode (quoted cs) = encodeUtf8 cs := by
  have alone := percentDecode_quoted_append cs []
  rwa [List.append_nil, percentDecode, List.append_nil] at alone

theorem unquoted_quoted (cs : List Char) : unquoted (quoted cs) = .ok cs := by
  unfold unquoted
  rw [percentDecode_quoted, decodeUtf8_encodeUtf8]

theorem quoted_injective : Function.Injective quoted := by
  intro first second same
  have back := congrArg unquoted same
  rw [unquoted_quoted, unquoted_quoted] at back
  exact Except.ok.inj back

def isSegmentChar (c : Char) : Bool := isUnreserved c || c = '%'

theorem percentByte_chars : ∀ n < 256, (percentByte (UInt8.ofNat n)).all isSegmentChar = true := by decide +kernel

theorem isSegmentChar_percentChar (c : Char) : ∀ d ∈ percentChar c, isSegmentChar d = true := by
  intro d member
  obtain ⟨b, -, member⟩ := List.mem_flatMap.mp member
  rw [← UInt8.ofNat_toNat (x := b)] at member
  exact List.all_eq_true.mp (percentByte_chars b.toNat (UInt8.toNat_lt b)) d member

theorem isSegmentChar_quoted (cs : List Char) : ∀ c ∈ quoted cs, isSegmentChar c = true := by
  intro c member
  obtain ⟨d, -, member⟩ := List.mem_flatMap.mp member
  split at member
  next kept =>
    rw [List.mem_singleton.mp member, isSegmentChar, kept]
    rfl
  next => exact isSegmentChar_percentChar d c member

/-- What is true of all characters of ASCII that segments are written with is true of all of these. -/
theorem isSegmentChar_ascii {p : Char → Bool} (each : ∀ n < 128, isSegmentChar (Char.ofNat n) = true →
    p (Char.ofNat n) = true) {c : Char} (segment : isSegmentChar c = true) : p c = true := by
  have ascii : c.toNat < 128 := by
    simp only [isSegmentChar, isUnreserved, Bool.or_eq_true, Bool.and_eq_true, decide_eq_true_eq] at segment
    rcases segment with ((((((letter | letter) | digit) | rfl) | rfl) | rfl) | rfl) | rfl
    · omega
    · omega
    · omega
    all_goals decide
  have same : Char.ofNat c.toNat = c := Char.ofNat_toNat c
  rw [← same] at segment ⊢
  exact each c.toNat ascii segment

end ChatWidget.Text
