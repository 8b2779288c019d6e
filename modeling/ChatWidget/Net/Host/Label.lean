import ChatWidget.Text.Blank
/-!
The labels of a host's name in other letters, and how they are written in ASCII: the ASCII characters of
the label first, and then variable-length numbers that tell which other character stands where. The
numbers are taken apart by division, so every loop ends because its number falls.
-/
namespace ChatWidget.Host

/-! ### The letters that a label may hold -/

/-- A character that no label may hold: signs and marks of punctuation, and forms kept for old texts. -/
def isBarred (c : Char) : Bool :=
  Text.isWithin
    [ (0x00, 0x2C), (0x2E, 0x2F), (0x3A, 0x60), (0x7B, 0xB6), (0xB8, 0xBF), (0xD7, 0xD7), (0xF7, 0xF7),
      (0x2000, 0x2C2F), (0x3000, 0x3004), (0x3008, 0x3029), (0xE000, 0xFAFF), (0xFB00, 0xFB4F),
      (0xFE00, 0xFE1F), (0xFE30, 0xFE6F), (0xFF00, 0xFFFF), (0x1D000, 0x1FBFF), (0xE0000, 0x10FFFF) ] c

/-- A mark that is set on the letter before it, so that no label begins with one. -/
def isMark (c : Char) : Bool :=
  Text.isWithin
    [ (0x300, 0x36F), (0x483, 0x489), (0x591, 0x5BD), (0x5BF, 0x5BF), (0x5C1, 0x5C2), (0x5C4, 0x5C5),
      (0x5C7, 0x5C7), (0x610, 0x61A), (0x64B, 0x65F), (0x670, 0x670), (0x6D6, 0x6DC), (0x6DF, 0x6E4),
      (0x6E7, 0x6E8), (0x6EA, 0x6ED), (0x711, 0x711), (0x730, 0x74A), (0x7A6, 0x7B0), (0x7EB, 0x7F3),
      (0x900, 0x903), (0x93A, 0x93C), (0x93E, 0x94F), (0x951, 0x957), (0x962, 0x963), (0x302A, 0x302F),
      (0x3099, 0x309A) ] c

def isFromRight (c : Char) : Bool :=
  !isMark c && Text.isWithin
    [ (0x5BE, 0x5F4), (0x620, 0x64A), (0x66D, 0x6D5), (0x6E5, 0x6E6), (0x6EE, 0x6EF), (0x6FA, 0x8C9),
      (0x10800, 0x10FFF), (0x1E800, 0x1EFFF) ] c

def isArabicFigure (c : Char) : Bool := Text.isWithin [(0x660, 0x669)] c

/-- A figure of the common kind, or of the kind that goes with Persian letters. -/
def isFigure (c : Char) : Bool := Text.isWithin [(0x30, 0x39), (0x6F0, 0x6F9)] c

/-- A letter or syllable of the scripts that may hold the dot between words. -/
def isKanaOrHan (c : Char) : Bool :=
  Text.isWithin
    [ (0x3005, 0x3007), (0x3021, 0x3029), (0x3041, 0x3096), (0x309D, 0x309F), (0x30A1, 0x30FA),
      (0x30FD, 0x30FF), (0x31F0, 0x31FF), (0x3400, 0x4DBF), (0x4E00, 0x9FFF), (0x20000, 0x323AF) ] c

/-- A label with letters from the right begins with one, holds besides only marks, figures of one kind
and hyphens, and ends in a letter or figure. A label without such letters may be anything. -/
def runsOneWay (label : List Char) : Bool :=
  !label.any (fun c => isFromRight c || isArabicFigure c) ||
    ((label.head?.any isFromRight) &&
      label.all (fun c => isFromRight c || isArabicFigure c || isFigure c || isMark c || c == '-') &&
      ((label.reverse.dropWhile isMark).head?.any (· != '-')) &&
      !(label.any isArabicFigure && label.any isFigure))

/-- Does every dot in the middle of a line stand between two letters l? -/
def dotsBetween : List Char → Bool
  | [] => true
  | [c] => c.toNat != 0xB7
  | c :: d :: rest =>
    c.toNat != 0xB7 && (d.toNat != 0xB7 || (c == 'l' && rest.head? == some 'l')) &&
      dotsBetween (if d.toNat = 0xB7 then rest else d :: rest)
termination_by label => label.length
decreasing_by split <;> grind

def isWellPlaced (label : List Char) : Bool :=
  !(label.head?.any isMark) && dotsBetween label && runsOneWay label &&
    (!label.any (·.toNat == 0x30FB) || label.any isKanaOrHan) &&
    !(label.any isArabicFigure && label.any (Text.isWithin [(0x6F0, 0x6F9)]))

/-! ### Labels in ASCII -/

/-- How far a number is from the middle of its range, in digits: large ones are cut down first. -/
def spread (delta k : Nat) : Nat :=
  if 455 < delta then spread (delta / 35) (k + 36) else k + 36 * delta / (delta + 38)
termination_by delta

/-- The next base of the variable-length numbers, after a number of the given size. -/
def adaptBias (delta count : Nat) (first : Bool) : Nat :=
  let delta := if first then delta / 700 else delta / 2
  spread (delta + delta / count) 0

/-- A digit of a variable-length number: a letter, and after these a figure. -/
def labelDigit (n : Nat) : Char := Char.ofNat (if n < 26 then n + 0x61 else n - 26 + 0x30)

/-- The least digit that does not end a number, at the given place. -/
def threshold (bias k : Nat) : Nat := if k ≤ bias then 1 else if bias + 26 ≤ k then 26 else k - bias

theorem threshold_pos (bias k : Nat) : 1 ≤ threshold bias k := by
  grind [threshold]

def labelNumber (bias k n : Nat) : List Char :=
  if n < threshold bias k then [labelDigit n]
  else
    let past := n - threshold bias k
    labelDigit (threshold bias k + past % (36 - threshold bias k)) ::
      labelNumber bias (k + 36) (past / (36 - threshold bias k))
termination_by n
decreasing_by
  have := threshold_pos bias k
  have := Nat.div_le_self (n - threshold bias k) (36 - threshold bias k)
  omega

/-- What is kept while the characters of a label are put in, by rising code point. -/
structure LabelState where
  delta : Nat
  bias : Nat
  handled : Nat
  written : List Char

def writeCodePoint (basic n : Nat) (label : List Nat) (state : LabelState) : LabelState :=
  label.foldl (fun state c =>
    if c < n then { state with delta := state.delta + 1 }
    else if c = n then
      { delta := 0
        bias := adaptBias state.delta (state.handled + 1) (state.handled == basic)
        handled := state.handled + 1
        written := state.written ++ labelNumber state.bias 36 state.delta }
    else state) state

/-- A label in ASCII: its ASCII characters, and then numbers that tell which other ones stand where. -/
def encodeLabel (label : List Char) : List Char :=
  let codes := label.map Char.toNat
  let basic := label.filter (·.toNat < 0x80)
  let others := ((codes.filter (0x80 ≤ ·)).mergeSort (· ≤ ·)).eraseDups
  let start : LabelState := ⟨0, 72, basic.length, []⟩
  let (_, state) := others.foldl (fun (last, state) n =>
    let state := { state with delta := state.delta + (n - last) * (state.handled + 1) }
    let state := writeCodePoint basic.length n codes state
    (n + 1, { state with delta := state.delta + 1 })) (0x80, start)
  "xn--".toList ++ (if basic.isEmpty then [] else basic ++ ['-']) ++ state.written

def label? (label : List Char) : Option (List Char) :=
  if label.isEmpty || label.any isBarred || label.head? = some '-' || label.getLast? = some '-' ||
      (label.drop 2).take 2 = ['-', '-'] || !isWellPlaced label then none
  else
    let written := if label.all (·.toNat < 0x80) then label else encodeLabel label
    if written.length ≤ 63 then some written else none

end ChatWidget.Host
