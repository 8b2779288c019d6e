/-!
Classes of characters given by ranges, blank characters, and the two cuts made at blanks: trimming a text
at both ends and cutting it into words.
Trimming keeps everything between the first and the last character that is not blank; words are the
maximal runs of such characters, in order.
-/
namespace ChatWidget.Text

/-- The characters that count as white space: the Unicode spaces, the line and paragraph separators,
and the control characters from tab to carriage return and from file separator to unit separator. -/
def isBlank (c : Char) : Bool :=
  let n := c.toNat
  (0x09 ≤ n && n ≤ 0x0D) || (0x1C ≤ n && n ≤ 0x20) || n == 0x85 || n == 0xA0 || n == 0x1680 ||
  (0x2000 ≤ n && n ≤ 0x200A) || n == 0x2028 || n == 0x2029 || n == 0x202F || n == 0x205F ||
  n == 0x3000

/-- Does the character lie in one of the ranges, given by their first and last codes? -/
def isWithin (ranges : List (Nat × Nat)) (c : Char) : Bool :=
  ranges.any fun (first, last) => first ≤ c.toNat && c.toNat ≤ last

def stripLeft (cs : List Char) : List Char := cs.dropWhile isBlank

def stripRight (cs : List Char) : List Char := (cs.reverse.dropWhile isBlank).reverse

def strip (cs : List Char) : List Char := stripRight (stripLeft cs)

/-- The maximal runs of characters that are not blank, in order. -/
def words (cs : List Char) : List (List Char) :=
  match _h : cs.dropWhile isBlank with
  | [] => []
  | c :: rest =>
    (c :: rest.takeWhile (! isBlank ·)) :: words (rest.dropWhile (! isBlank ·))
termination_by cs.length
decreasing_by
  have h₁ : (cs.dropWhile isBlank).length ≤ cs.length := (List.dropWhile_sublist isBlank).length_le
  have h₂ : (rest.dropWhile (! isBlank ·)).length ≤ rest.length :=
    (List.dropWhile_sublist (! isBlank ·)).length_le
  simp only [_h, List.length_cons] at h₁
  omega

/-- The pieces between the occurrences of a separator; there is one more piece than separators. -/
def splitAt (separator : Char) : List Char → List (List Char)
  | [] => [[]]
  | c :: rest =>
    if c = separator then [] :: splitAt separator rest
    else match splitAt separator rest with
      | [] => [[c]]
      | piece :: pieces => (c :: piece) :: pieces

theorem splitAt_ne_nil (separator : Char) (cs : List Char) : splitAt separator cs ≠ [] := by
  cases cs with
  | nil => simp [splitAt]
  | cons c rest =>
    unfold splitAt
    split
    · simp
    · split <;> simp

/-- The pieces put together again with a separator between neighbours. -/
def joinWith (separator : List Char) : List (List Char) → List Char
  | [] => []
  | [piece] => piece
  | piece :: next :: pieces => piece ++ separator ++ joinWith separator (next :: pieces)

/-- Does the text consist of blanks only? The empty text does. -/
def allBlank (cs : List Char) : Bool := cs.all isBlank

/-- The position of the first occurrence of a text in another, counted in characters. -/
def indexOf? (needle : List Char) : List Char → Option Nat
  | [] => if needle.isEmpty then some 0 else none
  | c :: rest =>
    if needle.isPrefixOf (c :: rest) then some 0 else (indexOf? needle rest).map (· + 1)

def endsWith (cs ending : List Char) : Bool := ending.reverse.isPrefixOf cs.reverse

end ChatWidget.Text

def String.trimBlanks (s : String) : String := String.ofList (ChatWidget.Text.strip s.toList)

/-- The words of a text: its maximal runs of characters that are not blank. -/
def String.blankSeparated (s : String) : List String :=
  (ChatWidget.Text.words s.toList).map String.ofList
