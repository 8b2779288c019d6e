import ChatWidget.Markup.ReferenceTable
import ChatWidget.Text.LowerCase
/-!
Character references in markup: `&#62;`, `&#x3e;` and `&gt;` all stand for one character. Numbers that
are no characters stand for the replacement character or for nothing, and the numbers from 0x80 to 0x9F
for the characters that old documents mean by them. Of a run that begins with a known name the longest
such name counts; a run with no known name stays as it is.
-/
namespace ChatWidget.Markup

/-- What the numbers from 0x80 to 0x9F stand for. -/
def legacyCodePoints : List Nat :=
  [0x20AC, 0x81, 0x201A, 0x192, 0x201E, 0x2026, 0x2020, 0x2021, 0x2C6, 0x2030, 0x160, 0x2039, 0x152,
   0x8D, 0x17D, 0x8F, 0x90, 0x2018, 0x2019, 0x201C, 0x201D, 0x2022, 0x2013, 0x2014, 0x2DC, 0x2122,
   0x161, 0x203A, 0x153, 0x9D, 0x17E, 0x178]

/-- A number that stands for no character at all: most control characters, and the code points that are
set aside for no use. -/
def isVoidCodePoint (n : Nat) : Bool :=
  (0x1 ≤ n && n ≤ 0x8) || (0xE ≤ n && n ≤ 0x1F) || (0x7F ≤ n && n ≤ 0x9F) ||
  (0xFDD0 ≤ n && n ≤ 0xFDEF) || n == 0xB || n % 0x10000 == 0xFFFE || n % 0x10000 == 0xFFFF

def numbered (n : Nat) : List Char :=
  if n = 0 then [Char.ofNat 0xFFFD]
  else if 0x80 ≤ n && n ≤ 0x9F then [Char.ofNat (legacyCodePoints.getD (n - 0x80) n)]
  else if (0xD800 ≤ n && n ≤ 0xDFFF) || 0x10FFFF < n then [Char.ofNat 0xFFFD]
  else if isVoidCodePoint n then []
  else [Char.ofNat n]

/-- The characters that a name stands for; the name holds its semicolon if there was one. -/
def named? (name : List Char) : Option (List Char) :=
  let known (name : List Char) : Option (List Char) :=
    (namedReferences.lookup (String.ofList name)).map (·.map Char.ofNat)
  match name.reverse with
  | ';' :: bare => known bare.reverse
  | _ => if bareReferences.contains (String.ofList name) then known name else none

/-- The longest known name at the front of a run, of at most so many characters and at least two, and
what stands after it. -/
def longestName? (run : List Char) : Nat → Option (List Char)
  | 0 | 1 => none
  | size + 1 => match named? (run.take (size + 1)) with
    | some cs => some (cs ++ run.drop (size + 1))
    | none => longestName? run size

/-- What a run of characters after an ampersand stands for. -/
def namedRun (run : List Char) : List Char :=
  match named? run with
  | some cs => cs
  | none => (longestName? run (run.length - 1)).getD ('&' :: run)

def isNameChar (c : Char) : Bool :=
  !(c = '\t' || c = '\n' || c.toNat = 0x0C || c = ' ' || c = '<' || c = '&' || c = '#' || c = ';')

def takeSemicolon : List Char → List Char × List Char
  | ';' :: rest => ([';'], rest)
  | rest => ([], rest)

def numberOf (base : Nat) (digits : List Char) : Nat :=
  digits.foldl (fun n d => n * base + (Text.hexValue? d).getD 0) 0

/-- A reference after its ampersand: what it stands for, and how many characters it took. -/
def reference? : List Char → Option (List Char × Nat)
  | '#' :: rest =>
    let digits := rest.takeWhile Text.isDigit
    if !digits.isEmpty then
      some (numbered (numberOf 10 digits),
        1 + digits.length + (takeSemicolon (rest.drop digits.length)).1.length)
    else match rest with
      | x :: rest =>
        let digits := rest.takeWhile Text.isHexDigit
        if (x = 'x' || x = 'X') && !digits.isEmpty then
          some (numbered (numberOf 16 digits),
            2 + digits.length + (takeSemicolon (rest.drop digits.length)).1.length)
        else none
      | [] => none
  | cs =>
    let name := (cs.takeWhile isNameChar).take 32
    if name.isEmpty then none
    else
      let run := name ++ (takeSemicolon (cs.drop name.length)).1
      some (namedRun run, run.length)

/-- A text with its references resolved, where so many characters at the front are passed over because
a reference took them. -/
def unescapeFrom : Nat → List Char → List Char
  | _, [] => []
  | skip + 1, _ :: rest => unescapeFrom skip rest
  | 0, c :: rest =>
    if c = '&' then
      match reference? rest with
      | some (cs, size) => cs ++ unescapeFrom size rest
      | none => c :: unescapeFrom 0 rest
    else c :: unescapeFrom 0 rest

def unescape (cs : List Char) : List Char := unescapeFrom 0 cs

end ChatWidget.Markup
