import ChatWidget.Text.Utf8
import ChatWidget.Text.Utf16
import ChatWidget.Text.Blank
import ChatWidget.Text.LowerCase
/-!
What a header says of a body: its media type, and the character set in which its bytes are a text.
Parameters follow the media type after semicolons; a semicolon between quotes is part of a value.
-/
namespace ChatWidget.MediaType

def bare (header : List Char) : List Char :=
  Text.lower (Text.strip (header.takeWhile (· ≠ ';')))

/-- The pieces of a header between its semicolons. A piece goes on past a semicolon that has an odd
number of quotes before it in the piece, quotes after a backslash not counted. -/
def pieces (current : List Char) (odd : Bool) : List Char → List (List Char)
  | [] => [current.reverse]
  | c :: rest =>
    if c = ';' && (!odd || current.isEmpty) then current.reverse :: pieces [] false rest
    else pieces (c :: current) (if c = '"' && current.head? != some '\\' then !odd else odd) rest

/-- The text between a pair of quotes, with backslashes and quotes written plainly, or between angle
brackets; another text as it is. -/
def unquote (cs : List Char) : List Char :=
  let inner := (cs.drop 1).dropLast
  if 2 ≤ cs.length && cs.head? = some '"' && cs.getLast? = some '"' then plain (halve inner)
  else if 2 ≤ cs.length && cs.head? = some '<' && cs.getLast? = some '>' then inner
  else cs
where
  /-- One backslash for two. -/
  halve : List Char → List Char
    | '\\' :: '\\' :: rest => '\\' :: halve rest
    | c :: rest => c :: halve rest
    | [] => []
  /-- A quote for a backslash with a quote. -/
  plain : List Char → List Char
    | '\\' :: '"' :: rest => '"' :: plain rest
    | c :: rest => c :: plain rest
    | [] => []

/-- The name of the character set in a header, in small letters. -/
def charset? (header : List Char) : Option (List Char) :=
  ((pieces [] false header).findSome? fun piece =>
    let name := Text.lower (Text.strip (piece.takeWhile (· ≠ '=')))
    if name = "charset".toList then
      some (Text.lower (unquote (Text.strip ((piece.dropWhile (· ≠ '=')).drop 1))))
    else none).filter fun name => name.all (·.toNat < 0x80)

inductive Charset where
  | utf8
  /-- UTF-8 with a mark in front that does not count. -/
  | utf8Marked
  /-- UTF-16 with a mark in front that tells the order of bytes. -/
  | utf16
  | utf16GreaterFirst
  | utf16GreaterLast
  | ascii
  | latin1
  | windows1252
deriving DecidableEq

/-- The character set with a name, if it is known. Only letters and digits of a name count. -/
def Charset.named? (name : List Char) : Option Charset :=
  match String.ofList (name.filter fun c => Text.isLetter c || Text.isDigit c) with
  | "utf8" | "u8" | "utf" | "cp65001" => some .utf8
  | "utf8sig" => some .utf8Marked
  | "utf16" | "u16" => some .utf16
  | "utf16be" | "unicodebigunmarked" => some .utf16GreaterFirst
  | "utf16le" | "unicodelittleunmarked" => some .utf16GreaterLast
  | "ascii" | "usascii" | "us" | "646" | "ansix341968" | "iso646us" => some .ascii
  | "latin1" | "latin" | "l1" | "iso88591" | "8859" | "iso8859" | "cp819" | "isoir100" | "ibm819" =>
    some .latin1
  | "cp1252" | "windows1252" | "1252" => some .windows1252
  | _ => none

/-- The characters that the bytes from 0x80 to 0x9F are in the character set of Windows. -/
def windowsTable : List Nat :=
  [0x20AC, 0xFFFD, 0x201A, 0x0192, 0x201E, 0x2026, 0x2020, 0x2021, 0x02C6, 0x2030, 0x0160, 0x2039,
   0x0152, 0xFFFD, 0x017D, 0xFFFD, 0xFFFD, 0x2018, 0x2019, 0x201C, 0x201D, 0x2022, 0x2013, 0x2014,
   0x02DC, 0x2122, 0x0161, 0x203A, 0x0153, 0xFFFD, 0x017E, 0x0178]

/-- The text that bytes are. What is no character reads as the replacement character. -/
def Charset.decode (charset : Charset) (bytes : List UInt8) : List Char :=
  let oneByOne (table : Nat → Nat) : List Char := bytes.map fun b => Char.ofNat (table b.toNat)
  match charset with
  | .utf8 => Text.decodeUtf8Lossy bytes
  | .utf8Marked =>
    Text.decodeUtf8Lossy (if bytes.take 3 = [0xEF, 0xBB, 0xBF] then bytes.drop 3 else bytes)
  | .utf16 => Text.decodeMarkedUtf16 bytes
  | .utf16GreaterFirst => Text.decodeUtf16 true bytes
  | .utf16GreaterLast => Text.decodeUtf16 false bytes
  | .ascii => oneByOne fun n => if n < 0x80 then n else 0xFFFD
  | .latin1 => oneByOne id
  | .windows1252 => oneByOne fun n =>
    if 0x80 ≤ n && n < 0xA0 then windowsTable.getD (n - 0x80) 0xFFFD else n

/-- The text that bytes are under a header; they are UTF-8 unless it names another known character
set. -/
def decode (header : Option String) (bytes : List UInt8) : List Char :=
  (((header.bind fun header => charset? header.toList).bind Charset.named?).getD .utf8).decode bytes

end ChatWidget.MediaType
