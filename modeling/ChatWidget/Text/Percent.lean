import ChatWidget.Text.Utf8
/-!
Percent coding: a byte as a percent sign and two hexadecimal digits. The characters that stay as they
are differ from place to place, so every function is told which they are.
-/
namespace ChatWidget.Text

/-- A byte as a percent sign and two capital hexadecimal digits. -/
def percentByte (b : UInt8) : List Char :=
  '%' :: (hexDigits 2 b.toNat).map fun c =>
    if 0x61 ≤ c.toNat then Char.ofNat (c.toNat - 0x20) else c

def percentChar (c : Char) : List Char := (String.utf8EncodeChar c).flatMap percentByte

/-- A text with all characters percent coded but those that are kept. -/
def percentEncode (keep : Char → Bool) (cs : List Char) : List Char :=
  cs.flatMap fun c => if keep c then [c] else percentChar c

/-- The characters that never need coding: ASCII letters and digits, and four marks. -/
def isUnreserved (c : Char) : Bool :=
  let n := c.toNat
  (0x41 ≤ n && n ≤ 0x5A) || (0x61 ≤ n && n ≤ 0x7A) || (0x30 ≤ n && n ≤ 0x39) ||
  c = '_' || c = '.' || c = '-' || c = '~'

/-- A text as one segment of a path or one value of a query: all is coded but what never needs it. -/
def quoted (cs : List Char) : List Char := percentEncode isUnreserved cs

end ChatWidget.Text

/-- The text as one segment of a path. -/
def String.quoted (s : String) : String := String.ofList (ChatWidget.Text.quoted s.toList)
