import ChatWidget.Text.Blank
import ChatWidget.Text.PrintableTable
/-!
Quoted literals: a text in quotes on one line, in which every character that has no printed form of
its own, the quote and the backslash are escaped. Single quotes are used, unless the text holds single
quotes and no double quote.
-/
namespace ChatWidget.Text

def isPrintable (c : Char) : Bool :=
  if c.toNat < 0x7F then 0x20 ≤ c.toNat
  else !isWithin unprintableRanges c

/-- The lower-case hexadecimal digits of a number, at least as many as asked for. -/
def hexDigits (width n : Nat) : List Char :=
  let digits := Nat.toDigits 16 n
  List.replicate (width - digits.length) '0' ++ digits

def literalQuote (cs : List Char) : Char :=
  if cs.contains '\'' && !cs.contains '"' then '"' else '\''

/-- One character inside a literal with the given quote. -/
def literalChar (quote c : Char) : List Char :=
  if c = quote || c = '\\' then ['\\', c]
  else if c = '\t' then ['\\', 't']
  else if c = '\r' then ['\\', 'r']
  else if c = '\n' then ['\\', 'n']
  else if isPrintable c then [c]
  else if c.toNat ≤ 0xFF then '\\' :: 'x' :: hexDigits 2 c.toNat
  else if c.toNat ≤ 0xFFFF then '\\' :: 'u' :: hexDigits 4 c.toNat
  else '\\' :: 'U' :: hexDigits 8 c.toNat

def literal (cs : List Char) : List Char :=
  let quote := literalQuote cs
  quote :: cs.flatMap (literalChar quote) ++ [quote]

end ChatWidget.Text

def String.literal (s : String) : String := String.ofList (ChatWidget.Text.literal s.toList)
