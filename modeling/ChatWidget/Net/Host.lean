import ChatWidget.Net.Host.Label
import ChatWidget.Text.Percent
import ChatWidget.Text.Blank
import ChatWidget.Text.LowerCase
import ChatWidget.Fault
/-!
The names of hosts: numeric addresses of both kinds, names in ASCII, and names in other letters, whose
labels are written in ASCII with a mark before them.
-/
namespace ChatWidget.Host

/-- Are these four runs of digits with any character between each two? -/
def looksNumeric : Nat → Bool → List Char → Bool
  | runs, inRun, [] => runs == 3 && inRun
  | runs, inRun, c :: rest =>
    (Text.isDigit c && looksNumeric runs true rest) ||
      (inRun && runs < 3 && looksNumeric (runs + 1) false rest)

/-- One of the four parts of a numeric address: up to 255, without leading zeros. -/
def isOctet (cs : List Char) : Bool :=
  !cs.isEmpty && cs.length ≤ 3 && cs.all Text.isDigit && (cs.length == 1 || cs.head? != some '0') &&
    cs.foldl (fun n d => 10 * n + Text.digitValue d) 0 ≤ 255

def isNumeric4 (cs : List Char) : Bool :=
  let parts := Text.splitAt '.' cs
  parts.length == 4 && parts.all isOctet

def isHextet (cs : List Char) : Bool := !cs.isEmpty && cs.length ≤ 4 && cs.all Text.isHexDigit

/-- A long numeric address: eight parts between colons, where two colons in a row stand for parts left
out and the last two parts may be a short address. What stands after a percent sign names a place. -/
def isNumeric6 (address : List Char) : Bool :=
  let cs := address.takeWhile (· ≠ '%')
  let zone := address.drop cs.length
  let zoneGood := zone.isEmpty || (zone.length > 1 && !(zone.drop 1).contains '%')
  let parts := Text.splitAt ':' cs
  let last := (parts.getLast?).getD []
  let short := last.contains '.'
  let parts := if short then parts.dropLast ++ [['0'], ['0']] else parts
  let inner := (parts.drop 1).dropLast
  let gaps := inner.countP List.isEmpty
  let filled := parts.countP (! ·.isEmpty)
  let first := (parts.head?).getD []
  let final := (parts.getLast?).getD []
  zoneGood && (!short || isNumeric4 last) && 3 ≤ parts.length && parts.length ≤ 9 && gaps ≤ 1 &&
    (parts.all fun part => part.isEmpty || isHextet part) &&
    (if gaps = 1 then
      (first.isEmpty → (parts.drop 1).head? = some []) ∧
        (final.isEmpty → inner.getLast? = some []) ∧ filled ≤ 7
    else parts.length = 8 ∧ !first.isEmpty ∧ !final.isEmpty)

/-- A character that stays as it is in a name in ASCII. -/
def isNameChar (c : Char) : Bool :=
  Text.isUnreserved c || "!$&'()*+,;=\"\x60\x7b\x7d%|\\".toList.contains c

/-! ### Names in other letters -/

/-- A name in other letters, in ASCII, if each of its labels can be written so. -/
def international? (cs : List Char) : Option (List Char) :=
  let isDot (c : Char) : Bool := [0x3002, 0xFF0E, 0xFF61].contains c.toNat
  let labels := Text.splitAt '.' (cs.map fun c => if isDot c then '.' else c)
  let (labels, ending) :=
    if labels.getLast? = some [] then (labels.dropLast, ['.']) else (labels, [])
  if labels.isEmpty then none
  else (labels.mapM label?).map fun labels => Text.joinWith ['.'] labels ++ ending

/-- The host of an address as it is sent. Brackets around a long address fall away. -/
def normal (cs : List Char) : Except Fault (List Char) :=
  let refuse (sort : String) : Except Fault (List Char) :=
    .error (.invalidUrl ("Invalid " ++ sort ++ ": " ++ (String.ofList cs).literal))
  if cs.isEmpty then .ok []
  else if looksNumeric 0 false cs then
    if isNumeric4 cs then .ok cs else refuse "IPv4 address"
  else if cs.head? = some '[' && cs.getLast? = some ']' && 2 ≤ cs.length then
    let address := (cs.drop 1).dropLast
    if isNumeric6 address then .ok address else refuse "IPv6 address"
  else if cs.all (·.toNat < 0x80) then
    .ok (Text.percentEncode isNameChar (Text.lower cs))
  else match international? (Text.lower cs) with
    | some name => .ok name
    | none => refuse "IDNA hostname"

end ChatWidget.Host
