import ChatWidget.Text.Blank
import ChatWidget.Text.LowerCaseTable
/-!
Lower case for every character. Each character is mapped on its own, except that a capital sigma at
the end of a word takes its final form, and a capital I with a dot keeps the dot as a mark of its own.
-/
namespace ChatWidget.Text

def isCased (c : Char) : Bool := isWithin casedRanges c

/-- A character that is skipped when the neighbours of a letter are looked at. -/
def isCaseIgnorable (c : Char) : Bool := isWithin caseIgnorableRanges c

def lowerChar (c : Char) : Char :=
  let n := c.toNat
  if n < 0x80 then
    if 0x41 ≤ n && n ≤ 0x5A then Char.ofNat (n + 0x20) else c
  else match lowerCaseRanges.find? fun (first, last, step, _) =>
      first ≤ n && n ≤ last && (n - first) % step == 0 with
    | some (_, _, _, shift) => Char.ofNat (n + shift).toNat
    | none => c

/-- Is the nearest character that is not skipped a letter with case? -/
def meetsCased (cs : List Char) : Bool :=
  match cs.dropWhile isCaseIgnorable with
  | [] => false
  | c :: _ => isCased c

/-- Lower case of the rest of a text, given what stands before it in reverse. A sigma is final when a
letter stands before it and none after it. -/
def lowerAfter : List Char → List Char → List Char
  | _, [] => []
  | before, c :: rest =>
    let mapped :=
      if c.toNat = 0x130 then [Char.ofNat 0x69, Char.ofNat 0x307]
      else if c.toNat = 0x3A3 then
        [Char.ofNat (if meetsCased before && !meetsCased rest then 0x3C2 else 0x3C3)]
      else [lowerChar c]
    mapped ++ lowerAfter (c :: before) rest

def lower (cs : List Char) : List Char := lowerAfter [] cs

/-- The upper-case form of an ASCII letter; request methods are words of such letters. -/
def upperAscii (c : Char) : Char :=
  if 0x61 ≤ c.toNat && c.toNat ≤ 0x7A then Char.ofNat (c.toNat - 0x20) else c

def isLetter (c : Char) : Bool :=
  (0x41 ≤ c.toNat && c.toNat ≤ 0x5A) || (0x61 ≤ c.toNat && c.toNat ≤ 0x7A)

def isDigit (c : Char) : Bool := 0x30 ≤ c.toNat && c.toNat ≤ 0x39

def digitValue (c : Char) : Nat := c.toNat - 0x30

def hexValue? (c : Char) : Option Nat :=
  let n := c.toNat
  if 0x30 ≤ n && n ≤ 0x39 then some (n - 0x30)
  else if 0x41 ≤ n && n ≤ 0x46 then some (n - 0x37)
  else if 0x61 ≤ n && n ≤ 0x66 then some (n - 0x57)
  else none

def isHexDigit (c : Char) : Bool := (hexValue? c).isSome

end ChatWidget.Text

def String.lowered (s : String) : String := String.ofList (ChatWidget.Text.lower s.toList)
