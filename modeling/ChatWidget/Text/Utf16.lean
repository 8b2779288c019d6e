/-!
UTF-16. Two bytes make a unit, a unit below or above the surrogates is a character, and a pair of
surrogates is one beyond the first plane. A unit that is no part of a pair, and bytes left over at the
end, read as one replacement character each.
-/
namespace ChatWidget.Text

/-- The character put where there is none. -/
def replacementChar : Char := Char.ofNat 0xFFFD

/-- A unit made of two bytes, the greater one first or last. -/
def unit16 (greaterFirst : Bool) (a b : UInt8) : Nat :=
  if greaterFirst then a.toNat * 256 + b.toNat else b.toNat * 256 + a.toNat

def decodeUtf16 (greaterFirst : Bool) : List UInt8 → List Char
  | [] => []
  | [_] => [replacementChar]
  | a :: b :: rest =>
    let unit := unit16 greaterFirst a b
    if unit < 0xD800 || 0xDFFF < unit then Char.ofNat unit :: decodeUtf16 greaterFirst rest
    else if 0xDC00 ≤ unit then replacementChar :: decodeUtf16 greaterFirst rest
    else match rest with
      | c :: d :: more =>
        let second := unit16 greaterFirst c d
        if 0xDC00 ≤ second && second ≤ 0xDFFF then
          Char.ofNat (0x10000 + (unit - 0xD800) * 0x400 + (second - 0xDC00)) ::
            decodeUtf16 greaterFirst more
        else replacementChar :: decodeUtf16 greaterFirst (c :: d :: more)
      | _ => [replacementChar]

/-- The characters of bytes with a mark in front that tells the order; without it the greater byte comes
last. -/
def decodeMarkedUtf16 : List UInt8 → List Char
  | 0xFE :: 0xFF :: rest => decodeUtf16 true rest
  | 0xFF :: 0xFE :: rest => decodeUtf16 false rest
  | bytes => decodeUtf16 false bytes

end ChatWidget.Text
