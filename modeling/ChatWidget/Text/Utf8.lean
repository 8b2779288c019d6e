import ChatWidget.Text.Literal
/-!
UTF-8. Bytes are read one character at a time. Where they hold no character, the reading says how many
bytes are to blame; decoding then either fails with the place of those bytes or puts one replacement
character for each such stretch.
-/
namespace ChatWidget.Text

inductive Utf8Cause where
  | invalidStart
  | invalidContinuation
  | unexpectedEnd
deriving DecidableEq

def Utf8Cause.wording : Utf8Cause → String
  | invalidStart => "invalid start byte"
  | invalidContinuation => "invalid continuation byte"
  | unexpectedEnd => "unexpected end of data"

/-- What stands at the front of some bytes: a character of so many bytes, or so many bytes that hold
none. -/
inductive Utf8Step where
  | character (c : Char) (size : Nat)
  | stretch (cause : Utf8Cause) (size : Nat)

def isContinuation (b : UInt8) : Bool := b &&& 0xC0 == 0x80

def sixBits (b : UInt8) : Nat := (b &&& 0x3F).toNat

/-- May the byte come second after the given first one? Overlong forms, surrogates and what is beyond
the last code point are ruled out here. -/
def isSecondByte (first second : UInt8) : Bool :=
  isContinuation second &&
    (first != 0xE0 || 0xA0 ≤ second) && (first != 0xED || second < 0xA0) &&
    (first != 0xF0 || 0x90 ≤ second) && (first != 0xF4 || second < 0x90)

/-- Read at the front of bytes, given the first one and those after it. -/
def utf8Step (first : UInt8) (rest : List UInt8) : Utf8Step :=
  if first < 0x80 then .character (Char.ofNat first.toNat) 1
  else if first < 0xC2 || 0xF4 < first then .stretch .invalidStart 1
  else if first < 0xE0 then
    match rest with
    | [] => .stretch .unexpectedEnd 1
    | b :: _ =>
      if isContinuation b then
        .character (Char.ofNat ((first &&& 0x1F).toNat * 64 + sixBits b)) 2
      else .stretch .invalidContinuation 1
  else if first < 0xF0 then
    match rest with
    | [] => .stretch .unexpectedEnd 1
    | b :: more =>
      if !isSecondByte first b then .stretch .invalidContinuation 1
      else match more with
        | [] => .stretch .unexpectedEnd 2
        | c :: _ =>
          if isContinuation c then
            .character (Char.ofNat (((first &&& 0x0F).toNat * 64 + sixBits b) * 64 + sixBits c)) 3
          else .stretch .invalidContinuation 2
  else
    match rest with
    | [] => .stretch .unexpectedEnd 1
    | b :: more =>
      if !isSecondByte first b then .stretch .invalidContinuation 1
      else match more with
        | [] => .stretch .unexpectedEnd 2
        | c :: more =>
          if !isContinuation c then .stretch .invalidContinuation 2
          else match more with
            | [] => .stretch .unexpectedEnd 3
            | d :: _ =>
              if isContinuation d then
                .character (Char.ofNat
                  ((((first &&& 0x07).toNat * 64 + sixBits b) * 64 + sixBits c) * 64 + sixBits d)) 4
              else .stretch .invalidContinuation 3

structure Utf8Error where
  cause : Utf8Cause
  position : Nat
  size : Nat
  firstByte : UInt8

/-- The message of an error: one byte is shown, of several the range of positions. -/
def Utf8Error.message (e : Utf8Error) : String :=
  let place :=
    if e.size = 1 then
      "byte 0x" ++ String.ofList (hexDigits 2 e.firstByte.toNat) ++ " in position " ++
        toString e.position
    else
      "bytes in position " ++ toString e.position ++ "-" ++ toString (e.position + e.size - 1)
  "'utf-8' codec can't decode " ++ place ++ ": " ++ e.cause.wording

def utf8Steps : Nat → List UInt8 → List (Utf8Step × Nat × UInt8)
  | _, [] => []
  | position, first :: rest =>
    let step := utf8Step first rest
    let size := match step with
      | .character _ size => size
      | .stretch _ size => size
    (step, position, first) :: utf8Steps (position + size) (rest.drop (size - 1))
termination_by _ bytes => bytes.length
decreasing_by simp only [List.length_drop, List.length_cons]; omega

def decodeUtf8 (bytes : List UInt8) : Except Utf8Error (List Char) :=
  (utf8Steps 0 bytes).mapM fun (step, position, first) =>
    match step with
    | .character c _ => .ok c
    | .stretch cause size => .error ⟨cause, position, size, first⟩

/-- The characters of bytes, with a replacement character for each stretch that holds none. -/
def decodeUtf8Lossy (bytes : List UInt8) : List Char :=
  (utf8Steps 0 bytes).map fun (step, _, _) =>
    match step with
    | .character c _ => c
    | .stretch _ _ => Char.ofNat 0xFFFD

def encodeUtf8 (cs : List Char) : List UInt8 := cs.flatMap String.utf8EncodeChar

end ChatWidget.Text

def String.utf8Bytes (s : String) : List UInt8 := ChatWidget.Text.encodeUtf8 s.toList
