import ChatWidget.Fault
import ChatWidget.Text.Blank
import ChatWidget.Text.LowerCase
import ChatWidget.Markup.Reference
/-!
Markup read as tokens: tags that open an element, tags that close one, and text. Comments, declarations
and instructions leave no token. Reading is tolerant: a construct that the text ends in the middle of
becomes text itself, and only a marked section of an unknown sort is refused. The contents of scripts and
style sheets are text up to the tag that closes them.
-/
namespace ChatWidget.Markup

/-- A piece of markup that says something. -/
inductive Token where
  /-- A tag that opens an element, which it closes as well if it is marked so. -/
  | opening (name : String) (attributes : List (String × String)) (closed : Bool)
  | closing (name : String)
  | text (content : String)

/-- What stands where a tag or another construct begins, and what remains after it. -/
inductive Construct where
  | token (token : Token) (rest : List Char)
  /-- Something that leaves no token. -/
  | silent (rest : List Char)
  /-- The text ends before the construct does. -/
  | unfinished

def endsTagName (c : Char) : Bool :=
  c = '\t' || c = '\n' || c = '\r' || c.toNat = 0x0C || c = ' ' || c = '/' || c = '>' || c.toNat = 0

def skipBlanks (cs : List Char) : List Char := cs.dropWhile Text.isBlank

/-- What remains after blanks and slashes, except for a slash right before the end of the tag. -/
def skipFiller : List Char → List Char
  | '/' :: '>' :: rest => '/' :: '>' :: rest
  | c :: rest => if Text.isBlank c || c = '/' then skipFiller rest else c :: rest
  | [] => []

/-- The name of an attribute at the front: it must follow a blank, a slash or a quote. -/
def attributeName (before : Char) (cs : List Char) : Option (List Char × List Char) :=
  match cs with
  | [] => none
  | c :: rest =>
    let follows := Text.isBlank before || before = '/' || before = '\'' || before = '"'
    let ends (c : Char) : Bool := Text.isBlank c || c = '/' || c = '>'
    if follows && !ends c then
      let inside (c : Char) : Bool := !ends c && c ≠ '='
      some (c :: rest.takeWhile inside, rest.dropWhile inside)
    else none

/-- The value of an attribute after its name, with the equals signs before it and what remains after
it. An opening quote without its partner is not part of the value. -/
def attributeValue (cs : List Char) : Option (List Char × List Char) :=
  match skipBlanks cs with
  | '=' :: more =>
    let signs := more.takeWhile (· = '=')
    let afterSigns := more.dropWhile (· = '=')
    let bare (cs : List Char) : List Char × List Char :=
      let inside (c : Char) : Bool := c ≠ '>' && !Text.isBlank c
      (cs.takeWhile inside, cs.dropWhile inside)
    match skipBlanks afterSigns with
    | [] => some ([], [])
    | quote :: inner =>
      if quote = '\'' || quote = '"' then
        match inner.dropWhile (· ≠ quote) with
        | _ :: rest => some (inner.takeWhile (· ≠ quote), rest)
        | [] =>
          if (afterSigns.takeWhile Text.isBlank).isEmpty then
            match signs with
            | [] => none
            | sign :: _ => some (bare (sign :: afterSigns))
          else some ([], quote :: inner)
      else some (bare (quote :: inner))
  | _ => none

/-- The last character of what was read, given what there was and what remains. -/
def lastRead (before : Char) (cs rest : List Char) : Char :=
  ((cs.take (cs.length - rest.length)).getLast?).getD before

/-- The attributes of a tag, each with a blank value if it has none, and what remains after them. The
character before and a bound on their number are given. -/
def attributes : Nat → Char → List Char → List (String × String) × List Char
  | 0, _, cs => ([], cs)
  | fuel + 1, before, cs =>
    match attributeName before cs with
    | none => ([], cs)
    | some (name, afterName) =>
      let (value, afterValue) := (attributeValue afterName).getD ([], afterName)
      let rest := skipFiller afterValue
      let (more, rest) := attributes fuel (lastRead before cs rest) rest
      ((String.ofList (Text.lower name), String.ofList (unescape value)) :: more, rest)

/-- A tag that opens an element, after its `<`. What is not a tag after all becomes text. -/
def openingTag (cs : List Char) : Construct :=
  let written := cs.takeWhile (! endsTagName ·)
  let name := String.ofList (Text.lower written)
  let afterName := cs.dropWhile (! endsTagName ·)
  let filler := skipFiller afterName
  let (found, rest) :=
    attributes filler.length (lastRead ((written.getLast?).getD '<') afterName filler) filler
  match rest with
  | '>' :: rest => .token (.opening name found false) rest
  | '/' :: '>' :: rest => .token (.opening name found true) rest
  | [] => .unfinished
  | c :: _ =>
    if Text.isLetter c || c = '=' || c = '/' then .unfinished
    else .token (.text (String.ofList ('<' :: cs.take (cs.length - rest.length)))) rest

def afterAngle (cs : List Char) : Construct :=
  match cs.dropWhile (· ≠ '>') with
  | _ :: rest => .silent rest
  | [] => .unfinished

def isClosingNameChar (c : Char) : Bool :=
  Text.isLetter c || Text.isDigit c || c = '-' || c = '.' || c = ':' || c = '_'

/-- The name of a plain closing tag, after its `</`, and what remains after the tag. -/
def plainClosing? (cs : List Char) : Option (List Char × List Char) :=
  match skipBlanks cs with
  | c :: rest =>
    if Text.isLetter c then
      match skipBlanks (rest.dropWhile isClosingNameChar) with
      | '>' :: after => some (c :: rest.takeWhile isClosingNameChar, after)
      | _ => none
    else none
  | [] => none

/-- A tag that closes an element, after its `</`. What stands between the name and the end of the tag
does not matter, and a tag whose name does not begin with a letter leaves no token. -/
def closingTag (cs : List Char) : Construct :=
  match cs.dropWhile (· ≠ '>') with
  | [] => .unfinished
  | _ :: afterNext =>
    match plainClosing? cs with
    | some (name, rest) => .token (.closing (String.ofList (Text.lower name))) rest
    | none => match cs with
      | c :: _ =>
        if Text.isLetter c then
          .token (.closing (String.ofList (Text.lower (cs.takeWhile (! endsTagName ·))))) afterNext
        else .silent afterNext
      | [] => .silent afterNext

/-- What remains after the first of the given characters in this order with blanks between them. -/
def closedBy? : List Char → List Char → Option (List Char)
  | [], cs => some cs
  | mark :: marks, cs => match cs with
    | c :: rest =>
      if c = mark then closedBy? marks (if marks.isEmpty then rest else skipBlanks rest) else none
    | [] => none

/-- What remains after the first place where the given marks close a construct. -/
def findClose? (closes : List Char → Option (List Char)) : List Char → Option (List Char)
  | [] => closes []
  | c :: rest => match closes (c :: rest) with
    | some after => some after
    | none => findClose? closes rest

def afterComment? (cs : List Char) : Option (List Char) :=
  findClose? (fun cs => match cs with
    | '-' :: '-' :: rest => closedBy? ['>'] (skipBlanks rest)
    | _ => none) cs

/-- Something that leaves no token, if its end was found. -/
def silentIf : Option (List Char) → Construct
  | some rest => .silent rest
  | none => .unfinished

/-- The words that begin a marked section which ends in two brackets. -/
def sectionWords : List (List Char) :=
  ["temp".toList, "cdata".toList, "ignore".toList, "include".toList, "rcdata".toList]

/-- The words that begin a marked section which ends in one bracket. -/
def conditionWords : List (List Char) := ["if".toList, "else".toList, "endif".toList]

def markedSection (cs : List Char) : Except Fault Construct :=
  let inside (c : Char) : Bool :=
    Text.isLetter c || Text.isDigit c || c = '-' || c = '_' || c = '.'
  match cs with
  | [] => .ok .unfinished
  | c :: rest =>
    if Text.isLetter c then
      let word := Text.lower (c :: rest.takeWhile inside)
      if (skipBlanks (rest.dropWhile inside)).isEmpty then .ok .unfinished
      else if sectionWords.contains word then
        .ok (silentIf (findClose? (closedBy? [']', ']', '>']) cs))
      else if conditionWords.contains word then
        .ok (silentIf (findClose? (closedBy? [']', '>']) cs))
      else .error .badDeclaration
    else .error .badDeclaration

/-- The construct after a `<`, unless the character stands for itself. -/
def construct? (cs : List Char) : Except Fault (Option Construct) :=
  match cs with
  | '/' :: rest => .ok (some (closingTag rest))
  | '!' :: '-' :: '-' :: rest => .ok (some (silentIf (afterComment? rest)))
  | '?' :: rest => .ok (some (afterAngle rest))
  | '!' :: '[' :: rest => (markedSection rest).map some
  | '!' :: rest => .ok (some (afterAngle rest))
  | c :: _ => if Text.isLetter c then .ok (some (openingTag cs)) else .ok none
  | [] => .ok none

/-- The text that a construct becomes which has no end: up to the next `>`, or else up to the next `<`,
or else its first character alone; and what remains. -/
def unfinishedText (cs : List Char) : List Char × List Char :=
  match cs.dropWhile (· ≠ '>') with
  | angle :: rest => ('<' :: cs.takeWhile (· ≠ '>') ++ [angle], rest)
  | [] => match cs.dropWhile (· ≠ '<') with
    | [] => (['<'], cs)
    | rest => ('<' :: cs.takeWhile (· ≠ '<'), rest)

/-- Is the character a form of the given small letter where case does not matter? -/
def isFormOf (letter c : Char) : Bool :=
  c = letter || c.toNat + 0x20 = letter.toNat && Text.isLetter c ||
    (letter = 's' && c.toNat = 0x17F) || (letter = 'i' && (c.toNat = 0x130 || c.toNat = 0x131))

/-- Does a closing tag of the given name stand here, in any case? -/
def isClosingTagOf (name : List Char) (cs : List Char) : Bool :=
  match cs with
  | '<' :: '/' :: rest =>
    let rest := skipBlanks rest
    (rest.take name.length).length == name.length &&
      (name.zip rest).all (fun (letter, c) => isFormOf letter c) &&
      (skipBlanks (rest.drop name.length)).head? == some '>'
  | _ => false

/-- The text before the closing tag of the given name, and what remains from that tag on. -/
def beforeClosingTag? (name : List Char) : List Char → Option (List Char × List Char)
  | [] => none
  | c :: rest =>
    if isClosingTagOf name (c :: rest) then some ([], c :: rest)
    else (beforeClosingTag? name rest).map fun (text, after) => (c :: text, after)

/-- The text of an element that holds nothing but text, and what remains after its closing tag: the
pieces of text in order and the tag. Without a closing tag all of it is lost. -/
def rawContent (name : List Char) : Nat → List Char → List Token × List Char
  | 0, _ => ([], [])
  | fuel + 1, cs => match beforeClosingTag? name cs with
    | none => ([], [])
    | some (text, tag) =>
      let pieces := if text.isEmpty then [] else [.text (String.ofList text)]
      match plainClosing? (tag.drop 2) with
      | some (_, rest) => (pieces ++ [.closing (String.ofList name)], rest)
      | none =>
        let (more, rest) := rawContent name fuel ((tag.dropWhile (· ≠ '>')).drop 1)
        (pieces ++ .text (String.ofList (tag.takeWhile (· ≠ '>') ++ ['>'])) :: more, rest)

def isRawTag (name : String) : Bool := name == "script" || name == "style"

/-- The tokens of markup, read with a bound on their number. -/
def tokensWithin : Nat → List Char → Except Fault (List Token)
  | 0, _ => .ok []
  | _, [] => .ok []
  | fuel + 1, '<' :: rest => do
    match ← construct? rest with
    | none => pure (.text "<" :: (← tokensWithin fuel rest))
    | some (.silent rest) => tokensWithin fuel rest
    | some .unfinished =>
      let (text, rest) := unfinishedText rest
      pure (.text (String.ofList (unescape text)) :: (← tokensWithin fuel rest))
    | some (.token (.opening name attributes false) rest) =>
      let (content, rest) :=
        if isRawTag name then rawContent name.toList (rest.length + 1) rest else ([], rest)
      pure (.opening name attributes false :: content ++ (← tokensWithin fuel rest))
    | some (.token token rest) => pure (token :: (← tokensWithin fuel rest))
  | fuel + 1, cs => do
    let text := cs.takeWhile (· ≠ '<')
    pure (.text (String.ofList (unescape text)) ::
      (← tokensWithin fuel (cs.dropWhile (· ≠ '<'))))

def tokens (markup : String) : Except Fault (List Token) :=
  tokensWithin (markup.toList.length + 1) markup.toList

end ChatWidget.Markup
