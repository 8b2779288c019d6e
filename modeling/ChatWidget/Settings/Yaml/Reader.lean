import ChatWidget.Fault
import ChatWidget.Settings.Yaml
/-!
Reading configuration files. A file holds one document: collections given by indentation or in brackets,
quoted and plain texts, and texts given line by line. Names for parts of a document, references to them
and explicit types are not understood. A file that cannot be read has no value; reading breaks off at a
number or a date that there is not.
-/
namespace ChatWidget.Yaml

/-- What remains of a file, and the column where it begins. -/
structure Cursor where
  rest : List Char
  column : Nat

def isBreak (c : Char) : Bool :=
  c = '\n' || c = '\r' || c.toNat = 0x85 || c.toNat = 0x2028 || c.toNat = 0x2029

def isGap (c : Char) : Bool := c = ' ' || c = '\t' || isBreak c

def gapAhead : List Char → Bool
  | [] => true
  | c :: _ => isGap c

def isFlowMark (c : Char) : Bool := c = ',' || c = '[' || c = ']' || c = '{' || c = '}'

/-- The line end as it counts in a text: most kinds are the same. -/
def breakText (c : Char) : Char :=
  if c.toNat = 0x2028 || c.toNat = 0x2029 then c else '\n'

def isAllowed (c : Char) : Bool :=
  let n := c.toNat
  n = 0x09 || n = 0x0A || n = 0x0D || (0x20 ≤ n && n ≤ 0x7E) || n = 0x85 ||
  (0xA0 ≤ n && n ≤ 0xFFFD) || 0x10000 ≤ n

namespace Cursor

def next : Cursor → Cursor
  | ⟨[], column⟩ => ⟨[], column⟩
  | ⟨c :: rest, column⟩ => if isBreak c then ⟨rest, 0⟩ else ⟨rest, column + 1⟩

def skip : Nat → Cursor → Cursor
  | 0, cursor => cursor
  | n + 1, cursor => skip n cursor.next

def skipWhile (test : Char → Bool) (cursor : Cursor) : Cursor :=
  skip (cursor.rest.takeWhile test).length cursor

/-- Does one of the lines stand here that begin and end documents? -/
def atMarker (cursor : Cursor) (mark : Char) : Bool :=
  cursor.column == 0 && (cursor.rest.take 3 == [mark, mark, mark]) && gapAhead (cursor.rest.drop 3)

def atEnd (cursor : Cursor) : Bool :=
  cursor.rest.isEmpty || cursor.atMarker '-' || cursor.atMarker '.'

/-- Past spaces, comments and line ends to what comes next, and whether a line ended on the way. -/
def toNext (cursor : Cursor) : Bool × Cursor :=
  go (cursor.rest.length + 1) false cursor
where
  go : Nat → Bool → Cursor → Bool × Cursor
    | 0, crossed, cursor => (crossed, cursor)
    | fuel + 1, crossed, cursor =>
      let cursor := cursor.skipWhile (· = ' ')
      let cursor := if cursor.rest.head? = some '#' then cursor.skipWhile (! isBreak ·) else cursor
      match cursor.rest with
      | c :: _ => if isBreak c then go fuel true cursor.next else (crossed, cursor)
      | [] => (crossed, cursor)

def atDash (cursor : Cursor) : Bool :=
  cursor.rest.head? = some '-' && gapAhead (cursor.rest.drop 1)

def atColon (cursor : Cursor) : Bool :=
  cursor.rest.head? = some ':' && gapAhead (cursor.rest.drop 1)

end Cursor

/-! ### Quoted texts -/

/-- The character that a letter after a backslash stands for. -/
def escaped? (c : Char) : Option Char :=
  match c with
  | '0' => some (Char.ofNat 0)
  | 'a' => some (Char.ofNat 7)
  | 'b' => some (Char.ofNat 8)
  | 't' | '\t' => some '\t'
  | 'n' => some '\n'
  | 'v' => some (Char.ofNat 11)
  | 'f' => some (Char.ofNat 12)
  | 'r' => some '\r'
  | 'e' => some (Char.ofNat 27)
  | ' ' => some ' '
  | '"' => some '"'
  | '\\' => some '\\'
  | '/' => some '/'
  | 'N' => some (Char.ofNat 0x85)
  | '_' => some (Char.ofNat 0xA0)
  | 'L' => some (Char.ofNat 0x2028)
  | 'P' => some (Char.ofNat 0x2029)
  | _ => none

/-- How many digits follow a letter that gives a character by its number. -/
def codeLength? (c : Char) : Option Nat :=
  match c with
  | 'x' => some 2
  | 'u' => some 4
  | 'U' => some 8
  | _ => none

/-- The empty lines at the front, with the blanks that lines begin with left out. -/
def foldBreaks : Nat → Cursor → Option (List Char × Cursor)
  | 0, _ => none
  | fuel + 1, cursor =>
    if cursor.atMarker '-' || cursor.atMarker '.' then none
    else
      let cursor := cursor.skipWhile fun c => c = ' ' || c = '\t'
      match cursor.rest with
      | c :: _ =>
        if isBreak c then
          (foldBreaks fuel cursor.next).map fun (breaks, cursor) => (breakText c :: breaks, cursor)
        else some ([], cursor)
      | [] => some ([], cursor)

/-- What stands for a line end with empty lines after it: a space for a line end alone. -/
def foldedText (lineEnd : Char) (breaks : List Char) : List Char :=
  if breakText lineEnd ≠ '\n' then breakText lineEnd :: breaks
  else if breaks.isEmpty then [' '] else breaks

/-- A quoted text after its opening quote; `read` holds, in reverse, what has been read. -/
def quotedText (quote : Char) : Nat → List Char → Cursor → Option (List Char × Cursor)
  | 0, _, _ => none
  | fuel + 1, read, cursor =>
    match cursor.rest with
    | [] => none
    | c :: rest =>
      if c = quote then
        if quote = '\'' && rest.head? = some '\'' then
          quotedText quote fuel ('\'' :: read) (cursor.skip 2)
        else some (read.reverse, cursor.next)
      else if c = '\\' && quote = '"' then
        match rest with
        | [] => none
        | letter :: rest =>
          if isBreak letter then
            match foldBreaks fuel (cursor.skip 2) with
            | some (breaks, cursor) => quotedText quote fuel (breaks.reverse ++ read) cursor
            | none => none
          else match escaped? letter, codeLength? letter with
            | some d, _ => quotedText quote fuel (d :: read) (cursor.skip 2)
            | none, some size =>
              let digits := rest.take size
              if digits.length = size && digits.all Text.isHexDigit then
                quotedText quote fuel (Char.ofNat (digitsIn 16 digits) :: read)
                  (cursor.skip (2 + size))
              else none
            | none, none => none
      else if isGap c then
        let gap := cursor.rest.takeWhile fun c => c = ' ' || c = '\t'
        let after := cursor.skip gap.length
        match after.rest with
        | [] => none
        | b :: _ =>
          if isBreak b then
            match foldBreaks fuel after.next with
            | some (breaks, cursor) =>
              quotedText quote fuel ((foldedText b breaks).reverse ++ read) cursor
            | none => none
          else quotedText quote fuel (gap.reverse ++ read) after
      else quotedText quote fuel (c :: read) cursor.next

/-! ### Plain texts -/

def startsPlain (flow : Bool) : List Char → Bool
  | [] => false
  | c :: rest =>
    let isMark := ['-', '?', ':', ',', '[', ']', '{', '}', '#', '&', '*', '!', '|', '>', '\'', '"',
      '%', '@', '\x60'].contains c
    (!isGap c && !isMark) ||
      (!gapAhead rest && (c = '-' || (!flow && (c = '?' || c = ':'))))

/-- Does a plain text end before this? -/
def endsPlain (flow : Bool) : List Char → Bool
  | [] => true
  | c :: rest =>
    isGap c ||
      (c = ':' && (gapAhead rest || (flow && (rest.head?.map isFlowMark).getD false))) ||
      (flow && (isFlowMark c || c = '?'))

def plainRun (flow : Bool) : List Char → Nat
  | [] => 0
  | c :: rest => if endsPlain flow (c :: rest) then 0 else plainRun flow rest + 1

/-- The empty lines at the front, with spaces left out; nothing where the document is over. -/
def plainBreaks : Nat → Cursor → List Char × Cursor
  | 0, cursor => ([], cursor)
  | fuel + 1, cursor =>
    if cursor.atMarker '-' || cursor.atMarker '.' then ([], cursor)
    else
      let cursor := cursor.skipWhile (· = ' ')
      match cursor.rest with
      | c :: _ =>
        if isBreak c then
          let (breaks, cursor) := plainBreaks fuel cursor.next
          (breakText c :: breaks, cursor)
        else ([], cursor)
      | [] => ([], cursor)

/-- A plain text, in reverse behind what has been read, and whether it has several lines. The lines
after the first are indented at least so far, unless brackets stand around the text. -/
def plainText (flow : Bool) (indent : Int) : Nat → Bool → List Char → Cursor →
    List Char × Bool × Cursor
  | 0, lines, read, cursor => (read, lines, cursor)
  | fuel + 1, lines, read, cursor =>
    if cursor.rest.head? = some '#' then (read, lines, cursor)
    else
      let size := plainRun flow cursor.rest
      if size = 0 then (read, lines, cursor)
      else
        let run := cursor.rest.take size
        let after := cursor.skip size
        let gap := after.rest.takeWhile (· = ' ')
        let beyond := after.skip gap.length
        let soFar := run.reverse ++ read
        let goOn (gap : List Char) (lines : Bool) (next : Cursor) : List Char × Bool × Cursor :=
          if next.rest.head? = some '#' || (!flow && (next.column : Int) < indent) ||
              plainRun flow next.rest = 0 then
            (soFar, lines, next)
          else plainText flow indent fuel lines (gap.reverse ++ soFar) next
        match beyond.rest with
        | [] => (soFar, lines, beyond)
        | b :: _ =>
          if isBreak b then
            let (breaks, next) := plainBreaks fuel beyond.next
            if next.atMarker '-' || next.atMarker '.' then (soFar, true, next)
            else goOn (foldedText b breaks) true next
          else if gap.isEmpty then (soFar, lines, beyond)
          else goOn gap lines beyond

/-! ### Texts line by line -/

/-- What becomes of the line ends behind a text: kept, cut away, or one left. -/
inductive Chomp where
  | keep
  | strip
  | clip
deriving DecidableEq

/-- The marks after the sign that begins a text given line by line: what becomes of its end and how far
it is indented. -/
def blockHeader : Nat → Chomp → Option Nat → List Char → Option (Chomp × Option Nat × List Char)
  | 0, chomp, indent, cs => some (chomp, indent, cs)
  | fuel + 1, chomp, indent, cs =>
    match cs with
    | '+' :: rest => if chomp = .clip then blockHeader fuel .keep indent rest else none
    | '-' :: rest => if chomp = .clip then blockHeader fuel .strip indent rest else none
    | c :: rest =>
      if Text.isDigit c then
        if c = '0' || indent.isSome then none
        else blockHeader fuel chomp (some (Text.digitValue c)) rest
      else some (chomp, indent, cs)
    | [] => some (chomp, indent, cs)

/-- The empty lines at the front, with indentation up to the given column left out. -/
def blockBreaks (indent : Nat) : Nat → Cursor → List Char × Cursor
  | 0, cursor => ([], cursor)
  | fuel + 1, cursor =>
    let cursor := cursor.skip (min (indent - cursor.column) (cursor.rest.takeWhile (· = ' ')).length)
    match cursor.rest with
    | c :: _ =>
      if isBreak c then
        let (breaks, cursor) := blockBreaks indent fuel cursor.next
        (breakText c :: breaks, cursor)
      else ([], cursor)
    | [] => ([], cursor)

/-- The empty lines at the front and the greatest indentation among the lines up to the first that is
not empty. -/
def blockIndent : Nat → Nat → Cursor → List Char × Nat × Cursor
  | 0, widest, cursor => ([], widest, cursor)
  | fuel + 1, widest, cursor =>
    let cursor := cursor.skipWhile (· = ' ')
    let widest := max widest cursor.column
    match cursor.rest with
    | c :: _ =>
      if isBreak c then
        let (breaks, widest, cursor) := blockIndent fuel widest cursor.next
        (breakText c :: breaks, widest, cursor)
      else ([], widest, cursor)
    | [] => ([], widest, cursor)

/-- The lines of a text, in reverse behind what has been read; the empty lines before the next one, the
last line end, and what remains. -/
def blockLines (folded : Bool) (indent : Nat) : Nat → List Char → List Char → List Char → Cursor →
    List Char × List Char × List Char × Cursor
  | 0, read, lineEnd, breaks, cursor => (read, lineEnd, breaks, cursor)
  | fuel + 1, read, lineEnd, breaks, cursor =>
    if cursor.column ≠ indent || cursor.rest.isEmpty then (read, lineEnd, breaks, cursor)
    else
      let isInner (c : Option Char) : Bool := c ≠ some ' ' && c ≠ some '\t'
      let line := cursor.rest.takeWhile (! isBreak ·)
      let read := line.reverse ++ (breaks.reverse ++ read)
      let after := cursor.skip line.length
      let lineEnd := (after.rest.head?.map breakText).toList
      let (more, next) := blockBreaks indent fuel after.next
      if next.column = indent && !next.rest.isEmpty then
        let between :=
          if folded && lineEnd = ['\n'] && isInner line.head? && isInner next.rest.head? then
            if more.isEmpty then [' '] else []
          else lineEnd
        blockLines folded indent fuel (between ++ read) lineEnd more next
      else (read, lineEnd, more, next)

/-- A text given line by line, after the sign that begins it, inside a collection that is indented so
far. -/
def blockText (folded : Bool) (parent : Int) (cursor : Cursor) : Option (Yaml × Cursor) := do
  let fuel := cursor.rest.length + 1
  let (chomp, increment, rest) ← blockHeader 2 .clip none cursor.rest
  let header := (cursor.skip (cursor.rest.length - rest.length)).skipWhile (· = ' ')
  let header := if header.rest.head? = some '#' then header.skipWhile (! isBreak ·) else header
  match header.rest with
  | [] => pure ()
  | c :: _ => if isBreak c then pure () else none
  let least := max (parent + 1) 1
  let start := header.next
  let (breaks, indent, first) :=
    match increment with
    | some n =>
      let indent := (least + n - 1).toNat
      let (breaks, first) := blockBreaks indent fuel start
      (breaks, indent, first)
    | none =>
      let (breaks, widest, first) := blockIndent fuel 0 start
      (breaks, max least.toNat widest, first)
  let (read, lineEnd, breaks, after) := blockLines folded indent fuel [] [] breaks first
  let tail := match chomp with
    | .strip => []
    | .clip => lineEnd
    | .keep => lineEnd ++ breaks
  pure (.str (String.ofList (read.reverse ++ tail)), after)

/-! ### Collections in brackets -/

def quoted? (cursor : Cursor) : Option (Yaml × Cursor) :=
  match cursor.rest with
  | quote :: _ =>
    if quote = '"' || quote = '\'' then
      (quotedText quote (cursor.rest.length + 1) [] cursor.next).map fun (text, cursor) =>
        (.str (String.ofList text), cursor)
    else none
  | [] => none

mutual

def flowNode : Nat → Cursor → Option (Yaml × Cursor)
  | 0, _ => none
  | fuel + 1, cursor =>
    match cursor.rest with
    | '[' :: _ => flowItems fuel [] cursor.next
    | '{' :: _ => flowEntries fuel [] cursor.next
    | '"' :: _ | '\'' :: _ => quoted? cursor
    | cs =>
      if startsPlain true cs then
        let (text, _, cursor) := plainText true 0 (cs.length + 1) false [] cursor
        (ofWord text.reverse).map (·, cursor)
      else none

/-- What follows a colon within brackets: a value, or null where there is none. -/
def flowValue : Nat → Cursor → Option (Yaml × Cursor)
  | 0, _ => none
  | fuel + 1, cursor =>
    let cursor := cursor.toNext.2
    match cursor.rest with
    | ',' :: _ | ']' :: _ | '}' :: _ => some (.null, cursor)
    | _ => flowNode fuel cursor

/-- The items of a list in brackets, in reverse behind those before. A key with a value among them is a
mapping of its own. -/
def flowItems : Nat → List Yaml → Cursor → Option (Yaml × Cursor)
  | 0, _, _ => none
  | fuel + 1, read, cursor =>
    let cursor := cursor.toNext.2
    match cursor.rest with
    | ']' :: _ => some (.seq read.reverse, cursor.next)
    | _ => do
      let (item, cursor) ← flowNode fuel cursor
      let cursor := cursor.toNext.2
      let (item, cursor) ← match cursor.rest with
        | ':' :: _ =>
          if item.isKey then (flowValue fuel cursor.next).map fun (value, cursor) =>
            (.map [(item, value)], cursor.toNext.2)
          else none
        | _ => some (item, cursor)
      match cursor.rest with
      | ',' :: _ => flowItems fuel (item :: read) cursor.next
      | ']' :: _ => some (.seq (item :: read).reverse, cursor.next)
      | _ => none

/-- The entries of a mapping in brackets, in reverse behind those before. -/
def flowEntries : Nat → List (Yaml × Yaml) → Cursor → Option (Yaml × Cursor)
  | 0, _, _ => none
  | fuel + 1, read, cursor =>
    let cursor := cursor.toNext.2
    match cursor.rest with
    | '}' :: _ => some (.map read.reverse, cursor.next)
    | _ => do
      let (key, cursor) ← flowNode fuel cursor
      if !key.isKey then none
      let cursor := cursor.toNext.2
      let (value, cursor) ← match cursor.rest with
        | ':' :: _ => (flowValue fuel cursor.next).map fun (value, cursor) =>
            (value, cursor.toNext.2)
        | _ => some (.null, cursor)
      match cursor.rest with
      | ',' :: _ => flowEntries fuel ((key, value) :: read) cursor.next
      | '}' :: _ => some (.map ((key, value) :: read).reverse, cursor.next)
      | _ => none

end

/-! ### Collections by indentation -/

/-- A value that may be a key, whether it stands on one line, and what remains. Texts go on as long as
their lines are indented deeper than the collection around them. -/
def keyOrValue (fuel : Nat) (parent : Int) (cursor : Cursor) : Option (Yaml × Bool × Cursor) :=
  let onOneLine (after : Cursor) : Bool :=
    !(cursor.rest.take (cursor.rest.length - after.rest.length)).any isBreak
  match cursor.rest with
  | '[' :: _ | '{' :: _ =>
    (flowNode fuel cursor).map fun (value, after) => (value, onOneLine after, after)
  | '"' :: _ | '\'' :: _ =>
    (quoted? cursor).map fun (value, after) => (value, onOneLine after, after)
  | cs =>
    if startsPlain false cs then
      let (text, lines, after) :=
        plainText false (parent + 1) (cs.length + 1) false [] cursor
      (ofWord text.reverse).map fun value => (value, !lines, after)
    else none

mutual

/-- A value whose first character is here, inside a collection that is indented so far. A collection by
indentation may only begin where it is allowed to. -/
def blockNode : Nat → Int → Bool → Cursor → Option (Yaml × Cursor)
  | 0, _, _, _ => none
  | fuel + 1, parent, collections, cursor =>
    if cursor.atDash then
      if collections then blockItems fuel cursor.column [] cursor else none
    else match cursor.rest with
      | '|' :: _ => blockText false parent cursor.next
      | '>' :: _ => blockText true parent cursor.next
      | _ =>
        match keyOrValue fuel parent cursor with
        | none => none
        | some (value, oneLine, after) =>
          let colon := after.skipWhile (· = ' ')
          if oneLine && colon.atColon then
            if collections then blockEntries fuel cursor.column [] cursor else none
          else some (value, after)

/-- The value that belongs to a dash or a colon in a collection with the given indentation. After a
colon, a list may be indented as far as the mapping itself. -/
def blockValue : Nat → Nat → Bool → Cursor → Option (Yaml × Cursor)
  | 0, _, _, _ => none
  | fuel + 1, indent, afterColon, cursor =>
    let (crossed, next) := cursor.toNext
    if next.atEnd then some (.null, next)
    else if !crossed then blockNode fuel indent (!afterColon) next
    else if indent < next.column then blockNode fuel indent true next
    else if afterColon && next.column == indent && next.atDash then
      blockItems fuel indent [] next
    else some (.null, next)

/-- The items of a list with the given indentation, in reverse behind those before. -/
def blockItems : Nat → Nat → List Yaml → Cursor → Option (Yaml × Cursor)
  | 0, _, _, _ => none
  | fuel + 1, indent, read, cursor => do
    let (item, cursor) ← blockValue fuel indent false cursor.next
    let next := cursor.toNext.2
    if !next.atEnd && next.column == indent && next.atDash then
      blockItems fuel indent (item :: read) next
    else some (.seq (item :: read).reverse, next)

/-- The entries of a mapping with the given indentation, in reverse behind those before. -/
def blockEntries : Nat → Nat → List (Yaml × Yaml) → Cursor → Option (Yaml × Cursor)
  | 0, _, _, _ => none
  | fuel + 1, indent, read, cursor => do
    let (key, oneLine, after) ← keyOrValue fuel indent cursor
    let colon := after.skipWhile (· = ' ')
    if !oneLine || !colon.atColon || !key.isKey then none
    let (value, cursor) ← blockValue fuel indent true colon.next
    let next := cursor.toNext.2
    if !next.atEnd && next.column == indent then
      blockEntries fuel indent ((key, value) :: read) next
    else some (.map ((key, value) :: read).reverse, next)

end

/-- The one document in a file, whether or not its numbers and dates are possible. -/
def document? (file : List Char) : Option Yaml := do
  if !file.all isAllowed then none
  let fuel := 4 * file.length + 16
  let file := if file.head? = some '\uFEFF' then file.drop 1 else file
  let start : Cursor := Cursor.toNext ⟨file, 0⟩ |>.2
  let marked := start.atMarker '-'
  let (crossed, first) := if marked then (start.skip 3).toNext else (true, start)
  let (value, after) ←
    if first.atEnd then some (.null, first) else blockNode fuel (-1) crossed first
  let last := after.toNext.2
  let last := if last.atMarker '.' then (last.skip 3).toNext.2 else last
  if last.rest.isEmpty then some value else none

inductive Reading where
  | value (value : Yaml)
  /-- There is no document that can be read. -/
  | malformed
  | broken (fault : Fault)

/-- What is said of a number or a date that there is not. -/
def impossibleReason : String := "out of range"

def read (file : List Char) : Reading :=
  match document? file with
  | none => .malformed
  | some value => if value.isPossible then .value value else .broken (.badValue impossibleReason)

end ChatWidget.Yaml
