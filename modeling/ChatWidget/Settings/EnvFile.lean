import ChatWidget.Entries
import ChatWidget.Text.Blank
/-!
Files of environment variables: a name, an equals sign and a value on each line. A value stands in quotes
or reaches to the end of its line or to a comment; a name may stand without a value. A line that cannot be
read is passed over. In a value, a dollar sign with a name in braces stands for the value of that
variable.
-/
namespace ChatWidget.EnvFile

/-- A blank that does not end a line. -/
def isInlineBlank (c : Char) : Bool := Text.isBlank c && c ≠ '\r' && c ≠ '\n'

def endsLine (c : Char) : Bool := c = '\r' || c = '\n'

def skipInline (cs : List Char) : List Char := cs.dropWhile isInlineBlank

/-- The character that a letter after a backslash stands for, in a value in the given quotes. -/
def escaped? (quote c : Char) : Option Char :=
  match c with
  | '\\' => some '\\'
  | '\'' => some '\''
  | c =>
    if quote = '\'' then none
    else match c with
      | '"' => some '"'
      | 'a' => some (Char.ofNat 7)
      | 'b' => some (Char.ofNat 8)
      | 'f' => some (Char.ofNat 12)
      | 'n' => some '\n'
      | 'r' => some '\r'
      | 't' => some '\t'
      | 'v' => some (Char.ofNat 11)
      | _ => none

/-- A value with the characters put in that backslashes stand for. -/
def unescape (quote : Char) : List Char → List Char
  | '\\' :: c :: rest => match escaped? quote c with
    | some d => d :: unescape quote rest
    | none => '\\' :: unescape quote (c :: rest)
  | c :: rest => c :: unescape quote rest
  | [] => []

/-- What stands in quotes, after the opening one, as it is written, and what remains. A quote after a
backslash does not close, unless no other would. -/
def quotedPart (quote : Char) : List Char → Option (List Char × List Char)
  | [] => none
  | '\\' :: c :: rest =>
    if c = quote then
      match quotedPart quote rest with
      | some (part, after) => some ('\\' :: c :: part, after)
      | none => some (['\\'], rest)
    else (quotedPart quote (c :: rest)).map fun (part, after) => ('\\' :: part, after)
  | c :: rest =>
    if c = quote then some ([], rest)
    else (quotedPart quote rest).map fun (part, after) => (c :: part, after)

/-- A value without quotes: a comment begins where a number sign follows a blank. -/
def cutComment : List Char → List Char
  | [] => []
  | c :: rest =>
    if Text.isBlank c && (rest.dropWhile Text.isBlank).head? = some '#' then []
    else c :: cutComment rest

/-- A value after its equals sign, and what remains. -/
def value? (cs : List Char) : Option (List Char × List Char) :=
  match cs with
  | [] => some ([], [])
  | c :: rest =>
    if c = '\'' || c = '"' then
      (quotedPart c rest).map fun (part, after) => (unescape c part, after)
    else if endsLine c then some ([], cs)
    else
      some (Text.stripRight (cutComment (cs.takeWhile (! endsLine ·))), cs.dropWhile (! endsLine ·))

/-- A name, if a comment does not stand in its place, and what remains. -/
def name? (cs : List Char) : Option (Option (List Char) × List Char) :=
  match cs with
  | '#' :: _ => some (none, cs)
  | '\'' :: rest =>
    let name := rest.takeWhile (· ≠ '\'')
    match rest.dropWhile (· ≠ '\'') with
    | _ :: after => if name.isEmpty then none else some (some name, after)
    | [] => none
  | _ =>
    let inside (c : Char) : Bool := c ≠ '=' && c ≠ '#' && !Text.isBlank c
    let name := cs.takeWhile inside
    if name.isEmpty then none else some (some name, cs.dropWhile inside)

/-- What remains after a comment, if there is one, and the end of the line, which has to come. -/
def lineEnd? (cs : List Char) : Option (List Char) :=
  let rest := skipInline cs
  let rest := if rest.head? = some '#' then rest.dropWhile (! endsLine ·) else rest
  match skipInline rest with
  | [] => some []
  | '\r' :: '\n' :: rest => some rest
  | c :: rest => if endsLine c then some rest else none

/-- The mark of a variable for other programs too, left out. -/
def skipExport (cs : List Char) : List Char :=
  match "export".toList.isPrefixOf? cs with
  | some rest => if (rest.head?.map isInlineBlank).getD false then skipInline rest else cs
  | none => cs

/-- What a line says: a name with or without a value, or nothing. -/
abbrev Line := Option (String × Option (List Char))

def skipLine (cs : List Char) : List Char := (cs.dropWhile (! endsLine ·)).drop 1

/-- One line, read from its first character that is not blank, and what remains. -/
def readLine (cs : List Char) : Line × List Char :=
  let cs := skipExport cs
  match name? cs with
  | none => (none, skipLine cs)
  | some (name, afterName) =>
    let rest := skipInline afterName
    let (value, rest, readable) := match rest with
      | '=' :: more => match value? (skipInline more) with
        | some (value, rest) => (some value, rest, true)
        | none => (none, skipInline more, false)
      | rest => (none, rest, true)
    match readable, lineEnd? rest with
    | true, some after => (name.map fun name => (String.ofList name, value), after)
    | _, _ => (none, skipLine rest)

def readLines : Nat → List Char → List (String × Option (List Char))
  | 0, _ => []
  | fuel + 1, cs => match cs.dropWhile Text.isBlank with
    | [] => []
    | cs =>
      let (line, rest) := readLine cs
      line.toList ++ readLines fuel rest

/-- The variable that stands at the front in braces after a dollar sign: its name, what to take where it
is not known, and what remains. -/
def reference? (cs : List Char) : Option (List Char × List Char × List Char) :=
  match cs with
  | '$' :: '{' :: rest =>
    let isNameChar (c : Char) : Bool := c ≠ '}' && c ≠ ':'
    let name := rest.takeWhile isNameChar
    match rest.dropWhile isNameChar with
    | '}' :: after => some (name, [], after)
    | ':' :: '-' :: more => match more.dropWhile (· ≠ '}') with
      | _ :: after => some (name, more.takeWhile (· ≠ '}'), after)
      | [] => none
    | _ => none
  | _ => none

/-- A value with the values of variables put in. -/
def expand (known : Entries (Option String)) : Nat → List Char → List Char
  | 0, cs => cs
  | _, [] => []
  | fuel + 1, c :: rest => match reference? (c :: rest) with
    | some (name, otherwise, after) =>
      let value := match known.get? (String.ofList name) with
        | some value => (value.getD "").toList
        | none => otherwise
      value ++ expand known fuel after
    | none => c :: expand known fuel rest

/-- The variables of a file, given those of the environment. Of a variable that comes twice the later
value counts, and a later line sees the values of those before it. -/
def read (environment : Entries String) (file : List Char) : Entries (Option String) :=
  (readLines (file.length + 1) file).foldl (fun found (name, value) =>
    let known := Entries.putAll (environment.map fun (name, value) => (name, some value)) found
    found.put name (value.map fun cs => String.ofList (expand known (cs.length + 1) cs))) []

end ChatWidget.EnvFile
