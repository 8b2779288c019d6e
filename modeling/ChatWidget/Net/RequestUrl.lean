import ChatWidget.Net.Host
import ChatWidget.Number.WholeNumber
import ChatWidget.Fault
/-!
The address of a request: cut into its parts, each brought into one normal form. Scheme and host are in
small letters, the port that goes without saying is left out, the steps in a path are resolved, and
every character that a part may not hold is percent coded, where what is coded already stays.
-/
namespace ChatWidget

/-- The address of a request in normal form. -/
structure RequestUrl where
  scheme : List Char := []
  userInfo : List Char := []
  host : List Char := []
  port : Option Int := none
  path : List Char := []
  query : Option (List Char) := none
  fragment : Option (List Char) := none

namespace RequestUrl

/-- The characters with a printed form in ASCII, without those given. -/
def asciiBut (without : String) (c : Char) : Bool :=
  0x20 < c.toNat && c.toNat < 0x7F && !without.toList.contains c

def inFragment : Char → Bool := asciiBut "\"<>\x60"

def inQuery : Char → Bool := asciiBut "\"#<>"

def inPath : Char → Bool := asciiBut "\"#<>?\x60\x7b\x7d"

def inUserInfo : Char → Bool := asciiBut "\"#<>?\x60\x7b\x7d/;=@[\\]^|"

def maximalLength : Nat := 65536

def isControl (c : Char) : Bool := c.toNat < 0x20 || c.toNat = 0x7F

/-- The parts of an address as they are written. -/
structure Written where
  scheme : List Char
  authority : List Char
  path : List Char
  query : Option (List Char)
  fragment : Option (List Char)

/-- What stands before the first of the marks, and what from it on. -/
def cutAt (marks : List Char) (cs : List Char) : List Char × List Char :=
  (cs.takeWhile (! marks.contains ·), cs.dropWhile (! marks.contains ·))

def Written.ofText (cs : List Char) : Written :=
  let isSchemeChar (c : Char) : Bool :=
    Text.isLetter c || Text.isDigit c || c = '+' || c = '.' || c = '-'
  let (before, after) := cutAt [':'] cs
  let (scheme, cs) := match after, before with
    | _ :: rest, first :: more =>
      if Text.isLetter first && more.all isSchemeChar then (before, rest) else ([], cs)
    | _ :: rest, [] => ([], rest)
    | [], _ => ([], cs)
  let (authority, cs) := match cs with
    | '/' :: '/' :: rest => cutAt ['/', '?', '#'] rest
    | cs => ([], cs)
  let (path, cs) := cutAt ['?', '#'] cs
  let (query, cs) := match cs with
    | '?' :: rest => let (query, cs) := cutAt ['#'] rest; (some query, cs)
    | cs => (none, cs)
  let fragment := match cs with
    | '#' :: rest => some rest
    | _ => none
  ⟨scheme, authority, path, query, fragment⟩

/-- What stands before the host, the host, and what is written as its port. -/
def splitAuthority (authority : List Char) : List Char × List Char × List Char :=
  let tail := (authority.reverse.takeWhile (· ≠ '@')).reverse
  let userInfo := authority.take (authority.length - tail.length - 1)
  let bracketed := tail.length - (tail.reverse.takeWhile (· ≠ ']')).length
  let hostLength :=
    if tail.head? = some '[' && 0 < bracketed then bracketed
    else (tail.takeWhile (· ≠ ':')).length
  let rest := tail.drop hostLength
  (userInfo, tail.take hostLength, if rest.head? = some ':' then rest.drop 1 else rest)

def defaultPort? (scheme : List Char) : Option Int :=
  match String.ofList scheme with
  | "ftp" => some 21
  | "http" | "ws" => some 80
  | "https" | "wss" => some 443
  | _ => none

/-- The port, unless it goes without saying. -/
def normalPort (scheme port : List Char) : Except Fault (Option Int) :=
  if port.isEmpty then .ok none
  else match readWholeNumber? port with
    | none => .error (.invalidUrl ("Invalid port: " ++ (String.ofList port).literal))
    | some n => .ok (if defaultPort? scheme = some n then none else some n)

/-- A path with its steps resolved: a stay is left out, and a step up takes the segment before it away,
unless there is none but the empty one at the front. -/
def resolvePath (path : List Char) : List Char :=
  let segments := Text.splitAt '/' path
  if !segments.contains ['.'] && !segments.contains ['.', '.'] then path
  else
    Text.joinWith ['/'] (segments.foldl (fun done segment =>
      if segment = ['.'] then done
      else if segment = ['.', '.'] then if done = [[]] then done else done.dropLast
      else done ++ [segment]) [])

/-- Can the path stand in an address that has the other parts or has not? -/
def checkPath (path : List Char) (hasScheme hasAuthority : Bool) : Except Fault Unit :=
  if hasAuthority then
    if path.isEmpty || path.head? = some '/' then .ok ()
    else .error (.invalidUrl "For absolute URLs, path must be empty or begin with '/'")
  else if hasScheme then .ok ()
  else if ['/', '/'].isPrefixOf path then
    .error (.invalidUrl "Relative URLs cannot have a path starting with '//'")
  else if path.head? = some ':' then
    .error (.invalidUrl "Relative URLs cannot have a path starting with ':'")
  else .ok ()

/-- The normal form of an address, given its parts as they are written. -/
def ofWritten (written : Written) : Except Fault RequestUrl := do
  let (userInfo, host, port) := splitAuthority written.authority
  let userInfo := Text.percentEncode inUserInfo userInfo
  let normalHost ← Host.normal host
  let port ← normalPort written.scheme port
  let hasScheme := !written.scheme.isEmpty
  let hasAuthority := !userInfo.isEmpty || !normalHost.isEmpty || port.isSome
  checkPath written.path hasScheme hasAuthority
  let path := if hasScheme || hasAuthority then resolvePath written.path else written.path
  pure {
    scheme := Text.lower written.scheme
    userInfo
    host := normalHost
    port
    path := Text.percentEncode inPath path
    query := written.query.map (Text.percentEncode inQuery)
    fragment := written.fragment.map (Text.percentEncode inFragment) }

def parse (cs : List Char) : Except Fault RequestUrl :=
  if maximalLength < cs.length then .error (.invalidUrl "URL too long")
  else match cs.find? isControl with
    | some c =>
      .error (.invalidUrl ("Invalid non-printable ASCII character in URL, " ++
        (String.singleton c).literal ++ " at position " ++ toString (cs.idxOf c) ++ "."))
    | none => ofWritten (Written.ofText cs)

/-- Host and port as they are written, with brackets around a long numeric address. -/
def hostText (url : RequestUrl) : List Char :=
  (if url.host.contains ':' then '[' :: url.host ++ [']'] else url.host) ++
    match url.port with
    | some port => ':' :: (toString port).toList
    | none => []

def authority (url : RequestUrl) : List Char :=
  (if url.userInfo.isEmpty then [] else url.userInfo ++ ['@']) ++ url.hostText

def text (url : RequestUrl) : List Char :=
  (if url.scheme.isEmpty then [] else url.scheme ++ [':']) ++
    (if url.authority.isEmpty then [] else '/' :: '/' :: url.authority) ++ url.path ++
    (match url.query with | some query => '?' :: query | none => []) ++
    (match url.fragment with | some fragment => '#' :: fragment | none => [])

def isAbsolute (url : RequestUrl) : Bool := !url.scheme.isEmpty && !url.host.isEmpty

/-- The address with another query; its parts are brought into normal form once more. -/
def withQuery (url : RequestUrl) (query : List Char) : Except Fault RequestUrl :=
  ofWritten ⟨url.scheme, url.authority, url.path, some query, url.fragment⟩

/-- The address that is asked for. One that names no server counts as a path and a query below the
root. -/
def forRequest (url : RequestUrl) : Except Fault RequestUrl :=
  if url.isAbsolute then .ok url
  else
    let path := if url.path.isEmpty then ['/'] else url.path
    ofWritten ⟨[], [], '/' :: path.dropWhile (· = '/'), url.query, none⟩

/-- A name or a value in a query: a space is a plus sign. -/
def formText (cs : List Char) : List Char :=
  cs.flatMap fun c => if c = ' ' then ['+'] else Text.quoted [c]

def formQuery (fields : List (String × String)) : List Char :=
  Text.joinWith ['&'] (fields.map fun (name, value) =>
    formText name.toList ++ '=' :: formText value.toList)

end RequestUrl

end ChatWidget
