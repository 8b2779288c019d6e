import ChatWidget.Fault
import ChatWidget.Text.Blank
/-!
Addresses: how a text is cut into scheme, authority, path, query and fragment, how the parts are put
together again, and what an address means that stands on the page with another address. Schemes the
library does not know are not joined: such an address stands alone.
-/
namespace ChatWidget

/-- The parts of an address, without the marks between them. -/
structure UrlParts where
  scheme : List Char := []
  authority : List Char := []
  path : List Char := []
  query : List Char := []
  fragment : List Char := []

namespace UrlParts

def isSchemeChar (c : Char) : Bool :=
  let n := c.toNat
  (0x41 ≤ n && n ≤ 0x5A) || (0x61 ≤ n && n ≤ 0x7A) || (0x30 ≤ n && n ≤ 0x39) ||
  c = '+' || c = '-' || c = '.'

def smallLetter (c : Char) : Char :=
  if 0x41 ≤ c.toNat && c.toNat ≤ 0x5A then Char.ofNat (c.toNat + 0x20) else c

def isAsciiLetter (c : Char) : Bool :=
  let n := c.toNat
  (0x41 ≤ n && n ≤ 0x5A) || (0x61 ≤ n && n ≤ 0x7A)

/-- The scheme of an address in small letters, and what stands after its colon; without a scheme, the
given one and all of the address. -/
def splitScheme (scheme cs : List Char) : List Char × List Char :=
  let name := cs.takeWhile (· ≠ ':')
  match cs.dropWhile (· ≠ ':'), name with
  | _ :: rest, first :: _ =>
    if isAsciiLetter first && name.all isSchemeChar then (name.map smallLetter, rest)
    else (scheme, cs)
  | _, _ => (scheme, cs)

/-- A text up to a mark and the text after it, which is empty without the mark. -/
def splitOnce (mark : Char) (cs : List Char) : List Char × List Char :=
  (cs.takeWhile (· ≠ mark), (cs.dropWhile (· ≠ mark)).drop 1)

/-- The characters that look like several, with one among them that ends an authority. -/
def isDeceptive (c : Char) : Bool :=
  [0x2047, 0x2048, 0x2049, 0x2100, 0x2101, 0x2105, 0x2106, 0x2A74, 0xFE13, 0xFE16, 0xFE55, 0xFE56,
   0xFE5F, 0xFE6B, 0xFF03, 0xFF0F, 0xFF1A, 0xFF1F, 0xFF20].contains c.toNat

/-- An authority whose brackets do not come in pairs or that holds deceptive characters is none. -/
def checkAuthority (authority : List Char) : Except Fault Unit :=
  if authority.contains '[' != authority.contains ']' then .error (.badValue "Invalid IPv6 URL")
  else if authority.any isDeceptive then
    .error (.badValue ("netloc '" ++ String.ofList authority ++
      "' contains invalid characters under NFKC normalization"))
  else .ok ()

/-- The parts of an address, with a scheme for one that has none. Tabs and line ends do not count. -/
def split (scheme : List Char) (address : List Char) : Except Fault UrlParts := do
  let cs := address.filter fun c => !(c = '\t' || c = '\n' || c = '\r')
  let (scheme, cs) := splitScheme scheme cs
  let endsAuthority (c : Char) : Bool := c = '/' || c = '?' || c = '#'
  let (authority, cs) := match cs with
    | '/' :: '/' :: rest =>
      (rest.takeWhile (! endsAuthority ·), rest.dropWhile (! endsAuthority ·))
    | cs => ([], cs)
  checkAuthority authority
  let (cs, fragment) := splitOnce '#' cs
  let (path, query) := splitOnce '?' cs
  pure ⟨scheme, authority, path, query, fragment⟩

def relativeSchemes : List (List Char) :=
  ["", "ftp", "http", "gopher", "nntp", "imap", "wais", "file", "https", "shttp", "mms", "prospero",
   "rtsp", "rtsps", "rtspu", "sftp", "svn", "svn+ssh", "ws", "wss"].map String.toList

def authoritySchemes : List (List Char) :=
  relativeSchemes ++ ["telnet", "snews", "rsync", "nfs", "git", "git+ssh"].map String.toList

def parameterSchemes : List (List Char) :=
  ["", "ftp", "hdl", "prospero", "http", "imap", "https", "shttp", "rtsp", "rtsps", "rtspu", "sip",
   "sips", "mms", "sftp", "tel"].map String.toList

def text (parts : UrlParts) : List Char :=
  let hierarchical := !parts.authority.isEmpty ||
    (!parts.scheme.isEmpty && authoritySchemes.contains parts.scheme &&
      !(['/', '/'].isPrefixOf parts.path))
  let path := if hierarchical then
      '/' :: '/' :: parts.authority ++
        (if parts.path.isEmpty || parts.path.head? == some '/' then parts.path else '/' :: parts.path)
    else parts.path
  (if parts.scheme.isEmpty then path else parts.scheme ++ ':' :: path) ++
    (if parts.query.isEmpty then [] else '?' :: parts.query) ++
    (if parts.fragment.isEmpty then [] else '#' :: parts.fragment)

def splitParameters (scheme path : List Char) : List Char × List Char :=
  if parameterSchemes.contains scheme then
    let last := (path.reverse.takeWhile (· ≠ '/')).reverse
    let (kept, parameters) := splitOnce ';' last
    (path.take (path.length - last.length) ++ kept, parameters)
  else (path, [])

def withParameters (path parameters : List Char) : List Char :=
  if parameters.isEmpty then path else path ++ ';' :: parameters

/-- The segments of a path with the steps up and the stays resolved. A step up at the top stays there,
and a path that ends in one of them ends in a slash. -/
def resolveSegments (segments : List (List Char)) : List (List Char) :=
  let resolved := segments.foldl (fun done segment =>
    if segment = ['.', '.'] then done.dropLast
    else if segment = ['.'] then done
    else done ++ [segment]) []
  match segments.getLast? with
  | some last => if last = ['.'] ∨ last = ['.', '.'] then resolved ++ [[]] else resolved
  | none => resolved

/-- The path that a relative path means on a page with another path. -/
def joinPaths (base path : List Char) : List Char :=
  let baseParts := Text.splitAt '/' base
  let baseParts := if baseParts.getLast? = some [] then baseParts else baseParts.dropLast
  let own := Text.splitAt '/' path
  let segments :=
    if path.head? = some '/' then own
    else
      let all := baseParts ++ own
      match all with
      | [] => []
      | [only] => [only]
      | first :: rest =>
        first :: rest.dropLast.filter (! ·.isEmpty) ++ (rest.getLast?).toList
  let joined := Text.joinWith ['/'] (resolveSegments segments)
  if joined.isEmpty then ['/'] else joined

/-- The address that a text means on a page with another address. -/
def join (base address : List Char) : Except Fault (List Char) := do
  if base.isEmpty then return address
  if address.isEmpty then return base
  let b ← split [] base
  let (basePath, baseParameters) := splitParameters b.scheme b.path
  let a ← split b.scheme address
  let (path, parameters) := splitParameters a.scheme a.path
  if a.scheme ≠ b.scheme || !relativeSchemes.contains a.scheme then return address
  if !a.authority.isEmpty then
    return { a with path := withParameters path parameters : UrlParts }.text
  if path.isEmpty && parameters.isEmpty then
    return { a with
      authority := b.authority
      path := withParameters basePath baseParameters
      query := if a.query.isEmpty then b.query else a.query : UrlParts }.text
  return { a with
    authority := b.authority
    path := withParameters (joinPaths basePath path) parameters : UrlParts }.text

end UrlParts

end ChatWidget
