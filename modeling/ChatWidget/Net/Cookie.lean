import ChatWidget.Net.HttpDate
import ChatWidget.Net.RequestUrl
import ChatWidget.Entries
/-!
Cookies: what a server asks to be told again. A cookie is known by its domain, its path and its name; it
goes with the requests to hosts of its domain and to paths below its own. A jar keeps them in the order
in which domains, then paths, then names came in.
-/
namespace ChatWidget

/-- A cookie. One without a value is sent as its name alone. -/
structure Cookie where
  name : String
  value : Option String
  domain : String
  path : String
  secure : Bool := false
  expires : Option Int := none
  ports : Option String := none

/-- Has the time come at which something ends? What has no end lasts. -/
def isOver (now : Int) (ending : Option Int) : Bool := ending.any (· ≤ now)

/-- What matters of a request when cookies are taken or sent: its host without the port, its path,
whether nobody can listen in, and its port as it is written. -/
structure CookieScope where
  host : List Char
  path : List Char
  secure : Bool
  port : Option (List Char)

namespace CookieScope

def inPath (c : Char) : Bool := Text.isUnreserved c || "%/;:@&=+$,!*'()".toList.contains c

def capitalCodes : List Char → List Char
  | '%' :: a :: b :: rest =>
    if Text.isHexDigit a && Text.isHexDigit b then
      '%' :: Text.upperAscii a :: Text.upperAscii b :: capitalCodes rest
    else '%' :: capitalCodes (a :: b :: rest)
  | c :: rest => c :: capitalCodes rest
  | [] => []

/-- A path in the form in which paths of cookies are compared. -/
def normalPath (path : List Char) : List Char := capitalCodes (Text.percentEncode inPath path)

def dropPort (host : List Char) : List Char :=
  let digits := (host.reverse.takeWhile Text.isDigit).length
  let before := host.take (host.length - digits)
  if 0 < digits && before.getLast? = some ':' then before.dropLast else host

def ofUrl (url : RequestUrl) : CookieScope :=
  let path := normalPath url.path
  let port := match url.authority.dropWhile (· ≠ ':') with
    | [] => some "80".toList
    | _ :: port => if (readWholeNumber? port).isSome then some port else none
  { host := Text.lower (dropPort url.authority)
    path := if path.head? = some '/' then path else '/' :: path
    secure := ["https", "wss"].contains (String.ofList url.scheme)
    port }

/-- The host as a domain: one without a dot is in the local domain. -/
def domain (scope : CookieScope) : List Char :=
  if scope.host.contains '.' then scope.host else scope.host ++ ".local".toList

/-- The port, which is that of the web where nothing else is written. -/
def portText (scope : CookieScope) : List Char := scope.port.getD "80".toList

/-- The path that a cookie has which names none: all up to the last slash, with the slash or without. -/
def folder (scope : CookieScope) (withSlash : Bool) : List Char :=
  let last := (scope.path.reverse.takeWhile (· ≠ '/')).length
  let folder := scope.path.take (scope.path.length - last)
  let folder := if withSlash then folder else folder.dropLast
  if folder.isEmpty then ['/'] else folder

end CookieScope

/-! ### What a server asks for -/

/-- A cookie as a server describes it: its name, its value, and its attributes in order. -/
structure CookieRequest where
  name : List Char
  value : Option (List Char)
  attributes : List (List Char × Option (List Char))

namespace CookieRequest

/-- A name with a value, or without one, as it stands between semicolons. -/
def parameter (cs : List Char) : List Char × Option (List Char) :=
  let name := Text.strip (cs.takeWhile (· ≠ '='))
  match cs.dropWhile (· ≠ '=') with
  | [] => (name, none)
  | _ :: value => (name, some (Text.strip value))

/-- The request in a header; a header that does not begin with a name holds none. -/
def ofHeader (header : String) : Option CookieRequest :=
  match (Text.splitAt ';' header.toList).map parameter with
  | (name, value) :: rest =>
    if name.isEmpty then none
    else some ⟨name, value, (rest.filter (! ·.1.isEmpty)).map fun (name, value) =>
      (Text.lower name, value)⟩
  | [] => none

def unquote (cs : List Char) : List Char :=
  let cs := if cs.head? = some '"' then cs.drop 1 else cs
  if cs.getLast? = some '"' then cs.dropLast else cs

end CookieRequest

/-- What the attributes of a requested cookie come to. -/
structure CookieTerms where
  version : Option (List Char) := none
  expires : Option Int := none
  ageGiven : Bool := false
  domain : Option (List Char) := none
  path : Option (List Char) := none
  ports : Option (Option (List Char)) := none
  secure : Option Bool := none

namespace CookieTerms

/-- Take an attribute in, read at a given second. Of several with one name the first one counts, but a
maximal age stands above a date. The answer is nothing if the cookie is to be dropped, and a failure if
all cookies of the response are. -/
def take (now : Int) (terms : CookieTerms) (name : List Char) (value : Option (List Char)) :
    Except Fault (Option CookieTerms) :=
  match String.ofList name, value with
  | "domain", some value => .ok (some { terms with domain := terms.domain.or (some (Text.lower value)) })
  | "domain", none => .ok (if terms.domain.isSome then some terms else none)
  | "path", some value => .ok (some { terms with path := terms.path.or (some value) })
  | "path", none => .ok (if terms.path.isSome then some terms else none)
  | "port", value => .ok (some { terms with ports := terms.ports.or (some value) })
  | "secure", value =>
    .ok (some { terms with secure := terms.secure.or (some ((value.map (! ·.isEmpty)).getD true)) })
  | "version", some value =>
    .ok (some { terms with version := terms.version.or (some (CookieRequest.unquote value)) })
  | "version", none => .ok (if terms.version.isSome then some terms else none)
  | "expires", value => do
    let date ← match value with
      | some value => HttpDate.read now (CookieRequest.unquote value)
      | none => pure none
    if terms.expires.isSome || terms.ageGiven then pure (some terms)
    else pure (some { terms with expires := date })
  | "max-age", some value => .ok ((readWholeNumber? value).map fun age =>
      { terms with expires := some (now + age), ageGiven := true })
  | "max-age", none => .error .wrongType
  | _, _ => .ok (some terms)

/-- Take attributes in until one drops the cookie. All dates are read nevertheless. -/
def takeAll (now : Int) : Option CookieTerms → List (List Char × Option (List Char)) →
    Except Fault (Option CookieTerms)
  | none, [] => .ok none
  | none, (name, value) :: rest => do
    if name = "expires".toList then
      let _ ← HttpDate.read now (CookieRequest.unquote (value.getD []))
    takeAll now none rest
  | some terms, [] => .ok (some terms)
  | some terms, (name, value) :: rest => do takeAll now (← take now terms name value) rest

end CookieTerms

/-- What becomes of a requested cookie. -/
inductive CookieOrder where
  | keep (cookie : Cookie)
  | discard (domain path name : String)
  /-- It is none of this server's business, or its description makes no sense. -/
  | ignore

namespace CookieOrder

/-- May a server with the given domain ask for a cookie of the domain? One without a dot inside is no
domain, other than the local one. -/
def ownsDomain (server domain : List Char) : Bool :=
  let bare := if domain.head? = some '.' then domain.drop 1 else domain
  (bare.contains '.' || Text.endsWith server ".local".toList) &&
    (Text.endsWith server domain || Text.endsWith server (bare ++ ".local".toList) ||
      (server.head? != some '.' && Text.endsWith ('.' :: server) domain))

/-- Does a list of ports name one? The list is read up to it, and holds numbers only. -/
def namesPort (port : List Char) : List (List Char) → Bool
  | [] => false
  | one :: rest => (readWholeNumber? one).isSome && (one = port || namesPort port rest)

def ofTerms (now : Int) (scope : CookieScope) (request : CookieRequest) (terms : CookieTerms) :
    CookieOrder :=
  let version? := readWholeNumber? (terms.version.getD ['0'])
  let version := version?.getD 0
  let path := match terms.path with
    | none | some [] => scope.folder (version != 0)
    | some path => CookieScope.normalPath path
  let domain := match terms.domain with
    | none => scope.domain
    | some domain => if domain.head? = some '.' then domain else '.' :: domain
  let ports := match terms.ports with
    | none => none
    | some none => scope.port
    | some (some ports) => some (ports.filter (! Text.isBlank ·))
  let portGood := match terms.ports with
    | some (some ports) =>
      namesPort scope.portText (Text.splitAt ',' (ports.filter (! Text.isBlank ·)))
    | _ => true
  let name := String.ofList request.name
  if version?.isNone then .ignore
  else if isOver now terms.expires then
    .discard (String.ofList domain) (String.ofList path) name
  else if 1 < version || (terms.domain.isSome && !ownsDomain scope.domain domain) || !portGood then
    .ignore
  else .keep {
    name
    value := request.value.map String.ofList
    domain := String.ofList domain
    path := String.ofList path
    secure := terms.secure.getD false
    expires := terms.expires
    ports := ports.map String.ofList }

/-- What becomes of the cookies that a response asks for in its headers. -/
def ofHeaders (now : Int) (scope : CookieScope) (headers : List String) :
    Except Fault (List CookieOrder) :=
  (headers.filterMap CookieRequest.ofHeader).mapM fun request => do
    match ← CookieTerms.takeAll now (some {}) request.attributes with
    | some terms => pure (ofTerms now scope request terms)
    | none => pure .ignore

end CookieOrder

/-! ### The jar -/

/-- Cookies by domain, path and name. -/
structure CookieJar where
  domains : Entries (Entries (Entries Cookie)) := []

namespace CookieJar

def at_ (jar : CookieJar) (domain path : String) : Entries Cookie :=
  (((jar.domains.get? domain).getD []).get? path).getD []

def get? (jar : CookieJar) (domain path name : String) : Option Cookie :=
  (jar.at_ domain path).get? name

def setAt (jar : CookieJar) (domain path : String) (cookies : Entries Cookie) : CookieJar :=
  ⟨jar.domains.put domain (((jar.domains.get? domain).getD []).put path cookies)⟩

def insert (jar : CookieJar) (cookie : Cookie) : CookieJar :=
  jar.setAt cookie.domain cookie.path
    ((jar.at_ cookie.domain cookie.path).put cookie.name cookie)

def erase (jar : CookieJar) (domain path name : String) : CookieJar :=
  if (jar.get? domain path name).isSome then
    jar.setAt domain path ((jar.at_ domain path).erase name)
  else jar

def toList (jar : CookieJar) : List Cookie :=
  jar.domains.flatMap fun (_, paths) => paths.flatMap fun (_, names) => names.map (·.2)

def insertAll (jar : CookieJar) (cookies : List Cookie) : CookieJar := cookies.foldl insert jar

/-- A copy of the jar: its cookies put into a new one in order. -/
def copy (jar : CookieJar) : CookieJar := insertAll {} jar.toList

def merge (jar other : CookieJar) : CookieJar := jar.insertAll other.toList

def isEmpty (jar : CookieJar) : Bool := jar.toList.isEmpty

/-- Take the cookies of a response into the jar: first those that have run out go, then the new ones
come. -/
def take (now : Int) (scope : CookieScope) (headers : List String) (jar : CookieJar) : CookieJar :=
  match CookieOrder.ofHeaders now scope headers with
  | .error _ => jar
  | .ok orders =>
    let without := orders.foldl (fun jar order => match order with
      | .discard domain path name => jar.erase domain path name
      | _ => jar) jar
    without.insertAll (orders.filterMap fun order => match order with
      | .keep cookie => some cookie
      | _ => none)

def leadsTo (path request : List Char) : Bool :=
  path = request || (path.isPrefixOf request &&
    (path.getLast? = some '/' || (request.drop path.length).head? = some '/'))

def goesWith (now : Int) (scope : CookieScope) (cookie : Cookie) : Bool :=
  let domain := cookie.domain.toList
  let domain := if domain.head? = some '.' || domain.isEmpty then domain else '.' :: domain
  let portGood := match cookie.ports with
    | none | some "" => true
    | some ports => (Text.splitAt ',' ports.toList).contains scope.portText
  Text.endsWith ('.' :: scope.domain) domain && leadsTo cookie.path.toList scope.path &&
    (scope.secure || !cookie.secure) && !isOver now cookie.expires && portGood

def written (cookie : Cookie) : String :=
  match cookie.value with
  | some value => cookie.name ++ "=" ++ value
  | none => cookie.name

/-- The header with the cookies that go with a request, the longest paths first, if there are any. -/
def header? (now : Int) (scope : CookieScope) (jar : CookieJar) : Option String :=
  let cookies := (jar.toList.filter (goesWith now scope)).mergeSort fun a b =>
    decide (b.path.length ≤ a.path.length)
  if cookies.isEmpty then none else some ("; ".intercalate (cookies.map written))

end CookieJar

end ChatWidget
