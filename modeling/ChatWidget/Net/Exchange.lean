import ChatWidget.Net.Cookie
import ChatWidget.Net.Url
import ChatWidget.Net.Wire
import ChatWidget.Discovery
import ChatWidget.Store.KeyValue
/-!
A single exchange with the server: what a caller asks for, the request that this comes to, and what the
answer comes to. Everything that can be wrong with the asking shows before a request is sent.
-/
namespace ChatWidget

/-- What a caller asks for. The endpoint is an address, or is below the service. -/
structure Call where
  method : String := "GET"
  endpoint : String
  data : Offered := .data .null
  options : Json := .null

/-- A request on its way: the address as it was asked for and in normal form, the request as it will
arrive, and the cookies that are known to it. -/
structure Exchange where
  url : String
  target : RequestUrl
  request : Request
  jar : CookieJar

namespace Exchange

/-- The address of an endpoint: an address of the web stands for itself, and all else is below the
service. -/
def resolve (site : Site) (endpoint : String) : Except Fault String := do
  let parts ← UrlParts.split [] endpoint.toList
  if ["http", "https"].contains (String.ofList parts.scheme) then pure endpoint
  else pure (site.service ++ endpoint)

/-- The media type of a body, unless the caller names another one. -/
def bodyType : String := "application/json;charset=UTF-8"

/-- What a caller asks for with the options and the data checked. -/
structure Terms where
  accept : Json
  contentType : Option Json := none
  encoding : Option Json := none
  parameters : Option (List (String × String)) := none
  body : String := ""

/-- The options by name; whatever does not count as present has none. -/
def optionsOf (options : Json) : Except Fault (Entries Json) :=
  match options with
  | .obj fields => .ok fields
  | options => if options.isTruthy then .error .missingOperation else .ok []

/-- The parameters that data are: a mapping, or nothing. -/
def parametersOf : Offered → Except Fault (Option (List (String × String)))
  | .unwritable => .error .missingOperation
  | .data (.obj fields) =>
    if fields.isEmpty then .ok none
    else (fields.mapM fun (field : String × Json) => field.2.toText.map (field.1, ·)).map some
  | .data value => if value.isTruthy then .error .missingOperation else .ok none

/-- What a call comes to. Data are the parameters of a request that gets something, and the body of any
other one. -/
def termsOf (method : String) (data : Offered) (options : Json) : Except Fault Terms := do
  let options ← optionsOf options
  let accept := (options.get? "accept").getD (.str Response.jsonType)
  if method == "GET" then pure { accept, parameters := ← parametersOf data }
  else
    let contentType := some ((options.get? "type").getD (.str bodyType))
    let encoding := options.get? "encoding"
    match data.value with
    | .error reason => throw (.payloadNotSendable reason)
    | .ok value => pure { accept, contentType, encoding, body := value.written }

def headerText : Json → Except Fault String
  | .str value => if value.toList.all (·.toNat < 0x80) then .ok value else .error .notAscii
  | _ => .error .wrongType

def headerText? : Option Json → Except Fault (Option String)
  | none => .ok none
  | some value => (headerText value).map some

/-- The header with the cookies for an address, if there are any in the jar. They can only be chosen for
an address that names a server. -/
def cookiesFor (now : Int) (target : RequestUrl) (jar : CookieJar) : Except Fault (Option String) :=
  if jar.isEmpty then .ok none
  else if target.isAbsolute then .ok (jar.header? now (.ofUrl target))
  else .error (.badValue "")

def prepare (site : Site) (jar : CookieJar) (now : Int) (call : Call) : Except Fault Exchange := do
  let method := String.ofList (call.method.toList.map Text.upperAscii)
  let url ← resolve site call.endpoint
  let terms ← termsOf method call.data call.options
  let jar := jar.copy
  let target ← (← RequestUrl.parse url.toList).forRequest
  let accept ← headerText terms.accept
  let contentType ← headerText? terms.contentType
  let encoding ← headerText? terms.encoding
  let target ← match terms.parameters with
    | some parameters => target.withQuery (RequestUrl.formQuery parameters)
    | none => pure target
  let cookie ← cookiesFor now target jar
  pure {
    url, target, jar
    request :=
      { method, url := String.ofList target.text, accept, contentType, encoding, cookie
        body := terms.body } }

def sendsOn (status : Int) : Bool := [301, 302, 303, 307, 308].contains status

/-- Why the address that a response sends the caller on to is none. Nobody goes there, but an address
that is none breaks the exchange off. -/
def badLocation? (response : Response) : Option String :=
  if sendsOn response.status then
    (response.header? "location").bind fun location =>
      match RequestUrl.parse location.toList with
      | .error fault => some ("Invalid URL in location header: " ++ fault.message ++ ".")
      | .ok _ => none
  else none

def cookiesAfter (now : Int) (exchange : Exchange) (response : Response) : CookieJar :=
  exchange.jar.take now (.ofUrl exchange.target) (response.headerValues "set-cookie")

/-- What an answer comes to: how the exchange ended, the cookies to be added to those known, and what is
to be logged. An exchange with an address that names no server has no end. -/
def conclude (now : Int) (exchange : Exchange) (answer : Answer) :
    Except Fault (Outcome × CookieJar × Option Log.Event) :=
  let broken (reason : String) : Outcome × CookieJar × Option Log.Event :=
    (.failure 500 "Internal Error", {}, some (.exchangeFailed exchange.url reason))
  match answer with
  | .failed fault => .error fault
  | .late reason =>
    .ok (.failure 500 "Request Timeout", {}, some (.requestTimedOut exchange.url reason))
  | .broken reason => .ok (broken reason)
  | .response response =>
    if !exchange.target.isAbsolute then .error (.badValue "")
    else match badLocation? response with
      | some reason => .ok (broken reason)
      | none =>
        let (outcome, event) := response.verdict
        .ok (outcome, exchange.cookiesAfter now response, event)

end Exchange

end ChatWidget
