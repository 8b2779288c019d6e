import ChatWidget.Net.MediaType
import ChatWidget.Json.Reader
import ChatWidget.Log.Event
/-!
What a server answers, and what that means to the one who asked: a success with a value, or a failure
with a status and a message. Only the statuses 200 and 204 are successes, and only bodies of the one
known media type are read as values.
-/
namespace ChatWidget

structure Response where
  status : Int := 200
  headers : List (String × String) := []
  body : List UInt8 := []

/-- How a request ended. -/
inductive Outcome where
  | success (payload : Json)
  | failure (status : Int) (message : String)

namespace Response

/-- The values of a header in order; capitals in its name do not matter. -/
def headerValues (response : Response) (name : String) : List String :=
  (response.headers.filter fun (other, _) => other.lowered == name.lowered).map (·.2)

/-- The value of a header; several are put together with commas. -/
def header? (response : Response) (name : String) : Option String :=
  match response.headerValues name with
  | [] => none
  | values => some (", ".intercalate values)

def text (response : Response) : String :=
  String.ofList (MediaType.decode (response.header? "content-type") response.body)

/-- The media type that is understood, and assumed where none is named. -/
def jsonType : String := "application/json"

def mediaType (response : Response) : String :=
  let header := match response.header? "content-type" with
    | none | some "" => jsonType
    | some header => header
  String.ofList (MediaType.bare header.toList)

def isSuccess (response : Response) : Bool := response.status == 200 || response.status == 204

/-- What is said of a failure where the server says nothing. -/
def defaultComplaint : String := "Internal Server Error"

/-- What the server says of a failure: the text under a certain name in a mapping, if it has one. -/
def complaint (body : String) : String :=
  match (Json.read body).toOption.bind (·.field? "error") with
  | some (.str message) => if message.isEmpty then defaultComplaint else message
  | _ => defaultComplaint

/-- What a response means, and what is to be logged of it. -/
def verdict (response : Response) : Outcome × Option Log.Event :=
  let body := response.text
  if response.mediaType != jsonType then
    (if response.isSuccess then .success (.str body)
      else .failure response.status (if body.isEmpty then defaultComplaint else body),
     some (.mediaTypeUnsupported response.mediaType))
  else if response.isSuccess then
    if response.status == 204 || Text.allBlank body.toList then (.success .null, none)
    else match Json.read body with
      | .ok payload => (.success payload, none)
      | .error _ => (.failure 500 "Internal Error", some (.bodyUnreadable body))
  else
    (.failure response.status (complaint body),
     some (.requestRejected response.status (complaint body)))

end Response

end ChatWidget
