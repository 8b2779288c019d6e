import ChatWidget.Json.Display
import ChatWidget.Json.Writer
/-!
What can go wrong, one constructor per cause. The causes fall into kinds: four kinds of complaints that
the library itself raises, each with a code for machines, and the kinds of failures that come from
values of the wrong sort or from outside. A cause tells its message; nothing else depends on the
wording.
-/
namespace ChatWidget

/-- Why something did not work. -/
inductive Fault where
  /-- The script's address is not one of this widget's script. -/
  | unknownScript (scriptSrc : Json)
  | noAttachment
  | commandNotObject
  | commandUnnamed
  | commandUnknown (name : String)
  | storeUnreadable (reason : String)
  | storeUnwritable (reason : String)
  /-- The root of a store is to be replaced by something that is not a mapping. -/
  | rootNotMapping
  /-- A value that has no written form was to be stored. -/
  | valueNotStorable (reason : String)
  | noElement
  /-- A value that has no written form was to be sent. -/
  | payloadNotSendable (reason : String)
  | handlersNotAllowed (names : List String)
  /-- A value without the operation that is asked of it. -/
  | missingOperation
  | wrongType
  | badDeclaration
  /-- A value of the right type that makes no sense. -/
  | badValue (reason : String)
  | notAscii
  | invalidUrl (reason : String)
  | refusedBySystem (reason : String)
  | breakdown (reason : String)
deriving Inhabited

inductive FaultKind where
  | configuration
  | protocol
  | storage
  | validation
  | missingOperation
  | wrongType
  | assertion
  | value
  | encoding
  | url
  | system
  | breakdown
deriving DecidableEq

namespace Fault

def kind : Fault → FaultKind
  | unknownScript _ | noAttachment => .configuration
  | commandNotObject | commandUnnamed | commandUnknown _ => .protocol
  | storeUnreadable _ | storeUnwritable _ => .storage
  | rootNotMapping | valueNotStorable _ | noElement | payloadNotSendable _ | handlersNotAllowed _ =>
    .validation
  | missingOperation => .missingOperation
  | wrongType => .wrongType
  | badDeclaration => .assertion
  | badValue _ => .value
  | notAscii => .encoding
  | invalidUrl _ => .url
  | refusedBySystem _ => .system
  | breakdown _ => .breakdown

/-- The code of a complaint that the library itself raises; failures of other kinds have none. -/
def code? : Fault → Option String
  | unknownScript _ => some "UNKNOWN_SCRIPT"
  | noAttachment => some "INVALID_ATTACHMENT"
  | commandNotObject | commandUnnamed | commandUnknown _ => some "INVALID_COMMAND"
  | storeUnreadable _ => some "STORE_READ_ERROR"
  | storeUnwritable _ => some "STORE_WRITE_ERROR"
  | rootNotMapping => some "INVALID_STORE_ROOT"
  | valueNotStorable _ => some "INVALID_STORE_VALUE"
  | noElement => some "INVALID_FRAGMENT"
  | payloadNotSendable _ => some "INVALID_PAYLOAD"
  | handlersNotAllowed _ => some "UNKNOWN_HANDLER"
  | _ => none

def code (fault : Fault) : String := fault.code?.getD ""

/-- Where the script of the widget lies below the root of its site. -/
def scriptName : String := "/javascript/responsio-1.0.0.js"

def noValueReason : String := "Object of type object is not JSON serializable"

/-- What is said of a whole number with too many digits to be written. -/
def tooLongReason : String :=
  "Exceeds the limit (4300 digits) for integer string conversion; " ++
    "use sys.set_int_max_str_digits() to increase the limit"

def message : Fault → String
  | unknownScript _ => "Script location does not end with " ++ scriptName
  | noAttachment => "Invalid window attachment point"
  | commandNotObject => "Command descriptor is not an object"
  | commandUnnamed => "Command descriptor has no command name"
  | commandUnknown name => "Unknown command " ++ name.literal
  | storeUnreadable reason | storeUnwritable reason => reason
  | rootNotMapping => "Store root must be a mapping"
  | noElement => "Fragment contains no element"
  | handlersNotAllowed names => "Handlers not in registry: " ++ ", ".intercalate names
  | valueNotStorable reason | payloadNotSendable reason | badValue reason | invalidUrl reason
  | refusedBySystem reason | breakdown reason => reason
  | missingOperation | wrongType | badDeclaration | notAscii => ""

def details : Fault → Entries Json
  | unknownScript scriptSrc => [("script_src", scriptSrc)]
  | _ => []

end Fault

/-- The value as text. A whole number with too many digits cannot be shown. -/
def Json.toText (value : Json) : Except Fault String :=
  if value.isWritable then .ok value.asText else .error (.badValue Fault.tooLongReason)

end ChatWidget
