import ChatWidget.Fault
/-!
What is worth a line in the log. Each event has a level, a message, and named values that go with it.
-/
namespace ChatWidget.Log

inductive Level where
  | info
  | warning
  | error
deriving DecidableEq

def Level.name : Level → String
  | info => "INFO"
  | warning => "WARNING"
  | error => "ERROR"

inductive Event where
  | storeUnavailable (reason : String)
  | storeGivenUp (reason : String)
  | historyEntrySkipped (index : Nat) (code : String) (entry : Json)
  | batchNotList (commands : Json)
  | commandRejected (code reason : String) (entry : Json)
  | commandFailed (name : String)
  | listenerFailed (type : String)
  | requestTimedOut (url reason : String)
  | exchangeFailed (url reason : String)
  | requestNotSent (endpoint : String)
  | callbackFailed (endpoint : String)
  | mediaTypeUnsupported (mediaType : String)
  | bodyUnreadable (body : String)
  | requestRejected (status : Int) (reason : String)
  | chatRequestFailed (status : Int) (reason : String)
  | widgetInitialized (identity style : Json)
  | widgetAlreadyInitialized
  | messageDropped
  | attachmentMissing (selector : Json)
  | scriptNotRecognised (scriptSrc : Json)
  | identityMissing
  | activated (identity : Json) (service : String) (durable : Bool)

namespace Event

def level : Event → Level
  | storeUnavailable _ | widgetInitialized _ _ | activated _ _ _ => .info
  | storeGivenUp _ | requestRejected _ _ | chatRequestFailed _ _ | widgetAlreadyInitialized
  | messageDropped => .warning
  | _ => .error

def message : Event → String
  | storeUnavailable _ => "Durable storage not available, using memory"
  | storeGivenUp _ => "Durable storage write failed, falling back to memory"
  | historyEntrySkipped _ _ _ => "Skipping unreadable history entry"
  | batchNotList _ => "Invalid response"
  | commandRejected _ _ _ => "Invalid command"
  | commandFailed _ => "Command failed"
  | listenerFailed _ => "Event listener failed"
  | requestTimedOut _ _ => "Request timed out"
  | exchangeFailed _ _ => "Request failed"
  | requestNotSent _ => "Request could not be sent"
  | callbackFailed _ => "Transport callback failed"
  | mediaTypeUnsupported _ => "Unsupported content type"
  | bodyUnreadable _ => "Failed parsing JSON response"
  | requestRejected _ _ => "Request rejected"
  | chatRequestFailed _ _ => "Request failed"
  | widgetInitialized _ _ => "Widget initialized"
  | widgetAlreadyInitialized => "Widget already initialized"
  | messageDropped => "Widget not initialized, message dropped"
  | attachmentMissing _ => Fault.noAttachment.message
  | scriptNotRecognised scriptSrc => (Fault.unknownScript scriptSrc).message
  | identityMissing => "No identity configured, responsio not activated"
  | activated _ _ _ => "Responsio activated"

def fields : Event → Option (Entries Json)
  | storeUnavailable reason | storeGivenUp reason => some [("error", .str reason)]
  | historyEntrySkipped index code entry =>
    some [("index", .int index), ("code", .str code), ("fragment", entry)]
  | batchNotList commands => some [("response", .str commands.shown)]
  | commandRejected code reason entry =>
    some [("code", .str code), ("error", .str reason), ("entry", .str entry.shown)]
  | commandFailed name => some [("command", .str name)]
  | listenerFailed type => some [("event", .str type)]
  | requestTimedOut url reason | exchangeFailed url reason =>
    some [("url", .str url), ("error", .str reason)]
  | requestNotSent endpoint | callbackFailed endpoint => some [("endpoint", .str endpoint)]
  | mediaTypeUnsupported mediaType => some [("content_type", .str mediaType)]
  | bodyUnreadable body => some [("body", .str body)]
  | requestRejected status reason | chatRequestFailed status reason =>
    some [("status", .int status), ("error", .str reason)]
  | widgetInitialized identity style => some [("identity", identity), ("style", style)]
  | attachmentMissing selector =>
    some [("code", .str Fault.noAttachment.code), ("selector", selector)]
  | scriptNotRecognised scriptSrc =>
    let fault := Fault.unknownScript scriptSrc
    some (("code", .str fault.code) :: fault.details)
  | activated identity service durable =>
    some [("identity", identity), ("service", .str service), ("durable", .bool durable)]
  | widgetAlreadyInitialized | messageDropped | identityMissing => none

end Event

end ChatWidget.Log
