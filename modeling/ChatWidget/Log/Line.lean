import ChatWidget.Instant
import ChatWidget.Log.Event
import ChatWidget.Json.Writer
/-!
The log as text: one line for each record, which is a mapping in its written form. The values that go
with a record stand beside its own, and take their place under the same name. With redaction on, only the
beginning of a message is kept.
-/
namespace ChatWidget.Log

structure Record where
  created : Instant
  level : String := Level.info.name
  name : String := "responsio"
  message : String
  fields : Entries Json := []

namespace Record

def redactedLength : Nat := 64

def ofEvent (created : Instant) (event : Event) : Record :=
  { created, level := event.level.name, message := event.message, fields := event.fields.getD [] }

def shownMessage (record : Record) (redact : Bool) : String :=
  if redact then String.ofList (record.message.toList.take redactedLength) else record.message

def entries (record : Record) (redact : Bool) : Entries Json :=
  Entries.putAll
    [("ts", .str record.created.text), ("level", .str record.level), ("name", .str record.name),
     ("msg", .str (record.shownMessage redact))]
    record.fields

/-- The line of a record, without the line feed after it. -/
def line (record : Record) (redact : Bool) : String :=
  (Json.obj (record.entries redact)).written

end Record

end ChatWidget.Log
