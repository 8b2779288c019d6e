import ChatWidget.Fault
/-!
Commands: what a server asks the widget to do, a name with data.
-/
namespace ChatWidget

/-- A command, with null for data where none was sent. -/
structure Command where
  name : String
  data : Json := .null

namespace Command

def ofJson : Json → Except Fault Command
  | .obj fields =>
    match Entries.get? fields "command" with
    | some (.str name) =>
      if name.isEmpty then .error .commandUnnamed
      else .ok ⟨name, (Entries.get? fields "data").getD .null⟩
    | _ => .error .commandUnnamed
  | _ => .error .commandNotObject

end Command

end ChatWidget
