import ChatWidget.Op
import ChatWidget.Command.Descriptor
/-!
Batches of commands. The entries of a batch are run in order, each by the handler of its name; an entry
that is no command, that no handler answers to, or whose handler fails is rejected and logged, and the
batch goes on. A handler may run further batches.
-/
namespace ChatWidget

/-- What became of a batch: the names of the commands that ran, the entries that were rejected, and why
nothing was run at all. -/
structure Report where
  executed : List String := []
  rejected : List Json := []
  error : Option String := none

def Report.ok (report : Report) : Bool := report.error.isNone && report.rejected.isEmpty

/-- A handler: given how to run a further batch, and data. -/
abbrev Handler (σ : Type) := (Json → Op σ Report) → Json → Op σ Unit

namespace Batch

variable {σ : Type}

def commandNames : List String := ["init", "restore", "reset", "text"]

/-- Handlers by name, if each name is allowed. -/
def handlersFor (handlers : Entries (Handler σ)) (allowed : List String) :
    Except Fault (Entries (Handler σ)) :=
  match handlers.names.filter (! allowed.contains ·) with
  | [] => .ok handlers
  | unknown => .error (.handlersNotAllowed (unknown.mergeSort fun a b => decide (a ≤ b)))

def handlerFor (handlers : Entries (Handler σ)) (entry : Json) :
    Except Fault (Handler σ × Command) := do
  let command ← Command.ofJson entry
  match handlers.get? command.name with
  | some handler => pure (handler, command)
  | none => throw (.commandUnknown command.name)

def runEntry (handlers : Entries (Handler σ)) (run : Json → Op σ Report) (report : Report)
    (entry : Json) : Op σ Report := do
  match handlerFor handlers entry with
  | .error fault => do
    Op.note (.commandRejected fault.code fault.message entry)
    pure { report with rejected := report.rejected ++ [entry] }
  | .ok (handler, command) => do
    match ← Op.attempt (handler run command.data) with
    | .ok () => pure { report with executed := report.executed ++ [command.name] }
    | .error _ => do
      Op.note (.commandFailed command.name)
      pure { report with rejected := report.rejected ++ [entry] }

/-- Run a batch, with batches inside batches down to a depth. -/
def executeWithin (handlers : Entries (Handler σ)) : Nat → Json → Op σ Report
  | 0, _ => pure {}
  | depth + 1, .arr entries =>
    entries.foldlM (runEntry handlers (executeWithin handlers depth)) {}
  | _ + 1, commands => do
    Op.note (.batchNotList commands)
    pure { error := some "Invalid response" }

/-- Run a batch. A handler that runs its data as a batch finds less depth there, so the depth of the
batch bounds how far batches stand inside batches. -/
def execute (handlers : Entries (Handler σ)) (commands : Json) : Op σ Report :=
  executeWithin handlers (commands.depth + 1) commands

end Batch

end ChatWidget
