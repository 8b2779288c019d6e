import ChatWidget.Terminal
import ChatWidget.Settings.Sources
import ChatWidget.Log.Line
/-!
The program: a conversation on the terminal, with settings from the environment and from the files in the
working directory, and a store in a file. The program has no way to a server of its own, so every
exchange breaks off.
-/
open ChatWidget

def readText? (path : String) : IO (Option String) := do
  try
    pure (some (← IO.FS.readFile path))
  catch _ => pure none

def settingsSources : IO SettingsSources := do
  let mut environment : Entries String := []
  for name in Settings.names do
    for spelling in [name, name.toUpper] do
      if let some value ← IO.getEnv spelling then
        environment := environment.put spelling value
  let explicit := ((← IO.getEnv "RESPONSIO_CONFIG_FILE").filter (! ·.isEmpty)).toList
  let files ← (explicit ++ ["config.yaml"]).mapM fun path => do
    pure (ConfigFile.mk path (← readText? path))
  pure { environment, envFile := ← readText? ".env", files }

def findFolder (area : FileArea) : IO Folder := do
  try
    pure (.holding (← IO.FS.readBinFile area.path).toList)
  catch _ => pure .vacant

def keepFolder (area : FileArea) : IO Unit := do
  match area.folder with
  | .holding bytes => do
    IO.FS.createDirAll area.root
    IO.FS.writeBinFile area.path ⟨bytes.toArray⟩
  | _ => pure ()

def keep (after : Logged Surroundings) : IO Surroundings := do
  for event in after.log do
    IO.eprintln (event.level.name ++ " " ++ event.message)
  match after.state.medium with
  | .file area => keepFolder area
  | _ => pure ()
  pure after.state

/-- Perform an operation of a client, write out what it says, and go on with the client. -/
def perform (client : Client) (around : Surroundings) (op : ClientOp String) :
    IO (Client × Surroundings) := do
  let (result, after) := (client.perform op).start { state := around }
  let around ← keep after
  match result with
  | .ok (output, client) => do
    IO.print output
    pure (client, around)
  | .error fault => throw (IO.userError fault.message)

/-- Prompt for lines and take them until there are no more. -/
partial def talk (input : IO.FS.Stream) (client : Client) (around : Surroundings) : IO Unit := do
  IO.print Terminal.prompt
  (← IO.getStdout).flush
  let line ← input.getLine
  if line.isEmpty then return
  for line in Terminal.linesOf line do
    let (client, around) ← perform client around (Terminal.takeLine line)
    talk input client around

/-- Run a conversation. -/
def main (arguments : List String) : IO UInt32 := do
  let (loaded, warnings) := (← settingsSources).load
  for warning in warnings do
    IO.eprintln warning.message
  match loaded with
  | .error _ => do
    IO.eprintln "The settings cannot be used"
    pure 1
  | .ok settings => do
    let area : FileArea := { root := settings.storageRoot }
    let area := { area with folder := ← findFolder area }
    let wire : Wire := { fallback := .broken "no way to the server" }
    let (result, after) := (Terminal.activate settings arguments).start
      { state := { medium := .file area, wire } }
    let around ← keep after
    match result with
    | .ok (some client) => do
      let (client, around) ← perform client around Terminal.render
      talk (← IO.getStdin) client around
      pure 0
    | .ok none => do
      IO.eprintln Terminal.refusal
      pure 1
    | .error fault => throw (IO.userError fault.message)
