import ChatWidget.Op
import ChatWidget.Text.Utf8
import ChatWidget.Text.LineEnds
import ChatWidget.Json.Reader
import ChatWidget.Json.Writer
/-!
A storage area held in one file: a folder with a file whose text is one mapping from keys to items. Each
call reads the whole file, and a call that changes something writes it anew. A file that cannot be read
as a mapping is left as it is.
-/
namespace ChatWidget

/-- What is found where the area's folder and file should be. -/
inductive Folder where
  /-- No file yet, and possibly no folder. -/
  | vacant
  | holding (bytes : List UInt8)
  /-- A file stands where the folder should be. -/
  | blocked
  /-- A folder stands where the file should be. -/
  | occupied

/-- An area in a file: where its folder is, and what is found there. -/
structure FileArea where
  root : String
  folder : Folder := .vacant

namespace FileArea

def path (area : FileArea) : String := area.root ++ "/local_storage.json"

/-- The mapping that the bytes of a file hold, or why they hold none. -/
def entriesOfBytes (path : String) (bytes : List UInt8) : Except Fault (Entries Json) :=
  match Text.decodeUtf8 bytes with
  | .error e => .error (.storeUnreadable e.message)
  | .ok cs =>
    let text := Text.unifyLineEnds cs
    match Json.readChars text with
    | .error stop => .error (.storeUnreadable (stop.message text))
    | .ok (.obj entries) => .ok entries
    | .ok _ => .error (.storeUnreadable (path ++ " is not a mapping"))

def bytesOfEntries (entries : Entries Json) : List UInt8 :=
  Text.encodeUtf8 (Json.obj entries).writtenChars

/-- The mapping in the file; without a file it is empty. -/
def entries (area : FileArea) : Except Fault (Entries Json) :=
  match area.folder with
  | .vacant | .blocked => .ok []
  | .occupied =>
    .error (.storeUnreadable ("[Errno 21] Is a directory: " ++ area.path.literal))
  | .holding bytes => entriesOfBytes area.path bytes

def write (entries : Entries Json) : Op FileArea Unit := do
  let area ← Op.whole
  match area.folder with
  | .blocked => Op.fail (.storeUnwritable ("[Errno 17] File exists: " ++ area.root.literal))
  | _ => Op.change fun area => { area with folder := .holding (bytesOfEntries entries) }

def getItem (key : String) : Op FileArea (Option Json) := do
  let entries ← Op.lift (← Op.read entries)
  pure (entries.get? key)

def setItem (key value : String) : Op FileArea Unit := do
  let entries ← Op.lift (← Op.read entries)
  write (entries.put key (.str value))

def removeItem (key : String) : Op FileArea Unit := do
  let entries ← Op.lift (← Op.read entries)
  if entries.has key then write (entries.erase key) else pure ()

def text? (area : FileArea) : Option String :=
  match area.folder with
  | .holding bytes => some (String.ofList (Text.decodeUtf8Lossy bytes))
  | _ => none

end FileArea

end ChatWidget
