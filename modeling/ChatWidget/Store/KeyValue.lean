import ChatWidget.Store.Medium
import ChatWidget.Store.Objects
/-!
A store: a tree of named values that is read and written by path. A durable store writes the whole tree
under its key to a medium after each change. Whether it is durable is found out once, when it is opened;
after a write that fails it is kept in memory for good.
-/
namespace ChatWidget

inductive Offered where
  | data (value : Json)
  | unwritable

def Offered.value : Offered → Except String Json
  | .unwritable => .error Fault.noValueReason
  | .data value => if value.isWritable then .ok value else .error Fault.tooLongReason

/-- A tree of named values and whether a medium keeps it. -/
structure Store where
  objects : Objects
  root : ObjectId
  key : String
  durable : Bool

namespace Store

def defaultKey : String := "com.paradoxwebsolutions.chatbot"

def probeKey : String := "test"

def ofEntries (key : String) (durable : Bool) (entries : Entries Json) : Store :=
  let (fields, objects) := Objects.takeInFields entries {}
  let (root, objects) := objects.add fields
  ⟨objects, root, key, durable⟩

def tree (store : Store) : Json := store.objects.view (.object store.root)

def slot? (store : Store) (path : Path) : Option Slot := store.objects.slotAt? store.root path

def get (store : Store) (path : Json) (default : Json) : Except Fault Json := do
  match store.slot? (← Path.ofJson path) with
  | some slot => pure (store.objects.view slot)
  | none => pure default

/-- The tree with a slot put at a path. The root takes over the entries of the mapping put there after
its own are gone. -/
def put (store : Store) (path : Path) (slot : Slot) : Except Fault Store :=
  match path, slot with
  | step :: rest, slot => .ok { store with objects := store.objects.putAt store.root step rest slot }
  | [], .object id =>
    let cleared := store.objects.setFields store.root []
    .ok { store with objects := cleared.setFields store.root (cleared.fields id) }
  | [], .value _ => .error .rootNotMapping

/-- The tree that an item under a key holds; an item that is absent or counts as such holds an empty
one. -/
def document (key : String) : Option Json → Except Fault (Entries Json)
  | none => .ok []
  | some (.str text) =>
    if text.isEmpty then .ok []
    else match Json.read text with
      | .error reason => .error (.badValue reason)
      | .ok (.obj entries) => .ok entries
      | .ok _ => .error (.storeUnreadable ("Stored document " ++ key.literal ++ " is not a mapping"))
  | some item => if item.isTruthy then .error .wrongType else .ok []

variable {μ : Type} [StorageArea μ]

/-- The tree that a medium keeps under a key. -/
def load (key : String) : Op μ (Entries Json) := do
  Op.lift (document key (← StorageArea.getItem key))

/-- Write and remove an item that nobody else uses, then load the tree. -/
def probe (key : String) : Op μ (Entries Json) := do
  StorageArea.setItem probeKey probeKey
  StorageArea.removeItem probeKey
  load key

/-- Is a failure of this kind a reason to do without the medium when a store is opened? -/
def isOutage (fault : Fault) : Bool :=
  match fault.kind with
  | .system | .value | .storage => true
  | _ => false

/-- Is a failure of this kind a reason to give the medium up when a store is written? -/
def isWriteOutage (fault : Fault) : Bool :=
  match fault.kind with
  | .system | .storage => true
  | _ => false

/-- The key that is meant where one may be missing. -/
def keyFor : Option String → String
  | some key => if key.isEmpty then defaultKey else key
  | none => defaultKey

def openOn (key : Option String) : Op μ Store := do
  let key := keyFor key
  if !StorageArea.isPresent (← Op.whole) then pure (ofEntries key false [])
  else match ← Op.attempt (probe key) with
    | .ok entries => pure (ofEntries key true entries)
    | .error fault =>
      if isOutage fault then do
        Op.note (.storeUnavailable fault.message)
        pure (ofEntries key false [])
      else Op.fail fault

/-- Write the tree to the medium, if the store is durable. -/
def commit : Op (Store × μ) Unit := do
  let (store, _) ← Op.whole
  if store.durable then
    match ← Op.attempt (Op.within Prod.snd (fun medium state => (state.1, medium))
        (StorageArea.setItem store.key store.tree.written)) with
    | .ok () => pure ()
    | .error fault =>
      if isWriteOutage fault then do
        Op.note (.storeGivenUp fault.message)
        Op.change fun (store, medium) => ({ store with durable := false }, medium)
      else Op.fail fault

/-- Put a slot at a path of a store, which takes the place of the one there is, and write its tree. -/
def place (store : Store) (path : Json) (slot : Slot) : Op (Store × μ) Unit := do
  let path ← Op.lift (Path.ofJson path)
  let store ← Op.lift (store.put path slot)
  Op.change fun (_, medium) => (store, medium)
  commit

def set (path : Json) (offered : Offered) : Op (Store × μ) Unit :=
  match offered.value with
  | .error reason => Op.fail (.valueNotStorable reason)
  | .ok value => do
    let (store, _) ← Op.whole
    let (slot, objects) := Objects.takeIn value store.objects
    place { store with objects := objects } path slot

/-- Put what stands at one path at another one too; where there is nothing, null is put. -/
def copy (source target : Json) : Op (Store × μ) Unit := do
  let (store, _) ← Op.whole
  let source ← Op.lift (Path.ofJson source)
  place store target ((store.slot? source).getD (.value .null))

end Store

end ChatWidget
