import ChatWidget.Store.KeyValue
/-!
The history of a conversation: a list of entries at one path of a store. An entry is added by reading
the list and putting a longer one in its place.
-/
namespace ChatWidget

/-- The path of a history. -/
structure History where
  path : Json := .str "history"

namespace History

/-- The entries in order; what is not a list has none. -/
def all (history : History) (store : Store) : Except Fault (List Json) := do
  match ← store.get history.path (.arr []) with
  | .arr entries => pure entries
  | _ => pure []

def length (history : History) (store : Store) : Except Fault Nat := do
  return (← history.all store).length

variable {μ : Type} [StorageArea μ]

def append (history : History) (entry : Json) : Op (Store × μ) Unit := do
  let (store, _) ← Op.whole
  let entries ← Op.lift (history.all store)
  Store.set history.path (.data (.arr (entries ++ [entry])))

def clear (history : History) : Op (Store × μ) Unit :=
  Store.set history.path (.data (.arr []))

end History

end ChatWidget
