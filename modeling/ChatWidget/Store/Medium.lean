import ChatWidget.Store.MapArea
import ChatWidget.Store.FileArea
/-!
Where a store may keep its tree for longer than it lives itself: an area in memory, an area in a file, or
nowhere. A store asks no more of an area than that items can be read, written and removed by key.
-/
namespace ChatWidget

/-- A place for items under keys, which may be missing altogether. -/
class StorageArea (μ : Type) where
  isPresent : μ → Bool
  getItem : String → Op μ (Option Json)
  setItem : String → String → Op μ Unit
  removeItem : String → Op μ Unit

instance : StorageArea MapArea where
  isPresent _ := true
  getItem := MapArea.getItem
  setItem := MapArea.setItem
  removeItem := MapArea.removeItem

instance : StorageArea FileArea where
  isPresent _ := true
  getItem := FileArea.getItem
  setItem := FileArea.setItem
  removeItem := FileArea.removeItem

inductive Medium where
  | none
  | map (area : MapArea)
  | file (area : FileArea)

namespace Medium

def isPresent : Medium → Bool
  | .none => false
  | _ => true

def onArea {α : Type} (onMap : Op MapArea α) (onFile : Op FileArea α) : Op Medium α := do
  match ← Op.whole with
  | .none => Op.fail .missingOperation
  | .map area => Op.within (fun _ => area) (fun area _ => .map area) onMap
  | .file area => Op.within (fun _ => area) (fun area _ => .file area) onFile

def getItem (key : String) : Op Medium (Option Json) :=
  onArea (MapArea.getItem key) (FileArea.getItem key)

def setItem (key value : String) : Op Medium Unit :=
  onArea (MapArea.setItem key value) (FileArea.setItem key value)

def removeItem (key : String) : Op Medium Unit :=
  onArea (MapArea.removeItem key) (FileArea.removeItem key)

end Medium

instance : StorageArea Medium where
  isPresent := Medium.isPresent
  getItem := Medium.getItem
  setItem := Medium.setItem
  removeItem := Medium.removeItem

end ChatWidget
