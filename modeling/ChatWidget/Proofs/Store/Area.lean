import ChatWidget.Proofs.Entries
import ChatWidget.Proofs.Store.Commit
import Mathlib.Logic.Function.Basic
/-!
Areas that behave as a map from keys to items. What an area holds may be kept in any way and next to
anything else; what counts is which item a key has before and after an operation. The areas in memory are
of this kind, whatever outages are planned for them.
-/
namespace ChatWidget

/-- An area in which items are found as they were written. An operation of writing that fails has written
nothing. -/
structure Mapping (μ : Type) [StorageArea μ] where
  item : μ → String → Option Json
  getItem : ∀ {key : String} {now after : Logged μ} {value : Option Json},
    (StorageArea.getItem key).start now = (.ok value, after) →
      value = item now.state key ∧ item after.state = item now.state
  setItem : ∀ {key text : String} {now after : Logged μ},
    (StorageArea.setItem key text).start now = (.ok (), after) →
      item after.state = Function.update (item now.state) key (some (.str text))
  setItem_failed : ∀ {key text : String} {now after : Logged μ} {fault : Fault},
    (StorageArea.setItem key text).start now = (.error fault, after) →
      item after.state = item now.state
  removeItem : ∀ {key : String} {now after : Logged μ},
    (StorageArea.removeItem key).start now = (.ok (), after) →
      item after.state = Function.update (item now.state) key none

namespace Mapping

variable {μ : Type} [StorageArea μ]

/-- Does everything succeed from the given states on? -/
structure Works (fine : μ → Prop) : Prop where
  present : ∀ medium, fine medium → StorageArea.isPresent medium = true
  getItem : ∀ (key : String) (now : Logged μ), fine now.state →
    ∃ value after, (StorageArea.getItem key).start now = (.ok value, after) ∧ fine after.state
  setItem : ∀ (key text : String) (now : Logged μ), fine now.state →
    ∃ after, (StorageArea.setItem key text).start now = (.ok (), after) ∧ fine after.state
  removeItem : ∀ (key : String) (now : Logged μ), fine now.state →
    ∃ after, (StorageArea.removeItem key).start now = (.ok (), after) ∧ fine after.state

theorem Works.failsSoftly {fine : μ → Prop} (works : Works fine) : Store.FailsSoftly fine := by
  intro key text now holds
  obtain ⟨after, wrote, still⟩ := works.setItem key text now holds
  rw [wrote]
  exact ⟨still, fun fault failed => by cases failed⟩

end Mapping

/-! ### Areas in memory -/

namespace MapArea

theorem start_getItem (key : String) (now : Logged MapArea) :
    (getItem key).start now =
      (if now.state.getOutages.hits (now.state.record (.get key)).getCount then
          .error now.state.outage
        else .ok (now.state.items.get? key),
        { now with state := now.state.record (.get key) }) := by
  unfold getItem
  rw [Op.start_bind, Op.start_change]
  dsimp only
  rw [Op.start_bind, Op.whole, Op.start_read]
  dsimp only [id]
  change ((if now.state.getOutages.hits _ then _ else _ : Op MapArea (Option Json))).start _ = _
  split
  · rfl
  · rfl

theorem start_setItem (key text : String) (now : Logged MapArea) :
    (setItem key text).start now =
      if now.state.setOutages.hits (now.state.record (.set key text)).setCount then
        (.error now.state.outage, { now with state := now.state.record (.set key text) })
      else
        (.ok (), { now with
          state := { now.state.record (.set key text) with
            items := now.state.items.put key (.str text) } }) := by
  unfold setItem
  rw [Op.start_bind, Op.start_change]
  dsimp only
  rw [Op.start_bind, Op.whole, Op.start_read]
  dsimp only [id]
  change ((if now.state.setOutages.hits _ then _ else _ : Op MapArea Unit)).start _ = _
  split
  · rfl
  · rfl

theorem start_removeItem (key : String) (now : Logged MapArea) :
    (removeItem key).start now =
      if now.state.removeOutages.hits (now.state.record (.remove key)).removeCount then
        (.error now.state.outage, { now with state := now.state.record (.remove key) })
      else
        (.ok (), { now with
          state := { now.state.record (.remove key) with items := now.state.items.erase key } }) := by
  unfold removeItem
  rw [Op.start_bind, Op.start_change]
  dsimp only
  rw [Op.start_bind, Op.whole, Op.start_read]
  dsimp only [id]
  change ((if now.state.removeOutages.hits _ then _ else _ : Op MapArea Unit)).start _ = _
  split
  · rfl
  · rfl

theorem get?_put (items : Entries Json) (key : String) (value : Json) :
    (items.put key value).get? = Function.update items.get? key (some value) := by
  funext other
  by_cases same : other = key
  · subst same
    rw [Entries.get?_put_self, Function.update_self]
  · rw [Entries.get?_put_of_ne items value same, Function.update_of_ne same]

theorem get?_erase (items : Entries Json) (key : String) :
    (items.erase key).get? = Function.update items.get? key none := by
  funext other
  by_cases same : other = key
  · subst same
    rw [Entries.get?_erase_self, Function.update_self]
  · rw [Entries.get?_erase_of_ne items same, Function.update_of_ne same]

/-- An area in memory behaves as a map. -/
def mapping : Mapping MapArea where
  item area := area.items.get?
  getItem := by
    intro key now after value read
    have same := (start_getItem key now).symm.trans read
    split at same
    · cases same
    · cases same
      exact ⟨rfl, rfl⟩
  setItem := by
    intro key text now after written
    have same := (start_setItem key text now).symm.trans written
    split at same
    · cases same
    · cases same
      exact get?_put _ _ _
  setItem_failed := by
    intro key text now after fault written
    have same := (start_setItem key text now).symm.trans written
    split at same
    · cases same
      rfl
    · cases same
  removeItem := by
    intro key now after removed
    have same := (start_removeItem key now).symm.trans removed
    split at same
    · cases same
    · cases same
      exact get?_erase _ _

theorem failsSoftly :
    Store.FailsSoftly fun area : MapArea => Store.isWriteOutage area.outage = true := by
  intro key text now soft
  have same : (StorageArea.setItem key text).start now = _ := start_setItem key text now
  rw [same]
  split
  · refine ⟨soft, ?_⟩
    rintro fault ⟨⟩
    exact soft
  · refine ⟨soft, ?_⟩
    rintro fault ⟨⟩

theorem works : Mapping.Works fun area : MapArea =>
    (∀ n, area.getOutages.hits n = false) ∧ (∀ n, area.setOutages.hits n = false) ∧
      ∀ n, area.removeOutages.hits n = false where
  present _ _ := rfl
  getItem := by
    intro key now fine
    have same : (StorageArea.getItem key).start now = _ := start_getItem key now
    rw [fine.1] at same
    exact ⟨_, _, same, fine⟩
  setItem := by
    intro key text now fine
    have same : (StorageArea.setItem key text).start now = _ := start_setItem key text now
    rw [fine.2.1] at same
    exact ⟨_, same, fine⟩
  removeItem := by
    intro key now fine
    have same : (StorageArea.removeItem key).start now = _ := start_removeItem key now
    rw [fine.2.2] at same
    exact ⟨_, same, fine⟩

end MapArea

end ChatWidget
