import ChatWidget.Proofs.Store.File
/-!
What opening a store does to its medium. The medium is tried out with an item that is written and removed
again, and then it is read; so on a medium that works every other item stays, and the store depends on
nothing but the item under its own key.
-/
namespace ChatWidget.Store

/-- The store that is opened where its key has the given item, or why none is. -/
def openedFrom (key : String) (item : Option Json) : Except Fault Store :=
  match document key item with
  | .ok entries => .ok (ofEntries key true entries)
  | .error fault => if isOutage fault then .ok (ofEntries key false []) else .error fault

theorem openedFrom_key {key : String} {item : Option Json} {store : Store}
    (opened : openedFrom key item = .ok store) : store.key = key := by
  unfold openedFrom at opened
  split at opened
  · cases opened
    rfl
  · split at opened
    · cases opened
      rfl
    · cases opened

variable {μ : Type} [StorageArea μ] {fine : μ → Prop}

/-- Trying a medium out takes the item away that it is tried out with, and brings the tree under a key as it
is then. -/
theorem start_probe (area : Mapping μ) (works : Mapping.Works fine) (key : String) {medium : Logged μ}
    (finely : fine medium.state) :
    ∃ after, (probe key).start medium = (document key (area.item after.state key), after) ∧
      fine after.state ∧ area.item after.state = Function.update (area.item medium.state) probeKey none := by
  obtain ⟨second, written, fineSecond⟩ := works.setItem probeKey probeKey medium finely
  obtain ⟨third, removed, fineThird⟩ := works.removeItem probeKey second fineSecond
  obtain ⟨value, last, found, still⟩ := works.getItem key third fineThird
  obtain ⟨read, same⟩ := area.getItem found
  refine ⟨last, ?_, still, ?_⟩
  · unfold probe load
    simp only [Op.start_bind, written, removed, found, Op.start_lift]
    rw [same, ← read]
  · rw [same, area.removeItem removed, area.setItem written, Function.update_idem]

/-- On a medium that works a store is opened from the item that its key has once the medium has been tried
out. -/
theorem start_openOn (area : Mapping μ) (works : Mapping.Works fine) (name : Option String)
    {medium : Logged μ} (finely : fine medium.state) :
    ∃ after, (openOn name).start medium = (openedFrom (keyFor name) (area.item after.state (keyFor name)), after) ∧
      fine after.state ∧ area.item after.state = Function.update (area.item medium.state) probeKey none := by
  obtain ⟨probed, tried, still, items⟩ := start_probe area works (keyFor name) finely
  have attempted : (Op.attempt (probe (keyFor name))).start medium =
      (.ok (document (keyFor name) (area.item probed.state (keyFor name))), probed) := by
    simp only [Op.start_attempt, tried]
  have ran : (openOn name).start medium =
      (match document (keyFor name) (area.item probed.state (keyFor name)) with
        | .ok entries => pure (ofEntries (keyFor name) true entries)
        | .error fault =>
          if isOutage fault then do
            Op.note (.storeUnavailable fault.message)
            pure (ofEntries (keyFor name) false [])
          else Op.fail fault : Op μ Store).start probed := by
    unfold openOn
    dsimp only
    rw [Op.start_bind, Op.whole, Op.start_read]
    dsimp only [id]
    rw [works.present _ finely, Bool.not_true, if_neg Bool.false_ne_true]
    exact Op.start_bind_ok attempted _
  rw [ran]
  cases read : document (keyFor name) (area.item probed.state (keyFor name)) with
  | ok entries =>
    refine ⟨probed, ?_, still, items⟩
    rw [openedFrom, read]
    rfl
  | error fault =>
    dsimp only
    split
    next outage =>
      refine ⟨{ probed with log := probed.log ++ [.storeUnavailable fault.message] }, ?_, still, items⟩
      rw [openedFrom, read]
      dsimp only
      rw [if_pos outage]
      rfl
    next unexpected =>
      refine ⟨probed, ?_, still, items⟩
      rw [openedFrom, read]
      dsimp only
      rw [if_neg unexpected]
      rfl

/-- In a folder that is none, or with a file that cannot be read, a store is opened in memory. -/
theorem start_openOn_unfit {medium : Logged FileArea} (unfit : ¬ medium.state.IsFine) (name : Option String) :
    ∃ after : Logged FileArea, (openOn name).start medium = (.ok (ofEntries (keyFor name) false []), after) ∧
      after.state = medium.state := by
  obtain ⟨-, fault, failed, outage⟩ := (FileArea.start_setItem probeKey probeKey medium).resolve_right fun fine =>
    unfit fine.1
  have tried : (probe (keyFor name)).start medium = (.error fault, medium) := Op.start_bind_error failed _
  refine ⟨{ medium with log := medium.log ++ [.storeUnavailable fault.message] }, ?_, rfl⟩
  unfold openOn
  dsimp only
  rw [Op.start_bind, Op.whole, Op.start_read]
  change (Op.attempt (probe (keyFor name)) >>= _).start medium = _
  rw [Op.start_bind, Op.start_attempt, tried]
  dsimp only
  rw [if_pos outage]
  rfl

/-- Opening a store, under whatever key and with whatever result, on a medium that works leaves every item
but the one that a medium is tried out with. Of that one nothing is left. -/
theorem openOn_keeps_items (area : Mapping μ) (works : Mapping.Works fine) (name : Option String)
    (medium : Logged μ) (finely : fine medium.state) :
    let after := ((openOn name).start medium).2.state
    (∀ key, key ≠ probeKey → area.item after key = area.item medium.state key) ∧
      area.item after probeKey = none := by
  obtain ⟨after, ran, -, items⟩ := start_openOn area works name finely
  rw [ran]
  dsimp only
  rw [items]
  exact ⟨fun key other => Function.update_of_ne other _ _, Function.update_self _ _ _⟩

/-- A file with the trees of two stores keeps both while one of them is opened. -/
theorem openOn_keeps_items_file :
    let entries : Entries Json := [("a", .str "\x7b\"x\": 1\x7d"), ("b", .str "\x7b\x7d")]
    let area := FileArea.holding { root := "data" } entries
    area.IsFine ∧
      FileArea.mapping.item ((openOn (some "a")).start ⟨area, []⟩).2.state "b" = some (.str "\x7b\x7d") := by
  intro entries area
  have empty : Json.IsSound (.obj []) := Json.isSound_obj.mpr ⟨List.nodup_nil, by simp⟩
  have sound : Json.IsSound (.obj entries) :=
    FileArea.put_sound (FileArea.put_sound empty "a" "\x7b\"x\": 1\x7d") "b" "\x7b\x7d"
  have fine : area.IsFine := .holding _ sound
  have kept := (openOn_keeps_items FileArea.mapping FileArea.works (some "a") ⟨area, []⟩ fine).1
    "b" (by decide)
  refine ⟨fine, kept.trans ?_⟩
  change FileArea.item area "b" = _
  rw [FileArea.item_eq (FileArea.entries_holding _ sound)]
  rfl

/-- An item of somebody else under the key with which a medium is tried out is lost, although no call on the
medium fails. -/
theorem openOn_removes_probeKey_item :
    let area : MapArea := { items := [("test", .str "mine")] }
    let after := ((openOn (some "k")).start ⟨area, []⟩).2.state
    (∀ n, area.getOutages.hits n = false ∧ area.setOutages.hits n = false ∧ area.removeOutages.hits n = false) ∧
      area.items.get? "test" = some (.str "mine") ∧ after.items.get? "test" = none :=
  ⟨fun _ => ⟨rfl, rfl, rfl⟩, rfl, rfl⟩

end ChatWidget.Store
