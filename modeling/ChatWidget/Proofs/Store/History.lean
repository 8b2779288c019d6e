import ChatWidget.Proofs.Store.Acyclic
import ChatWidget.Proofs.Store.Commit
import ChatWidget.Store.History
/-!
What a history records. As long as a medium fails only in ways that a store copes with, an entry that is
added is the last one from then on, and nothing is left of a history that was cleared.
-/
namespace ChatWidget

variable {μ : Type} [StorageArea μ]

namespace Store

/-- Is the tree one in which no mapping stands inside itself? -/
structure IsOrderly (store : Store) : Prop where
  acyclic : store.objects.AreAcyclic
  inside : store.root < store.objects.entries.size

theorem ofEntries_isOrderly (key : String) (durable : Bool) (entries : Entries Json) :
    (ofEntries key durable entries).IsOrderly := by
  obtain ⟨acyclic, inside⟩ := Objects.takeIn_acyclic (.obj entries) ⟨_, Objects.IsRanked.empty⟩
  rw [Objects.takeIn_obj] at acyclic inside
  exact ⟨acyclic, inside _ rfl⟩

theorem openOn_ofEntries {key : Option String} {medium after : Logged μ} {store : Store}
    (opened : (openOn key).start medium = (.ok store, after)) :
    ∃ durable entries, store = ofEntries (keyFor key) durable entries := by
  rcases openOn_cases opened with rfl | ⟨entries, rfl, -⟩
  · exact ⟨false, [], rfl⟩
  · exact ⟨true, entries, rfl⟩

theorem openOn_isOrderly {key : Option String} {medium after : Logged μ} {store : Store}
    (opened : (openOn key).start medium = (.ok store, after)) : store.IsOrderly := by
  obtain ⟨durable, entries, rfl⟩ := openOn_ofEntries opened
  exact ofEntries_isOrderly _ _ _

theorem get_at {store : Store} {path : Json} {steps : Path} (way : Path.ofJson path = .ok steps)
    (default : Json) :
    store.get path default = .ok (((store.slot? steps).map store.objects.view).getD default) := by
  unfold get
  rw [way]
  dsimp only [bind, Except.bind]
  cases store.slot? steps with
  | none => rfl
  | some slot => rfl

theorem set_found {calm : μ → Prop} (soft : FailsSoftly calm) {now : Logged (Store × μ)}
    (orderly : now.state.1.IsOrderly) (calmly : now.state.1.durable = true → calm now.state.2)
    {path : Json} {step : String} {rest : Path} (way : Path.ofJson path = .ok (step :: rest)) (value : Json)
    (leaf : ∀ fields, value ≠ .obj fields) (writable : value.isWritable = true) :
    ∃ after, (Store.set path (.data value)).start now = (.ok (), after) ∧ after.state.1.IsOrderly ∧
      (after.state.1.durable = true → calm after.state.2) ∧
      ∀ default, after.state.1.get path default = .ok value := by
  obtain ⟨⟨rank, ranked⟩, inside⟩ := orderly
  have put := Objects.putAt_isPut ranked inside step rest value
  have offered : (Offered.data value).value = .ok value := by
    rw [Offered.value, if_pos writable]
  obtain ⟨after, done, committed⟩ := commit_committed soft
    { now.state.1 with
      objects := now.state.1.objects.putAt now.state.1.root step rest (.value value) }
    ⟨now.state.2, now.log⟩ calmly
  obtain ⟨objects, root, -, calm⟩ := committed.same soft calmly
  refine ⟨after, ?_, ⟨?_, ?_⟩, calm, ?_⟩
  · unfold Store.set
    rw [offered]
    dsimp only
    rw [Op.start_bind, Op.whole, Op.start_read]
    dsimp only [id]
    rw [Objects.takeIn_leaf leaf, place, way, Op.start_bind, Op.start_lift]
    dsimp only
    rw [Op.start_bind, Op.start_lift]
    exact done
  · rw [objects]
    exact put.acyclic
  · rw [objects, root]
    exact Nat.lt_of_lt_of_le inside put.grown
  · intro default
    have found : after.state.1.slot? (step :: rest) = some (.value value) := by
      rw [slot?, objects, root]
      exact put.found
    rw [get_at way, found, Option.map_some, Option.getD_some, Objects.view, Objects.viewWithin_value]

end Store

namespace History

/-- Does a history record the entries, in a store whose medium can be written or does without? -/
structure Records (history : History) (calm : μ → Prop) (now : Store × μ) (entries : List Json) : Prop where
  orderly : now.1.IsOrderly
  calm : now.1.durable = true → calm now.2
  found : history.all now.1 = .ok entries

variable {history : History} {calm : μ → Prop} {step : String} {rest : Path} {entries : List Json}

theorem all_of_get {store : Store}
    (found : ∀ default, store.get history.path default = .ok (.arr entries)) :
    history.all store = .ok entries := by
  unfold all
  rw [found]
  rfl

theorem append_records (soft : Store.FailsSoftly calm) (way : Path.ofJson history.path = .ok (step :: rest))
    (now : Logged (Store × μ)) (records : history.Records calm now.state entries) {entry : Json}
    (writable : Json.areWritable (entries ++ [entry]) = true) :
    ∃ after, (history.append entry).start now = (.ok (), after) ∧
      history.Records calm after.state (entries ++ [entry]) := by
  obtain ⟨after, done, orderly, calmly, found⟩ := Store.set_found soft records.orderly records.calm way
    (.arr (entries ++ [entry])) (by simp) writable
  refine ⟨after, ?_, orderly, calmly, all_of_get found⟩
  unfold append
  rw [Op.start_bind, Op.whole, Op.start_read]
  dsimp only [id]
  rw [Op.start_bind, Op.start_lift, records.found]
  exact done

theorem clear_records (soft : Store.FailsSoftly calm) (way : Path.ofJson history.path = .ok (step :: rest))
    (now : Logged (Store × μ)) (records : history.Records calm now.state entries) :
    ∃ after, history.clear.start now = (.ok (), after) ∧ history.Records calm after.state [] := by
  obtain ⟨after, done, orderly, calmly, found⟩ := Store.set_found soft records.orderly records.calm way
    (.arr []) (by simp) rfl
  exact ⟨after, done, orderly, calmly, all_of_get found⟩

end History

end ChatWidget
