import ChatWidget.Proofs.Store.Durable
import ChatWidget.Proofs.Store.History
/-!
Stores on media that work. Such a store stays durable, and its medium always keeps its current tree; and a
history finds in a store what the tree of the store has under its name, so two stores with one tree have one
history.
-/
namespace ChatWidget

namespace Store

open Op (Keeps)

variable {μ : Type} [StorageArea μ] {area : Mapping μ} {fine : μ → Prop} {key : String}

/-- Is a store durable, with its current tree kept by its medium under a key? -/
structure IsSaved (area : Mapping μ) (fine : μ → Prop) (key : String) (now : Store × μ) : Prop where
  durable : now.1.durable = true
  named : now.1.key = key
  sound : now.1.objects.AreSound
  fine : fine now.2
  kept : (document key (area.item now.2 key)).map .obj = .ok now.1.tree

theorem IsSaved.document {now : Store × μ} (saved : IsSaved area fine key now) :
    ∃ entries, now.1.tree = .obj entries ∧ document key (area.item now.2 key) = .ok entries := by
  have kept := saved.kept
  cases read : Store.document key (area.item now.2 key) with
  | error fault =>
    rw [read] at kept
    cases kept
  | ok entries =>
    rw [read] at kept
    exact ⟨entries, (Except.ok.inj kept).symm, rfl⟩

theorem commit_saved (works : Mapping.Works fine) {store : Store} (medium : Logged μ)
    (durable : store.durable = true) (named : store.key = key) (sound : store.objects.AreSound)
    (finely : fine medium.state) {kept : Json}
    (before : (document key (area.item medium.state key)).map .obj = .ok kept) :
    ∃ after, commit.start ⟨(store, medium.state), medium.log⟩ = (.ok (), after) ∧
      IsSaved area fine key after.state := by
  obtain ⟨after, done, saved⟩ := commit_isKept area works.failsSoftly named sound finely before
  obtain ⟨_, same, committed⟩ := commit_committed works.failsSoftly store medium fun _ => finely
  cases done.symm.trans same
  obtain ⟨last, wrote, -⟩ := works.setItem store.key store.tree.written medium finely
  have still : after.state.1.durable = true := by
    obtain ⟨⟨ended, there⟩, log⟩ := after
    dsimp only at committed ⊢
    cases committed with
    | idle none => exact durable
    | written => exact durable
    | givenUp _ failed => cases wrote.symm.trans failed
  rw [still, if_pos rfl] at saved
  exact ⟨after, done, still, saved.named, saved.sound, saved.calm, saved.kept⟩

theorem Change.saved (works : Mapping.Works fine) (change : Change) {now : Logged (Store × μ)}
    (saved : IsSaved area fine key now.state) : IsSaved area fine key (change.perform.start now).2.state := by
  rw [change.start_perform]
  cases applied : change.applied now.state.1 with
  | error fault => exact saved
  | ok store =>
    obtain ⟨-, named, durable⟩ := Change.applied_same applied
    obtain ⟨after, done, still⟩ := commit_saved works ⟨now.state.2, now.log⟩ (durable.trans saved.durable)
      (named.trans saved.named) (Change.applied_sound saved.sound applied) saved.fine saved.kept
    dsimp only
    rw [done]
    exact still

theorem set_saved (works : Mapping.Works fine) (path : Json) {offered : Offered} (tidy : offered.IsTidy)
    {now : Logged (Store × μ)} (saved : IsSaved area fine key now.state) :
    IsSaved area fine key ((Store.set path offered).start now).2.state :=
  Change.saved works (.set path offered tidy) saved

theorem openOn_fine (works : Mapping.Works fine) (name : Option String) : Keeps fine (openOn name) := by
  have setItem : ∀ key text, Keeps fine (StorageArea.setItem key text) := fun key text s holds => by
    obtain ⟨after, wrote, still⟩ := works.setItem key text s holds
    rw [wrote]
    exact still
  have removeItem : ∀ key, Keeps fine (StorageArea.removeItem key) := fun key s holds => by
    obtain ⟨after, removed, still⟩ := works.removeItem key s holds
    rw [removed]
    exact still
  have getItem : ∀ key, Keeps fine (StorageArea.getItem key) := fun key s holds => by
    obtain ⟨value, after, found, still⟩ := works.getItem key s holds
    rw [found]
    exact still
  have probe : ∀ key, Keeps fine (probe key) := fun key =>
    (setItem _ _).bind fun _ => (removeItem _).bind fun _ => (getItem _).bind fun _ => .lift _
  unfold openOn
  refine Keeps.whole.bind fun medium => ?_
  split
  · exact .pure _
  · refine (probe _).attempt.bind fun result => ?_
    cases result with
    | ok entries => exact .pure _
    | error fault =>
      dsimp only
      split
      · exact (Keeps.note _).bind fun _ => .pure _
      · exact .fail _

/-- A store that was opened durable is saved from the beginning. -/
theorem opened_saved (works : Mapping.Works fine) {name : Option String} {medium after : Logged μ} {store : Store}
    (finely : fine medium.state) (opened : (openOn name).start medium = (.ok store, after))
    (durable : store.durable = true) : IsSaved area fine (keyFor name) (store, after.state) := by
  have still := openOn_fine works name medium finely
  rw [opened] at still
  obtain ⟨entries, rfl, kept⟩ := openOn_durable area opened durable
  refine ⟨rfl, rfl, ofEntries_sound _ _ (document_sound kept), still, ?_⟩
  rw [kept, tree_ofEntries]
  rfl

theorem openOn_saved (works : Mapping.Works fine) {name : Option String} (other : keyFor name ≠ probeKey)
    (medium : Logged μ) (finely : fine medium.state) {entries : Entries Json}
    (found : document (keyFor name) (area.item medium.state (keyFor name)) = .ok entries) :
    ∃ after, (openOn name).start medium = (.ok (ofEntries (keyFor name) true entries), after) ∧
      IsSaved area fine (keyFor name) (ofEntries (keyFor name) true entries, after.state) := by
  obtain ⟨after, opened⟩ := openOn_works area works other finely found
  exact ⟨after, opened, opened_saved works finely opened rfl⟩

end Store

namespace History

variable {μ : Type} [StorageArea μ] {area : Mapping μ} {fine : μ → Prop} {key : String}

theorem clear_saved (works : Mapping.Works fine) (history : History) {s : Logged (Store × μ)}
    (saved : Store.IsSaved area fine key s.state) :
    Store.IsSaved area fine key (history.clear.start s).2.state := by
  apply Store.set_saved works history.path _ saved
  trivial

theorem all_sound {history : History} {store : Store} (sound : store.objects.AreSound) {entries : List Json}
    (found : history.all store = .ok entries) : Json.IsSound (.arr entries) := by
  have empty : Json.IsSound (.arr []) := Json.isSound_arr.mpr (by simp)
  obtain ⟨value, got, rest⟩ := bind_ok found
  obtain ⟨path, -, got⟩ := bind_ok got
  have proper : value.IsSound := by
    split at got
    next slot there =>
      cases got
      exact Objects.view_sound sound (Objects.slotAt?_sound sound there)
    next =>
      cases got
      exact empty
  split at rest
  next =>
    cases rest
    exact proper
  next =>
    cases rest
    exact empty

theorem append_saved (works : Mapping.Works fine) (history : History) (fragment : String)
    {s : Logged (Store × μ)} (saved : Store.IsSaved area fine key s.state) :
    Store.IsSaved area fine key ((history.append (.str fragment)).start s).2.state := by
  unfold append
  rw [Op.start_bind, Op.whole, Op.start_read]
  dsimp only [id]
  rw [Op.start_bind, Op.start_lift]
  cases found : history.all s.state.1 with
  | error fault => exact saved
  | ok entries =>
    apply Store.set_saved works history.path _ saved
    have each := Json.isSound_arr.mp (all_sound saved.sound found)
    refine Json.areTidy_iff.mpr ?_
    intro item member
    rcases List.mem_append.mp member with before | new
    · exact (each item before).tidy
    · rw [List.mem_singleton.mp new]
      trivial

/-- The entries of the list that a slot holds, if it holds one. -/
def entriesOf : Option Slot → List Json
  | some (.value (.arr entries)) => entries
  | _ => []

/-- A history finds the list that the root has an entry for, and nothing where it has none. -/
theorem all_eq_entry {history : History} {step : String} (way : Path.ofJson history.path = .ok [step])
    (store : Store) : history.all store = .ok (entriesOf ((store.objects.fields store.root).get? step)) := by
  have slot : store.slot? [step] = (store.objects.fields store.root).get? step := rfl
  unfold History.all
  rw [Store.get_at way, slot]
  cases (store.objects.fields store.root).get? step with
  | none => rfl
  | some slot =>
    rw [Option.map_some, Option.getD_some]
    unfold Objects.view
    cases slot with
    | value v =>
      rw [Objects.viewWithin_value]
      cases v <;> rfl
    | object id =>
      obtain ⟨fields, here⟩ := store.objects.viewWithin_object store.objects.entries.size id
      rw [here]
      rfl

/-- What a history finds in a store is the list that the tree of the store has under its name. -/
theorem all_eq_field {history : History} {step : String} (way : Path.ofJson history.path = .ok [step])
    {store : Store} (inside : store.root < store.objects.entries.size) :
    history.all store =
      .ok (match store.tree.field? step with
        | some (.arr entries) => entries
        | _ => []) := by
  obtain ⟨depth, size⟩ := Nat.exists_eq_succ_of_ne_zero (Nat.ne_zero_of_lt inside)
  have field : store.tree.field? step =
      ((store.objects.fields store.root).get? step).map (store.objects.viewWithin depth) := by
    unfold Store.tree Objects.view
    rw [size, Objects.viewWithin]
    exact Entries.get?_map (fun _ => store.objects.viewWithin depth) _ _
  rw [all_eq_entry way, field]
  cases (store.objects.fields store.root).get? step with
  | none => rfl
  | some slot =>
    rw [Option.map_some]
    cases slot with
    | value v =>
      rw [Objects.viewWithin_value]
      cases v <;> rfl
    | object id =>
      obtain ⟨fields, here⟩ := store.objects.viewWithin_object depth id
      rw [here]
      rfl

theorem all_eq_tree {store : Store} (inside : store.root < store.objects.entries.size) :
    ({} : History).all store =
      .ok (match store.tree.field? "history" with
        | some (.arr entries) => entries
        | _ => []) := all_eq_field rfl inside

end History

end ChatWidget
