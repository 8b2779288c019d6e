import ChatWidget.Proofs.Store.Acyclic
import ChatWidget.Proofs.Store.Durable
import ChatWidget.Proofs.Store.History
import ChatWidget.Proofs.Store.Neighbours
/-!
Putting back what was read. The slot that stands at a path is put where it is, so no mapping changes; only at the empty
path the root, which is to take over the entries of the mapping that is put there, has given up its own before.
-/
namespace ChatWidget

namespace Objects

theorem setFields_same (objects : Objects) (id : ObjectId) : objects.setFields id (objects.fields id) = objects := by
  unfold setFields fields
  obtain ⟨entries⟩ := objects
  congr 1
  apply Array.ext_getElem?
  intro other
  by_cases same : id = other
  · subst same
    rw [Array.getElem?_setIfInBounds_self]
    by_cases inside : id < entries.size
    · simp [inside]
    · simp [inside]
  · rw [Array.getElem?_setIfInBounds_ne same]

theorem putAt_found {objects : Objects} {id : ObjectId} {step : String} {rest : Path} {slot : Slot}
    (there : objects.slotAt? id (step :: rest) = some slot) : objects.putAt id step rest slot = objects := by
  induction rest generalizing id step with
  | nil =>
    rw [slotAt?] at there
    rw [putAt, Entries.put_found there, setFields_same]
  | cons next rest ih =>
    rw [slotAt?] at there
    split at there
    next inner found =>
      rw [putAt, found]
      exact ih there
    next => cases there

end Objects

namespace Store

variable {μ : Type} [StorageArea μ]

theorem put_found {store : Store} {step : String} {rest : Path} {slot : Slot}
    (there : store.slot? (step :: rest) = some slot) : store.put (step :: rest) slot = .ok store := by
  unfold slot? at there
  rw [Store.put, Objects.putAt_found there]

/-- The root is emptied before it takes over its own entries. -/
theorem put_root (store : Store) : store.put [] (.object store.root) =
    .ok { store with objects := store.objects.setFields store.root [] } := by
  rw [Store.put, Objects.setFields_same]

theorem tree_emptied (store : Store) :
    ({ store with objects := store.objects.setFields store.root [] } : Store).tree = .obj [] := by
  have gone : (store.objects.setFields store.root []).fields store.root = [] := by
    by_cases inside : store.root < store.objects.entries.size
    · rw [Objects.fields_setFields_self inside]
    · simp [Objects.setFields, Objects.fields, inside]
  unfold Store.tree Objects.view
  dsimp only
  cases (store.objects.setFields store.root []).entries.size with
  | zero => rw [Objects.viewWithin]
  | succ depth =>
    rw [Objects.viewWithin, gone]
    rfl

/-- What putting back comes to before the tree is written: nothing, or the loss of the whole tree. -/
theorem applied_back {store : Store} {path : Json} {steps : Path} (way : Path.ofJson path = .ok steps) {slot : Slot}
    (there : store.slot? steps = some slot) :
    ∃ changed, (Change.copy path path).applied store = .ok changed ∧ changed.key = store.key ∧
      changed.durable = store.durable ∧ (steps ≠ [] → changed = store) ∧ (steps = [] → changed.tree = .obj []) := by
  have applied : (Change.copy path path).applied store = store.put steps slot := by
    have prepared : (Change.copy path path).placing store = .ok ⟨store, path, slot⟩ := by
      unfold Change.placing
      dsimp only
      rw [way]
      change Except.ok (Placing.mk store path ((store.slot? steps).getD (.value .null))) = _
      rw [there]
      rfl
    unfold Change.applied
    rw [prepared]
    change (Path.ofJson path >>= fun steps => store.put steps slot) = _
    rw [way]
    rfl
  rw [applied]
  cases steps with
  | cons step rest => exact ⟨store, put_found there, rfl, rfl, fun _ => rfl, nofun⟩
  | nil =>
    cases there
    exact ⟨_, put_root store, rfl, rfl, fun further => absurd rfl further, fun _ => tree_emptied store⟩

/-! ### What a medium keeps of a run -/

theorem Session.step_now (s : Session μ) (change : Change) : (s.step change).now = (change.perform.start s.now).2 := by
  unfold Session.step
  split
  next ran => rw [ran]
  next ran => rw [ran]

theorem afterAll_isKept {area : Mapping μ} {calm : μ → Prop} (soft : FailsSoftly calm) {key : String}
    (uses : List Use) {now : Logged (Store × μ)} {kept : Json} (before : Session.IsKept area calm key ⟨now, kept⟩) :
    ∃ last, Session.IsKept area calm key ⟨afterAll uses now, last⟩ := by
  induction uses generalizing now kept with
  | nil => exact ⟨kept, before⟩
  | cons use uses ih =>
    cases use with
    | get path default =>
      have same : Session.IsKept area calm key ⟨(Use.get path default).after now, kept⟩ := by
        rw [(Use.answer_get now path default).2]
        exact before
      exact ih same
    | edit change =>
      have ran : (Session.step ⟨now, kept⟩ change).now = (Use.edit change).after now :=
        (Session.step_now _ _).trans (Use.answer_edit now change).2.symm
      have after : Session.IsKept area calm key
          ⟨(Use.edit change).after now, (Session.step ⟨now, kept⟩ change).kept⟩ := by
        rw [← ran]
        exact before.step soft change
      exact ih after

theorem afterAll_idle (uses : List Use) {now : Logged (Store × μ)} (idle : now.state.1.durable = false) :
    (afterAll uses now).state.1.durable = false := by
  induction uses generalizing now with
  | nil => exact idle
  | cons use uses ih =>
    obtain ⟨ran, still⟩ := use.start_idle idle ⟨now.state.2, now.log⟩
    have next : (use.after now).state.1 = use.left now.state.1 := congrArg (fun last => last.2.state.1) ran
    exact ih (by rw [next]; exact still)

theorem afterAll_current (area : Mapping μ) {calm : μ → Prop} (soft : FailsSoftly calm) {name : Option String}
    {medium opened : Logged μ} {store : Store} (found : (openOn name).start medium = (.ok store, opened))
    (calmly : calm opened.state) (uses : List Use)
    (durable : (afterAll uses ⟨(store, opened.state), opened.log⟩).state.1.durable = true) :
    let now := afterAll uses ⟨(store, opened.state), opened.log⟩
    now.state.1.objects.AreSound ∧
      (document (keyFor name) (area.item now.state.2 (keyFor name))).map .obj = .ok now.state.1.tree := by
  intro now
  have first : store.durable = true := by
    cases idle : store.durable with
    | true => rfl
    | false =>
      have still := @afterAll_idle _ _ uses ⟨(store, opened.state), opened.log⟩ idle
      exact absurd (still.symm.trans durable) Bool.false_ne_true
  obtain ⟨kept, holds⟩ := afterAll_isKept soft uses (Session.opened_isKept area found first calmly)
  have current := holds.kept
  rw [← holds.current durable] at current
  exact ⟨holds.sound, current⟩

/-! ### Putting back -/

theorem Committed.durable_iff {store after : Store} {medium : Logged μ} {last : μ}
    (committed : Committed store medium after last) :
    after.durable = true ↔ store.durable = true ∧
      ((StorageArea.setItem store.key after.tree.written).start medium).1 = .ok () := by
  cases committed with
  | idle none => simp [none]
  | written durable wrote => simp [durable, wrote]
  | @givenUp _ fault durable failed =>
    have same : ({ store with durable := false } : Store).tree = store.tree := rfl
    simp [same, failed]

theorem Committed.medium_same {store after : Store} {medium : Logged μ} {last : μ}
    (committed : Committed store medium after last) (idle : store.durable = false) : last = medium.state := by
  cases committed with
  | idle none => rfl
  | written durable wrote => exact absurd (idle.symm.trans durable) Bool.false_ne_true
  | givenUp durable failed => exact absurd (idle.symm.trans durable) Bool.false_ne_true

/-- Writing a tree that a medium keeps already leaves what it keeps, whether it succeeds or not. -/
theorem commit_keeps (area : Mapping μ) {calm : μ → Prop} (soft : FailsSoftly calm) {key : String} {store : Store}
    {medium : Logged μ} {last : Logged (Store × μ)} (named : store.key = key) (sound : store.objects.AreSound)
    (calmly : calm medium.state) (kept : (document key (area.item medium.state key)).map .obj = .ok store.tree)
    (done : commit.start ⟨(store, medium.state), medium.log⟩ = (.ok (), last)) (same : last.state.1.tree = store.tree) :
    document key (area.item last.state.2 key) = document key (area.item medium.state key) := by
  obtain ⟨again, ran, holds⟩ := commit_isKept area soft named sound calmly kept
  cases done.symm.trans ran
  have after := holds.kept
  dsimp only [Session.medium] at after
  rw [same, ite_self] at after
  cases before : document key (area.item medium.state key) with
  | error fault =>
    rw [before] at kept
    cases kept
  | ok entries =>
    rw [before] at kept
    cases there : document key (area.item last.state.2 key) with
    | error fault =>
      rw [there] at after
      cases after
    | ok others =>
      rw [there] at after
      exact congrArg Except.ok (Json.obj.inj (Except.ok.inj (after.trans kept.symm)))

/-- Take a store that was opened on a medium whose failures to write are outages, after any calls. Putting back what
stands at a path, through the store itself, is accepted, and the store stays durable if it was and the tree reaches the
medium. If the path is not empty this changes nothing: the tree, the document that the medium holds and what is read at
the path are as before, and so are the answers to all later calls. But at the empty path the whole tree is lost. -/
theorem put_back (area : Mapping μ) {calm : μ → Prop} (soft : FailsSoftly calm) {name : Option String}
    {medium opened : Logged μ} {store : Store} (found : (openOn name).start medium = (.ok store, opened))
    (calmly : calm opened.state) (uses : List Use) {path : Json} {steps : Path} {slot : Slot}
    (way : Path.ofJson path = .ok steps)
    (there : (afterAll uses ⟨(store, opened.state), opened.log⟩).state.1.slot? steps = some slot) :
    let now := afterAll uses ⟨(store, opened.state), opened.log⟩
    ∃ after, (Store.copy path path).start now = (.ok (), after) ∧
      (after.state.1.durable = true ↔ now.state.1.durable = true ∧
        ((StorageArea.setItem (keyFor name) after.state.1.tree.written).start ⟨now.state.2, now.log⟩).1 = .ok ()) ∧
      (steps ≠ [] →
        after.state.1.tree = now.state.1.tree ∧
        document (keyFor name) (area.item after.state.2 (keyFor name)) =
          document (keyFor name) (area.item now.state.2 (keyFor name)) ∧
        (∀ default, after.state.1.get path default = now.state.1.get path default) ∧
        ∀ later, answers later after = answers later now) ∧
      (steps = [] → after.state.1.tree = .obj []) := by
  intro now
  have start : StandsFor calm (store, opened.state) store := ⟨⟨rfl, rfl⟩, rfl, fun _ => calmly⟩
  have reached := (@answers_eq _ _ _ soft uses ⟨_, opened.log⟩ _ start).2
  have stands : StandsFor calm now.state now.state.1 := ⟨⟨rfl, rfl⟩, rfl, reached.calm⟩
  have named : now.state.1.key = keyFor name := by
    obtain ⟨_, _, rfl⟩ := openOn_ofEntries found
    exact reached.named.trans (leftAll_key uses _)
  obtain ⟨changed, applied, key, durable, same, emptied⟩ := applied_back way there
  have calmly' : changed.durable = true → calm now.state.2 := fun still => stands.calm (durable.symm.trans still)
  obtain ⟨after, done, committed⟩ := commit_committed soft changed ⟨now.state.2, now.log⟩ calmly'
  obtain ⟨objects, root, key', calm'⟩ := committed.same soft calmly'
  have alike : SameTree after.state.1 changed := ⟨objects, root⟩
  refine ⟨after, ?_, ?_, ?_, ?_⟩
  · have ran := (Change.copy path path).start_perform now
    rw [applied] at ran
    exact ran.trans done
  · rw [← named, ← durable, ← key]
    exact committed.durable_iff
  · intro further
    cases same further
    refine ⟨alike.tree, ?_, fun default => alike.get path default, fun later => ?_⟩
    · cases still : now.state.1.durable with
      | true =>
        obtain ⟨sound, kept⟩ := afterAll_current area soft found calmly uses still
        exact commit_keeps area soft named sound (reached.calm still) kept done alike.tree
      | false => rw [committed.medium_same still]
    · have stood : StandsFor calm after.state now.state.1 := ⟨alike, key', calm'⟩
      rw [(answers_eq soft later stood).1, (answers_eq soft later stands).1]
  · intro empty
    rw [alike.tree]
    exact emptied empty

/-- A mapping that stands at two places is put back at the second. -/
theorem put_back_copied :
    let uses : List Use := [.edit (.set (.str "a.b") (.data (.int 1)) trivial), .edit (.copy (.str "a") (.str "c"))]
    let opened : Logged MapArea := ⟨{ calls := [.set "test" "test", .remove "test", .get "k"] }, []⟩
    let now := afterAll uses ⟨(ofEntries "k" true [], opened.state), opened.log⟩
    let tree : Entries Json := [("a", .obj [("b", .int 1)]), ("c", .obj [("b", .int 1)])]
    (openOn (some "k")).start ⟨{}, []⟩ = (.ok (ofEntries "k" true []), opened) ∧
      now.state.1.get (.str "c") .null = .ok (.obj [("b", .int 1)]) ∧
      ∃ after, (Store.copy (.str "c") (.str "c")).start now = (.ok (), after) ∧
        after.state.1.durable = true ∧ after.state.1.tree = .obj tree ∧
        document "k" (after.state.2.items.get? "k") = .ok tree := by
  intro uses opened now tree
  have found : (openOn (some "k")).start ⟨{}, []⟩ = (.ok (ofEntries "k" true []), opened) := rfl
  have way : Path.ofJson (.str "c") = .ok ["c"] := rfl
  have there : now.state.1.slot? ["c"] = some (.object 1) := rfl
  obtain ⟨after, done, durable, same, -⟩ := put_back MapArea.mapping MapArea.failsSoftly found rfl uses way there
  obtain ⟨kept, unchanged, -, -⟩ := same (List.cons_ne_nil _ _)
  have sound : Json.IsSound (.obj tree) :=
    ⟨⟨show (["a", "c"] : List String).Nodup by decide, ⟨List.nodup_singleton _, trivial, trivial⟩,
      ⟨List.nodup_singleton _, trivial, trivial⟩, trivial⟩, rfl⟩
  exact ⟨found, rfl, after, done, durable.mpr ⟨rfl, rfl⟩, kept, unchanged.trans (document_written "k" sound)⟩

/-- The mapping that is read at the empty path is the root itself. Putting it back there empties the tree, and the
medium is told so. -/
theorem put_back_root_empties :
    let uses : List Use := [.edit (.set (.str "a") (.data (.int 1)) trivial)]
    let opened := (openOn (some "k")).start (⟨{}, []⟩ : Logged MapArea)
    let now := afterAll uses ⟨(ofEntries "k" true [], opened.2.state), opened.2.log⟩
    let last := (Store.copy (.str "") (.str "")).start now
    opened.1 = .ok (ofEntries "k" true []) ∧ now.state.1.get (.str "") .null = .ok (.obj [("a", .int 1)]) ∧
      last.1 = .ok () ∧ last.2.state.1.get (.str "") .null = .ok (.obj []) ∧ last.2.state.1.durable = true ∧
      now.state.2.items = [("k", .str "\x7b\"a\": 1\x7d")] ∧ last.2.state.2.items = [("k", .str "\x7b\x7d")] := by
  exact ⟨rfl, rfl, rfl, rfl, rfl, rfl, rfl⟩

end Store

end ChatWidget
