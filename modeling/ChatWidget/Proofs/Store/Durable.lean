import ChatWidget.Proofs.Json.ReadSound
import ChatWidget.Proofs.Json.RoundTrip
import ChatWidget.Proofs.Store.Change
import ChatWidget.Proofs.Store.Opening
/-!
What a medium keeps of a store is always one of the trees that the store had: the one at the last write
that succeeded. This holds through rejected calls, shared mappings and the write at which the store gives its
medium up, and whoever opens a store there later starts from that tree.
-/
namespace ChatWidget

namespace Store

variable {μ : Type} [StorageArea μ]

/-- A store with its medium in the middle of a run, and the tree as it was at the last write that
succeeded. -/
structure Session (μ : Type) where
  now : Logged (Store × μ)
  kept : Json

namespace Session

def store (s : Session μ) : Store := s.now.state.1

def medium (s : Session μ) : μ := s.now.state.2

/-- One call. Its write has succeeded if the call has and the store is still durable. -/
def step (s : Session μ) (change : Change) : Session μ :=
  match change.perform.start s.now with
  | (.ok (), after) => ⟨after, if after.state.1.durable then after.state.1.tree else s.kept⟩
  | (.error _, after) => ⟨after, s.kept⟩

/-- Any number of calls, whether they succeed or not. -/
def run (s : Session μ) (changes : List Change) : Session μ := changes.foldl step s

end Session

/-! ### Opening -/

theorem tree_ofEntries (key : String) (durable : Bool) (entries : Entries Json) :
    (ofEntries key durable entries).tree = .obj entries := by
  have seen := Objects.view_takeIn (.obj entries)
  rw [Objects.takeIn_obj] at seen
  exact seen

theorem ofEntries_sound (key : String) (durable : Bool) {entries : Entries Json}
    (sound : Json.IsSound (.obj entries)) : (ofEntries key durable entries).objects.AreSound := by
  have taken := (Objects.takeIn_sound sound Objects.AreSound.empty).2
  rw [Objects.takeIn_obj] at taken
  exact taken

theorem tree_sound {store : Store} (sound : store.objects.AreSound) : store.tree.IsSound :=
  Objects.view_sound sound trivial

theorem document_written (key : String) {entries : Entries Json}
    (sound : Json.IsSound (.obj entries)) :
    document key (some (.str (Json.obj entries).written)) = .ok entries := by
  have back := Json.read_written sound
  have nonempty : (Json.obj entries).written.isEmpty = false := by
    rw [Bool.eq_false_iff, ne_eq, String.isEmpty_iff, Json.written, String.ofList_eq_empty_iff]
    exact Json.writtenChars_ne_nil sound
  simp only [document, nonempty, back]
  rfl

theorem document_sound {key : String} {item : Option Json} {entries : Entries Json}
    (found : document key item = .ok entries) : Json.IsSound (.obj entries) := by
  unfold document at found
  split at found
  next =>
    cases found
    exact Json.isSound_empty
  next text =>
    split at found
    next =>
      cases found
      exact Json.isSound_empty
    next =>
      split at found
      next => cases found
      next inner read =>
        cases found
        exact Json.read_sound read
      next => cases found
  next item _ _ =>
    split at found
    next => cases found
    next =>
      cases found
      exact Json.isSound_empty

theorem openOn_durable (area : Mapping μ) {key : Option String} {medium after : Logged μ}
    {store : Store} (opened : (openOn key).start medium = (.ok store, after))
    (durable : store.durable = true) :
    ∃ entries, store = ofEntries (keyFor key) true entries ∧
      document (keyFor key) (area.item after.state (keyFor key)) = .ok entries := by
  rcases openOn_cases opened with rfl | ⟨entries, rfl, probed⟩
  · cases durable
  · obtain ⟨last, item, read, holds⟩ := probe_ok probed
    obtain ⟨found, same⟩ := area.getItem read
    refine ⟨entries, rfl, ?_⟩
    rw [same, ← found]
    exact holds

/-- On a medium that works a store is opened with the tree that the medium keeps. -/
theorem openOn_works (area : Mapping μ) {fine : μ → Prop} (works : Mapping.Works fine)
    {key : Option String} (other : keyFor key ≠ probeKey) {medium : Logged μ} (now : fine medium.state)
    {entries : Entries Json}
    (kept : document (keyFor key) (area.item medium.state (keyFor key)) = .ok entries) :
    ∃ after, (openOn key).start medium = (.ok (ofEntries (keyFor key) true entries), after) := by
  obtain ⟨after, ran, -, items⟩ := start_openOn area works key now
  refine ⟨after, ran.trans ?_⟩
  rw [openedFrom, items, Function.update_of_ne other, kept]

/-! ### One call -/

theorem tree_obj (store : Store) : ∃ entries, store.tree = .obj entries :=
  store.objects.viewWithin_object _ store.root

/-- What is durable of a sound store: the medium keeps the tree of the last write, which is the current one
as long as the medium is not given up. -/
structure Session.IsKept (area : Mapping μ) (calm : μ → Prop) (key : String) (s : Session μ) : Prop where
  named : s.store.key = key
  sound : s.store.objects.AreSound
  calm : calm s.medium
  kept : (document key (area.item s.medium key)).map .obj = .ok s.kept
  current : s.store.durable = true → s.store.tree = s.kept

/-- Writing keeps what is durable in step with the last write that succeeded. -/
theorem commit_isKept (area : Mapping μ) {calm : μ → Prop} (soft : FailsSoftly calm)
    {key : String} {store : Store} {medium : Logged μ} {kept : Json}
    (named : store.key = key) (sound : store.objects.AreSound) (calmly : calm medium.state)
    (before : (document key (area.item medium.state key)).map .obj = .ok kept) :
    ∃ after, commit.start ⟨(store, medium.state), medium.log⟩ = (.ok (), after) ∧
      Session.IsKept area calm key ⟨after, if after.state.1.durable then after.state.1.tree else kept⟩ := by
  obtain ⟨still, -⟩ := soft store.key store.tree.written medium calmly
  obtain ⟨⟨⟨ended, last⟩, log⟩, done, committed⟩ := commit_committed soft store medium fun _ => calmly
  refine ⟨_, done, ?_⟩
  dsimp only at committed ⊢
  cases committed with
  | idle none =>
    rw [none]
    exact ⟨named, sound, calmly, before, fun now => absurd (none.symm.trans now) Bool.false_ne_true⟩
  | @written after durable wrote =>
    obtain ⟨entries, whole⟩ := tree_obj store
    rw [durable, if_pos rfl]
    rw [wrote] at still
    refine ⟨named, sound, still, ?_, fun _ => rfl⟩
    change (document key (area.item after.state key)).map Json.obj = .ok store.tree
    rw [area.setItem wrote, ← named, Function.update_self, whole,
      document_written store.key (whole ▸ tree_sound sound)]
    rfl
  | @givenUp after fault durable failed =>
    rw [failed] at still
    refine ⟨named, sound, still, ?_, fun impossible => absurd impossible Bool.false_ne_true⟩
    change (document key (area.item after.state key)).map Json.obj = .ok kept
    rw [area.setItem_failed failed]
    exact before

/-- One call keeps what is durable in step with the last write. -/
theorem Session.IsKept.step {area : Mapping μ} {calm : μ → Prop} (soft : FailsSoftly calm)
    {key : String} {s : Session μ} (before : s.IsKept area calm key) (change : Change) :
    (s.step change).IsKept area calm key := by
  unfold Session.step
  rw [change.start_perform]
  cases applied : change.applied s.now.state.1 with
  | error fault => exact before
  | ok store =>
    obtain ⟨-, named, -⟩ := Change.applied_same applied
    obtain ⟨after, done, kept⟩ := commit_isKept area soft (named.trans before.named)
      (Change.applied_sound before.sound applied)
      (show calm (Logged.mk s.now.state.2 s.now.log).state from before.calm) before.kept
    dsimp only
    rw [done]
    exact kept

/-- So do any number of calls. -/
theorem Session.IsKept.run {area : Mapping μ} {calm : μ → Prop} (soft : FailsSoftly calm)
    {key : String} {s : Session μ} (before : s.IsKept area calm key) (changes : List Change) :
    (s.run changes).IsKept area calm key := by
  induction changes generalizing s with
  | nil => exact before
  | cons change rest ih => exact ih (before.step soft change)

/-- A store that was just opened, with the tree it has found. -/
def Session.opened (store : Store) (medium : Logged μ) : Session μ :=
  ⟨⟨(store, medium.state), medium.log⟩, store.tree⟩

theorem Session.opened_isKept (area : Mapping μ) {calm : μ → Prop} {key : Option String}
    {medium after : Logged μ} {store : Store}
    (opened : (openOn key).start medium = (.ok store, after)) (durable : store.durable = true)
    (calmly : calm after.state) : (Session.opened store after).IsKept area calm (keyFor key) := by
  obtain ⟨entries, rfl, found⟩ := openOn_durable area opened durable
  refine ⟨rfl, ofEntries_sound _ _ (document_sound found), calmly, ?_, fun _ => rfl⟩
  change (document _ (area.item after.state _)).map Json.obj = .ok (ofEntries _ true entries).tree
  rw [found, tree_ofEntries]
  rfl

/-- Take a store that was opened durable on a medium that behaves as a map and whose failures to write are
of a kind on which the medium is given up. After any calls of changing, whether they are rejected or not,
the medium keeps the tree as it was at the last write that succeeded; while the store is durable this is its
current tree; and a store that is opened under the key on any working medium with this item starts with
it. -/
theorem document_kept (area : Mapping μ) {calm : μ → Prop} (soft : FailsSoftly calm)
    {key : Option String} (other : keyFor key ≠ probeKey) {medium after : Logged μ} {store : Store}
    (opened : (openOn key).start medium = (.ok store, after)) (durable : store.durable = true)
    (calmly : calm after.state) (changes : List Change) :
    let s := (Session.opened store after).run changes
    (document (keyFor key) (area.item s.medium (keyFor key))).map .obj = .ok s.kept ∧
      (s.store.durable = true → s.store.tree = s.kept) ∧
      ∀ {ν : Type} [StorageArea ν] (there : Mapping ν) {fine : ν → Prop}, Mapping.Works fine →
        ∀ later : Logged ν, fine later.state →
          there.item later.state (keyFor key) = area.item s.medium (keyFor key) →
          ∃ again last, (openOn key).start later = (.ok again, last) ∧ again.durable = true ∧
            again.tree = s.kept := by
  have holds := (Session.opened_isKept area opened durable calmly).run soft changes
  refine ⟨holds.kept, holds.current, ?_⟩
  intro ν _ there fine works later now same
  have kept := holds.kept
  rw [← same] at kept
  cases found : document (keyFor key) (there.item later.state (keyFor key)) with
  | error fault =>
    rw [found] at kept
    cases kept
  | ok entries =>
    rw [found] at kept
    obtain ⟨last, again⟩ := openOn_works there works other now found
    refine ⟨_, last, again, rfl, ?_⟩
    rw [tree_ofEntries]
    exact Except.ok.inj kept

/-- Here the third writing fails, which is the one of the second call. The medium stays with the tree of the
first call, while the store goes on in memory. -/
theorem document_kept_givenUp :
    let area : MapArea := { setOutages := .at_ [3] }
    let after : MapArea := { area with calls := [.set "test" "test", .remove "test", .get "k"] }
    let changes : List Change :=
      [.set (.str "a.b") (.data (.int 1)) trivial, .copy (.str "a") (.str "c"),
        .set (.str "d") .unwritable trivial]
    let s := (Session.opened (ofEntries "k" true []) ⟨after, []⟩).run changes
    (openOn (some "k")).start ⟨area, []⟩ = (.ok (ofEntries "k" true []), ⟨after, []⟩) ∧
      s.store.durable = false ∧
      s.store.tree = .obj [("a", .obj [("b", .int 1)]), ("c", .obj [("b", .int 1)])] ∧
      (document "k" (s.medium.items.get? "k")).map .obj = .ok (Json.obj [("a", .obj [("b", .int 1)])]) := by
  intro area after changes s
  have opened : (openOn (some "k")).start ⟨area, []⟩ = (.ok (ofEntries "k" true []), ⟨after, []⟩) := rfl
  have named : keyFor (some "k") = "k" := rfl
  have holds := document_kept MapArea.mapping MapArea.failsSoftly (by decide) opened rfl rfl changes
  have kept : s.kept = .obj [("a", .obj [("b", .int 1)])] := rfl
  have same := holds.1
  rw [named] at same
  refine ⟨opened, rfl, rfl, ?_⟩
  rw [← kept]
  exact same

end Store

end ChatWidget
