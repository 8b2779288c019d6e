import ChatWidget.Store.KeyValue
/-!
Opening a store, and writing its tree. On a medium whose failures are of the kind that a store expects, writing never
fails for the caller: it succeeds, or the store gives its medium up, or there has been none to write to.
-/
namespace ChatWidget.Store

variable {μ : Type} [StorageArea μ]

/-- A store that was opened does without its medium and is empty, or it has found its tree when the medium was
tried out. -/
theorem openOn_cases {name : Option String} {medium after : Logged μ} {store : Store}
    (opened : (openOn name).start medium = (.ok store, after)) :
    store = ofEntries (keyFor name) false [] ∨
      ∃ entries, store = ofEntries (keyFor name) true entries ∧
        (probe (keyFor name)).start medium = (.ok entries, after) := by
  unfold openOn at opened
  dsimp only at opened
  rw [Op.start_bind, Op.whole, Op.start_read] at opened
  dsimp only [id] at opened
  split at opened
  next =>
    cases opened
    exact .inl rfl
  next =>
    rw [Op.start_bind, Op.start_attempt] at opened
    generalize (probe (keyFor name)).start medium = outcome at opened ⊢
    obtain ⟨result, last⟩ := outcome
    cases result with
    | ok entries =>
      cases opened
      exact .inr ⟨entries, rfl, rfl⟩
    | error fault =>
      dsimp only at opened
      split at opened
      next =>
        cases opened
        exact .inl rfl
      next => cases opened

/-- The tree that was found when a medium was tried out is what the medium had under the key last. -/
theorem probe_ok {key : String} {medium after : Logged μ} {entries : Entries Json}
    (probed : (probe key).start medium = (.ok entries, after)) :
    ∃ last item, (StorageArea.getItem key).start last = (.ok item, after) ∧ document key item = .ok entries := by
  unfold probe load at probed
  rw [Op.start_bind] at probed
  split at probed
  next =>
    rw [Op.start_bind] at probed
    split at probed
    next =>
      rw [Op.start_bind] at probed
      split at probed
      next item _ read =>
        obtain ⟨holds, rfl⟩ := Prod.mk.inj probed
        exact ⟨_, item, read, holds⟩
      next => cases probed
    next => cases probed
  next => cases probed

/-- Is every failure to write, from the given states on, one on which a store gives its medium up? -/
def FailsSoftly (calm : μ → Prop) : Prop :=
  ∀ (key text : String) (now : Logged μ), calm now.state →
    calm ((StorageArea.setItem key text).start now).2.state ∧
      ∀ fault, ((StorageArea.setItem key text).start now).1 = .error fault → isWriteOutage fault = true

/-- How writing ended. -/
inductive Committed (store : Store) (medium : Logged μ) : Store → μ → Prop where
  /-- There is no medium. -/
  | idle (none : store.durable = false) : Committed store medium store medium.state
  | written {after : Logged μ} (durable : store.durable = true)
      (wrote : (StorageArea.setItem store.key store.tree.written).start medium = (.ok (), after)) :
      Committed store medium store after.state
  | givenUp {after : Logged μ} {fault : Fault} (durable : store.durable = true)
      (failed : (StorageArea.setItem store.key store.tree.written).start medium = (.error fault, after)) :
      Committed store medium { store with durable := false } after.state

/-- What becomes of a store when its tree is written depends on how the one write ends. -/
theorem start_commit (store : Store) (medium : Logged μ) :
    commit.start (⟨(store, medium.state), medium.log⟩ : Logged (Store × μ)) =
      if store.durable then
        match (StorageArea.setItem store.key store.tree.written).start medium with
        | (.ok (), after) => (.ok (), ⟨(store, after.state), after.log⟩)
        | (.error fault, after) =>
          if isWriteOutage fault then
            (.ok (), ⟨({ store with durable := false }, after.state), after.log ++ [.storeGivenUp fault.message]⟩)
          else (.error fault, ⟨(store, after.state), after.log⟩)
      else (.ok (), ⟨(store, medium.state), medium.log⟩) := by
  unfold commit
  rw [Op.start_bind, Op.whole, Op.start_read]
  dsimp only [id]
  split
  next =>
    rw [Op.start_bind, Op.start_attempt, Op.start_within]
    rcases (StorageArea.setItem store.key store.tree.written).start medium with ⟨⟨fault⟩ | ⟨⟩, after⟩
    · dsimp only
      split
      next => rfl
      next => rfl
    · rfl
  next => rfl

theorem commit_committed {calm : μ → Prop} (soft : FailsSoftly calm) (store : Store) (medium : Logged μ)
    (calmly : store.durable = true → calm medium.state) :
    ∃ after, commit.start ⟨(store, medium.state), medium.log⟩ = (.ok (), after) ∧
      Committed store medium after.state.1 after.state.2 := by
  rw [start_commit]
  cases durable : store.durable with
  | false => exact ⟨_, rfl, .idle durable⟩
  | true =>
    obtain ⟨-, failure⟩ := soft store.key store.tree.written medium (calmly durable)
    rw [if_pos rfl]
    rcases tried : (StorageArea.setItem store.key store.tree.written).start medium with ⟨fault | done, after⟩
    · rw [tried] at failure
      dsimp only
      rw [if_pos (failure fault rfl)]
      exact ⟨_, rfl, .givenUp durable tried⟩
    · exact ⟨_, rfl, .written durable tried⟩

/-- Whatever happens, the tree stays, and a medium that is not given up can be written again. -/
theorem Committed.same {calm : μ → Prop} (soft : FailsSoftly calm) {store after : Store} {medium : Logged μ}
    {last : μ} (calmly : store.durable = true → calm medium.state)
    (committed : Committed store medium after last) :
    after.objects = store.objects ∧ after.root = store.root ∧ after.key = store.key ∧
      (after.durable = true → calm last) := by
  cases committed with
  | idle none => exact ⟨rfl, rfl, rfl, calmly⟩
  | written durable wrote =>
    have still := (soft store.key store.tree.written medium (calmly durable)).1
    rw [wrote] at still
    exact ⟨rfl, rfl, rfl, fun _ => still⟩
  | givenUp durable failed => exact ⟨rfl, rfl, rfl, fun impossible => absurd impossible Bool.false_ne_true⟩

end ChatWidget.Store
