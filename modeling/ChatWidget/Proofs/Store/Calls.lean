import ChatWidget.Proofs.Store.Area
import ChatWidget.Proofs.Store.Change
/-!
Calls on a store, and runs of them. What is left of a call that fails depends on how its write failed, and on
nothing else; and as long as a medium fails in no other way than by outages, what a run answers depends on the
tree alone.
-/
namespace ChatWidget.Store

variable {μ : Type} [StorageArea μ]

/-! ### Calls that fail -/

/-- Does the medium break down when the tree is written, in a way in which it is not given up? -/
structure BreaksDown (store : Store) (medium : Logged μ) (fault : Fault) : Prop where
  durable : store.durable = true
  failed : ((StorageArea.setItem store.key store.tree.written).start medium).1 = .error fault
  unexpected : isWriteOutage fault = false

/-- Writing fails only where the medium breaks down. -/
theorem commit_failed {store : Store} {medium : Logged μ} {fault : Fault} {after : Logged (Store × μ)}
    (failed : commit.start ⟨(store, medium.state), medium.log⟩ = (.error fault, after)) :
    BreaksDown store medium fault ∧ after.state =
      (store, ((StorageArea.setItem store.key store.tree.written).start medium).2.state) := by
  rw [start_commit] at failed
  split at failed
  next durable =>
    rcases tried : (StorageArea.setItem store.key store.tree.written).start medium with ⟨reason | done, last⟩
    · rw [tried] at failed
      dsimp only at failed
      split at failed
      next => cases failed
      next unexpected =>
        cases failed
        exact ⟨⟨durable, by rw [tried], Bool.not_eq_true _ ▸ unexpected⟩, rfl⟩
    · rw [tried] at failed
      cases failed
  next => cases failed

/-- A call on a store: one that reads, or one that changes something. -/
inductive Use where
  | get (path default : Json)
  | edit (change : Change)

namespace Use

/-- Perform a call. Only reading brings a value. -/
def perform : Use → Op (Store × μ) (Option Json)
  | .get path default => do
    let (store, _) ← Op.whole
    return some (← Op.lift (store.get path default))
  | .edit change => do
    change.perform
    return none

def answer (now : Logged (Store × μ)) (use : Use) : Except Fault (Option Json) := (use.perform.start now).1

def after (now : Logged (Store × μ)) (use : Use) : Logged (Store × μ) := (use.perform.start now).2

def reply (store : Store) : Use → Except Fault (Option Json)
  | .get path default => (store.get path default).map some
  | .edit change => (change.applied store).map fun _ => none

/-- The store that a call leaves behind as far as its tree is concerned. -/
def left (store : Store) : Use → Store
  | .get _ _ => store
  | .edit change => ((change.applied store).toOption).getD store

theorem answer_get (now : Logged (Store × μ)) (path default : Json) :
    (get path default).answer now = (now.state.1.get path default).map some ∧
      (get path default).after now = now := by
  unfold answer after perform
  rw [Op.start_bind, Op.whole, Op.start_read]
  dsimp only [id]
  rw [Op.start_bind, Op.start_lift]
  cases now.state.1.get path default with
  | error fault => exact ⟨rfl, rfl⟩
  | ok value => exact ⟨rfl, rfl⟩

theorem answer_edit (now : Logged (Store × μ)) (change : Change) :
    (Use.edit change).answer now = (change.perform.start now).1.map (fun _ => none) ∧
      (Use.edit change).after now = (change.perform.start now).2 := by
  unfold answer after perform
  rw [Op.start_bind]
  rcases change.perform.start now with ⟨fault | done, next⟩
  · exact ⟨rfl, rfl⟩
  · exact ⟨rfl, rfl⟩

end Use

/-- The answers to calls that are made one after another; a call that fails does not end the run. -/
def answers : List Use → Logged (Store × μ) → List (Except Fault (Option Json))
  | [], _ => []
  | use :: uses, now => use.answer now :: answers uses (use.after now)

def afterAll (uses : List Use) (now : Logged (Store × μ)) : Logged (Store × μ) := uses.foldl Use.after now

def replies : List Use → Store → List (Except Fault (Option Json))
  | [], _ => []
  | use :: uses, store => use.reply store :: replies uses (use.left store)

def leftAll (uses : List Use) (store : Store) : Store := uses.foldl Use.left store

/-- Have two stores the same tree in the same objects? -/
structure SameTree (first second : Store) : Prop where
  objects : first.objects = second.objects
  root : first.root = second.root

/-- Two ends of a call: it fails in the same way, or it leads to two results that belong together. -/
inductive EndAlike {α β : Type} (alike : α → β → Prop) : Except Fault α → Except Fault β → Prop where
  | failed (fault : Fault) : EndAlike alike (.error fault) (.error fault)
  | done {first : α} {second : β} (together : alike first second) :
      EndAlike alike (.ok first) (.ok second)

/-- A call on two stores ends alike if putting does so for what has been taken in, and for what has been read. -/
theorem Change.applied_alike {alike : Store → Store → Prop} {first second : Store}
    (sets : ∀ value steps, EndAlike alike
      (Store.put { first with objects := (Objects.takeIn value first.objects).2 } steps
        (Objects.takeIn value first.objects).1)
      (Store.put { second with objects := (Objects.takeIn value second.objects).2 } steps
        (Objects.takeIn value second.objects).1))
    (copies : ∀ source steps, EndAlike alike (first.put steps ((first.slot? source).getD (.value .null)))
      (second.put steps ((second.slot? source).getD (.value .null)))) (change : Change) :
    EndAlike alike (change.applied first) (change.applied second) := by
  cases change with
  | set path offered tidy =>
    unfold Change.applied Change.placing
    dsimp only
    cases offered.value with
    | error reason => exact .failed _
    | ok value =>
      change EndAlike alike (Path.ofJson path >>= _) (Path.ofJson path >>= _)
      cases Path.ofJson path with
      | error fault => exact .failed fault
      | ok steps => exact sets value steps
  | copy source target =>
    unfold Change.applied Change.placing
    dsimp only
    cases Path.ofJson source with
    | error fault => exact .failed fault
    | ok source =>
      change EndAlike alike (Path.ofJson target >>= _) (Path.ofJson target >>= _)
      cases Path.ofJson target with
      | error fault => exact .failed fault
      | ok steps => exact copies source steps

theorem SameTree.put {first second : Store} (same : SameTree first second) (path : Path) (slot : Slot) :
    EndAlike SameTree (first.put path slot) (second.put path slot) := by
  obtain ⟨objects, root, key, durable⟩ := first
  obtain ⟨objects', root', key', durable'⟩ := second
  obtain ⟨rfl, rfl⟩ : objects = objects' ∧ root = root' := ⟨same.objects, same.root⟩
  cases path with
  | cons step rest => exact .done ⟨rfl, rfl⟩
  | nil =>
    cases slot with
    | value v => exact .failed .rootNotMapping
    | object id => exact .done ⟨rfl, rfl⟩

theorem SameTree.slot? {first second : Store} (same : SameTree first second) (path : Path) :
    first.slot? path = second.slot? path := by
  unfold Store.slot?
  rw [same.objects, same.root]

theorem SameTree.applied {first second : Store} (same : SameTree first second) (change : Change) :
    EndAlike SameTree (change.applied first) (change.applied second) := by
  refine change.applied_alike (fun value steps => ?_) fun source steps => ?_
  · rw [same.objects]
    have taken : SameTree { first with objects := (Objects.takeIn value second.objects).2 }
        { second with objects := (Objects.takeIn value second.objects).2 } := ⟨rfl, same.root⟩
    exact taken.put steps _
  · rw [same.slot?]
    exact same.put steps _

theorem Use.reply_alike {alike : Store → Store → Prop} {first second : Store} (together : alike first second)
    (reads : ∀ path default, first.get path default = second.get path default)
    (calls : ∀ change : Change, EndAlike alike (change.applied first) (change.applied second)) (use : Use) :
    use.reply first = use.reply second ∧ alike (use.left first) (use.left second) := by
  cases use with
  | get path default => exact ⟨congrArg (Except.map some) (reads path default), together⟩
  | edit change =>
    have ends := calls change
    unfold reply left
    dsimp only
    generalize change.applied first = one at ends ⊢
    generalize change.applied second = other at ends ⊢
    cases ends with
    | failed fault => exact ⟨rfl, together⟩
    | done next => exact ⟨rfl, next⟩

/-- Two stores whose trees stay alike through all calls give the same answers, if they do so to every read at
which the first of them is good. -/
theorem replies_alike {alike : Store → Store → Prop} {good : Store → Prop}
    (reads : ∀ first second, alike first second → good first →
      ∀ path default, first.get path default = second.get path default)
    (calls : ∀ first second, alike first second → ∀ change : Change,
      EndAlike alike (change.applied first) (change.applied second))
    (uses : List Use) {first second : Store} (together : alike first second)
    (goods : ∀ earlier later, uses = earlier ++ later → good (leftAll earlier first)) :
    replies uses first = replies uses second := by
  induction uses generalizing first second with
  | nil => rfl
  | cons use uses ih =>
    obtain ⟨same, next⟩ := use.reply_alike together (reads first second together (goods [] _ rfl))
      (calls first second together)
    rw [replies, replies, same]
    congr 1
    apply ih next
    intro earlier later split
    exact goods (use :: earlier) later (congrArg (use :: ·) split)

theorem SameTree.tree {first second : Store} (same : SameTree first second) : first.tree = second.tree := by
  unfold Store.tree
  rw [same.objects, same.root]

theorem SameTree.get {first second : Store} (same : SameTree first second) (path default : Json) :
    first.get path default = second.get path default := by
  unfold Store.get
  simp only [same.slot?, same.objects]

theorem SameTree.replies {first second : Store} (same : SameTree first second) (uses : List Use) :
    replies uses first = replies uses second :=
  replies_alike (fun _ _ same (_ : True) => same.get) (fun _ _ same => same.applied) uses same
    fun _ _ _ => trivial

theorem Use.left_key (store : Store) (use : Use) : (use.left store).key = store.key := by
  cases use with
  | get path default => rfl
  | edit change =>
    unfold left
    dsimp only
    cases applied : change.applied store with
    | error fault => rfl
    | ok changed => exact (Change.applied_same applied).2.1

/-- Is a store with its medium in the state that calls have brought a store to that has the same tree? -/
structure StandsFor (calm : μ → Prop) (now : Store × μ) (store : Store) : Prop where
  tree : SameTree now.1 store
  named : now.1.key = store.key
  calm : now.1.durable = true → calm now.2

/-- On a medium whose failures are outages a call answers as the tree says, and leaves the tree that the call
comes to. -/
theorem Use.answer_eq {calm : μ → Prop} (soft : FailsSoftly calm) {now : Logged (Store × μ)} {store : Store}
    (stands : StandsFor calm now.state store) (use : Use) :
    use.answer now = use.reply store ∧ StandsFor calm (use.after now).state (use.left store) := by
  cases use with
  | get path default =>
    obtain ⟨answered, same⟩ := answer_get now path default
    rw [same, answered, stands.tree.get]
    exact ⟨rfl, stands⟩
  | edit change =>
    obtain ⟨answered, same⟩ := answer_edit now change
    have ends := stands.tree.applied change
    rw [answered, same, change.start_perform]
    unfold reply left
    dsimp only
    cases applied : change.applied now.state.1 with
    | error fault =>
      rw [applied] at ends
      generalize change.applied store = other at ends ⊢
      cases ends with
      | failed => exact ⟨rfl, stands⟩
    | ok changed =>
      obtain ⟨-, key, durable⟩ := Change.applied_same applied
      have calmly : changed.durable = true → calm now.state.2 :=
        fun still => stands.calm (durable.symm.trans still)
      obtain ⟨after, done, committed⟩ := commit_committed soft changed ⟨now.state.2, now.log⟩ calmly
      obtain ⟨objects, root, named, calm⟩ := committed.same soft calmly
      rw [applied] at ends
      dsimp only
      rw [done]
      cases other : change.applied store with
      | error fault =>
        rw [other] at ends
        cases ends
      | ok last =>
        rw [other] at ends
        cases ends with
        | done together =>
          refine ⟨rfl, ⟨objects.trans together.objects, root.trans together.root⟩, ?_, calm⟩
          exact (named.trans key).trans (stands.named.trans (Change.applied_same other).2.1.symm)

theorem answers_eq {calm : μ → Prop} (soft : FailsSoftly calm) (uses : List Use) {now : Logged (Store × μ)}
    {store : Store} (stands : StandsFor calm now.state store) :
    answers uses now = replies uses store ∧ StandsFor calm (afterAll uses now).state (leftAll uses store) := by
  induction uses generalizing now store with
  | nil => exact ⟨rfl, stands⟩
  | cons use uses ih =>
    obtain ⟨answered, next⟩ := use.answer_eq soft stands
    obtain ⟨rest, last⟩ := ih next
    refine ⟨?_, last⟩
    rw [answers, replies, answered, rest]

theorem leftAll_key (uses : List Use) (store : Store) : (leftAll uses store).key = store.key := by
  induction uses generalizing store with
  | nil => rfl
  | cons use uses ih => exact (ih _).trans (use.left_key store)

end ChatWidget.Store
