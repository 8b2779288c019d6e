import ChatWidget.Proofs.Store.Calls
import ChatWidget.Proofs.Store.Durable
import ChatWidget.Proofs.Store.History
/-!
A store and the calls that it makes on its medium. Callers cannot tell a store on a medium from one in memory:
it gives the same answers, whatever outages there are. The medium is called once for each call that changes
something, to write the whole tree, and never again after the first of these calls that fails.
-/
namespace ChatWidget

/-- A medium with a record of the calls made on it. -/
structure Watched (μ : Type) where
  medium : μ
  calls : List AreaCall := []

namespace Watched

variable {μ α : Type}

def calling (call : AreaCall) (op : Op μ α) : Op (Watched μ) α :=
  Op.ofRun fun now =>
    let (result, after) := op.start ⟨now.state.medium, now.log⟩
    (result, ⟨⟨after.state, now.state.calls ++ [call]⟩, after.log⟩)

instance [StorageArea μ] : StorageArea (Watched μ) where
  isPresent watched := StorageArea.isPresent watched.medium
  getItem key := calling (.get key) (StorageArea.getItem key)
  setItem key text := calling (.set key text) (StorageArea.setItem key text)
  removeItem key := calling (.remove key) (StorageArea.removeItem key)

theorem start_setItem [StorageArea μ] (key text : String) (now : Logged (Watched μ)) :
    (StorageArea.setItem key text).start now =
      let tried := (StorageArea.setItem key text).start ⟨now.state.medium, now.log⟩
      (tried.1, ⟨⟨tried.2.state, now.state.calls ++ [.set key text]⟩, tried.2.log⟩) := rfl

theorem failsSoftly [StorageArea μ] {calm : μ → Prop} (soft : Store.FailsSoftly calm) :
    Store.FailsSoftly fun watched : Watched μ => calm watched.medium := by
  intro key text now calmly
  exact soft key text ⟨now.state.medium, now.log⟩ calmly

end Watched

namespace Store

variable {μ : Type} [StorageArea μ]

def Use.IsAccepted (now : Logged (Store × μ)) (use : Use) : Prop :=
  ∃ change, use = .edit change ∧ use.answer now = .ok none

/-- What becomes of the medium of a store, with the record of calls on it, when the tree of the store after a call
is written. A durable store makes one call, and stays durable if that succeeds; any other one makes none. -/
structure IsWrittenOnce (now after : Store × Watched μ) (log : List Log.Event) : Prop where
  durable : now.1.durable = true →
    after.2.calls = now.2.calls ++ [.set now.1.key after.1.tree.written] ∧
      (after.1.durable = true ↔
        ((StorageArea.setItem now.1.key after.1.tree.written).start ⟨now.2.medium, log⟩).1 = .ok ())
  givenUp : now.1.durable = false → after.1.durable = false ∧ after.2 = now.2

theorem Committed.isWrittenOnce {store after : Store} {medium : Logged (Watched μ)} {last : Watched μ}
    (committed : Committed store medium after last) :
    IsWrittenOnce (store, medium.state) (after, last) medium.log := by
  cases committed with
  | idle none => exact ⟨fun still => absurd (none.symm.trans still) Bool.false_ne_true, fun _ => ⟨none, rfl⟩⟩
  | @written after still wrote =>
    rw [Watched.start_setItem] at wrote
    obtain ⟨ended, rfl⟩ := Prod.mk.inj wrote
    refine ⟨fun _ => ⟨rfl, fun _ => ended, fun _ => still⟩, ?_⟩
    exact fun none => absurd (none.symm.trans still) Bool.false_ne_true
  | @givenUp after fault still failed =>
    rw [Watched.start_setItem] at failed
    obtain ⟨ended, rfl⟩ := Prod.mk.inj failed
    refine ⟨fun _ => ⟨rfl, nofun, ?_⟩, fun none => absurd (none.symm.trans still) Bool.false_ne_true⟩
    intro wrote
    cases ended.symm.trans wrote

theorem Use.accepted_isWrittenOnce {calm : μ → Prop} (soft : FailsSoftly calm) {now : Logged (Store × Watched μ)}
    (calmly : now.state.1.durable = true → calm now.state.2.medium) {use : Use}
    (accepted : use.IsAccepted now) : IsWrittenOnce now.state (use.after now).state now.log := by
  obtain ⟨change, rfl, answered⟩ := accepted
  obtain ⟨same, left⟩ := answer_edit now change
  rw [same] at answered
  rw [left]
  rw [change.start_perform] at answered ⊢
  cases applied : change.applied now.state.1 with
  | error fault =>
    rw [applied] at answered
    cases answered
  | ok store =>
    obtain ⟨-, key, durable⟩ := Change.applied_same applied
    obtain ⟨after, done, committed⟩ := commit_committed (Watched.failsSoftly soft) store
      ⟨now.state.2, now.log⟩ fun still => calmly (durable.symm.trans still)
    have written := committed.isWrittenOnce
    dsimp only
    rw [done]
    refine ⟨?_, ?_⟩
    · rw [← key, ← durable]
      exact written.durable
    · rw [← durable]
      exact written.givenUp

theorem Use.refused_same {calm : μ → Prop} (soft : FailsSoftly calm) {now : Logged (Store × μ)}
    (calmly : now.state.1.durable = true → calm now.state.2) {use : Use} (refused : ¬ use.IsAccepted now) :
    use.after now = now := by
  cases use with
  | get path default => exact (answer_get now path default).2
  | edit change =>
    obtain ⟨answered, left⟩ := answer_edit now change
    rw [left, change.start_perform]
    cases applied : change.applied now.state.1 with
    | error fault => rfl
    | ok store =>
      refine absurd ⟨change, rfl, ?_⟩ refused
      rw [(Use.answer_eq soft ⟨⟨rfl, rfl⟩, rfl, calmly⟩ (.edit change)).1, reply, applied]
      rfl

theorem given_up_for_good {calm : μ → Prop} (soft : FailsSoftly calm) (uses : List Use)
    {now : Logged (Store × Watched μ)} (none : now.state.1.durable = false) :
    (afterAll uses now).state.1.durable = false ∧ (afterAll uses now).state.2 = now.state.2 := by
  induction uses generalizing now with
  | nil => exact ⟨none, rfl⟩
  | cons use uses ih =>
    have idle : now.state.1.durable = true → calm now.state.2.medium :=
      fun still => absurd (none.symm.trans still) Bool.false_ne_true
    have next : (use.after now).state.1.durable = false ∧ (use.after now).state.2 = now.state.2 := by
      by_cases accepted : use.IsAccepted now
      · exact (Use.accepted_isWrittenOnce soft idle accepted).givenUp none
      · rw [Use.refused_same (Watched.failsSoftly soft) idle accepted]
        exact ⟨none, rfl⟩
    obtain ⟨still, same⟩ := ih next.1
    exact ⟨still, same.trans next.2⟩

/-- Take a store that was opened on a medium whose failures to write are outages. Its answers to any calls are those
of a store in memory that starts with the same tree, wherever that is. After any calls, one more that changes
something and is accepted makes exactly one call on the medium if the store is durable, which writes the whole tree,
and after which the store is durable if the write has succeeded; any other call leaves everything as it is. Once the
store is not durable the medium is left alone for good. -/
theorem medium_is_invisible {calm : μ → Prop} (soft : FailsSoftly calm) {key : Option String}
    {medium after : Logged (Watched μ)} {store : Store}
    (opened : (openOn key).start medium = (.ok store, after)) (calmly : calm after.state.medium)
    (uses : List Use) :
    let start : Logged (Store × Watched μ) := ⟨(store, after.state), after.log⟩
    let now := afterAll uses start
    (∀ {ν : Type} [StorageArea ν] (elsewhere : ν) (log : List Log.Event) (entries : Entries Json),
      store.tree = .obj entries →
        answers uses start = answers uses ⟨(ofEntries (keyFor key) false entries, elsewhere), log⟩) ∧
    (∀ use : Use, now.state.1.key = keyFor key ∧
      (use.IsAccepted now → IsWrittenOnce now.state (use.after now).state now.log) ∧
      (¬ use.IsAccepted now → use.after now = now)) ∧
    (now.state.1.durable = false → ∀ more : List Use,
      (afterAll more now).state.1.durable = false ∧ (afterAll more now).state.2 = now.state.2) := by
  intro start now
  have softly := Watched.failsSoftly soft
  have stands : StandsFor (fun watched : Watched μ => calm watched.medium) start.state store :=
    ⟨⟨rfl, rfl⟩, rfl, fun _ => calmly⟩
  have reached := (answers_eq softly uses stands).2
  obtain ⟨durable, found, rfl⟩ := openOn_ofEntries opened
  refine ⟨?_, ?_, ?_⟩
  · intro ν _ elsewhere log entries same
    rw [tree_ofEntries] at same
    cases same
    -- A store that is not durable asks nothing of its medium, so any medium will do.
    have never : FailsSoftly fun _ : ν => False := nofun
    have twin : StandsFor (fun _ : ν => False) (ofEntries (keyFor key) false found, elsewhere)
        (ofEntries (keyFor key) false found) := ⟨⟨rfl, rfl⟩, rfl, nofun⟩
    have alike : SameTree (ofEntries (keyFor key) durable found) (ofEntries (keyFor key) false found) := ⟨rfl, rfl⟩
    calc answers uses start
      _ = replies uses (ofEntries (keyFor key) durable found) := (answers_eq softly uses stands).1
      _ = replies uses (ofEntries (keyFor key) false found) := alike.replies uses
      _ = answers uses ⟨(ofEntries (keyFor key) false found, elsewhere), log⟩ :=
        (@answers_eq _ _ _ never uses ⟨_, log⟩ _ twin).1.symm
  · intro use
    refine ⟨reached.named.trans (leftAll_key uses _), ?_, ?_⟩
    · exact Use.accepted_isWrittenOnce soft reached.calm
    · exact Use.refused_same softly reached.calm
  · intro none more
    exact given_up_for_good soft more none

/-- The medium fails at the second tree that is to be written. The store goes on in memory, where a mapping that was
copied is still one mapping with two places. -/
theorem medium_is_invisible_givenUp :
    let area : MapArea := { setOutages := .at_ [3] }
    let probed : List AreaCall := [.set "test" "test", .remove "test", .get "k"]
    let after : Logged (Watched MapArea) := ⟨⟨{ area with calls := probed }, probed⟩, []⟩
    let start : Logged (Store × Watched MapArea) := ⟨(ofEntries "k" true [], after.state), after.log⟩
    let uses : List Use :=
      [.edit (.set (.str "a.b") (.data (.int 1)) trivial), .edit (.set (.str "d") .unwritable trivial),
        .edit (.copy (.str "a") (.str "c")), .edit (.set (.str "c.b") (.data (.int 2)) trivial),
        .get (.str "a.b") .null]
    let now := afterAll uses start
    let first : Json := .obj [("a", .obj [("b", .int 1)])]
    let second : Json := .obj [("a", .obj [("b", .int 1)]), ("c", .obj [("b", .int 1)])]
    (openOn (some "k")).start ⟨⟨area, []⟩, []⟩ = (.ok (ofEntries "k" true []), after) ∧
      answers uses start = answers uses ⟨(ofEntries "k" false [], ({} : MapArea)), []⟩ ∧
      answers uses ⟨(ofEntries "k" false [], ({} : MapArea)), []⟩ =
        [.ok none, .error (.valueNotStorable Fault.noValueReason), .ok none, .ok none, .ok (some (.int 2))] ∧
      now.state.1.durable = false ∧
      now.state.2.calls = probed ++ [.set "k" first.written, .set "k" second.written] := by
  intro area probed after start uses now first second
  have opened : (openOn (some "k")).start ⟨⟨area, []⟩, []⟩ = (.ok (ofEntries "k" true []), after) := rfl
  have invisible := medium_is_invisible MapArea.failsSoftly opened rfl uses
  exact ⟨opened, invisible.1 _ _ [] rfl, rfl, by decide +kernel, rfl⟩

end Store

end ChatWidget
