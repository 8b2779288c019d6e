import ChatWidget.Proofs.Store.Calls
import ChatWidget.Proofs.Store.Opening
/-!
Two stores under different keys over one medium. Each of them writes the whole medium anew and tries it out
when it is opened, and yet neither can tell whether the other is there: what a party sees of its own moves
depends on these alone.
-/
namespace ChatWidget.Store

variable {μ : Type} [StorageArea μ]

/-! ### What a call makes of its store and of the item -/

/-- The item that a call leaves under the key of its store, where there has been the given one. -/
def Use.itemLeft (store : Store) (item : Option Json) : Use → Option Json
  | .get _ _ => item
  | .edit change =>
    match change.applied store with
    | .ok changed => if changed.durable then some (.str changed.tree.written) else item
    | .error _ => item

theorem Use.start_get (path default : Json) (now : Logged (Store × μ)) :
    (Use.get path default).perform.start now = ((Use.get path default).reply now.state.1, now) :=
  Prod.ext (answer_get now path default).1 (answer_get now path default).2

theorem Use.start_rejected {change : Change} {now : Logged (Store × μ)} {fault : Fault}
    (rejected : change.applied now.state.1 = .error fault) :
    (Use.edit change).perform.start now = ((Use.edit change).reply now.state.1, now) := by
  obtain ⟨answered, same⟩ := answer_edit now change
  rw [change.start_perform, rejected] at answered same
  refine Prod.ext (answered.trans ?_) same
  rw [reply, rejected]
  rfl

theorem Use.start_committed {change : Change} {now last : Logged (Store × μ)} {changed : Store}
    (applied : change.applied now.state.1 = .ok changed)
    (committed : commit.start ⟨(changed, now.state.2), now.log⟩ = (.ok (), last)) :
    (Use.edit change).perform.start now = ((Use.edit change).reply now.state.1, last) := by
  obtain ⟨answered, same⟩ := answer_edit now change
  rw [change.start_perform, applied] at answered same
  dsimp only at answered same
  rw [committed] at answered same
  refine Prod.ext (answered.trans ?_) same
  rw [reply, applied]
  rfl

theorem commit_idle {store : Store} (idle : store.durable = false) (medium : Logged μ) :
    commit.start (⟨(store, medium.state), medium.log⟩ : Logged (Store × μ)) =
      (.ok (), ⟨(store, medium.state), medium.log⟩) := by
  rw [start_commit, idle]
  rfl

theorem commit_wrote {store : Store} (durable : store.durable = true) {medium last : Logged μ}
    (wrote : (StorageArea.setItem store.key store.tree.written).start medium = (.ok (), last)) :
    commit.start (⟨(store, medium.state), medium.log⟩ : Logged (Store × μ)) =
      (.ok (), ⟨(store, last.state), last.log⟩) := by
  rw [start_commit, if_pos durable, wrote]

/-- A store that is in memory does not touch its medium. -/
theorem Use.start_idle (use : Use) {store : Store} (idle : store.durable = false) (medium : Logged μ) :
    use.perform.start ⟨(store, medium.state), medium.log⟩ =
        (use.reply store, ⟨(use.left store, medium.state), medium.log⟩) ∧
      (use.left store).durable = false := by
  cases use with
  | get path default => exact ⟨start_get path default _, idle⟩
  | edit change =>
    unfold left
    dsimp only
    cases applied : change.applied store with
    | error fault => exact ⟨start_rejected applied, idle⟩
    | ok changed =>
      have still := (Change.applied_same applied).2.2.trans idle
      exact ⟨start_committed applied (commit_idle still medium), still⟩

/-- On a medium that works a call replies as the tree says, and writes the tree that it leaves under the key
of the store and nothing else. -/
theorem Use.start_works (area : Mapping μ) {fine : μ → Prop} (works : Mapping.Works fine) (use : Use)
    (store : Store) {medium : Logged μ} (finely : fine medium.state) :
    ∃ last : Logged μ, use.perform.start ⟨(store, medium.state), medium.log⟩ =
        (use.reply store, ⟨(use.left store, last.state), last.log⟩) ∧ fine last.state ∧
      area.item last.state = Function.update (area.item medium.state) store.key
        (use.itemLeft store (area.item medium.state store.key)) := by
  cases use with
  | get path default => exact ⟨medium, start_get path default _, finely, (Function.update_eq_self _ _).symm⟩
  | edit change =>
    unfold left itemLeft
    dsimp only
    cases applied : change.applied store with
    | error fault => exact ⟨medium, start_rejected applied, finely, (Function.update_eq_self _ _).symm⟩
    | ok changed =>
      obtain ⟨-, key, -⟩ := Change.applied_same applied
      obtain ⟨last, wrote, still⟩ := works.setItem changed.key changed.tree.written medium finely
      dsimp only
      cases durable : changed.durable with
      | false =>
        refine ⟨medium, start_committed applied (commit_idle durable medium), finely, ?_⟩
        rw [if_neg Bool.false_ne_true, Function.update_eq_self]
      | true =>
        refine ⟨last, start_committed applied (commit_wrote durable wrote), still, ?_⟩
        rw [if_pos rfl, area.setItem wrote, key]

/-! ### Two parties -/

/-- One of two parties that have a store each. -/
inductive Party where
  | first
  | second
  deriving DecidableEq

/-- What a party does: it opens its store, anew if it has one, or makes a call on it. -/
inductive Deed where
  | openStore
  | call (use : Use)

structure Move where
  party : Party
  deed : Deed

/-- The stores that two parties have so far, and the medium they share. -/
structure Neighbours (μ : Type) where
  store : Party → Option Store
  medium : Logged μ

/-- What a party gets to see of a move of its own: what it is answered, whether its store is durable, and
the item under its key. -/
structure Sight where
  answer : Except Fault (Option Json)
  durable : Option Bool
  item : Option Json

namespace Neighbours

/-- Two parties that have not opened their stores yet. -/
def begin (medium : μ) : Neighbours μ := ⟨fun _ => none, ⟨medium, []⟩⟩

/-- A party gets a store, and the medium is left as given. -/
def give (s : Neighbours μ) (party : Party) (store : Store) (medium : Logged μ) : Neighbours μ :=
  ⟨Function.update s.store party (some store), medium⟩

omit [StorageArea μ] in
theorem store_give {s : Neighbours μ} {party other : Party} {store kept : Store} {medium : Logged μ}
    (has : (s.give party store medium).store other = some kept) :
    other = party ∧ kept = store ∨ s.store other = some kept := by
  unfold give at has
  dsimp only at has
  by_cases is : other = party
  · subst is
    rw [Function.update_self] at has
    exact .inl ⟨rfl, (Option.some.inj has).symm⟩
  · rw [Function.update_of_ne is] at has
    exact .inr has

/-- One move, with what it is answered. A store that cannot be opened leaves the party with the one it has,
and without a store there is nothing to call. -/
def perform (names : Party → Option String) (s : Neighbours μ) (move : Move) :
    Except Fault (Option Json) × Neighbours μ :=
  match move.deed with
  | .openStore =>
    match (openOn (names move.party)).start s.medium with
    | (.ok store, medium) => (.ok none, s.give move.party store medium)
    | (.error fault, medium) => (.error fault, { s with medium })
  | .call use =>
    match s.store move.party with
    | none => (.ok none, s)
    | some store =>
      match use.perform.start ⟨(store, s.medium.state), s.medium.log⟩ with
      | (answer, ⟨(store, medium), log⟩) => (answer, s.give move.party store ⟨medium, log⟩)

/-- What a party has of its own: its store, and the item under its key. -/
structure Own where
  store : Option Store
  item : Option Json

def own (area : Mapping μ) (names : Party → Option String) (s : Neighbours μ) (party : Party) : Own :=
  ⟨s.store party, area.item s.medium.state (keyFor (names party))⟩

/-- What a party sees in a run of moves. -/
def sights (area : Mapping μ) (names : Party → Option String) (party : Party) :
    List Move → Neighbours μ → List Sight
  | [], _ => []
  | move :: moves, s =>
    let next := (s.perform names move).2
    if move.party = party then
      ⟨(s.perform names move).1, (next.store party).map (·.durable),
          area.item next.medium.state (keyFor (names party))⟩ :: sights area names party moves next
    else sights area names party moves next

/-- What a move makes of what its party has of its own, where opening a store makes the given of an item. -/
def outcome (opens : Option Json → Except Fault Store) (deed : Deed) (had : Own) :
    Except Fault (Option Json) × Own :=
  match deed with
  | .openStore =>
    match opens had.item with
    | .ok store => (.ok none, ⟨some store, had.item⟩)
    | .error fault => (.error fault, had)
  | .call use =>
    match had.store with
    | none => (.ok none, had)
    | some store => (use.reply store, ⟨some (use.left store), use.itemLeft store had.item⟩)

/-- Is a move all that its party makes of its own, and does it leave alone what the other one has? -/
structure IsLocal (area : Mapping μ) (names : Party → Option String)
    (opens : String → Option Json → Except Fault Store) (s : Neighbours μ) (move : Move) : Prop where
  mine : ((s.perform names move).1, (s.perform names move).2.own area names move.party) =
    outcome (opens (keyFor (names move.party))) move.deed (s.own area names move.party)
  others : ∀ party, party ≠ move.party → (s.perform names move).2.own area names party = s.own area names party

theorem IsLocal.of_give {area : Mapping μ} {names : Party → Option String}
    {opens : String → Option Json → Except Fault Store} {s : Neighbours μ} {move : Move}
    {answer : Except Fault (Option Json)} {store : Store} {medium : Logged μ}
    (made : s.perform names move = (answer, s.give move.party store medium))
    (came : outcome (opens (keyFor (names move.party))) move.deed (s.own area names move.party) =
      (answer, ⟨some store, area.item medium.state (keyFor (names move.party))⟩))
    (items : ∀ party, party ≠ move.party →
      area.item medium.state (keyFor (names party)) = area.item s.medium.state (keyFor (names party))) :
    IsLocal area names opens s move := by
  refine ⟨?_, fun party other => ?_⟩
  · rw [made, came]
    unfold own give
    dsimp only
    rw [Function.update_self]
  · rw [made]
    unfold own give
    dsimp only
    rw [Function.update_of_ne other, items party other]

theorem IsLocal.of_same {area : Mapping μ} {names : Party → Option String}
    {opens : String → Option Json → Except Fault Store} {s : Neighbours μ} {move : Move}
    {answer : Except Fault (Option Json)} {medium : Logged μ}
    (made : s.perform names move = (answer, { s with medium }))
    (came : outcome (opens (keyFor (names move.party))) move.deed (s.own area names move.party) =
      (answer, s.own area names move.party))
    (items : ∀ party, area.item medium.state (keyFor (names party)) =
      area.item s.medium.state (keyFor (names party))) :
    IsLocal area names opens s move := by
  have same : ∀ party, (s.perform names move).2.own area names party = s.own area names party := fun party => by
    rw [made]
    unfold own
    rw [items]
  refine ⟨?_, fun party _ => same party⟩
  rw [same, came, made]

theorem perform_call_none (names : Party → Option String) {s : Neighbours μ} {party : Party} (use : Use)
    (none : s.store party = none) : s.perform names ⟨party, .call use⟩ = (.ok Option.none, s) := by
  unfold perform
  dsimp only
  rw [none]

theorem perform_call_some (names : Party → Option String) {s : Neighbours μ} {party : Party} {use : Use}
    {store left : Store} (has : s.store party = some store) {answer : Except Fault (Option Json)} {last : Logged μ}
    (ran : use.perform.start ⟨(store, s.medium.state), s.medium.log⟩ =
      (answer, ⟨(left, last.state), last.log⟩)) :
    s.perform names ⟨party, .call use⟩ = (answer, s.give party left last) := by
  unfold perform
  dsimp only
  rw [has]
  dsimp only
  rw [ran]

/-- If all moves are local, a party sees the same when the other one does nothing. -/
theorem sights_filter {area : Mapping μ} {names : Party → Option String}
    {opens : String → Option Json → Except Fault Store} (good : Neighbours μ → Prop)
    (step : ∀ s move, good s → good (s.perform names move).2 ∧ IsLocal area names opens s move)
    (party : Party) (moves : List Move) {s alone : Neighbours μ} (goodly : good s) (goodly' : good alone)
    (same : s.own area names party = alone.own area names party) :
    sights area names party moves s =
      sights area names party (moves.filter fun move => move.party = party) alone := by
  induction moves generalizing s alone with
  | nil => rfl
  | cons move moves ih =>
    obtain ⟨next, here⟩ := step s move goodly
    by_cases is : move.party = party
    · -- Both runs make the move, from states that agree on what is the party's own.
      obtain ⟨next', there⟩ := step alone move goodly'
      subst is
      have made := here.mine.trans ((congrArg (outcome _ move.deed) same).trans there.mine.symm)
      obtain ⟨answered, owned⟩ := Prod.mk.inj made
      obtain ⟨store, item⟩ := Own.mk.inj owned
      rw [List.filter_cons_of_pos (by simp), sights, sights, if_pos rfl, if_pos rfl, answered, store, item]
      congr 1
      exact ih next next' owned
    · rw [List.filter_cons_of_neg (by simpa using is), sights, if_neg is]
      exact ih next goodly' ((here.others party (Ne.symm is)).trans same)

/-! ### A medium that works -/

/-- Does the medium work, and is each store under the key of its party? -/
structure Fits (fine : μ → Prop) (names : Party → Option String) (s : Neighbours μ) : Prop where
  fine : fine s.medium.state
  named : ∀ party store, s.store party = some store → store.key = keyFor (names party)

omit [StorageArea μ] in
theorem Fits.give {fine : μ → Prop} {names : Party → Option String} {s : Neighbours μ} (fits : Fits fine names s)
    {party : Party} {store : Store} (named : store.key = keyFor (names party)) {medium : Logged μ}
    (finely : fine medium.state) : Fits fine names (s.give party store medium) := by
  refine ⟨finely, fun other kept has => ?_⟩
  rcases store_give has with ⟨rfl, rfl⟩ | before
  · exact named
  · exact fits.named other kept before

/-- On a medium that works a move is local, as the item that a medium is tried out with belongs to nobody. -/
theorem perform_works (area : Mapping μ) {fine : μ → Prop} (works : Mapping.Works fine)
    {names : Party → Option String}
    (apart : ∀ one other, one ≠ other → keyFor (names one) ≠ keyFor (names other))
    (unprobed : ∀ party, keyFor (names party) ≠ probeKey) {s : Neighbours μ} (fits : Fits fine names s)
    (move : Move) :
    Fits fine names (s.perform names move).2 ∧ IsLocal area names openedFrom s move := by
  obtain ⟨party, deed⟩ := move
  cases deed with
  | openStore =>
    obtain ⟨after, ran, still, items⟩ := start_openOn area works (names party) fits.fine
    have left : ∀ other, area.item after.state (keyFor (names other)) =
        area.item s.medium.state (keyFor (names other)) := fun other => by
      rw [items, Function.update_of_ne (unprobed other)]
    rw [left] at ran
    cases opened : openedFrom (keyFor (names party)) (area.item s.medium.state (keyFor (names party))) with
    | ok store =>
      have made : s.perform names ⟨party, .openStore⟩ = (.ok none, s.give party store after) := by
        unfold perform
        dsimp only
        rw [ran, opened]
      refine ⟨made ▸ fits.give (openedFrom_key opened) still, .of_give made ?_ fun other _ => left other⟩
      unfold outcome own
      dsimp only
      rw [opened, left]
    | error fault =>
      have made : s.perform names ⟨party, .openStore⟩ = (.error fault, { s with medium := after }) := by
        unfold perform
        dsimp only
        rw [ran, opened]
      refine ⟨made ▸ ⟨still, fits.named⟩, .of_same made ?_ left⟩
      unfold outcome own
      dsimp only
      rw [opened]
  | call use =>
    cases has : s.store party with
    | none =>
      have made := perform_call_none names use has
      refine ⟨made ▸ fits, .of_same made ?_ fun _ => rfl⟩
      unfold outcome own
      dsimp only
      rw [has]
    | some store =>
      have named := fits.named party store has
      obtain ⟨last, ran, still, items⟩ := use.start_works area works store fits.fine
      have made := perform_call_some names has ran
      refine ⟨made ▸ fits.give ((use.left_key store).trans named) still, .of_give made ?_ fun other is => ?_⟩
      · unfold outcome own
        dsimp only
        rw [has, items, named, Function.update_self]
      · rw [items, named, Function.update_of_ne (apart _ _ is)]

/-! ### A file that cannot be read, or a folder that is none -/

/-- Nothing can be written, and so the stores that have been opened are all in memory. -/
structure IsStuck (area : FileArea) (s : Neighbours FileArea) : Prop where
  medium : s.medium.state = area
  idle : ∀ party store, s.store party = some store → store.durable = false

theorem IsStuck.give {area : FileArea} {s : Neighbours FileArea} (stuck : IsStuck area s) {party : Party}
    {store : Store} (idle : store.durable = false) {medium : Logged FileArea} (same : medium.state = s.medium.state) :
    IsStuck area (s.give party store medium) := by
  refine ⟨same.trans stuck.medium, fun other kept has => ?_⟩
  rcases store_give has with ⟨rfl, rfl⟩ | before
  · exact idle
  · exact stuck.idle other kept before

theorem itemLeft_idle {store : Store} (idle : store.durable = false) (use : Use) (item : Option Json) :
    use.itemLeft store item = item := by
  cases use with
  | get path default => rfl
  | edit change =>
    unfold Use.itemLeft
    dsimp only
    split
    next changed applied =>
      rw [(Change.applied_same applied).2.2.trans idle, if_neg Bool.false_ne_true]
    next => rfl

theorem perform_stuck {area : FileArea} (unfit : ¬ area.IsFine) (names : Party → Option String)
    {s : Neighbours FileArea} (stuck : IsStuck area s) (move : Move) :
    IsStuck area (s.perform names move).2 ∧
      IsLocal FileArea.mapping names (fun key _ => .ok (ofEntries key false [])) s move := by
  obtain ⟨party, deed⟩ := move
  cases deed with
  | openStore =>
    obtain ⟨after, ran, same⟩ := start_openOn_unfit (stuck.medium ▸ unfit) (names party)
    have made : s.perform names ⟨party, .openStore⟩ =
        (.ok none, s.give party (ofEntries (keyFor (names party)) false []) after) := by
      unfold perform
      dsimp only
      rw [ran]
    refine ⟨made ▸ stuck.give rfl same, .of_give made ?_ fun _ _ => by rw [same]⟩
    unfold outcome own
    rw [same]
  | call use =>
    cases has : s.store party with
    | none =>
      have made := perform_call_none names use has
      refine ⟨made ▸ stuck, .of_same made ?_ fun _ => rfl⟩
      unfold outcome own
      dsimp only
      rw [has]
    | some store =>
      have idle := stuck.idle party store has
      obtain ⟨ran, still⟩ := use.start_idle idle s.medium
      have made := perform_call_some names has ran
      refine ⟨made ▸ stuck.give still rfl, .of_give made ?_ fun _ _ => rfl⟩
      unfold outcome own
      dsimp only
      rw [has]
      dsimp only
      rw [itemLeft_idle idle]

/-- Two parties open stores over areas in one file, anew as often as they like, and make calls on them, in any
order. If their keys are different, and neither is the one that a medium is tried out with, then each of them sees
exactly what it sees when the other one does nothing at all. -/
theorem sights_alone {names : Party → Option String} (apart : keyFor (names .first) ≠ keyFor (names .second))
    (unprobed : ∀ party, keyFor (names party) ≠ probeKey) (area : FileArea) (moves : List Move) (party : Party) :
    sights FileArea.mapping names party moves (begin area) =
      sights FileArea.mapping names party (moves.filter fun move => move.party = party) (begin area) := by
  have distinct : ∀ one other : Party, one ≠ other → keyFor (names one) ≠ keyFor (names other) := by
    intro one other differ
    cases one <;> cases other
    · exact absurd rfl differ
    · exact apart
    · exact apart.symm
    · exact absurd rfl differ
  by_cases fine : area.IsFine
  · have fits : Fits FileArea.IsFine names (begin area) := ⟨fine, fun _ _ has => by cases has⟩
    exact sights_filter (Fits FileArea.IsFine names)
      (fun s move fits => perform_works FileArea.mapping FileArea.works distinct unprobed fits move)
      party moves fits fits rfl
  · have stuck : IsStuck area (begin area) := ⟨rfl, fun _ _ has => by cases has⟩
    exact sights_filter (IsStuck area) (fun s move stuck => perform_stuck fine names stuck move) party moves stuck
      stuck rfl

/-- The second party writes under the same path in between, and is opened anew. -/
theorem sights_alone_between :
    let names : Party → Option String
      | .first => some "a"
      | .second => some "b"
    let put := fun n : Int => Deed.call (.edit (.set (.str "x") (.data (.int n)) trivial))
    let moves : List Move := [⟨.first, .openStore⟩, ⟨.second, .openStore⟩, ⟨.first, put 1⟩, ⟨.second, put 2⟩,
      ⟨.second, .openStore⟩, ⟨.first, .openStore⟩, ⟨.first, .call (.get (.str "x") .null)⟩]
    let area : FileArea := { root := "data" }
    keyFor (names .first) ≠ keyFor (names .second) ∧ (∀ party, keyFor (names party) ≠ probeKey) ∧
      sights FileArea.mapping names .first moves (begin area) =
        sights FileArea.mapping names .first
          [⟨.first, .openStore⟩, ⟨.first, put 1⟩, ⟨.first, .openStore⟩, ⟨.first, .call (.get (.str "x") .null)⟩]
          (begin area) := by
  intro names put moves area
  have apart : keyFor (names .first) ≠ keyFor (names .second) := by decide
  have unprobed : ∀ party, keyFor (names party) ≠ probeKey := by
    intro party
    cases party
    · decide
    · decide
  exact ⟨apart, unprobed, sights_alone apart unprobed area moves .first⟩

end Neighbours

end ChatWidget.Store
