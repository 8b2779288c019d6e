import ChatWidget.Proofs.Op
import ChatWidget.Proofs.Store.Objects
import ChatWidget.Store.KeyValue
/-!
What a call does to the tree of a store before the tree is written. A call is rejected before it changes
anything, or it comes to writing a tree, which is sound if the one before was.
-/
namespace ChatWidget

/-- Is a value that is handed over a proper one, with one entry for each name? -/
def Offered.IsTidy : Offered → Prop
  | .data value => value.IsTidy
  | .unwritable => True

namespace Store

variable {μ : Type} [StorageArea μ]

/-- A call that puts something at a path of a store: something that is handed over, or what stands at
another path. -/
inductive Change where
  | set (path : Json) (offered : Offered) (tidy : offered.IsTidy)
  | copy (source target : Json)

def Change.perform : Change → Op (Store × μ) Unit
  | .set path offered _ => Store.set path offered
  | .copy source target => Store.copy source target

/-- A slot that is to be put at a path of a store. -/
structure Placing where
  store : Store
  path : Json
  slot : Slot

def Placing.applied (placing : Placing) : Except Fault Store := do
  placing.store.put (← Path.ofJson placing.path) placing.slot

/-- What a call is to put into a store. A value is taken in first, and what was read stays where it is. -/
def Change.placing (store : Store) : Change → Except Fault Placing
  | .set path offered _ =>
    match offered.value with
    | .error reason => .error (.valueNotStorable reason)
    | .ok value =>
      let (slot, objects) := Objects.takeIn value store.objects
      .ok ⟨{ store with objects := objects }, path, slot⟩
  | .copy source target => do
    let source ← Path.ofJson source
    pure ⟨store, target, (store.slot? source).getD (.value .null)⟩

/-- The store that a call leaves to be written, or why the call is rejected. -/
def Change.applied (store : Store) (change : Change) : Except Fault Store := do
  (← change.placing store).applied

theorem start_place (placing : Placing) (now : Logged (Store × μ)) :
    (place placing.store placing.path placing.slot).start now =
      match placing.applied with
      | .error fault => (.error fault, now)
      | .ok store => commit.start ⟨(store, now.state.2), now.log⟩ := by
  unfold place Placing.applied
  rw [Op.start_bind, Op.start_lift]
  cases Path.ofJson placing.path with
  | error fault => rfl
  | ok steps =>
    change (Op.lift (placing.store.put steps placing.slot) >>= _).start now =
      match placing.store.put steps placing.slot with
      | .error fault => (.error fault, now)
      | .ok store => commit.start ⟨(store, now.state.2), now.log⟩
    rw [Op.start_bind, Op.start_lift]
    cases placing.store.put steps placing.slot with
    | error fault => rfl
    | ok changed => rfl

/-- A call that is rejected leaves everything as it is, and any other one comes to writing. -/
theorem Change.start_perform (change : Change) (now : Logged (Store × μ)) :
    change.perform.start now =
      match change.applied now.state.1 with
      | .error fault => (.error fault, now)
      | .ok store => commit.start ⟨(store, now.state.2), now.log⟩ := by
  cases change with
  | set path offered tidy =>
    unfold applied
    cases has : offered.value with
    | error reason =>
      simp only [perform, Store.set, placing, has]
      rfl
    | ok value =>
      simp only [perform, Store.set, placing, has]
      exact start_place ⟨_, path, _⟩ now
  | copy source target =>
    unfold applied
    cases way : Path.ofJson source with
    | error fault =>
      simp only [perform, Store.copy, placing, Op.start_bind, Op.whole, Op.start_read, Op.start_lift, id, way]
      rfl
    | ok steps =>
      simp only [perform, Store.copy, placing, Op.start_bind, Op.whole, Op.start_read, Op.start_lift, id, way]
      exact start_place ⟨now.state.1, target, _⟩ now

theorem put_same {store after : Store} {path : Path} {slot : Slot} (put : store.put path slot = .ok after) :
    after.root = store.root ∧ after.key = store.key ∧ after.durable = store.durable := by
  unfold Store.put at put
  split at put
  next =>
    cases put
    exact ⟨rfl, rfl, rfl⟩
  next =>
    cases put
    exact ⟨rfl, rfl, rfl⟩
  next => cases put

/-- What an accepted call puts, and into which store: a value that has been taken in, what stands at another path,
or null if nothing stands there. -/
inductive Change.Puts (store : Store) : Change → Store → Slot → Prop where
  | value {path : Json} {offered : Offered} {tidy : offered.IsTidy} {value : Json} (has : offered.value = .ok value) :
      Puts store (.set path offered tidy) { store with objects := (Objects.takeIn value store.objects).2 }
        (Objects.takeIn value store.objects).1
  | found {source target : Json} {steps : Path} {slot : Slot} (way : Path.ofJson source = .ok steps)
      (there : store.slot? steps = some slot) : Puts store (.copy source target) store slot
  | nothing {source target : Json} : Puts store (.copy source target) store (.value .null)

def Change.target : Change → Json
  | .set path _ _ => path
  | .copy _ target => target

/-- All that an accepted call does is to put this at its path. -/
theorem Change.applied_at {change : Change} {store after : Store} (applied : change.applied store = .ok after) :
    ∃ before steps slot, Path.ofJson change.target = .ok steps ∧ change.Puts store before slot ∧
      before.put steps slot = .ok after := by
  obtain ⟨placing, prepared, applied⟩ := bind_ok applied
  obtain ⟨steps, way, put⟩ := bind_ok applied
  refine ⟨placing.store, steps, placing.slot, ?_⟩
  cases change with
  | set path offered tidy =>
    unfold Change.placing at prepared
    dsimp only at prepared
    split at prepared
    next => cases prepared
    next value has =>
      cases prepared
      exact ⟨way, .value has, put⟩
  | copy source target =>
    obtain ⟨from_, found, prepared⟩ := bind_ok prepared
    cases prepared
    dsimp only at put ⊢
    cases there : store.slot? from_ with
    | none => exact ⟨way, .nothing, there ▸ put⟩
    | some slot => exact ⟨way, .found found there, there ▸ put⟩

theorem Change.applied_cases {change : Change} {store after : Store} (applied : change.applied store = .ok after) :
    ∃ before steps slot, change.Puts store before slot ∧ before.put steps slot = .ok after := by
  obtain ⟨before, steps, slot, -, puts, put⟩ := Change.applied_at applied
  exact ⟨before, steps, slot, puts, put⟩

theorem Change.applied_same {change : Change} {store after : Store} (applied : change.applied store = .ok after) :
    after.root = store.root ∧ after.key = store.key ∧ after.durable = store.durable := by
  obtain ⟨before, steps, slot, puts, put⟩ := Change.applied_cases applied
  have same := put_same put
  cases puts with
  | value has => exact same
  | found way there => exact same
  | nothing => exact same

/-! ### Sound trees -/

theorem put_sound {store after : Store} (sound : store.objects.AreSound) {path : Path} {slot : Slot}
    (new : slot.IsSound) (put : store.put path slot = .ok after) : after.objects.AreSound := by
  unfold Store.put at put
  split at put
  next _ step rest =>
    cases put
    exact sound.putAt _ step rest new
  next id =>
    cases put
    have cleared : (store.objects.setFields store.root []).AreSound :=
      sound.setFields _ List.nodup_nil (by simp)
    obtain ⟨distinct, each⟩ := cleared id
    exact cleared.setFields _ distinct each
  next => cases put

theorem Offered.value_sound {offered : Offered} (tidy : offered.IsTidy) {value : Json}
    (has : offered.value = .ok value) : value.IsSound := by
  cases offered with
  | unwritable => cases has
  | data given =>
    unfold Offered.value at has
    dsimp only at has
    split at has
    next writable =>
      cases has
      exact ⟨tidy, writable⟩
    next => cases has

theorem Change.applied_sound {change : Change} {store after : Store} (sound : store.objects.AreSound)
    (applied : change.applied store = .ok after) : after.objects.AreSound := by
  have null : (Slot.value .null).IsSound := ⟨trivial, rfl⟩
  obtain ⟨before, steps, slot, puts, put⟩ := Change.applied_cases applied
  cases puts with
  | @value _ _ tidy _ has =>
    obtain ⟨new, taken⟩ := Objects.takeIn_sound (Offered.value_sound tidy has) sound
    exact put_sound taken new put
  | found way there => exact put_sound sound (Objects.slotAt?_sound sound there) put
  | nothing => exact put_sound sound null put

end Store

end ChatWidget
