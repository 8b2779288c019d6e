import ChatWidget.Proofs.Store.Calls
import ChatWidget.Proofs.Store.Durable
import ChatWidget.Proofs.Store.History
/-!
The mapping on top of a tree. As long as it stands in no other one, no way through the tree comes back to it; so
its entries are changed only by calls that name them, and each is seen only by ways that start with it.
-/
namespace ChatWidget

namespace Objects

/-! ### The mapping on top -/

/-- Does a mapping stand in no mapping, itself included? -/
structure IsTop (objects : Objects) (top : ObjectId) : Prop where
  inside : top < objects.entries.size
  nowhere : ∀ id, ∀ field ∈ objects.fields id, field.2 ≠ .object top

namespace IsTop

variable {objects : Objects} {top id : ObjectId}

theorem setFields (is : objects.IsTop top) (id : ObjectId) {fields : Entries Slot}
    (each : ∀ field ∈ fields, field.2 ≠ .object top) : (objects.setFields id fields).IsTop top := by
  refine ⟨by rw [size_setFields]; exact is.inside, fun other field member => ?_⟩
  rcases fields_setFields objects id other fields with same | new
  · exact is.nowhere other field (same ▸ member)
  · exact each field (new ▸ member)

theorem add (is : objects.IsTop top) {fields : Entries Slot} (each : ∀ field ∈ fields, field.2 ≠ .object top) :
    (objects.add fields).2.IsTop top := by
  refine ⟨by rw [size_add]; exact Nat.lt_succ_of_lt is.inside, fun other field member => ?_⟩
  rw [fields_add] at member
  split at member
  next => exact each field member
  next => exact is.nowhere other field member

theorem putEntry (is : objects.IsTop top) (id : ObjectId) (name : String) {slot : Slot}
    (other : slot ≠ .object top) : (objects.setFields id ((objects.fields id).put name slot)).IsTop top :=
  is.setFields id (Entries.forall_mem_put (is.nowhere id) other)

theorem link (is : objects.IsTop top) (id : ObjectId) (step : String) : (objects.link id step).IsTop top := by
  have added : (objects.add []).2.IsTop top := is.add (by simp)
  refine added.putEntry id step fun same => ?_
  exact absurd (Slot.object.inj same) (Nat.ne_of_gt is.inside)

theorem takeInFields {fields : List (String × Json)}
    (parts : ∀ field ∈ fields, ∀ {objects : Objects}, objects.IsTop top →
      (takeIn field.2 objects).2.IsTop top ∧ (takeIn field.2 objects).1 ≠ .object top)
    (is : objects.IsTop top) :
    (Objects.takeInFields fields objects).2.IsTop top ∧
      ∀ field ∈ (Objects.takeInFields fields objects).1, field.2 ≠ .object top := by
  induction fields generalizing objects with
  | nil =>
    rw [Objects.takeInFields]
    exact ⟨is, by simp⟩
  | cons field fields ih =>
    obtain ⟨name, value⟩ := field
    obtain ⟨first, slot⟩ := parts (name, value) List.mem_cons_self is
    obtain ⟨all, others⟩ := ih (fun field member => parts field (List.mem_cons_of_mem _ member)) first
    rw [takeInFields_cons]
    refine ⟨all, ?_⟩
    intro field member
    rcases List.mem_cons.mp member with here | there
    · rw [here]
      exact slot
    · exact others field there

theorem takeIn (value : Json) (is : objects.IsTop top) :
    (Objects.takeIn value objects).2.IsTop top ∧ (Objects.takeIn value objects).1 ≠ .object top := by
  refine ⟨?_, takeIn_fresh value is.inside⟩
  induction value using Json.byParts generalizing objects with
  | obj fields ih =>
    obtain ⟨all, slots⟩ := takeInFields
      (fun field member _ is => ⟨ih field member is, takeIn_fresh field.2 is.inside⟩) is
    rw [takeIn_obj]
    exact all.add slots
  | _ =>
    rw [takeIn_leaf (by simp)]
    exact is

theorem putAt (is : objects.IsTop top) (id : ObjectId) (step : String) (path : Path) {slot : Slot}
    (other : slot ≠ .object top) : (objects.putAt id step path slot).IsTop top := by
  induction path generalizing objects id step with
  | nil => exact is.putEntry id step other
  | cons next rest ih =>
    unfold Objects.putAt
    split
    next inner _ => exact ih is inner next
    next => exact ih (is.link id step) _ next

theorem fields_putAt (is : objects.IsTop top) (below : id ≠ top) (step : String) (path : Path) (slot : Slot) :
    (objects.putAt id step path slot).fields top = objects.fields top := by
  induction path generalizing objects id step with
  | nil => exact fields_setFields_ne _ (Ne.symm below) _
  | cons next rest ih =>
    unfold Objects.putAt
    split
    next inner there =>
      exact ih is (fun same => is.nowhere id _ (Entries.get?_mem there) (same ▸ rfl)) next
    next =>
      have left : (objects.link id step).fields top = objects.fields top :=
        fields_link_ne is.inside (Ne.symm below) step
      exact (ih (is.link id step) (Nat.ne_of_gt is.inside) next).trans left

theorem get?_putAt (is : objects.IsTop top) {step name : String} (other : name ≠ step) (path : Path) (slot : Slot) :
    ((objects.putAt top step path slot).fields top).get? name = (objects.fields top).get? name := by
  cases path with
  | nil =>
    rw [Objects.putAt, fields_setFields_self is.inside]
    exact Entries.get?_put_of_ne _ _ other
  | cons next rest =>
    unfold Objects.putAt
    split
    next inner there =>
      rw [is.fields_putAt (fun same => is.nowhere top _ (Entries.get?_mem there) (same ▸ rfl))]
    next =>
      change (((objects.link top step).putAt objects.entries.size next rest slot).fields top).get? name = _
      rw [(is.link top step).fields_putAt (Nat.ne_of_gt is.inside), fields_link_self is.inside]
      exact Entries.get?_put_of_ne _ _ other

theorem slotAt?_ne (is : objects.IsTop top) {step : String} {rest : Path} {slot : Slot}
    (there : objects.slotAt? id (step :: rest) = some slot) : slot ≠ .object top := by
  induction rest generalizing id step with
  | nil => exact is.nowhere id _ (Entries.get?_mem there)
  | cons next rest ih =>
    rw [slotAt?] at there
    split at there
    next inner _ => exact ih there
    next => cases there

theorem viewWithin_setFields (is : objects.IsTop top) (fields : Entries Slot) (depth : Nat) {slot : Slot}
    (other : slot ≠ .object top) :
    (objects.setFields top fields).viewWithin depth slot = objects.viewWithin depth slot := by
  refine viewWithin_frame (· ≠ .object top) ?_ depth other
  intro id notTop
  have differ : id ≠ top := fun same => notTop (same ▸ rfl)
  exact ⟨fields_setFields_ne _ differ _, is.nowhere id⟩

theorem slotAt?_setFields_below (is : objects.IsTop top) (fields : Entries Slot) (below : id ≠ top) (path : Path) :
    (objects.setFields top fields).slotAt? id path = objects.slotAt? id path := by
  induction path generalizing id with
  | nil => rfl
  | cons step rest ih =>
    cases rest with
    | nil => rw [slotAt?, slotAt?, fields_setFields_ne _ below]
    | cons next rest =>
      rw [slotAt?, slotAt?, fields_setFields_ne _ below]
      cases there : (objects.fields id).get? step with
      | none => rfl
      | some slot =>
        cases slot with
        | value v => rfl
        | object inner => exact ih fun same => is.nowhere id _ (Entries.get?_mem there) (same ▸ rfl)

theorem slotAt?_setFields (is : objects.IsTop top) {fields : Entries Slot} {step : String}
    (same : fields.get? step = (objects.fields top).get? step) (rest : Path) :
    (objects.setFields top fields).slotAt? top (step :: rest) = objects.slotAt? top (step :: rest) := by
  cases rest with
  | nil => rw [slotAt?, slotAt?, fields_setFields_self is.inside, same]
  | cons next rest =>
    rw [slotAt?, slotAt?, fields_setFields_self is.inside, same]
    cases there : (objects.fields top).get? step with
    | none => rfl
    | some slot =>
      cases slot with
      | value v => rfl
      | object inner =>
        exact is.slotAt?_setFields_below _ (fun same => is.nowhere top _ (Entries.get?_mem there) (same ▸ rfl)) _

end IsTop

theorem add_isTop {objects : Objects} (acyclic : objects.AreAcyclic) {fields : Entries Slot}
    (each : ∀ field ∈ fields, ∀ inner, field.2 = .object inner → inner < objects.entries.size) :
    (objects.add fields).2.IsTop objects.entries.size := by
  obtain ⟨rank, ranked⟩ := acyclic
  refine ⟨by rw [size_add]; exact Nat.lt_succ_self _, fun id field member same => ?_⟩
  rw [fields_add] at member
  split at member
  next => exact Nat.lt_irrefl _ (each field member _ same)
  next => exact Nat.lt_irrefl _ (ranked.inside id field member _ same)

end Objects

namespace Store

variable {μ : Type} [StorageArea μ]

/-! ### Calls that leave the root on top -/

/-- Does a call put the whole tree at a place in itself? -/
def Change.NestsTree : Change → Prop
  | .set _ _ _ => False
  | .copy source target =>
    Path.ofJson source = .ok [] ∧ ∃ step rest, Path.ofJson target = .ok (step :: rest)

/-- Is the first step of the path at which a call puts something there, and another one? -/
def Change.IsElsewhere (key : String) (change : Change) : Prop :=
  ∀ steps, Path.ofJson change.target = .ok steps → ∃ step rest, steps = step :: rest ∧ step ≠ key

/-- What a call puts leaves the root on top: it goes to the place of the root, or does not hold it. -/
theorem Change.puts_top {change : Change} {store before : Store} {steps : Path} {slot : Slot}
    (top : store.objects.IsTop store.root) (flat : ¬ change.NestsTree)
    (way : Path.ofJson change.target = .ok steps) (puts : change.Puts store before slot) :
    before.root = store.root ∧ before.objects.IsTop store.root ∧
      before.objects.fields store.root = store.objects.fields store.root ∧
      (steps = [] ∨ slot ≠ .object store.root) := by
  cases puts with
  | @value _ _ _ value has =>
    obtain ⟨still, other⟩ := top.takeIn value
    exact ⟨rfl, still, (Objects.takeIn_seen value store.objects).grown.same _ top.inside, .inr other⟩
  | @found source target from_ slot found there =>
    refine ⟨rfl, top, rfl, ?_⟩
    cases from_ with
    | nil =>
      cases steps with
      | nil => exact .inl rfl
      | cons step rest => exact absurd ⟨found, step, rest, way⟩ flat
    | cons step rest => exact .inr (top.slotAt?_ne there)
  | nothing => exact ⟨rfl, top, rfl, .inr (by simp)⟩

theorem put_isTop {store after : Store} {steps : Path} {slot : Slot} (top : store.objects.IsTop store.root)
    (fits : steps = [] ∨ slot ≠ .object store.root) (put : store.put steps slot = .ok after) :
    after.objects.IsTop store.root := by
  unfold Store.put at put
  split at put
  next _ step rest =>
    cases put
    exact top.putAt _ step rest (fits.resolve_left (by simp))
  next id =>
    cases put
    have cleared : (store.objects.setFields store.root []).IsTop store.root := top.setFields _ (by simp)
    exact cleared.setFields _ (cleared.nowhere id)
  next => cases put

theorem Change.applied_isTop {change : Change} {store after : Store} (top : store.objects.IsTop store.root)
    (flat : ¬ change.NestsTree) (applied : change.applied store = .ok after) :
    after.objects.IsTop store.root := by
  obtain ⟨before, steps, slot, way, puts, put⟩ := Change.applied_at applied
  obtain ⟨root, still, -, fits⟩ := Change.puts_top top flat way puts
  rw [← root] at still fits ⊢
  exact put_isTop still fits put

/-- A call that puts something elsewhere leaves an entry of the root. -/
theorem Change.applied_elsewhere {change : Change} {store after : Store} {key : String}
    (top : store.objects.IsTop store.root) (flat : ¬ change.NestsTree) (elsewhere : change.IsElsewhere key)
    (applied : change.applied store = .ok after) :
    (after.objects.fields store.root).get? key = (store.objects.fields store.root).get? key := by
  obtain ⟨before, steps, slot, way, puts, put⟩ := Change.applied_at applied
  obtain ⟨step, rest, rfl, other⟩ := elsewhere steps way
  obtain ⟨root, still, same, -⟩ := Change.puts_top top flat way puts
  cases put
  dsimp only
  rw [root, still.get?_putAt (Ne.symm other), same]

/-! ### Stores with the root on top -/

/-- Does the root of a store stand in no mapping, and does its medium fail softly as long as there is one? -/
structure IsUpright (calm : μ → Prop) (now : Store × μ) : Prop where
  top : now.1.objects.IsTop now.1.root
  sound : now.1.objects.AreSound
  calm : now.1.durable = true → calm now.2

/-- A call is rejected and changes nothing, or the tree it comes to is the one that is left. -/
theorem Change.start_calm {calm : μ → Prop} (soft : FailsSoftly calm) (change : Change) {now : Logged (Store × μ)}
    (calmly : now.state.1.durable = true → calm now.state.2) :
    (∃ fault, change.applied now.state.1 = .error fault ∧ change.perform.start now = (.error fault, now)) ∨
      ∃ changed after, change.applied now.state.1 = .ok changed ∧ change.perform.start now = (.ok (), after) ∧
        SameTree after.state.1 changed ∧ (after.state.1.durable = true → calm after.state.2) := by
  rw [change.start_perform]
  cases applied : change.applied now.state.1 with
  | error fault => exact .inl ⟨fault, rfl, rfl⟩
  | ok changed =>
    have calmly' : changed.durable = true → calm (Logged.mk now.state.2 now.log).state :=
      fun still => calmly ((Change.applied_same applied).2.2.symm.trans still)
    obtain ⟨after, done, committed⟩ := commit_committed soft changed ⟨now.state.2, now.log⟩ calmly'
    obtain ⟨objects, root, -, calm⟩ := committed.same soft calmly'
    exact .inr ⟨changed, after, rfl, done, ⟨objects, root⟩, calm⟩

theorem IsUpright.change {calm : μ → Prop} (soft : FailsSoftly calm) {now : Logged (Store × μ)}
    (upright : IsUpright calm now.state) {change : Change} (flat : ¬ change.NestsTree) :
    IsUpright calm (change.perform.start now).2.state := by
  rcases change.start_calm soft upright.calm with ⟨fault, -, ran⟩ | ⟨changed, after, applied, ran, same, calmly⟩
  · rw [ran]
    exact upright
  · rw [ran]
    refine ⟨?_, ?_, calmly⟩
    · rw [same.objects, same.root, (Change.applied_same applied).1]
      exact Change.applied_isTop upright.top flat applied
    · rw [same.objects]
      exact Change.applied_sound upright.sound applied

def Use.NestsTree : Use → Prop
  | .get _ _ => False
  | .edit change => change.NestsTree

theorem IsUpright.use {calm : μ → Prop} (soft : FailsSoftly calm) {now : Logged (Store × μ)}
    (upright : IsUpright calm now.state) {use : Use} (flat : ¬ use.NestsTree) :
    IsUpright calm (use.after now).state := by
  cases use with
  | get path default =>
    rw [(Use.answer_get now path default).2]
    exact upright
  | edit change =>
    rw [(Use.answer_edit now change).2]
    exact upright.change soft flat

theorem IsUpright.afterAll {calm : μ → Prop} (soft : FailsSoftly calm) {uses : List Use}
    (flat : ∀ use ∈ uses, ¬ use.NestsTree) {now : Logged (Store × μ)} (upright : IsUpright calm now.state) :
    IsUpright calm (Store.afterAll uses now).state := by
  induction uses generalizing now with
  | nil => exact upright
  | cons use uses ih =>
    exact ih (fun other member => flat other (List.mem_cons_of_mem _ member))
      (upright.use soft (flat use List.mem_cons_self))

theorem ofEntries_isTop (key : String) (durable : Bool) (entries : Entries Json) :
    (ofEntries key durable entries).objects.IsTop (ofEntries key durable entries).root := by
  obtain ⟨acyclic, slots⟩ := Objects.takeInFields_acyclic ⟨_, Objects.IsRanked.empty⟩
    fun field (_ : field ∈ entries) _ acyclic => Objects.takeIn_acyclic field.2 acyclic
  exact Objects.add_isTop acyclic slots

theorem openOn_isUpright {calm : μ → Prop} {name : Option String} {medium after : Logged μ} {store : Store}
    (opened : (openOn name).start medium = (.ok store, after)) (calmly : calm after.state) :
    IsUpright calm (store, after.state) := by
  rcases openOn_cases opened with rfl | ⟨entries, rfl, probed⟩
  · exact ⟨ofEntries_isTop _ _ _, ofEntries_sound _ _ Json.isSound_empty, fun _ => calmly⟩
  · obtain ⟨last, item, -, found⟩ := probe_ok probed
    exact ⟨ofEntries_isTop _ _ _, ofEntries_sound _ _ (document_sound found), fun _ => calmly⟩

end Store

end ChatWidget
