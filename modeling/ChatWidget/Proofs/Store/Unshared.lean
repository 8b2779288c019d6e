import ChatWidget.Proofs.Store.Places
import Mathlib.Logic.Function.Basic
/-!
Trees in which each mapping stands at one place. Every mapping has an address there, the path that leads to it, and
a mapping that is made gets the address of the place it is made for. So a store that was opened shares no mapping,
and only a call that copies one can change that.
-/
namespace ChatWidget

/-- The paths of the mappings that stand anywhere. -/
abbrev Addresses := ObjectId → Option Path

/-- Are all addresses still the same, with others for new mappings? -/
def Addresses.GrowTo (addresses wider : Addresses) : Prop :=
  ∀ {id path}, addresses id = some path → wider id = some path

/-- If a slot holds a mapping, is the address of this the given path? -/
def Slot.StandsAt (addresses : Addresses) (path : Path) : Slot → Prop
  | .value _ => True
  | .object id => addresses id = some path

theorem Slot.StandsAt.mono {addresses wider : Addresses} (grown : addresses.GrowTo wider) {path : Path} {slot : Slot}
    (stands : slot.StandsAt addresses path) : slot.StandsAt wider path := by
  cases slot with
  | value v => trivial
  | object id => exact grown stands

namespace Objects

/-- Does each mapping with an address hold only mappings that have the addresses below? -/
structure Addressed (objects : Objects) (addresses : Addresses) : Prop where
  inside : ∀ {id path}, addresses id = some path → id < objects.entries.size
  below : ∀ {id path}, addresses id = some path →
    ∀ field ∈ objects.fields id, field.2.StandsAt addresses (path ++ [field.1])

namespace Addressed

variable {objects : Objects} {addresses : Addresses} {id : ObjectId} {path : Path}

theorem setFields (addressed : objects.Addressed addresses) (here : addresses id = some path)
    {fields : Entries Slot} (each : ∀ field ∈ fields, field.2.StandsAt addresses (path ++ [field.1])) :
    (objects.setFields id fields).Addressed addresses := by
  refine ⟨?_, ?_⟩
  · intro other _ there
    rw [size_setFields]
    exact addressed.inside there
  · intro other base there field member
    by_cases same : other = id
    · subst same
      cases here.symm.trans there
      rw [fields_setFields_self (addressed.inside there)] at member
      exact each field member
    · rw [fields_setFields_ne _ same] at member
      exact addressed.below there field member

theorem putEntry (addressed : objects.Addressed addresses) (here : addresses id = some path) {name : String}
    {slot : Slot} (stands : slot.StandsAt addresses (path ++ [name])) :
    (objects.setFields id ((objects.fields id).put name slot)).Addressed addresses :=
  addressed.setFields here (Entries.forall_mem_put (addressed.below here) stands)

theorem add (addressed : objects.Addressed addresses) {fields : Entries Slot} (path : Path)
    (each : ∀ field ∈ fields, field.2.StandsAt addresses (path ++ [field.1])) :
    ∃ wider, addresses.GrowTo wider ∧ (objects.add fields).2.Addressed wider ∧
      wider objects.entries.size = some path := by
  have grown : addresses.GrowTo (Function.update addresses objects.entries.size (some path)) := by
    intro id base there
    rw [Function.update_of_ne (Nat.ne_of_lt (addressed.inside there))]
    exact there
  refine ⟨_, grown, ⟨?_, ?_⟩, Function.update_self _ _ _⟩
  · intro id base there
    rw [size_add]
    by_cases new : id = objects.entries.size
    · exact new ▸ Nat.lt_succ_self _
    · rw [Function.update_of_ne new] at there
      exact Nat.lt_succ_of_lt (addressed.inside there)
  · intro id base there field member
    rw [fields_add] at member
    split at member
    next new =>
      rw [new, Function.update_self] at there
      cases there
      exact (each field member).mono grown
    next old =>
      rw [Function.update_of_ne old] at there
      exact (addressed.below there field member).mono grown

theorem takeInFields {fields : List (String × Json)}
    (parts : ∀ field ∈ fields, ∀ {objects : Objects} {addresses : Addresses}, objects.Addressed addresses →
      ∀ path, ∃ wider, addresses.GrowTo wider ∧ (takeIn field.2 objects).2.Addressed wider ∧
        (takeIn field.2 objects).1.StandsAt wider path)
    (addressed : objects.Addressed addresses) (path : Path) :
    ∃ wider, addresses.GrowTo wider ∧ (Objects.takeInFields fields objects).2.Addressed wider ∧
      ∀ field ∈ (Objects.takeInFields fields objects).1, field.2.StandsAt wider (path ++ [field.1]) := by
  induction fields generalizing objects addresses with
  | nil =>
    rw [Objects.takeInFields]
    exact ⟨addresses, fun same => same, addressed, by simp⟩
  | cons field fields ih =>
    obtain ⟨name, value⟩ := field
    obtain ⟨wider, grown, first, slot⟩ := parts (name, value) List.mem_cons_self addressed (path ++ [name])
    obtain ⟨widest, more, all, others⟩ := ih (fun field member => parts field (List.mem_cons_of_mem _ member)) first
    rw [takeInFields_cons]
    refine ⟨widest, fun there => more (grown there), all, ?_⟩
    intro field member
    cases List.mem_cons.mp member with
    | inl here =>
      rw [here]
      exact slot.mono more
    | inr there => exact others field there

theorem takeIn (value : Json) (addressed : objects.Addressed addresses) (path : Path) :
    ∃ wider, addresses.GrowTo wider ∧ (Objects.takeIn value objects).2.Addressed wider ∧
      (Objects.takeIn value objects).1.StandsAt wider path := by
  induction value using Json.byParts generalizing objects addresses path with
  | obj fields ih =>
    obtain ⟨wider, grown, all, slots⟩ := takeInFields (fun field member _ _ => ih field member) addressed path
    obtain ⟨widest, more, done, here⟩ := all.add path slots
    rw [takeIn_obj]
    exact ⟨widest, fun there => more (grown there), done, here⟩
  | _ =>
    rw [takeIn_leaf (by simp)]
    exact ⟨addresses, fun same => same, addressed, trivial⟩

/-- A mapping that is made on the way to a place has the address of where it is put. -/
theorem link (addressed : objects.Addressed addresses) (here : addresses id = some path) (step : String) :
    ∃ wider, addresses.GrowTo wider ∧ (objects.link id step).Addressed wider ∧
      wider objects.entries.size = some (path ++ [step]) := by
  obtain ⟨wider, grown, added, new⟩ := @add _ _ addressed [] (path ++ [step]) (by simp)
  have stood : (Slot.object objects.entries.size).StandsAt wider (path ++ [step]) := new
  exact ⟨wider, grown, added.putEntry (grown here) stood, new⟩

theorem putAt (addressed : objects.Addressed addresses) (here : addresses id = some path) (step : String)
    (rest : Path) {slot : Slot} (stands : slot.StandsAt addresses (path ++ step :: rest)) :
    ∃ wider, addresses.GrowTo wider ∧ (objects.putAt id step rest slot).Addressed wider := by
  induction rest generalizing objects addresses id path step with
  | nil =>
    rw [Objects.putAt]
    exact ⟨addresses, fun same => same, addressed.putEntry here stands⟩
  | cons next rest ih =>
    rw [List.append_cons] at stands
    rw [Objects.putAt]
    split
    next inner found => exact ih addressed (addressed.below here _ (Entries.get?_mem found)) next stands
    next =>
      obtain ⟨wider, grown, linked, new⟩ := addressed.link here step
      obtain ⟨widest, more, done⟩ := ih linked new next (stands.mono grown)
      exact ⟨widest, fun there => more (grown there), done⟩

theorem slotAt? (addressed : objects.Addressed addresses) (here : addresses id = some path) {more : Path} {slot : Slot}
    (found : objects.slotAt? id more = some slot) : slot.StandsAt addresses (path ++ more) := by
  induction more using List.reverseRecOn generalizing slot with
  | nil =>
    rw [Objects.slotAt?] at found
    cases found
    rw [List.append_nil]
    exact here
  | append_singleton more step ih =>
    obtain ⟨inner, before, last⟩ := slotAt?_concat_some found
    rw [← List.append_assoc]
    exact addressed.below (ih before) _ (Entries.get?_mem last)

end Addressed

end Objects

namespace Store

/-- Does each mapping of a store have an address, which counts from the root? -/
def IsAddressed (store : Store) : Prop :=
  ∃ addresses, store.objects.Addressed addresses ∧ addresses store.root = some []

theorem IsAddressed.isUnshared {store : Store} (addressed : store.IsAddressed) : store.IsUnshared := by
  obtain ⟨addresses, addressed, root⟩ := addressed
  intro first second id here there
  have one : addresses id = some first := addressed.slotAt? root here
  have other : addresses id = some second := addressed.slotAt? root there
  exact Option.some.inj (one.symm.trans other)

theorem ofEntries_isAddressed (key : String) (durable : Bool) (entries : Entries Json) :
    (ofEntries key durable entries).IsAddressed := by
  have empty : Objects.Addressed {} fun _ => none := ⟨nofun, nofun⟩
  obtain ⟨addresses, -, addressed, root⟩ := empty.takeIn (.obj entries) []
  rw [Objects.takeIn_obj] at addressed root
  exact ⟨addresses, addressed, root⟩

theorem put_isAddressed {store after : Store} {addresses : Addresses} (addressed : store.objects.Addressed addresses)
    (root : addresses store.root = some []) {path : Path} {slot : Slot} (stands : slot.StandsAt addresses path)
    (put : store.put path slot = .ok after) : after.IsAddressed := by
  unfold Store.put at put
  split at put
  next step rest =>
    cases put
    obtain ⟨wider, grown, done⟩ := addressed.putAt root step rest stands
    exact ⟨wider, done, grown root⟩
  next id =>
    cases put
    have cleared : (store.objects.setFields store.root []).Addressed addresses := addressed.setFields root (by simp)
    exact ⟨addresses, cleared.setFields root (cleared.below stands), root⟩
  next => cases put

/-- Does a call put a mapping that stands somewhere in the tree at another path? -/
def Use.CopiesMapping (store : Store) (use : Use) : Prop :=
  ∃ source target steps id, use = .edit (.copy source target) ∧ Path.ofJson source = .ok steps ∧
    store.slot? steps = some (.object id)

theorem Change.applied_isAddressed {change : Change} {store after : Store} (addressed : store.IsAddressed)
    (copiesNone : ¬ (Use.edit change).CopiesMapping store) (applied : change.applied store = .ok after) :
    after.IsAddressed := by
  obtain ⟨before, steps, slot, puts, put⟩ := Change.applied_cases applied
  obtain ⟨addresses, addressed, root⟩ := addressed
  cases puts with
  | @value _ _ _ value has =>
    obtain ⟨wider, grown, taken, stands⟩ := addressed.takeIn value steps
    refine put_isAddressed ?_ ?_ stands put
    · exact taken
    · exact grown root
  | @found source target from_ slot way there =>
    have stands : slot.StandsAt addresses steps := by
      cases slot with
      | value v => trivial
      | object id => exact absurd ⟨source, target, from_, id, rfl, way, there⟩ copiesNone
    exact put_isAddressed addressed root stands put
  | nothing =>
    have stands : (Slot.value .null).StandsAt addresses steps := trivial
    exact put_isAddressed addressed root stands put

theorem Use.left_isAddressed {store : Store} (addressed : store.IsAddressed) {use : Use}
    (copiesNone : ¬ use.CopiesMapping store) : (use.left store).IsAddressed := by
  cases use with
  | get path default => exact addressed
  | edit change =>
    unfold left
    dsimp only
    cases applied : change.applied store with
    | error fault => exact addressed
    | ok after => exact Change.applied_isAddressed addressed copiesNone applied

theorem leftAll_isAddressed (uses : List Use) {store : Store} (addressed : store.IsAddressed)
    (copiesNone : ∀ earlier use later, uses = earlier ++ use :: later →
      ¬ use.CopiesMapping (leftAll earlier store)) :
    (leftAll uses store).IsAddressed := by
  induction uses generalizing store with
  | nil => exact addressed
  | cons use uses ih =>
    apply ih (use.left_isAddressed addressed (copiesNone [] use uses rfl))
    intro earlier other later split
    exact copiesNone (use :: earlier) other later (congrArg (use :: ·) split)

end Store

end ChatWidget
