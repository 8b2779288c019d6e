import ChatWidget.Proofs.Store.Acyclic
import ChatWidget.Proofs.Store.Calls
import ChatWidget.Proofs.Store.Durable
import Mathlib.Data.Fintype.Card
/-!
Places in the tree of a store. A mapping may stand at several places at once, and where it stands inside itself
there is no end of them. In a tree without that no place is deeper than there are mappings, so the tree looks the
same however deep one looks beyond.
-/
namespace ChatWidget

namespace Objects

theorem slotAt?_concat (objects : Objects) (id : ObjectId) (path : Path) (step : String) :
    objects.slotAt? id (path ++ [step]) =
      match objects.slotAt? id path with
      | some (.object inner) => (objects.fields inner).get? step
      | _ => none := by
  induction path generalizing id with
  | nil => rfl
  | cons first rest ih =>
    cases rest with
    | nil =>
      change objects.slotAt? id (first :: step :: []) = _
      rw [slotAt?, slotAt?]
      rfl
    | cons next rest =>
      change objects.slotAt? id (first :: next :: (rest ++ [step])) = _
      rw [slotAt?, slotAt?]
      split
      next inner _ => exact ih inner
      next => rfl

theorem slotAt?_concat_some {objects : Objects} {id : ObjectId} {path : Path} {step : String} {slot : Slot}
    (found : objects.slotAt? id (path ++ [step]) = some slot) :
    ∃ inner, objects.slotAt? id path = some (.object inner) ∧ (objects.fields inner).get? step = some slot := by
  rw [slotAt?_concat] at found
  split at found
  next inner before => exact ⟨inner, before, found⟩
  next => cases found

theorem slotAt?_prefix {objects : Objects} {id : ObjectId} {path more : Path} {inner : ObjectId}
    (found : objects.slotAt? id (path ++ more) = some (.object inner)) :
    ∃ between, objects.slotAt? id path = some (.object between) := by
  induction more using List.reverseRecOn generalizing inner with
  | nil =>
    rw [List.append_nil] at found
    exact ⟨inner, found⟩
  | append_singleton more step ih =>
    rw [← List.append_assoc] at found
    obtain ⟨before, reached, -⟩ := slotAt?_concat_some found
    exact ih reached

end Objects

/-- Is a slot one that may stand in an entry: a value that is no mapping, or a mapping that exists? -/
def Slot.Fits (size : Nat) : Slot → Prop
  | .value v => ∀ fields, v ≠ .obj fields
  | .object id => id < size

theorem Slot.Fits.mono {slot : Slot} {size larger : Nat} (fits : slot.Fits size) (le : size ≤ larger) :
    slot.Fits larger := by
  cases slot with
  | value v => exact fits
  | object id => exact Nat.lt_of_lt_of_le fits le

namespace Objects

def AreFit (objects : Objects) : Prop :=
  ∀ id, ∀ field ∈ objects.fields id, field.2.Fits objects.entries.size

theorem AreFit.empty : AreFit {} := by
  intro id field member
  simp [Objects.fields] at member

theorem AreFit.setFields {objects : Objects} (fit : objects.AreFit) (id : ObjectId) {fields : Entries Slot}
    (each : ∀ field ∈ fields, field.2.Fits objects.entries.size) : (objects.setFields id fields).AreFit := by
  intro other field member
  rw [size_setFields]
  cases fields_setFields objects id other fields with
  | inl kept => exact fit other field (kept ▸ member)
  | inr new => exact each field (new ▸ member)

theorem AreFit.add {objects : Objects} (fit : objects.AreFit) {fields : Entries Slot}
    (each : ∀ field ∈ fields, field.2.Fits objects.entries.size) : (objects.add fields).2.AreFit := by
  intro other field member
  rw [size_add]
  rw [fields_add] at member
  split at member
  · exact (each field member).mono (Nat.le_succ _)
  · exact (fit other field member).mono (Nat.le_succ _)

theorem AreFit.putEntry {objects : Objects} (fit : objects.AreFit) (id : ObjectId) (name : String) {slot : Slot}
    (fits : slot.Fits objects.entries.size) :
    (objects.setFields id ((objects.fields id).put name slot)).AreFit :=
  fit.setFields id (Entries.forall_mem_put (fit id) fits)

theorem AreSound.link {objects : Objects} (sound : objects.AreSound) (id : ObjectId) (step : String) :
    (objects.link id step).AreSound := by
  have added : (objects.add []).2.AreSound := sound.add List.nodup_nil (by simp)
  have linked : (Slot.object objects.entries.size).IsSound := trivial
  exact added.putEntry id step linked

theorem AreFit.link {objects : Objects} (fit : objects.AreFit) (id : ObjectId) (step : String) :
    (objects.link id step).AreFit := by
  apply (fit.add (by simp)).putEntry id step
  rw [size_add]
  exact Nat.lt_succ_self _

theorem takeInFields_fit {fields : List (String × Json)}
    (parts : ∀ field ∈ fields, ∀ {objects : Objects}, objects.AreFit →
      (takeIn field.2 objects).1.Fits (takeIn field.2 objects).2.entries.size ∧ (takeIn field.2 objects).2.AreFit)
    {objects : Objects} (fit : objects.AreFit) :
    (∀ field ∈ (takeInFields fields objects).1, field.2.Fits (takeInFields fields objects).2.entries.size) ∧
      (takeInFields fields objects).2.AreFit := by
  induction fields generalizing objects with
  | nil =>
    rw [takeInFields]
    exact ⟨by simp, fit⟩
  | cons field fields later =>
    obtain ⟨name, value⟩ := field
    obtain ⟨slot, first⟩ := parts (name, value) List.mem_cons_self fit
    obtain ⟨others, all⟩ := later (fun field member => parts field (List.mem_cons_of_mem _ member)) first
    have grown : (takeIn value objects).2.GrowsTo (takeInFields fields (takeIn value objects).2).2 :=
      (takeInFields_seen (fun field _ => takeIn_seen field.2) _).1
    rw [takeInFields_cons]
    refine ⟨?_, all⟩
    intro field member
    cases List.mem_cons.mp member with
    | inl here =>
      rw [here]
      exact slot.mono grown.size
    | inr there => exact others field there

theorem takeIn_fit (value : Json) {objects : Objects} (fit : objects.AreFit) :
    (takeIn value objects).1.Fits (takeIn value objects).2.entries.size ∧ (takeIn value objects).2.AreFit := by
  induction value using Json.byParts generalizing objects with
  | obj fields ih =>
    obtain ⟨slots, all⟩ := takeInFields_fit (fun field member _ => ih field member) fit
    rw [takeIn_obj]
    refine ⟨?_, all.add slots⟩
    rw [size_add]
    exact Nat.lt_succ_self _
  | _ =>
    rw [takeIn_leaf (by simp)]
    refine ⟨?_, fit⟩
    simp [Slot.Fits]

theorem AreFit.putAt {objects : Objects} (fit : objects.AreFit) (id : ObjectId) (step : String) (path : Path)
    {slot : Slot} (fits : slot.Fits objects.entries.size) :
    (objects.putAt id step path slot).AreFit ∧
      objects.entries.size ≤ (objects.putAt id step path slot).entries.size := by
  induction path generalizing objects id step with
  | nil =>
    rw [Objects.putAt]
    exact ⟨fit.putEntry id step fits, Nat.le_of_eq (size_setFields _ _ _).symm⟩
  | cons next rest ih =>
    rw [Objects.putAt]
    split
    · exact ih fit _ _ fits
    · have grown := size_link objects id step
      obtain ⟨done, larger⟩ := ih (fit.link id step) objects.entries.size next
        (fits.mono (by omega))
      exact ⟨done, Nat.le_trans (by omega) larger⟩

theorem slotAt?_fits {objects : Objects} (fit : objects.AreFit) {id : ObjectId} (inside : id < objects.entries.size)
    {path : Path} {slot : Slot} (found : objects.slotAt? id path = some slot) :
    slot.Fits objects.entries.size := by
  induction path using List.reverseRecOn with
  | nil =>
    rw [slotAt?] at found
    cases found
    exact inside
  | append_singleton path step ih =>
    obtain ⟨inner, -, last⟩ := slotAt?_concat_some found
    exact fit inner _ (Entries.get?_mem last)

end Objects

namespace Store

/-- Are the objects of a store in order: sound, and with slots that fit? -/
structure IsTidy (store : Store) : Prop where
  sound : store.objects.AreSound
  fit : store.objects.AreFit
  inside : store.root < store.objects.entries.size

theorem ofEntries_isTidy (key : String) (durable : Bool) {entries : Entries Json}
    (sound : Json.IsSound (.obj entries)) : (ofEntries key durable entries).IsTidy := by
  obtain ⟨inside, fit⟩ := Objects.takeIn_fit (.obj entries) Objects.AreFit.empty
  rw [Objects.takeIn_obj] at inside fit
  exact ⟨ofEntries_sound key durable sound, fit, inside⟩

theorem put_fit {store after : Store} (fit : store.objects.AreFit) (inside : store.root < store.objects.entries.size)
    {path : Path} {slot : Slot} (fits : slot.Fits store.objects.entries.size) (put : store.put path slot = .ok after) :
    after.objects.AreFit ∧ after.root < after.objects.entries.size := by
  unfold Store.put at put
  split at put
  next step rest =>
    cases put
    obtain ⟨done, larger⟩ := fit.putAt store.root step rest fits
    exact ⟨done, Nat.lt_of_lt_of_le inside larger⟩
  next id =>
    cases put
    have cleared : (store.objects.setFields store.root []).AreFit := fit.setFields _ (by simp)
    refine ⟨cleared.setFields _ (cleared id), ?_⟩
    dsimp only
    rw [Objects.size_setFields, Objects.size_setFields]
    exact inside
  next => cases put

theorem slot?_concat (store : Store) (path : Path) (step : String) :
    store.slot? (path ++ [step]) =
      match store.slot? path with
      | some (.object inner) => (store.objects.fields inner).get? step
      | _ => none :=
  store.objects.slotAt?_concat store.root path step

theorem slot?_entry {store : Store} (sound : store.objects.AreSound) {path : Path} {id : ObjectId}
    (found : store.slot? path = some (.object id)) {name : String} {slot : Slot}
    (member : (name, slot) ∈ store.objects.fields id) : store.slot? (path ++ [name]) = some slot := by
  rw [slot?_concat, found]
  exact (sound id).1.get?_of_mem member

theorem IsTidy.fits {store : Store} (tidy : store.IsTidy) {path : Path} {slot : Slot}
    (found : store.slot? path = some slot) : slot.Fits store.objects.entries.size :=
  Objects.slotAt?_fits tidy.fit tidy.inside found

theorem Change.applied_isTidy {change : Change} {store after : Store} (tidy : store.IsTidy)
    (applied : change.applied store = .ok after) : after.IsTidy := by
  have sound := Change.applied_sound tidy.sound applied
  obtain ⟨before, steps, slot, puts, put⟩ := Change.applied_cases applied
  suffices done : after.objects.AreFit ∧ after.root < after.objects.entries.size from ⟨sound, done.1, done.2⟩
  cases puts with
  | @value _ _ _ value has =>
    obtain ⟨fits, fit⟩ := Objects.takeIn_fit value tidy.fit
    have grown := (Objects.takeIn_seen value store.objects).grown.size
    refine put_fit ?_ ?_ fits put
    · exact fit
    · exact Nat.lt_of_lt_of_le tidy.inside grown
  | found way there => exact put_fit tidy.fit tidy.inside (tidy.fits there) put
  | nothing =>
    have fits : (Slot.value .null).Fits store.objects.entries.size := nofun
    exact put_fit tidy.fit tidy.inside fits put

theorem Use.left_isTidy (use : Use) {store : Store} (tidy : store.IsTidy) : (use.left store).IsTidy := by
  cases use with
  | get path default => exact tidy
  | edit change =>
    unfold left
    dsimp only
    cases applied : change.applied store with
    | error fault => exact tidy
    | ok after => exact Change.applied_isTidy tidy applied

theorem leftAll_isTidy (uses : List Use) {store : Store} (tidy : store.IsTidy) : (leftAll uses store).IsTidy := by
  induction uses generalizing store with
  | nil => exact tidy
  | cons use uses ih => exact ih (use.left_isTidy tidy)

/-! ### No mapping inside itself -/

/-- Does no mapping in the tree stand inside itself? -/
def HasNoLoop (store : Store) : Prop :=
  ∀ path more id, store.slot? path = some (.object id) → store.slot? (path ++ more) = some (.object id) →
    more = []

def IsUnshared (store : Store) : Prop :=
  ∀ first second id, store.slot? first = some (.object id) → store.slot? second = some (.object id) →
    first = second

theorem IsUnshared.hasNoLoop {store : Store} (unshared : store.IsUnshared) : store.HasNoLoop := by
  intro path more id here there
  exact (List.append_right_eq_self.mp (unshared path (path ++ more) id here there).symm)

/-- Where mappings have ranks above those of the mappings in them, none stands inside itself. -/
theorem AreAcyclic.hasNoLoop {store : Store} (acyclic : store.objects.AreAcyclic) : store.HasNoLoop := by
  obtain ⟨rank, ranked⟩ := acyclic
  have below : ∀ (path more : Path) {id last : ObjectId}, store.slot? path = some (.object id) →
      store.slot? (path ++ more) = some (.object last) → rank last + more.length ≤ rank id := by
    intro path more
    induction more using List.reverseRecOn with
    | nil =>
      intro id last here there
      rw [List.append_nil] at there
      cases here.symm.trans there
      exact Nat.le_refl _
    | append_singleton more step ih =>
      intro id last here there
      rw [← List.append_assoc] at there
      obtain ⟨inner, before, entry⟩ := Objects.slotAt?_concat_some there
      have lower := ranked.lower inner _ (Entries.get?_mem entry) last rfl
      have above := ih here before
      rw [List.length_append, List.length_singleton]
      omega
  intro path more id here there
  have length := below path more here there
  exact List.eq_nil_of_length_eq_zero (by omega)

/-- No place is deeper than there are mappings, since the mappings on the way there are all different. -/
theorem HasNoLoop.length_lt {store : Store} (noLoop : store.HasNoLoop) (tidy : store.IsTidy) {path : Path}
    {id : ObjectId} (found : store.slot? path = some (.object id)) : path.length < store.objects.entries.size := by
  have onTheWay : ∀ depth : Fin (path.length + 1), ∃ between : Fin store.objects.entries.size,
      store.slot? (path.take depth) = some (.object between) := by
    intro depth
    rw [← List.take_append_drop depth.val path] at found
    obtain ⟨between, reached⟩ := Objects.slotAt?_prefix found
    exact ⟨⟨between, tidy.fits reached⟩, reached⟩
  choose mapping reached using onTheWay
  -- A mapping that is met twice on the way would stand inside itself.
  have different : Function.Injective mapping := by
    intro first second same
    wlog le : first.val ≤ second.val generalizing first second
    · exact (this same.symm (Nat.le_of_lt (Nat.lt_of_not_le le))).symm
    have here := reached first
    have there := reached second
    rw [← same] at there
    obtain ⟨gap, far⟩ := Nat.exists_eq_add_of_le le
    rw [far, List.take_add] at there
    have none := noLoop _ _ _ here there
    apply Fin.ext
    have bound := second.isLt
    have length := congrArg List.length none
    rw [List.length_take, List.length_drop, List.length_nil] at length
    omega
  have few := Fintype.card_le_of_injective mapping different
  rw [Fintype.card_fin, Fintype.card_fin] at few
  exact few

/-- In a tree whose places are not deeper than a bound nothing is seen beyond it. -/
theorem viewWithin_deeper {store : Store} (sound : store.objects.AreSound) {bound : Nat}
    (short : ∀ path id, store.slot? path = some (.object id) → path.length < bound) {path : Path} {slot : Slot}
    (found : store.slot? path = some slot) (depth other : Nat) (deep : bound ≤ path.length + depth)
    (deeper : bound ≤ path.length + other) :
    store.objects.viewWithin depth slot = store.objects.viewWithin other slot := by
  induction depth generalizing path slot other with
  | zero =>
    cases slot with
    | value v => rw [Objects.viewWithin_value, Objects.viewWithin_value]
    | object id => exact absurd (short path id found) (by omega)
  | succ depth ih =>
    cases slot with
    | value v => rw [Objects.viewWithin_value, Objects.viewWithin_value]
    | object id =>
      have here := short path id found
      obtain ⟨other, rfl⟩ : ∃ n, other = n + 1 := ⟨other - 1, by omega⟩
      rw [Objects.viewWithin, Objects.viewWithin]
      congr 1
      apply List.map_congr_left
      rintro ⟨name, inner⟩ member
      have next := slot?_entry sound found member
      have length : (path ++ [name]).length = path.length + 1 := by simp
      exact congrArg (Prod.mk name) (ih next other (by omega) (by omega))

theorem HasNoLoop.view_eq {store : Store} (noLoop : store.HasNoLoop) (tidy : store.IsTidy) {path : Path}
    {slot : Slot} (found : store.slot? path = some slot) {depth : Nat}
    (deep : store.objects.entries.size ≤ depth) :
    store.objects.view slot = store.objects.viewWithin depth slot :=
  viewWithin_deeper tidy.sound (fun _ _ => noLoop.length_lt tidy) found _ _
    (Nat.le_add_left _ _) (Nat.le_trans deep (Nat.le_add_left _ _))

end Store

end ChatWidget
