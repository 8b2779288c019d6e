import ChatWidget.Store.Objects
import ChatWidget.Proofs.Json.Tidy
/-!
What is put into a tree of shared mappings keeps it sound: in each object every name comes once, and what
no path can change is a value that can be kept. So the whole tree can be written at any time. A value that
is taken in is seen as itself, however the objects grow later.
-/
namespace ChatWidget

/-- Can the value in an entry be kept, if it is one? -/
def Slot.IsSound : Slot → Prop
  | .value v => v.IsSound
  | .object _ => True

namespace Objects

def AreSound (objects : Objects) : Prop :=
  ∀ id, (objects.fields id).HasDistinctNames ∧ ∀ field ∈ objects.fields id, field.2.IsSound

theorem fields_setFields (objects : Objects) (id other : ObjectId) (fields : Entries Slot) :
    (objects.setFields id fields).fields other = objects.fields other ∨
      (objects.setFields id fields).fields other = fields := by
  unfold setFields Objects.fields
  by_cases same : id = other
  · subst same
    by_cases inside : id < objects.entries.size
    · exact .inr (by simp [inside])
    · exact .inl (by simp [inside])
  · exact .inl (by simp [Array.getElem?_setIfInBounds_ne same])

theorem fields_add (objects : Objects) (fields : Entries Slot) (other : ObjectId) :
    (objects.add fields).2.fields other =
      if other = objects.entries.size then fields else objects.fields other := by
  unfold add Objects.fields
  by_cases same : other = objects.entries.size
  · subst same
    simp
  · simp [same, Array.getElem?_push]

/-! ### Sound trees -/

theorem AreSound.empty : AreSound {} := by
  intro id
  have none : ({} : Objects).fields id = [] := by
    simp [Objects.fields]
  rw [none]
  exact ⟨List.nodup_nil, by simp⟩

theorem AreSound.setFields {objects : Objects} (sound : objects.AreSound) (id : ObjectId)
    {fields : Entries Slot} (distinct : fields.HasDistinctNames)
    (each : ∀ field ∈ fields, field.2.IsSound) : (objects.setFields id fields).AreSound := by
  intro other
  cases fields_setFields objects id other fields with
  | inl kept =>
    rw [kept]
    exact sound other
  | inr new =>
    rw [new]
    exact ⟨distinct, each⟩

theorem AreSound.add {objects : Objects} (sound : objects.AreSound) {fields : Entries Slot}
    (distinct : fields.HasDistinctNames) (each : ∀ field ∈ fields, field.2.IsSound) :
    (objects.add fields).2.AreSound := by
  intro other
  rw [fields_add]
  split
  · exact ⟨distinct, each⟩
  · exact sound other

theorem AreSound.putEntry {objects : Objects} (sound : objects.AreSound) (id : ObjectId)
    (name : String) {slot : Slot} (new : slot.IsSound) :
    (objects.setFields id ((objects.fields id).put name slot)).AreSound := by
  obtain ⟨distinct, each⟩ := sound id
  exact sound.setFields id (distinct.put name slot) (Entries.forall_mem_put each new)

theorem takeInFields_names (fields : List (String × Json)) (objects : Objects) :
    (takeInFields fields objects).1.names = Entries.names fields := by
  induction fields generalizing objects with
  | nil => simp [takeInFields, Entries.names]
  | cons field fields ih =>
    obtain ⟨name, value⟩ := field
    have later := ih (takeIn value objects).2
    unfold Entries.names at later ⊢
    simp only [takeInFields, List.map_cons, later]

theorem takeIn_leaf {value : Json} (leaf : ∀ fields, value ≠ .obj fields) (objects : Objects) :
    takeIn value objects = (.value value, objects) := by
  cases value with
  | obj fields => exact absurd rfl (leaf fields)
  | _ => simp [takeIn]

theorem takeIn_obj (fields : Entries Json) (objects : Objects) :
    takeIn (.obj fields) objects =
      (.object (takeInFields fields objects).2.entries.size,
        ((takeInFields fields objects).2.add (takeInFields fields objects).1).2) := by
  simp [takeIn, Objects.add]

theorem takeInFields_cons (name : String) (value : Json) (rest : List (String × Json))
    (objects : Objects) :
    takeInFields ((name, value) :: rest) objects =
      ((name, (takeIn value objects).1) :: (takeInFields rest (takeIn value objects).2).1,
        (takeInFields rest (takeIn value objects).2).2) := by
  simp [takeInFields]

theorem takeIn_sound {value : Json} (new : value.IsSound) {objects : Objects}
    (sound : objects.AreSound) :
    (takeIn value objects).1.IsSound ∧ (takeIn value objects).2.AreSound := by
  induction value using Json.byParts generalizing objects with
  | obj fields ih =>
    obtain ⟨distinct, each⟩ := Json.isSound_obj.mp new
    have inner : ∀ (fields : List (String × Json)) (objects : Objects), objects.AreSound →
        (∀ field ∈ fields, ∀ {objects : Objects}, objects.AreSound →
          (takeIn field.2 objects).1.IsSound ∧ (takeIn field.2 objects).2.AreSound) →
        (∀ field ∈ (takeInFields fields objects).1, field.2.IsSound) ∧
          (takeInFields fields objects).2.AreSound := by
      intro fields
      induction fields with
      | nil =>
        intro objects sound _
        rw [takeInFields]
        exact ⟨by simp, sound⟩
      | cons field fields later =>
        intro objects sound parts
        obtain ⟨name, value⟩ := field
        obtain ⟨slot, first⟩ := parts (name, value) List.mem_cons_self sound
        obtain ⟨others, all⟩ := later _ first fun field member =>
          parts field (List.mem_cons_of_mem _ member)
        rw [takeInFields_cons]
        refine ⟨?_, all⟩
        intro field member
        cases List.mem_cons.mp member with
        | inl here => exact here ▸ slot
        | inr there => exact others field there
    obtain ⟨slots, all⟩ := inner fields objects sound fun field member _ sound =>
      ih field member (each field member) sound
    rw [takeIn_obj]
    refine ⟨trivial, all.add ?_ slots⟩
    unfold Entries.HasDistinctNames
    rw [takeInFields_names]
    exact distinct
  | _ =>
    rw [takeIn_leaf (by simp)]
    exact ⟨new, sound⟩

theorem AreSound.putAt {objects : Objects} (sound : objects.AreSound) (id : ObjectId)
    (step : String) (path : Path) {slot : Slot} (new : slot.IsSound) :
    (objects.putAt id step path slot).AreSound := by
  induction path generalizing objects id step with
  | nil =>
    rw [Objects.putAt]
    exact sound.putEntry id step new
  | cons next rest ih =>
    rw [Objects.putAt]
    split
    · exact ih sound _ _
    · have added : (objects.add []).2.AreSound := sound.add List.nodup_nil (by simp)
      have linked : (Slot.object (objects.add []).1).IsSound := trivial
      exact ih (added.putEntry id step linked) _ _

theorem slotAt?_sound {objects : Objects} (sound : objects.AreSound) {id : ObjectId} {path : Path}
    {slot : Slot} (there : objects.slotAt? id path = some slot) : slot.IsSound := by
  induction path generalizing id with
  | nil =>
    rw [slotAt?] at there
    cases there
    trivial
  | cons step rest ih =>
    cases rest with
    | nil =>
      rw [slotAt?] at there
      exact (sound id).2 _ (Entries.get?_mem there)
    | cons next rest =>
      rw [slotAt?] at there
      split at there
      next inner _ => exact ih there
      next => cases there

theorem viewWithin_value (objects : Objects) (depth : Nat) (v : Json) :
    objects.viewWithin depth (.value v) = v := by
  rw [viewWithin.eq_def]

/-- What is seen in a slot is the same after a change that leaves the mappings in it alone. -/
theorem viewWithin_frame {objects after : Objects} (seen : Slot → Prop)
    (kept : ∀ id, seen (.object id) → after.fields id = objects.fields id ∧ ∀ entry ∈ objects.fields id, seen entry.2)
    (depth : Nat) {slot : Slot} (here : seen slot) : after.viewWithin depth slot = objects.viewWithin depth slot := by
  induction depth generalizing slot with
  | zero =>
    cases slot with
    | value v => rw [viewWithin_value, viewWithin_value]
    | object id => rw [viewWithin, viewWithin]
  | succ depth ih =>
    cases slot with
    | value v => rw [viewWithin_value, viewWithin_value]
    | object id =>
      obtain ⟨same, below⟩ := kept id here
      rw [viewWithin, viewWithin, same]
      congr 1
      apply List.map_congr_left
      intro entry member
      exact congrArg (Prod.mk entry.1) (ih (below entry member))

theorem viewWithin_object (objects : Objects) (depth : Nat) (id : ObjectId) :
    ∃ fields, objects.viewWithin depth (.object id) = .obj fields := by
  cases depth with
  | zero => exact ⟨[], by rw [viewWithin]⟩
  | succ depth => exact ⟨_, by rw [viewWithin]⟩

theorem viewWithin_sound {objects : Objects} (sound : objects.AreSound) (depth : Nat) {slot : Slot}
    (kept : slot.IsSound) : (objects.viewWithin depth slot).IsSound := by
  induction depth generalizing slot with
  | zero =>
    cases slot with
    | value v =>
      rw [viewWithin]
      exact kept
    | object id =>
      rw [viewWithin]
      exact Json.isSound_obj.mpr ⟨List.nodup_nil, by simp⟩
  | succ depth ih =>
    cases slot with
    | value v =>
      rw [viewWithin]
      exact kept
    | object id =>
      rw [viewWithin]
      obtain ⟨distinct, each⟩ := sound id
      apply Json.isSound_obj.mpr
      constructor
      · unfold Entries.HasDistinctNames Entries.names at distinct ⊢
        rw [List.map_map]
        exact distinct
      · intro field member
        obtain ⟨entry, inside, rfl⟩ := List.mem_map.mp member
        exact ih (each entry inside)

theorem view_sound {objects : Objects} (sound : objects.AreSound) {slot : Slot}
    (kept : slot.IsSound) : (objects.view slot).IsSound := viewWithin_sound sound _ kept

/-! ### What was taken in is seen -/

/-- Have objects only been added? -/
structure GrowsTo (objects after : Objects) : Prop where
  size : objects.entries.size ≤ after.entries.size
  same : ∀ id < objects.entries.size, after.fields id = objects.fields id

theorem GrowsTo.refl (objects : Objects) : objects.GrowsTo objects :=
  ⟨Nat.le_refl _, fun _ _ => rfl⟩

theorem GrowsTo.trans {first second third : Objects} (grown : first.GrowsTo second)
    (more : second.GrowsTo third) : first.GrowsTo third := by
  refine ⟨Nat.le_trans grown.size more.size, ?_⟩
  intro id inside
  exact (more.same id (Nat.lt_of_lt_of_le inside grown.size)).trans (grown.same id inside)

theorem size_add (objects : Objects) (fields : Entries Slot) :
    (objects.add fields).2.entries.size = objects.entries.size + 1 := by
  simp [add]

theorem GrowsTo.add (objects : Objects) (fields : Entries Slot) :
    objects.GrowsTo (objects.add fields).2 := by
  refine ⟨by rw [size_add]; exact Nat.le_succ _, ?_⟩
  intro id inside
  rw [fields_add, if_neg (Nat.ne_of_lt inside)]

/-- Is a value seen through a slot, in all objects that the given ones grow to, once it is looked into as
deep as objects have been added for it? -/
structure IsTakenIn (value : Json) (before : Objects) (slot : Slot) (after : Objects) : Prop where
  grown : before.GrowsTo after
  seen : ∀ later, after.GrowsTo later → ∀ depth, after.entries.size ≤ before.entries.size + depth →
    later.viewWithin depth slot = value

theorem takeInFields_seen {fields : List (String × Json)}
    (parts : ∀ field ∈ fields, ∀ objects,
      IsTakenIn field.2 objects (takeIn field.2 objects).1 (takeIn field.2 objects).2)
    (objects : Objects) :
    objects.GrowsTo (takeInFields fields objects).2 ∧
      ∀ later, (takeInFields fields objects).2.GrowsTo later → ∀ depth,
        (takeInFields fields objects).2.entries.size ≤ objects.entries.size + depth →
        (takeInFields fields objects).1.map
          (fun (name, slot) => (name, later.viewWithin depth slot)) = fields := by
  induction fields generalizing objects with
  | nil =>
    rw [takeInFields]
    exact ⟨.refl objects, fun _ _ _ _ => rfl⟩
  | cons field fields ih =>
    obtain ⟨name, value⟩ := field
    have first := parts (name, value) List.mem_cons_self objects
    obtain ⟨grown, others⟩ := ih (fun field member => parts field (List.mem_cons_of_mem _ member))
      (takeIn value objects).2
    rw [takeInFields_cons]
    refine ⟨first.grown.trans grown, ?_⟩
    intro later more depth deep
    have sizes := first.grown.size
    have further := grown.size
    dsimp only at sizes further deep
    have here := first.seen later (grown.trans more) depth (by dsimp only; omega)
    have there := others later more depth (by omega)
    rw [List.map_cons, there]
    dsimp only at here ⊢
    rw [here]

theorem takeIn_seen (value : Json) (objects : Objects) :
    IsTakenIn value objects (takeIn value objects).1 (takeIn value objects).2 := by
  induction value using Json.byParts generalizing objects with
  | obj fields ih =>
    obtain ⟨grown, seen⟩ := takeInFields_seen ih objects
    have added := GrowsTo.add (takeInFields fields objects).2 (takeInFields fields objects).1
    rw [takeIn_obj]
    refine ⟨grown.trans added, ?_⟩
    intro later more depth deep
    have sizes := grown.size
    dsimp only at deep
    rw [size_add] at deep
    obtain ⟨depth, rfl⟩ : ∃ n, depth = n + 1 := ⟨depth - 1, by omega⟩
    have here : later.fields (takeInFields fields objects).2.entries.size =
        (takeInFields fields objects).1 := by
      rw [more.same _ (by rw [size_add]; exact Nat.lt_succ_self _), fields_add, if_pos rfl]
    rw [viewWithin, here, seen later (added.trans more) depth (by omega)]
  | _ =>
    rw [takeIn_leaf (by simp)]
    exact ⟨.refl objects, fun _ _ _ _ => by rw [viewWithin]⟩

theorem takeIn_fresh (value : Json) {objects : Objects} {id : ObjectId} (inside : id < objects.entries.size) :
    (takeIn value objects).1 ≠ .object id := by
  cases value with
  | obj fields =>
    rw [takeIn_obj]
    intro same
    have grown := (takeInFields_seen (fun field (_ : field ∈ fields) => takeIn_seen field.2) objects).1
    exact absurd (Slot.object.inj same) (Nat.ne_of_gt (Nat.lt_of_lt_of_le inside grown.size))
  | _ =>
    rw [takeIn_leaf (by simp)]
    simp

theorem view_takeIn (value : Json) :
    (takeIn value {}).2.view (takeIn value {}).1 = value := by
  apply (takeIn_seen value {}).seen _ (.refl _)
  exact Nat.le_add_left _ _

end Objects

end ChatWidget
