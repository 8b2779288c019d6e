import ChatWidget.Json.Writer
import ChatWidget.Proofs.Entries
/-!
Values as they can be kept: in each mapping every name comes once, and every whole number in them has a
written form. Both hold of a value when they hold of its parts.
-/
namespace ChatWidget.Json

/-- What holds of a value if it holds of the parts of lists and mappings holds of all values. -/
theorem byParts {p : Json → Prop} (null : p .null) (bool : ∀ value, p (.bool value))
    (int : ∀ value, p (.int value)) (float : ∀ value, p (.float value))
    (str : ∀ value, p (.str value)) (arr : ∀ items, (∀ item ∈ items, p item) → p (.arr items))
    (obj : ∀ fields : Entries Json, (∀ field ∈ fields, p field.2) → p (.obj fields)) (value : Json) :
    p value := by
  apply @Json.rec p (fun items => ∀ item ∈ items, p item) (fun fields => ∀ field ∈ fields, p field.2)
    (fun field => p field.2) null bool int float str arr obj
  · simp
  · intro item items first rest other member
    cases List.mem_cons.mp member with
    | inl same => exact same ▸ first
    | inr later => exact rest other later
  · simp
  · intro field fields first rest other member
    cases List.mem_cons.mp member with
    | inl same => exact same ▸ first
    | inr later => exact rest other later
  · intro name value holds
    exact holds

mutual

def IsTidy : Json → Prop
  | .arr items => AreTidy items
  | .obj fields => Entries.HasDistinctNames fields ∧ FieldsAreTidy fields
  | _ => True

def AreTidy : List Json → Prop
  | [] => True
  | item :: rest => IsTidy item ∧ AreTidy rest

def FieldsAreTidy : List (String × Json) → Prop
  | [] => True
  | (_, value) :: rest => IsTidy value ∧ FieldsAreTidy rest

end

theorem areTidy_iff {items : List Json} : AreTidy items ↔ ∀ item ∈ items, IsTidy item := by
  induction items with
  | nil => simp [AreTidy]
  | cons item rest ih => simp [AreTidy, ih]

theorem fieldsAreTidy_iff {fields : List (String × Json)} :
    FieldsAreTidy fields ↔ ∀ field ∈ fields, IsTidy field.2 := by
  induction fields with
  | nil => simp [FieldsAreTidy]
  | cons field rest ih => simp [FieldsAreTidy, ih]

theorem areWritable_iff {items : List Json} :
    areWritable items = true ↔ ∀ item ∈ items, item.isWritable = true := by
  induction items with
  | nil => simp [areWritable]
  | cons item rest ih => simp [areWritable, ih]

theorem fieldsAreWritable_iff {fields : List (String × Json)} :
    fieldsAreWritable fields = true ↔ ∀ field ∈ fields, field.2.isWritable = true := by
  induction fields with
  | nil => simp [fieldsAreWritable]
  | cons field rest ih => simp [fieldsAreWritable, ih]

/-- A value that is read back as it was written. -/
structure IsSound (value : Json) : Prop where
  tidy : value.IsTidy
  writable : value.isWritable = true

theorem isSound_arr {items : List Json} : IsSound (.arr items) ↔ ∀ item ∈ items, IsSound item := by
  constructor
  · rintro ⟨tidy, writable⟩ item member
    exact ⟨areTidy_iff.mp tidy item member, areWritable_iff.mp writable item member⟩
  · intro each
    exact ⟨areTidy_iff.mpr fun item member => (each item member).tidy,
      areWritable_iff.mpr fun item member => (each item member).writable⟩

theorem isSound_obj {fields : Entries Json} :
    IsSound (.obj fields) ↔ fields.HasDistinctNames ∧ ∀ field ∈ fields, IsSound field.2 := by
  constructor
  · rintro ⟨⟨distinct, tidy⟩, writable⟩
    refine ⟨distinct, fun field member => ?_⟩
    exact ⟨fieldsAreTidy_iff.mp tidy field member, fieldsAreWritable_iff.mp writable field member⟩
  · rintro ⟨distinct, each⟩
    exact ⟨⟨distinct, fieldsAreTidy_iff.mpr fun field member => (each field member).tidy⟩,
      fieldsAreWritable_iff.mpr fun field member => (each field member).writable⟩

theorem isSound_empty : IsSound (.obj []) := isSound_obj.mpr ⟨List.nodup_nil, by simp⟩

theorem IsSound.put {fields : Entries Json} (sound : IsSound (.obj fields)) (name : String)
    {value : Json} (new : IsSound value) : IsSound (.obj (fields.put name value)) := by
  obtain ⟨distinct, each⟩ := isSound_obj.mp sound
  exact isSound_obj.mpr ⟨distinct.put name value, Entries.forall_mem_put each new⟩

end ChatWidget.Json
