import ChatWidget.Proofs.Store.Objects
/-!
Trees in which no mapping stands inside itself. Each mapping has a rank above those of the mappings in it,
so what is written at a path of one is out of sight of all mappings above it, and reading at the path finds
it again.
-/
namespace ChatWidget.Objects

/-- Do all mappings in a mapping exist, with lower ranks? -/
structure IsRanked (objects : Objects) (rank : ObjectId → Nat) : Prop where
  inside : ∀ id, ∀ field ∈ objects.fields id, ∀ inner, field.2 = .object inner →
    inner < objects.entries.size
  lower : ∀ id, ∀ field ∈ objects.fields id, ∀ inner, field.2 = .object inner → rank inner < rank id

/-- Does no mapping stand inside itself? -/
def AreAcyclic (objects : Objects) : Prop := ∃ rank, objects.IsRanked rank

/-- The same as a check, which can be run. -/
def isRankedBy (objects : Objects) (rank : ObjectId → Nat) : Bool :=
  (List.range objects.entries.size).all fun id => (objects.fields id).all fun field =>
    match field.2 with
    | .value _ => true
    | .object inner => inner < objects.entries.size && rank inner < rank id

theorem isRanked_of_check {objects : Objects} {rank : ObjectId → Nat} (checked : objects.isRankedBy rank = true) :
    objects.IsRanked rank := by
  have each : ∀ id, ∀ field ∈ objects.fields id, ∀ inner, field.2 = .object inner →
      inner < objects.entries.size ∧ rank inner < rank id := by
    intro id field member inner same
    have inside : id < objects.entries.size := by
      by_contra outside
      simp [Objects.fields, outside] at member
    have there := List.all_eq_true.mp checked id (List.mem_range.mpr inside)
    have here := List.all_eq_true.mp there field member
    rw [same] at here
    simpa using here
  exact ⟨fun id field member inner same => (each id field member inner same).1,
    fun id field member inner same => (each id field member inner same).2⟩

theorem size_setFields (objects : Objects) (id : ObjectId) (fields : Entries Slot) :
    (objects.setFields id fields).entries.size = objects.entries.size := by
  simp [setFields]

theorem fields_setFields_self {objects : Objects} {id : ObjectId} (inside : id < objects.entries.size)
    (fields : Entries Slot) : (objects.setFields id fields).fields id = fields := by
  simp [setFields, Objects.fields, inside]

theorem fields_setFields_ne (objects : Objects) {id other : ObjectId} (different : other ≠ id)
    (fields : Entries Slot) : (objects.setFields id fields).fields other = objects.fields other := by
  simp [setFields, Objects.fields, Array.getElem?_setIfInBounds_ne (Ne.symm different)]

theorem IsRanked.empty : IsRanked {} fun _ => 0 := by
  have none : ∀ id, ({} : Objects).fields id = [] := by
    intro id
    simp [Objects.fields]
  constructor
  · intro id
    rw [none]
    simp
  · intro id
    rw [none]
    simp

theorem IsRanked.setFields {objects : Objects} {rank : ObjectId → Nat} (ranked : objects.IsRanked rank)
    (id : ObjectId) {fields : Entries Slot}
    (each : ∀ field ∈ fields, ∀ inner, field.2 = .object inner →
      inner < objects.entries.size ∧ rank inner < rank id) :
    (objects.setFields id fields).IsRanked rank := by
  constructor
  · intro other field member inner same
    rw [size_setFields]
    by_cases here : other = id
    · subst here
      cases fields_setFields objects other other fields with
      | inl old => exact ranked.inside other field (old ▸ member) inner same
      | inr new => exact (each field (new ▸ member) inner same).1
    · rw [fields_setFields_ne objects here] at member
      exact ranked.inside other field member inner same
  · intro other field member inner same
    by_cases here : other = id
    · subst here
      cases fields_setFields objects other other fields with
      | inl old => exact ranked.lower other field (old ▸ member) inner same
      | inr new => exact (each field (new ▸ member) inner same).2
    · rw [fields_setFields_ne objects here] at member
      exact ranked.lower other field member inner same

theorem IsRanked.add {objects : Objects} {rank : ObjectId → Nat} (ranked : objects.IsRanked rank)
    {fields : Entries Slot}
    (each : ∀ field ∈ fields, ∀ inner, field.2 = .object inner → inner < objects.entries.size) :
    (objects.add fields).2.AreAcyclic := by
  obtain ⟨bound, above⟩ : ∃ bound, ∀ field ∈ fields, ∀ inner, field.2 = .object inner →
      rank inner < bound := by
    clear each
    induction fields with
    | nil => exact ⟨0, by simp⟩
    | cons field fields ih =>
      obtain ⟨bound, above⟩ := ih
      obtain ⟨name, slot⟩ := field
      cases slot with
      | value v =>
        refine ⟨bound, ?_⟩
        intro field member inner same
        cases List.mem_cons.mp member with
        | inl first =>
          rw [first] at same
          cases same
        | inr later => exact above field later inner same
      | object id =>
        refine ⟨max bound (rank id + 1), ?_⟩
        intro field member inner same
        cases List.mem_cons.mp member with
        | inl first =>
          rw [first] at same
          cases same
          exact Nat.lt_of_lt_of_le (Nat.lt_succ_self _) (Nat.le_max_right _ _)
        | inr later => exact Nat.lt_of_lt_of_le (above field later inner same) (Nat.le_max_left _ _)
  refine ⟨fun id => if id = objects.entries.size then bound else rank id, ?_, ?_⟩
  · intro id field member inner same
    rw [size_add]
    rw [fields_add] at member
    split at member
    · exact Nat.lt_succ_of_lt (each field member inner same)
    · exact Nat.lt_succ_of_lt (ranked.inside id field member inner same)
  · intro id field member inner same
    rw [fields_add] at member
    split at member
    next isNew =>
      rw [if_pos isNew, if_neg (Nat.ne_of_lt (each field member inner same))]
      exact above field member inner same
    next isOld =>
      rw [if_neg isOld, if_neg (Nat.ne_of_lt (ranked.inside id field member inner same))]
      exact ranked.lower id field member inner same

/-- The objects with a new mapping without entries, which is put into another one. -/
def link (objects : Objects) (id : ObjectId) (step : String) : Objects :=
  (objects.add []).2.setFields id
    (((objects.add []).2.fields id).put step (.object objects.entries.size))

theorem size_link (objects : Objects) (id : ObjectId) (step : String) :
    (objects.link id step).entries.size = objects.entries.size + 1 := by
  rw [link, size_setFields, size_add]

theorem fields_link_self {objects : Objects} {id : ObjectId} (inside : id < objects.entries.size)
    (step : String) : (objects.link id step).fields id =
      (objects.fields id).put step (.object objects.entries.size) := by
  rw [link, fields_setFields_self (by rw [size_add]; exact Nat.lt_succ_of_lt inside), fields_add,
    if_neg (Nat.ne_of_lt inside)]

theorem fields_link_ne {objects : Objects} {id other : ObjectId} (inside : other < objects.entries.size)
    (different : other ≠ id) (step : String) :
    (objects.link id step).fields other = objects.fields other := by
  rw [link, fields_setFields_ne _ different, fields_add, if_neg (Nat.ne_of_lt inside)]

/-- The new mapping has the lowest rank. -/
theorem IsRanked.link {objects : Objects} {rank : ObjectId → Nat} (ranked : objects.IsRanked rank)
    {id : ObjectId} (inside : id < objects.entries.size) (step : String) :
    (objects.link id step).IsRanked
      fun other => if other = objects.entries.size then 0 else rank other + 1 := by
  have added : (objects.add []).2.IsRanked
      fun other => if other = objects.entries.size then 0 else rank other + 1 := by
    constructor
    · intro other field member inner same
      rw [fields_add] at member
      split at member
      · cases member
      · rw [size_add]
        exact Nat.lt_succ_of_lt (ranked.inside other field member inner same)
    · intro other field member inner same
      rw [fields_add] at member
      split at member
      next => cases member
      next isOld =>
        rw [if_neg isOld, if_neg (Nat.ne_of_lt (ranked.inside other field member inner same))]
        exact Nat.succ_lt_succ (ranked.lower other field member inner same)
  apply added.setFields id
  rw [fields_add, if_neg (Nat.ne_of_lt inside), size_add, if_neg (Nat.ne_of_lt inside)]
  apply Entries.forall_mem_put
  · intro field old inner same
    have early := ranked.inside id field old inner same
    rw [if_neg (Nat.ne_of_lt early)]
    exact ⟨Nat.lt_succ_of_lt early, Nat.succ_lt_succ (ranked.lower id field old inner same)⟩
  · rintro _ ⟨⟩
    rw [if_pos rfl]
    exact ⟨Nat.lt_succ_self _, Nat.succ_pos _⟩

/-- What putting a value at a path below an object comes to: it is found there, and no mapping of a higher
rank is changed. -/
structure IsPut (objects : Objects) (rank : ObjectId → Nat) (id : ObjectId) (path : Path) (value : Json)
    (after : Objects) : Prop where
  acyclic : after.AreAcyclic
  grown : objects.entries.size ≤ after.entries.size
  found : after.slotAt? id path = some (.value value)
  above : ∀ other < objects.entries.size, rank id < rank other → after.fields other = objects.fields other

theorem putAt_isPut {objects : Objects} {rank : ObjectId → Nat} (ranked : objects.IsRanked rank)
    {id : ObjectId} (inside : id < objects.entries.size) (step : String) (path : Path) (value : Json) :
    IsPut objects rank id (step :: path) value (objects.putAt id step path (.value value)) := by
  induction path generalizing objects rank id step with
  | nil =>
    rw [putAt]
    refine ⟨⟨rank, ranked.setFields id (Entries.forall_mem_put ?_ ?_)⟩,
      Nat.le_of_eq (size_setFields _ _ _).symm, ?_, ?_⟩
    · exact fun field old inner same => ⟨ranked.inside id field old inner same, ranked.lower id field old inner same⟩
    · intro inner same
      cases same
    · rw [slotAt?, fields_setFields_self inside, Entries.get?_put_self]
    · intro other _ higher
      exact fields_setFields_ne objects (fun same => Nat.lt_irrefl _ (same ▸ higher)) _
  | cons next rest ih =>
    rw [putAt]
    split
    next inner there =>
      have member := Entries.get?_mem there
      have innerInside := ranked.inside id _ member inner rfl
      have lower := ranked.lower id _ member inner rfl
      have below := ih ranked innerInside next
      refine ⟨below.acyclic, below.grown, ?_, ?_⟩
      · rw [slotAt?, below.above id inside lower, there]
        exact below.found
      · intro other otherInside higher
        exact below.above other otherInside (Nat.lt_trans lower higher)
    next =>
      change IsPut objects rank id (step :: next :: rest) value
        ((objects.link id step).putAt objects.entries.size next rest (.value value))
      have new : objects.entries.size < (objects.link id step).entries.size := by
        rw [size_link]
        exact Nat.lt_succ_self _
      have below := ih (ranked.link inside step) new next
      -- The objects that were there rank above the new one, so the rest of the path is out of their sight.
      have above : ∀ other < objects.entries.size,
          ((objects.link id step).putAt objects.entries.size next rest (.value value)).fields other =
            (objects.link id step).fields other := by
        intro other otherInside
        apply below.above other (Nat.lt_trans otherInside new)
        rw [if_pos rfl, if_neg (Nat.ne_of_lt otherInside)]
        exact Nat.succ_pos _
      refine ⟨below.acyclic, Nat.le_trans (Nat.le_of_lt new) below.grown, ?_, ?_⟩
      · rw [slotAt?, above id inside, fields_link_self inside, Entries.get?_put_self]
        exact below.found
      · intro other otherInside higher
        rw [above other otherInside,
          fields_link_ne otherInside fun same => Nat.lt_irrefl _ (same ▸ higher)]

/-! ### Values that are taken in -/

theorem takeInFields_acyclic {fields : List (String × Json)} {objects : Objects} (acyclic : objects.AreAcyclic)
    (parts : ∀ field ∈ fields, ∀ {objects : Objects}, objects.AreAcyclic →
      (takeIn field.2 objects).2.AreAcyclic ∧ ∀ inner, (takeIn field.2 objects).1 = .object inner →
        inner < (takeIn field.2 objects).2.entries.size) :
    (takeInFields fields objects).2.AreAcyclic ∧
      ∀ field ∈ (takeInFields fields objects).1, ∀ inner, field.2 = .object inner →
        inner < (takeInFields fields objects).2.entries.size := by
  induction fields generalizing objects with
  | nil =>
    rw [takeInFields]
    exact ⟨acyclic, by simp⟩
  | cons field fields later =>
    obtain ⟨name, value⟩ := field
    obtain ⟨first, slot⟩ := parts (name, value) List.mem_cons_self acyclic
    obtain ⟨all, others⟩ := later first fun field member => parts field (List.mem_cons_of_mem _ member)
    have grown : (takeIn value objects).2.GrowsTo (takeInFields fields (takeIn value objects).2).2 :=
      (takeInFields_seen (fun field _ => takeIn_seen field.2) _).1
    rw [takeInFields_cons]
    refine ⟨all, ?_⟩
    intro field member inner same
    cases List.mem_cons.mp member with
    | inl here =>
      rw [here] at same
      exact Nat.lt_of_lt_of_le (slot inner same) grown.size
    | inr there => exact others field there inner same

theorem takeIn_acyclic (value : Json) {objects : Objects} (acyclic : objects.AreAcyclic) :
    (takeIn value objects).2.AreAcyclic ∧
      ∀ inner, (takeIn value objects).1 = .object inner → inner < (takeIn value objects).2.entries.size := by
  induction value using Json.byParts generalizing objects with
  | obj fields ih =>
    obtain ⟨⟨rank, ranked⟩, slots⟩ := takeInFields_acyclic acyclic fun field member _ acyclic =>
      ih field member acyclic
    rw [takeIn_obj]
    refine ⟨ranked.add slots, ?_⟩
    rintro inner ⟨⟩
    rw [size_add]
    exact Nat.lt_succ_self _
  | _ =>
    rw [takeIn_leaf (by simp)]
    refine ⟨acyclic, ?_⟩
    rintro inner ⟨⟩

end ChatWidget.Objects
