import ChatWidget.Entries
import Mathlib.Data.List.Nodup
import Mathlib.Data.Option.Basic
/-!
Writing under a name: which names there are afterwards, and which entries.
-/
namespace ChatWidget.Entries

variable {α : Type}

def HasDistinctNames (entries : Entries α) : Prop := entries.names.Nodup

theorem names_put (entries : Entries α) (name : String) (value : α) :
    (entries.put name value).names =
      if name ∈ entries.names then entries.names else entries.names ++ [name] := by
  induction entries with
  | nil => rfl
  | cons entry rest ih =>
    obtain ⟨other, old⟩ := entry
    by_cases same : other = name
    · subst same
      simp [put, names]
    · unfold names at ih ⊢
      simp only [put, beq_iff_eq, same, if_false, List.map_cons, ih, List.mem_cons,
        Ne.symm same, false_or]
      split
      · rfl
      · rfl

theorem put_put (entries : Entries α) (name : String) (first second : α) :
    (entries.put name first).put name second = entries.put name second := by
  induction entries with
  | nil => simp [put]
  | cons entry rest ih =>
    obtain ⟨other, old⟩ := entry
    by_cases same : other = name
    · simp [put, same]
    · simp only [put, beq_iff_eq, same, if_false]
      rw [ih]

theorem put_found {entries : Entries α} {name : String} {value : α} (found : entries.get? name = some value) :
    entries.put name value = entries := by
  induction entries with
  | nil => cases found
  | cons entry rest ih =>
    obtain ⟨other, old⟩ := entry
    unfold get? at ih found
    by_cases same : other = name
    · subst same
      rw [List.find?_cons_of_pos (by simp)] at found
      cases found
      simp [put]
    · rw [List.find?_cons_of_neg (by simpa using same)] at found
      simp only [put, beq_iff_eq, same, if_false]
      rw [ih found]

theorem HasDistinctNames.put {entries : Entries α} (distinct : entries.HasDistinctNames)
    (name : String) (value : α) : (entries.put name value).HasDistinctNames := by
  unfold HasDistinctNames
  rw [names_put]
  by_cases known : name ∈ entries.names
  · rw [if_pos known]
    exact distinct
  · rw [if_neg known]
    apply List.nodup_append.mpr
    refine ⟨distinct, List.nodup_singleton name, ?_⟩
    intro other member single same equal
    rw [List.mem_singleton.mp same] at equal
    exact known (equal ▸ member)

theorem mem_put {entries : Entries α} {name : String} {value : α} {entry : String × α}
    (member : entry ∈ entries.put name value) : entry ∈ entries ∨ entry = (name, value) := by
  induction entries with
  | nil => exact .inr (List.mem_singleton.mp member)
  | cons first rest ih =>
    obtain ⟨other, old⟩ := first
    by_cases same : other = name
    · simp only [put, beq_iff_eq, same, if_true, List.mem_cons] at member
      cases member with
      | inl new => exact .inr new
      | inr later => exact .inl (List.mem_cons_of_mem _ later)
    · simp only [put, beq_iff_eq, same, if_false, List.mem_cons] at member
      cases member with
      | inl here => exact .inl (here ▸ List.mem_cons_self)
      | inr later =>
        cases ih later with
        | inl before => exact .inl (List.mem_cons_of_mem _ before)
        | inr new => exact .inr new

theorem forall_mem_put {such : String × α → Prop} {entries : Entries α} {name : String} {value : α}
    (each : ∀ entry ∈ entries, such entry) (new : such (name, value)) :
    ∀ entry ∈ entries.put name value, such entry := by
  intro entry member
  rcases mem_put member with before | rfl
  · exact each entry before
  · exact new

theorem mem_putAll {entries more : Entries α} {entry : String × α} (member : entry ∈ entries.putAll more) :
    entry ∈ entries ∨ entry ∈ more := by
  induction more generalizing entries with
  | nil => exact .inl member
  | cons first more ih =>
    rcases ih member with before | later
    · rcases mem_put before with known | rfl
      · exact .inl known
      · exact .inr List.mem_cons_self
    · exact .inr (List.mem_cons_of_mem _ later)

theorem mem_ofWrites {writes : List (String × α)} {entry : String × α} (member : entry ∈ Entries.ofWrites writes) :
    entry ∈ writes :=
  (mem_putAll member).resolve_left List.not_mem_nil

theorem put_new {entries : Entries α} {name : String} (new : name ∉ entries.names) (value : α) :
    entries.put name value = entries ++ [(name, value)] := by
  induction entries with
  | nil => rfl
  | cons entry rest ih =>
    obtain ⟨other, old⟩ := entry
    rw [names, List.map_cons, List.mem_cons, not_or] at new
    simp only [put, beq_iff_eq, Ne.symm new.1, if_false, List.cons_append]
    rw [ih new.2]

theorem put_known {entries : Entries α} (distinct : entries.HasDistinctNames) {name : String}
    (known : name ∈ entries.names) (value : α) :
    entries.put name value = entries.map fun (other, old) => (other, if name = other then value else old) := by
  induction entries with
  | nil => cases known
  | cons entry rest ih =>
    obtain ⟨other, old⟩ := entry
    obtain ⟨absent, later⟩ := List.nodup_cons.mp distinct
    by_cases same : other = name
    · subst same
      have kept : rest.map (fun (name, old) => (name, if other = name then value else old)) = rest := by
        conv_rhs => rw [← List.map_id rest]
        apply List.map_congr_left
        rintro ⟨name, old⟩ member
        have different : other ≠ name := fun equal => absent (List.mem_map.mpr ⟨_, member, equal.symm⟩)
        exact congrArg (Prod.mk name) (if_neg different)
      rw [put, if_pos (beq_self_eq_true other), List.map_cons, kept]
      dsimp only
      rw [if_pos rfl]
    · have inside : name ∈ names rest := (List.mem_cons.mp known).resolve_left (Ne.symm same)
      rw [put, if_neg (by simpa using same), List.map_cons, ih later inside]
      dsimp only
      rw [if_neg (Ne.symm same)]

theorem putAll_distinct {entries more : Entries α} (distinct : HasDistinctNames (entries ++ more)) :
    entries.putAll more = entries ++ more := by
  induction more generalizing entries with
  | nil => rw [List.append_nil]; rfl
  | cons entry more ih =>
    obtain ⟨name, value⟩ := entry
    have new : entries.put name value = entries ++ [(name, value)] := by
      apply put_new
      intro known
      unfold HasDistinctNames names at distinct
      rw [List.map_append] at distinct
      exact (List.nodup_append.mp distinct).2.2 name known name (by simp) rfl
    have moved : entries ++ (name, value) :: more = entries.put name value ++ more := by
      rw [new, List.append_assoc, List.singleton_append]
    rw [moved] at distinct ⊢
    exact ih distinct

theorem HasDistinctNames.ofWrites {entries : Entries α} (distinct : entries.HasDistinctNames) :
    Entries.ofWrites entries = entries := putAll_distinct distinct

theorem get?_cons (name other : String) (value : α) (rest : Entries α) :
    get? ((name, value) :: rest) other = if name = other then some value else get? rest other := by
  unfold get?
  by_cases here : name = other
  · rw [List.find?_cons_of_pos (by simpa using here), if_pos here]
    rfl
  · rw [List.find?_cons_of_neg (by simpa using here), if_neg here]

theorem get?_map {β : Type} (f : String → α → β) (entries : Entries α) (name : String) :
    get? (entries.map fun (name, value) => (name, f name value)) name = (entries.get? name).map (f name) := by
  induction entries with
  | nil => rfl
  | cons entry rest ih =>
    obtain ⟨other, value⟩ := entry
    rw [List.map_cons, get?_cons, get?_cons, ih]
    by_cases here : other = name
    · subst here
      rw [if_pos rfl, if_pos rfl]
      rfl
    · rw [if_neg here, if_neg here]

theorem get?_mem {entries : Entries α} {name : String} {value : α}
    (found : entries.get? name = some value) : (name, value) ∈ entries := by
  unfold get? at found
  obtain ⟨entry, first, rfl⟩ := Option.map_eq_some_iff.mp found
  have named := List.find?_some first
  rw [beq_iff_eq] at named
  exact named ▸ List.mem_of_find?_eq_some first

theorem get?_eq_none {entries : Entries α} {name : String} (absent : name ∉ entries.names) :
    entries.get? name = none := by
  cases found : entries.get? name with
  | none => rfl
  | some value => exact absurd (List.mem_map.mpr ⟨_, get?_mem found, rfl⟩) absent

theorem HasDistinctNames.get?_of_mem {entries : Entries α} (distinct : entries.HasDistinctNames)
    {name : String} {value : α} (member : (name, value) ∈ entries) : entries.get? name = some value := by
  unfold get?
  rw [Option.map_eq_some_iff]
  cases first : entries.find? (·.1 == name) with
  | none =>
    have absent := List.find?_eq_none.mp first _ member
    simp at absent
  | some entry =>
    have named : entry.1 = name := by simpa using List.find?_some first
    have same := List.inj_on_of_nodup_map distinct (List.mem_of_find?_eq_some first) member named
    exact ⟨entry, rfl, congrArg Prod.snd same⟩

/-- Entries that are seen in another way after one of them was written are the ones before with the new view of that
one, if the rest is seen as before. -/
theorem HasDistinctNames.map_put {β : Type} {entries : Entries α} (distinct : entries.HasDistinctNames) {name : String}
    {value : α} {before after : α → β}
    (others : ∀ entry ∈ entries, entry.1 ≠ name → after entry.2 = before entry.2) :
    (entries.put name value).map (fun (name, value) => (name, after value)) =
      Entries.put (entries.map fun (name, value) => (name, before value)) name (after value) := by
  induction entries with
  | nil => rfl
  | cons entry rest ih =>
    obtain ⟨other, old⟩ := entry
    obtain ⟨absent, later⟩ := List.nodup_cons.mp distinct
    by_cases same : other = name
    · subst same
      have kept : ∀ entry ∈ rest, after entry.2 = before entry.2 := by
        intro entry member
        refine others entry (List.mem_cons_of_mem _ member) fun equal => absent ?_
        exact List.mem_map.mpr ⟨entry, member, equal⟩
      simp only [Entries.put, beq_self_eq_true, if_true, List.map_cons]
      congr 1
      exact List.map_congr_left fun entry member => congrArg (Prod.mk entry.1) (kept entry member)
    · simp only [Entries.put, beq_iff_eq, same, if_false, List.map_cons]
      rw [others (other, old) List.mem_cons_self same,
        ih later fun entry member => others entry (List.mem_cons_of_mem _ member)]

theorem HasDistinctNames.ext {first second : Entries α} (distinct : first.HasDistinctNames)
    (names : first.names = second.names) (same : ∀ name, first.get? name = second.get? name) : first = second := by
  have listed : ∀ {entries : Entries α}, entries.HasDistinctNames →
      entries.map some = entries.names.map fun name => (entries.get? name).map (Prod.mk name) := by
    intro entries distinct
    unfold Entries.names
    rw [List.map_map]
    apply List.map_congr_left
    intro entry member
    rw [Function.comp_apply, distinct.get?_of_mem member]
    rfl
  have distinct' : second.HasDistinctNames := by
    unfold HasDistinctNames
    rw [← names]
    exact distinct
  apply List.map_injective_iff.mpr (Option.some_injective _)
  rw [listed distinct, listed distinct', names]
  simp only [same]

theorem HasDistinctNames.erase {entries : Entries α} (distinct : entries.HasDistinctNames)
    (name : String) : (entries.erase name).HasDistinctNames :=
  (List.filter_sublist.map Prod.fst).nodup distinct

theorem get?_erase_of_ne (entries : Entries α) {name other : String} (different : other ≠ name) :
    (entries.erase name).get? other = entries.get? other := by
  induction entries with
  | nil => rfl
  | cons entry rest ih =>
    obtain ⟨key, value⟩ := entry
    unfold erase at ih ⊢
    rw [get?_cons, ← ih]
    by_cases gone : key = name
    · subst gone
      rw [List.filter_cons_of_neg (by simp), if_neg different.symm]
    · rw [List.filter_cons_of_pos (by simpa using gone), get?_cons]

theorem get?_erase_self (entries : Entries α) (name : String) :
    (entries.erase name).get? name = none := by
  unfold erase get?
  rw [Option.map_eq_none_iff, List.find?_eq_none]
  intro entry member
  have kept := (List.mem_filter.mp member).2
  simpa using kept

/-! ### Entries laid over others -/

/-- Entries with more laid over them: a value under a known name takes the place of the one there, and the others
follow in their order. -/
def overlaid (own more : Entries α) : Entries α :=
  own.map (fun entry => (entry.1, (get? more entry.1).getD entry.2)) ++ more.filter (·.1 ∉ own.names)

theorem put_overlaid {own more : Entries α} (distinct : own.HasDistinctNames) {name : String}
    (absent : name ∉ more.names) (value : α) :
    (own.put name value).overlaid more = own.overlaid ((name, value) :: more) := by
  have none : get? more name = none := get?_eq_none absent
  unfold overlaid
  rw [names_put]
  by_cases known : name ∈ own.names
  · have replaced : ∀ entry ∈ own, (entry.1, (get? more entry.1).getD (if name = entry.1 then value else entry.2)) =
        (entry.1, (get? ((name, value) :: more) entry.1).getD entry.2) := by
      intro entry member
      rw [get?_cons]
      by_cases same : name = entry.1
      · rw [if_pos same, if_pos same, ← same, none]
        rfl
      · rw [if_neg same, if_neg same]
    rw [if_pos known, List.filter_cons_of_neg (by simpa using known), put_known distinct known, List.map_map]
    exact congrArg (· ++ _) (List.map_congr_left replaced)
  · have kept : ∀ entry ∈ own, (entry.1, (get? more entry.1).getD entry.2) =
        (entry.1, (get? ((name, value) :: more) entry.1).getD entry.2) := by
      intro entry member
      have different : name ≠ entry.1 := fun equal => known (List.mem_map.mpr ⟨_, member, equal.symm⟩)
      rw [get?_cons, if_neg different]
    have fresh : more.filter (·.1 ∉ own.names ++ [name]) = more.filter (·.1 ∉ own.names) := by
      apply List.filter_congr
      intro entry member
      have different : entry.1 ≠ name := fun equal => absent (List.mem_map.mpr ⟨entry, member, equal⟩)
      simp [different]
    rw [if_neg known, fresh, List.filter_cons_of_pos (by simpa using known), put_new known, List.map_append,
      List.append_assoc, List.map_congr_left kept, List.map_singleton, none]
    rfl

theorem putAll_eq_overlaid {own more : Entries α} (distinct : own.HasDistinctNames)
    (distinct' : more.HasDistinctNames) : own.putAll more = own.overlaid more := by
  induction more generalizing own with
  | nil => simp [putAll, overlaid, get?]
  | cons entry more ih =>
    obtain ⟨absent, later⟩ := List.nodup_cons.mp distinct'
    rw [← put_overlaid distinct absent entry.2]
    exact ih (distinct.put entry.1 entry.2) later

end ChatWidget.Entries
