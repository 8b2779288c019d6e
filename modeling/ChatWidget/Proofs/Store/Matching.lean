import ChatWidget.Proofs.Store.History
import ChatWidget.Proofs.Store.Places
import Mathlib.Data.List.Forall2
import Mathlib.Order.Basic
/-!
Two trees of shared mappings that go together: mappings are paired one to one, and those of a pair have the same
names with matching entries. Whatever is put into both trees at one path leaves them so, and they are read alike.
What counts is which places share a mapping, not which numbers the objects have.
-/
namespace ChatWidget

/-- Which mappings of two trees go together. -/
abbrev Pairing := ObjectId → ObjectId → Prop

def Pairing.with (pair : Pairing) (one other : ObjectId) : Pairing :=
  fun first second => pair first second ∨ first = one ∧ second = other

theorem Pairing.le_with (pair : Pairing) (one other : ObjectId) : pair ≤ pair.with one other :=
  fun _ _ together => .inl together

/-- Do two slots hold the same value, or mappings that go together? -/
inductive Slot.Match (pair : Pairing) : Slot → Slot → Prop where
  | value (v : Json) : Slot.Match pair (.value v) (.value v)
  | object {first second : ObjectId} (together : pair first second) :
      Slot.Match pair (.object first) (.object second)

theorem Slot.Match.mono {pair wider : Pairing} (le : pair ≤ wider) {first second : Slot}
    (alike : Slot.Match pair first second) : Slot.Match wider first second := by
  cases alike with
  | value v => exact .value v
  | object together => exact .object (le _ _ together)

namespace Entries

variable {α β γ : Type} {alike : α → β → Prop} {first : Entries α} {second : Entries β}

/-- Have two mappings the same names in the same order, with values that are alike? -/
def Alike (alike : α → β → Prop) (first : Entries α) (second : Entries β) : Prop :=
  List.Forall₂ (fun one other => one.1 = other.1 ∧ alike one.2 other.2) first second

theorem Alike.imp {like : α → β → Prop} (both : Alike alike first second)
    (each : ∀ {name one other}, (name, one) ∈ first → (name, other) ∈ second → alike one other →
      like one other) : Alike like first second := by
  induction both with
  | nil => exact .nil
  | @cons one other first second both rest ih =>
    obtain ⟨name, value⟩ := one
    obtain ⟨same, values⟩ := both
    dsimp only at same
    subst same
    refine .cons ⟨rfl, each List.mem_cons_self List.mem_cons_self values⟩ (ih ?_)
    exact fun here there => each (List.mem_cons_of_mem _ here) (List.mem_cons_of_mem _ there)

theorem Alike.put (both : Alike alike first second) (name : String) {one : α} {other : β} (new : alike one other) :
    Alike alike (first.put name one) (second.put name other) := by
  induction both with
  | nil => exact .cons ⟨rfl, new⟩ .nil
  | @cons one other first second both rest ih =>
    obtain ⟨called, value⟩ := one
    obtain ⟨same, values⟩ := both
    dsimp only at same
    subst same
    rw [Entries.put, Entries.put]
    split
    · exact .cons ⟨rfl, new⟩ rest
    · exact .cons ⟨rfl, values⟩ ih

theorem Alike.get? (both : Alike alike first second) (name : String) :
    Option.Rel alike (first.get? name) (second.get? name) := by
  induction both with
  | nil => exact .none
  | @cons one other first second both rest ih =>
    obtain ⟨called, value⟩ := one
    obtain ⟨same, values⟩ := both
    dsimp only at same
    subst same
    unfold Entries.get? at ih ⊢
    rw [List.find?_cons, List.find?_cons]
    dsimp only
    split
    · exact .some values
    · exact ih

theorem alike_iff_map {see : α → γ} {see' : β → γ} :
    Alike (fun one other => see one = see' other) first second ↔
      (first.map fun (name, value) => (name, see value)) = second.map fun (name, value) => (name, see' value) := by
  rw [← List.forall₂_eq_eq_eq, List.forall₂_map_left_iff, List.forall₂_map_right_iff]
  unfold Alike
  simp only [Prod.mk.injEq]

end Entries

namespace Objects

/-- Are the mappings of two trees paired one to one, with entries that match? -/
structure Matches (first second : Objects) (pair : Pairing) : Prop where
  inside : ∀ {one other}, pair one other → one < first.entries.size ∧ other < second.entries.size
  unique : ∀ {one other one' other'}, pair one other → pair one' other' → (one = one' ↔ other = other')
  fields : ∀ {one other}, pair one other → Entries.Alike (Slot.Match pair) (first.fields one) (second.fields other)

namespace Matches

variable {first second : Objects} {pair : Pairing} {one other : ObjectId}

theorem setFields (alike : Matches first second pair) (together : pair one other) {fields fields' : Entries Slot}
    (new : Entries.Alike (Slot.Match pair) fields fields') :
    Matches (first.setFields one fields) (second.setFields other fields') pair := by
  refine ⟨?_, alike.unique, ?_⟩
  · intro one' other' both
    rw [size_setFields, size_setFields]
    exact alike.inside both
  · intro one' other' both
    by_cases here : one' = one
    · have there := (alike.unique both together).mp here
      rw [here, there, fields_setFields_self (alike.inside together).1,
        fields_setFields_self (alike.inside together).2]
      exact new
    · have there : other' ≠ other := fun same => here ((alike.unique both together).mpr same)
      rw [fields_setFields_ne _ here, fields_setFields_ne _ there]
      exact alike.fields both

theorem add (alike : Matches first second pair) {fields fields' : Entries Slot}
    (new : Entries.Alike (Slot.Match pair) fields fields') :
    Matches (first.add fields).2 (second.add fields').2 (pair.with first.entries.size second.entries.size) := by
  have apart : ∀ {one other}, pair one other → one ≠ first.entries.size ∧ other ≠ second.entries.size :=
    fun both => ⟨Nat.ne_of_lt (alike.inside both).1, Nat.ne_of_lt (alike.inside both).2⟩
  refine ⟨?_, ?_, ?_⟩
  · rintro one other (both | ⟨rfl, rfl⟩)
    · rw [size_add, size_add]
      exact ⟨Nat.lt_succ_of_lt (alike.inside both).1, Nat.lt_succ_of_lt (alike.inside both).2⟩
    · rw [size_add, size_add]
      exact ⟨Nat.lt_succ_self _, Nat.lt_succ_self _⟩
  · rintro one other one' other' (both | ⟨rfl, rfl⟩) (both' | ⟨rfl, rfl⟩)
    · exact alike.unique both both'
    · exact ⟨fun same => absurd same (apart both).1, fun same => absurd same (apart both).2⟩
    · exact ⟨fun same => absurd same.symm (apart both').1, fun same => absurd same.symm (apart both').2⟩
    · exact ⟨fun _ => rfl, fun _ => rfl⟩
  · rintro one other (both | ⟨rfl, rfl⟩)
    · rw [fields_add, fields_add, if_neg (apart both).1, if_neg (apart both).2]
      exact (alike.fields both).imp fun _ _ slots => slots.mono (pair.le_with _ _)
    · rw [fields_add, fields_add, if_pos rfl, if_pos rfl]
      exact new.imp fun _ _ slots => slots.mono (pair.le_with _ _)

theorem takeInFields {fields : List (String × Json)}
    (parts : ∀ field ∈ fields, ∀ {first second : Objects} {pair : Pairing}, Matches first second pair →
      ∃ wider, pair ≤ wider ∧ Matches (takeIn field.2 first).2 (takeIn field.2 second).2 wider ∧
        Slot.Match wider (takeIn field.2 first).1 (takeIn field.2 second).1)
    (alike : Matches first second pair) :
    ∃ wider, pair ≤ wider ∧
      Matches (Objects.takeInFields fields first).2 (Objects.takeInFields fields second).2 wider ∧
      Entries.Alike (Slot.Match wider) (Objects.takeInFields fields first).1
        (Objects.takeInFields fields second).1 := by
  induction fields generalizing first second pair with
  | nil =>
    rw [Objects.takeInFields, Objects.takeInFields]
    exact ⟨pair, le_refl _, alike, .nil⟩
  | cons field fields ih =>
    obtain ⟨name, value⟩ := field
    obtain ⟨wider, le, matched, slots⟩ := parts (name, value) List.mem_cons_self alike
    obtain ⟨widest, more, all, rest⟩ := ih (fun field member => parts field (List.mem_cons_of_mem _ member)) matched
    rw [takeInFields_cons, takeInFields_cons]
    exact ⟨widest, le_trans le more, all, .cons ⟨rfl, slots.mono more⟩ rest⟩

theorem takeIn (value : Json) (alike : Matches first second pair) :
    ∃ wider, pair ≤ wider ∧ Matches (Objects.takeIn value first).2 (Objects.takeIn value second).2 wider ∧
      Slot.Match wider (Objects.takeIn value first).1 (Objects.takeIn value second).1 := by
  induction value using Json.byParts generalizing first second pair with
  | obj fields ih =>
    obtain ⟨wider, le, matched, slots⟩ := takeInFields (fun field member _ _ _ => ih field member) alike
    rw [takeIn_obj, takeIn_obj]
    exact ⟨_, le_trans le (wider.le_with _ _), matched.add slots, .object (.inr ⟨rfl, rfl⟩)⟩
  | _ =>
    rw [takeIn_leaf (by simp), takeIn_leaf (by simp)]
    exact ⟨pair, le_refl _, alike, .value _⟩

theorem slotAt? (alike : Matches first second pair) (together : pair one other) (path : Path) :
    Option.Rel (Slot.Match pair) (first.slotAt? one path) (second.slotAt? other path) := by
  induction path using List.reverseRecOn with
  | nil =>
    rw [Objects.slotAt?, Objects.slotAt?]
    exact .some (.object together)
  | append_singleton path step ih =>
    rw [slotAt?_concat, slotAt?_concat]
    generalize first.slotAt? one path = found at ih ⊢
    generalize second.slotAt? other path = found' at ih ⊢
    cases ih with
    | none => exact .none
    | some slots =>
      cases slots with
      | value v => exact .none
      | object both => exact (alike.fields both).get? step

theorem putAt (alike : Matches first second pair) (together : pair one other) (step : String) (path : Path)
    {slot slot' : Slot} (new : Slot.Match pair slot slot') :
    ∃ wider, pair ≤ wider ∧
      Matches (first.putAt one step path slot) (second.putAt other step path slot') wider := by
  induction path generalizing first second pair one other step with
  | nil =>
    rw [Objects.putAt, Objects.putAt]
    exact ⟨pair, le_refl _, alike.setFields together ((alike.fields together).put step new)⟩
  | cons next rest ih =>
    have linked : ∃ wider, pair ≤ wider ∧
        Matches ((first.link one step).putAt first.entries.size next rest slot)
          ((second.link other step).putAt second.entries.size next rest slot') wider := by
      have le := pair.le_with first.entries.size second.entries.size
      have added := alike.add (List.Forall₂.nil : Entries.Alike (Slot.Match pair) [] [])
      have both : pair.with first.entries.size second.entries.size one other := .inl together
      have linked := added.setFields both ((added.fields both).put step (.object (.inr ⟨rfl, rfl⟩)))
      obtain ⟨wider, more, done⟩ := ih linked (.inr ⟨rfl, rfl⟩) next (new.mono le)
      exact ⟨wider, le_trans le more, done⟩
    have found := (alike.fields together).get? step
    rw [Objects.putAt, Objects.putAt]
    generalize (first.fields one).get? step = found at found ⊢
    generalize (second.fields other).get? step = found' at found ⊢
    cases found with
    | none => exact linked
    | some slots =>
      cases slots with
      | value v => exact linked
      | object both => exact ih alike both next new

theorem viewWithin (alike : Matches first second pair) (depth : Nat) {slot slot' : Slot}
    (slots : Slot.Match pair slot slot') : first.viewWithin depth slot = second.viewWithin depth slot' := by
  induction depth generalizing slot slot' with
  | zero =>
    cases slots with
    | value v => rw [Objects.viewWithin_value, Objects.viewWithin_value]
    | object together => rw [Objects.viewWithin, Objects.viewWithin]
  | succ depth ih =>
    cases slots with
    | value v => rw [Objects.viewWithin_value, Objects.viewWithin_value]
    | object together =>
      have fields := (alike.fields together).imp fun _ _ slots => ih slots
      rw [Objects.viewWithin, Objects.viewWithin, Entries.alike_iff_map.mp fields]

end Matches

end Objects

namespace Store

/-- Have two stores trees that go together, in objects that are in order? -/
structure Matches (first second : Store) : Prop where
  objects : ∃ pair, Objects.Matches first.objects second.objects pair ∧ pair first.root second.root
  tidy : first.IsTidy
  tidy' : second.IsTidy

namespace Matches

variable {first second : Store}

theorem put {pair : Pairing} (alike : Objects.Matches first.objects second.objects pair)
    (roots : pair first.root second.root) (path : Path) {slot slot' : Slot} (slots : Slot.Match pair slot slot') :
    EndAlike (fun one other => ∃ pair, Objects.Matches one.objects other.objects pair ∧ pair one.root other.root)
      (first.put path slot) (second.put path slot') := by
  cases path with
  | cons step rest =>
    obtain ⟨wider, le, done⟩ := alike.putAt roots step rest slots
    exact .done ⟨wider, done, le _ _ roots⟩
  | nil =>
    cases slots with
    | value v => exact .failed .rootNotMapping
    | object together =>
      have cleared := alike.setFields roots (List.Forall₂.nil : Entries.Alike (Slot.Match pair) [] [])
      exact .done ⟨pair, cleared.setFields roots (cleared.fields together), roots⟩

theorem applied (alike : Matches first second) (change : Change) :
    EndAlike Matches (change.applied first) (change.applied second) := by
  obtain ⟨⟨pair, alike, roots⟩, tidy, tidy'⟩ := alike
  have done : EndAlike
      (fun one other => ∃ pair, Objects.Matches one.objects other.objects pair ∧ pair one.root other.root)
      (change.applied first) (change.applied second) := by
    refine change.applied_alike (fun value steps => ?_) fun source steps => ?_
    · obtain ⟨wider, le, taken, slots⟩ := alike.takeIn value
      exact @put { first with objects := (Objects.takeIn value first.objects).2 }
        { second with objects := (Objects.takeIn value second.objects).2 } wider taken (le _ _ roots) steps _ _ slots
    · refine put alike roots steps ?_
      have found := alike.slotAt? roots source
      change Option.Rel _ (first.slot? source) (second.slot? source) at found
      generalize first.slot? source = slot at found ⊢
      generalize second.slot? source = slot' at found ⊢
      cases found with
      | none => exact .value .null
      | some slots => exact slots
  have kept : ∀ after, change.applied first = .ok after → after.IsTidy := fun _ => Change.applied_isTidy tidy
  have kept' : ∀ after, change.applied second = .ok after → after.IsTidy := fun _ => Change.applied_isTidy tidy'
  generalize change.applied first = one at done kept ⊢
  generalize change.applied second = other at done kept' ⊢
  cases done with
  | failed fault => exact .failed fault
  | done together => exact .done ⟨together, kept _ rfl, kept' _ rfl⟩

theorem slot? {pair : Pairing} (alike : Objects.Matches first.objects second.objects pair)
    (roots : pair first.root second.root) (path : Path) :
    Option.Rel (Slot.Match pair) (first.slot? path) (second.slot? path) := alike.slotAt? roots path

theorem hasNoLoop (alike : Matches first second) (noLoop : first.HasNoLoop) : second.HasNoLoop := by
  obtain ⟨⟨pair, alike, roots⟩, -, -⟩ := alike
  have mapping : ∀ {path id}, second.slot? path = some (.object id) →
      ∃ twin, first.slot? path = some (.object twin) ∧ pair twin id := by
    intro path id found
    have both := slot? alike roots path
    rw [found] at both
    generalize first.slot? path = slot at both ⊢
    obtain @⟨slot, _, slots⟩ := both
    obtain _ | together := slots
    exact ⟨_, rfl, together⟩
  intro path more id here there
  obtain ⟨one, found, both⟩ := mapping here
  obtain ⟨other, found', both'⟩ := mapping there
  obtain rfl := (alike.unique both both').mpr rfl
  exact noLoop path more one found found'

theorem get (alike : Matches first second) (noLoop : first.HasNoLoop) (path default : Json) :
    first.get path default = second.get path default := by
  have noLoop' := alike.hasNoLoop noLoop
  obtain ⟨⟨pair, alike, roots⟩, tidy, tidy'⟩ := alike
  cases way : Path.ofJson path with
  | error fault =>
    unfold Store.get
    rw [way]
    rfl
  | ok steps =>
    rw [get_at way, get_at way]
    have both := slot? alike roots steps
    generalize found : first.slot? steps = slot at both ⊢
    generalize found' : second.slot? steps = slot' at both ⊢
    cases both with
    | none => rfl
    | some slots =>
      -- Each store looks as deep as it has objects, and either of them sees no more at the larger depth.
      have deep := Nat.le_max_left first.objects.entries.size second.objects.entries.size
      have deep' := Nat.le_max_right first.objects.entries.size second.objects.entries.size
      rw [Option.map_some, Option.map_some, noLoop.view_eq tidy found deep, noLoop'.view_eq tidy' found' deep',
        alike.viewWithin _ slots]

theorem replies (alike : Matches first second) (uses : List Use)
    (noLoop : ∀ earlier later, uses = earlier ++ later → (leftAll earlier first).HasNoLoop) :
    replies uses first = replies uses second :=
  replies_alike (fun _ _ alike noLoop => alike.get noLoop) (fun _ _ alike => alike.applied) uses alike noLoop

end Matches

end Store

end ChatWidget
