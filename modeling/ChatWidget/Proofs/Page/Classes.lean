import ChatWidget.Page.Elements
import Mathlib.Data.List.Count
import Mathlib.Data.List.Nodup
import Mathlib.Algebra.Group.Nat.Even
/-!
Toggling classes. A toggle takes one occurrence of a name away, or adds the name where it does not stand, so of each
name as many occurrences are left as the calls leave; other names are as before. While no name stands twice the
classes are a set, and each call then tells whether the element has the class afterwards. A name that stands twice
stays behind when it is taken away, so this holds of an element exactly if no name stands twice from the start.
-/
namespace ChatWidget.Element

variable {ι : Type}

def toggleAll (element : Element ι) (names : List String) : Element ι :=
  names.foldl (fun element name => (element.toggle name).2) element

/-- How many occurrences of a name so many toggles of it leave: each takes one away while there are some, and after
that it comes and goes. -/
def remaining (worn toggles : Nat) : Nat := if toggles ≤ worn then worn - toggles else (toggles - worn) % 2

def wearing (element : Element ι) (classes : List String) : Element ι := { element with classes := classes }

@[simp] theorem classes_wearing (element : Element ι) (classes : List String) :
    (element.wearing classes).classes = classes := rfl

theorem hasClass_iff {element : Element ι} {name : String} :
    element.hasClass name = true ↔ name ∈ element.classes := List.contains_iff_mem

/-! ### One call -/

/-- What a call does: of the name that an element has the first occurrence goes, and one that it has not comes last. -/
theorem toggle_cases (element : Element ι) (name : String) :
    name ∈ element.classes ∧ element.toggle name = (false, element.wearing (element.classes.erase name)) ∨
      name ∉ element.classes ∧ element.toggle name = (true, element.wearing (element.classes ++ [name])) := by
  by_cases worn : name ∈ element.classes
  · exact .inl ⟨worn, if_pos (hasClass_iff.mpr worn)⟩
  · exact .inr ⟨worn, if_neg (mt hasClass_iff.mp worn)⟩

theorem toggle_answer (element : Element ι) (name : String) :
    (element.toggle name).1 = true ↔ name ∉ element.classes := by
  rcases toggle_cases element name with ⟨worn, toggled⟩ | ⟨bare, toggled⟩
  · simp [toggled, worn]
  · simp [toggled, bare]

theorem toggle_wearing (element : Element ι) (name : String) :
    (element.toggle name).2 = element.wearing (element.toggle name).2.classes := by
  rcases toggle_cases element name with ⟨-, toggled⟩ | ⟨-, toggled⟩
  · rw [toggled]
    rfl
  · rw [toggled]
    rfl

theorem count_toggle_self (element : Element ι) (name : String) :
    (element.toggle name).2.classes.count name = remaining (element.classes.count name) 1 := by
  rcases toggle_cases element name with ⟨worn, toggled⟩ | ⟨bare, toggled⟩
  · have some : 1 ≤ element.classes.count name := List.one_le_count_iff.mpr worn
    rw [toggled, classes_wearing, List.count_erase_self, remaining, if_pos some]
  · rw [toggled, classes_wearing, List.count_append, List.count_eq_zero_of_not_mem bare, List.count_singleton_self]
    rfl

theorem count_toggle_other (element : Element ι) {name other : String} (different : other ≠ name) :
    (element.toggle name).2.classes.count other = element.classes.count other := by
  rcases toggle_cases element name with ⟨-, toggled⟩ | ⟨-, toggled⟩
  · rw [toggled, classes_wearing, List.count_erase_of_ne different]
  · rw [toggled, classes_wearing, List.count_append, List.count_singleton, if_neg (by simpa using different.symm),
      Nat.add_zero]

theorem toggle_tells_iff (element : Element ι) (name : String) :
    ((element.toggle name).1 = true ↔ name ∈ (element.toggle name).2.classes) ↔ element.classes.count name ≤ 1 := by
  rw [toggle_answer, ← List.count_eq_zero, ← List.count_pos_iff, count_toggle_self, remaining]
  split
  next some => omega
  next none =>
    have zero : element.classes.count name = 0 := by omega
    simp [zero]

theorem nodup_toggle {element : Element ι} (distinct : element.classes.Nodup) (name : String) :
    (element.toggle name).2.classes.Nodup := by
  rcases toggle_cases element name with ⟨-, toggled⟩ | ⟨bare, toggled⟩
  · rw [toggled]
    exact distinct.erase name
  · rw [toggled]
    refine List.nodup_append.mpr ⟨distinct, List.nodup_singleton name, ?_⟩
    rintro worn member _ last rfl
    exact bare (List.mem_singleton.mp last ▸ member)

/-! ### Any number of calls -/

theorem toggleAll_cons (element : Element ι) (name : String) (names : List String) :
    element.toggleAll (name :: names) = (element.toggle name).2.toggleAll names := rfl

theorem toggleAll_append (element : Element ι) (names more : List String) :
    element.toggleAll (names ++ more) = (element.toggleAll names).toggleAll more := List.foldl_append

theorem tells_toggleAll_iff (element : Element ι) (names : List String) (name : String) :
    (((element.toggleAll names).toggle name).1 = true ↔ name ∈ (element.toggleAll (names ++ [name])).classes) ↔
      (element.toggleAll names).classes.count name ≤ 1 := by
  rw [toggleAll_append]
  exact toggle_tells_iff _ name

theorem remaining_remaining (worn first more : Nat) :
    remaining (remaining worn first) more = remaining worn (first + more) := by
  unfold remaining
  split_ifs <;> omega

theorem count_toggleAll (element : Element ι) (names : List String) (name : String) :
    (element.toggleAll names).classes.count name = remaining (element.classes.count name) (names.count name) := by
  induction names generalizing element with
  | nil => simp [toggleAll, remaining]
  | cons first names ih =>
    rw [toggleAll_cons, ih]
    by_cases same : first = name
    · subst same
      rw [count_toggle_self, remaining_remaining, List.count_cons_self, Nat.add_comm]
    · rw [count_toggle_other element (Ne.symm same), List.count_cons_of_ne same]

theorem nodup_toggleAll {element : Element ι} (distinct : element.classes.Nodup) (names : List String) :
    (element.toggleAll names).classes.Nodup := by
  induction names generalizing element with
  | nil => exact distinct
  | cons name names ih => exact ih (nodup_toggle distinct name)

theorem toggleAll_wearing (element : Element ι) (names : List String) :
    element.toggleAll names = element.wearing (element.toggleAll names).classes := by
  induction names generalizing element with
  | nil => rfl
  | cons name names ih =>
    rw [toggleAll_cons, ih, toggle_wearing]
    rfl

/-- What is left of a name that stands at most once tells whether it was toggled an even number of times. -/
theorem remaining_pos_iff {worn : Nat} (once : worn ≤ 1) (toggles : Nat) :
    0 < remaining worn toggles ↔ (0 < worn ↔ Even toggles) := by
  unfold remaining
  rw [Nat.even_iff]
  split_ifs <;> omega

/-- The classes are a set and toggling tells the truth: whatever is toggled, no name stands twice, and each call
answers whether the element has the class afterwards. Two toggles of one name after each other leave the element with
the classes that it had, and it has a class exactly if it had it before an even number of toggles of it, or had it not
before an odd one. -/
structure TogglesAsSet (element : Element ι) : Prop where
  distinct : ∀ names, (element.toggleAll names).classes.Nodup
  tells : ∀ names name, ((element.toggleAll names).toggle name).1 = true ↔
    name ∈ (element.toggleAll (names ++ [name])).classes
  restores : ∀ names name other, other ∈ (element.toggleAll (names ++ [name, name])).classes ↔
    other ∈ (element.toggleAll names).classes
  flips : ∀ names name, name ∈ (element.toggleAll names).classes ↔ (name ∈ element.classes ↔ Even (names.count name))

theorem flips_toggleAll {element : Element ι} (distinct : element.classes.Nodup) (names : List String) (name : String) :
    name ∈ (element.toggleAll names).classes ↔ (name ∈ element.classes ↔ Even (names.count name)) := by
  rw [← List.count_pos_iff, ← List.count_pos_iff, count_toggleAll]
  exact remaining_pos_iff (List.nodup_iff_count_le_one.mp distinct name) (names.count name)

theorem togglesAsSet_iff (element : Element ι) : element.TogglesAsSet ↔ element.classes.Nodup := by
  constructor
  · intro set
    exact set.distinct []
  · intro distinct
    refine ⟨nodup_toggleAll distinct, fun names name => ?_, fun names name other => ?_, flips_toggleAll distinct⟩
    · exact (tells_toggleAll_iff element names name).mpr
        (List.nodup_iff_count_le_one.mp (nodup_toggleAll distinct names) name)
    · have twice : Even ([name, name].count other) := by
        by_cases same : other = name
        · subst same
          rw [List.count_cons_self, List.count_cons_self]
          exact ⟨1, rfl⟩
        · rw [List.count_eq_zero_of_not_mem (by simpa using same)]
          exact Even.zero
      rw [toggleAll_append, flips_toggleAll (nodup_toggleAll distinct names)]
      simp [twice]

/-- Toggle any names of an element in any order. Of each name as many occurrences are left as its toggles leave, each
taking one away while there are some and adding one where there is none. Each call answers whether the name was added,
which is whether the element has the class afterwards unless the name stood there twice, and nothing but the classes
changes. The classes are a set, and toggling tells the truth, exactly if no name stands twice in the beginning: for an
element that is made as a tag describes it, or as markup does, if the words of the attribute for the classes are
distinct. -/
theorem toggled_classes :
    (∀ (element : Element ι) (names : List String) (name : String),
      (element.toggleAll names).classes.count name = remaining (element.classes.count name) (names.count name) ∧
      (((element.toggleAll names).toggle name).1 = true ↔ name ∉ (element.toggleAll names).classes) ∧
      ((((element.toggleAll names).toggle name).1 = true ↔ name ∈ (element.toggleAll (names ++ [name])).classes) ↔
        (element.toggleAll names).classes.count name ≤ 1) ∧
      element.toggleAll names = element.wearing (element.toggleAll names).classes ∧
      (element.TogglesAsSet ↔ element.classes.Nodup)) ∧
    (∀ (tag : String) (attributes : List (String × Option String)),
      (ofTag tag attributes : Element ι).TogglesAsSet ↔
        ((((Entries.ofWrites attributes).get? "class").bind id).getD "").blankSeparated.Nodup) ∧
    ∀ (tag : String) (attributes : List (String × String)),
      (ofNode (Markup.Node.ofTag tag attributes) : Element ι).TogglesAsSet ↔
        (((Entries.ofWrites attributes).get? "class").getD "").blankSeparated.Nodup :=
  ⟨fun element names name => ⟨count_toggleAll element names name, toggle_answer _ name,
      tells_toggleAll_iff element names name, toggleAll_wearing element names, togglesAsSet_iff element⟩,
    fun _ _ => togglesAsSet_iff _, fun _ _ => togglesAsSet_iff _⟩

/-- Of a class that the attribute names twice one is left when it is taken away, so the answer is that the element has
it no more while it has; and toggling it again takes it away. -/
theorem repeated_class_stays :
    let element : Element Unit := ofTag "div" [("class", some "a a")]
    element.classes = ["a", "a"] ∧ (element.toggle "a").1 = false ∧ "a" ∈ (element.toggle "a").2.classes ∧
      "a" ∉ (element.toggleAll ["a", "a"]).classes ∧ ¬ element.TogglesAsSet := by
  intro element
  have worn : element.classes = ["a", "a"] := by decide +kernel
  have toggled : (element.toggle "a").1 = false ∧ "a" ∈ (element.toggle "a").2.classes ∧
      "a" ∉ (element.toggleAll ["a", "a"]).classes := by decide +kernel
  refine ⟨worn, toggled.1, toggled.2.1, toggled.2.2, ?_⟩
  rw [togglesAsSet_iff, worn]
  decide

end ChatWidget.Element
