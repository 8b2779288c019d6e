/-!
Ordered entries: values under distinct names, in the order in which the names came in. Writing under a
known name keeps its position, and writing under a new one appends.
-/
namespace ChatWidget

abbrev Entries (α : Type) := List (String × α)

namespace Entries

variable {α : Type}

def get? (entries : Entries α) (name : String) : Option α :=
  (entries.find? (·.1 == name)).map (·.2)

def has (entries : Entries α) (name : String) : Bool := entries.any (·.1 == name)

def put : Entries α → String → α → Entries α
  | [], name, value => [(name, value)]
  | (other, old) :: rest, name, value =>
    if other == name then (name, value) :: rest else (other, old) :: put rest name value

def erase (entries : Entries α) (name : String) : Entries α := entries.filter (·.1 != name)

def putAll (entries : Entries α) (more : List (String × α)) : Entries α :=
  more.foldl (fun written (name, value) => written.put name value) entries

def ofWrites (writes : List (String × α)) : Entries α := putAll [] writes

def names (entries : Entries α) : List String := entries.map (·.1)

@[simp] theorem get?_nil (name : String) : get? ([] : Entries α) name = none := rfl

theorem get?_put_self (entries : Entries α) (name : String) (value : α) :
    (entries.put name value).get? name = some value := by
  induction entries with
  | nil => simp [put, get?]
  | cons entry rest ih =>
    obtain ⟨other, old⟩ := entry
    by_cases h : other = name
    · simp [put, get?, h]
    · simp only [put, beq_iff_eq, h, if_false]
      simpa [get?, List.find?_cons, h] using ih

theorem get?_put_of_ne (entries : Entries α) {name other : String} (value : α) (ne : other ≠ name) :
    (entries.put name value).get? other = entries.get? other := by
  have ne' : name ≠ other := fun h => ne h.symm
  induction entries with
  | nil => simp [put, get?, ne']
  | cons entry rest ih =>
    obtain ⟨key, old⟩ := entry
    by_cases h : key = name
    · subst h; simp [put, get?, ne']
    · simp only [put, beq_iff_eq, h, if_false]
      by_cases k : key = other
      · simp [get?, k]
      · simpa [get?, List.find?_cons, k] using ih

end Entries

end ChatWidget
