import ChatWidget.Store.Tree
import ChatWidget.Proofs.Entries
/-!
What is read from a tree after something was put into it. At and below the place the value itself is read, and at a
place beside it what was there before. At a place above there is then a mapping, with the value put into what was
there; so of two values at one place the later stays, and the order of the entries is that of the tree before.
-/
namespace ChatWidget.Tree

/-- The entries of what was found; what is no mapping has none. -/
def mapping (found : Option Json) : Entries Json := (found.bind Json.obj?).getD []

/-- The value at a path in the form in which callers give it, or another where there is none. -/
def read (tree : Json) (path default : Json) : Except Fault Json := do
  return (get? tree (← Path.ofJson path)).getD default

/-- The tree with a value put at a path in the form in which callers give it. -/
def write (fields : Entries Json) (path value : Json) : Except Fault (Entries Json) := do
  set fields (← Path.ofJson path) value

theorem read_ofJson {path : Json} {steps : Path} (way : Path.ofJson path = .ok steps) (tree default : Json) :
    read tree path default = .ok ((get? tree steps).getD default) := by
  unfold read
  rw [way]
  rfl

theorem write_ofJson {path : Json} {steps : Path} (way : Path.ofJson path = .ok steps) (fields : Entries Json)
    (value : Json) : write fields path value = set fields steps value := by
  unfold write
  rw [way]
  rfl

/-! ### Reading -/

theorem get?_cons (fields : Entries Json) (step : String) (rest : Path) :
    get? (.obj fields) (step :: rest) = (fields.get? step).bind (get? · rest) := by
  rw [get?, Json.field?]
  cases fields.get? step with
  | none => rfl
  | some next => rfl

theorem get?_leaf {value : Json} (leaf : ∀ fields, value ≠ .obj fields) (step : String) (rest : Path) :
    get? value (step :: rest) = none := by
  cases value with
  | obj fields => exact absurd rfl (leaf fields)
  | _ => rfl

theorem mapping_leaf {value : Json} (leaf : ∀ fields, value ≠ .obj fields) : mapping (some value) = [] := by
  cases value with
  | obj fields => exact absurd rfl (leaf fields)
  | _ => rfl

theorem get?_mapping (found : Option Json) (step : String) (rest : Path) :
    get? (.obj (mapping found)) (step :: rest) = found.bind (get? · (step :: rest)) := by
  cases found with
  | none => rfl
  | some value =>
    cases value with
    | obj fields => rfl
    | _ => rfl

/-! ### Reading after a value was put -/

theorem put_cons (fields : Entries Json) (step next : String) (rest : Path) (value : Json) :
    put fields step (next :: rest) value =
      fields.put step (.obj (put (mapping (fields.get? step)) next rest value)) := rfl

theorem get?_put_below (fields : Entries Json) (step : String) (rest more : Path) (value : Json) :
    get? (.obj (put fields step rest value)) (step :: rest ++ more) = get? value more := by
  induction rest generalizing fields step with
  | nil =>
    change get? (.obj (fields.put step value)) (step :: more) = _
    rw [get?_cons, Entries.get?_put_self]
    rfl
  | cons next rest ih =>
    rw [put_cons, List.cons_append, get?_cons, Entries.get?_put_self]
    exact ih _ next

/-- The induction is on the steps that the two ways share; where they part each has a step of its own. -/
theorem get?_put_beside (fields : Entries Json) {step : String} {rest other : Path} (value : Json)
    (notAbove : ¬ other <+: step :: rest) (notBelow : ¬ step :: rest <+: other) :
    get? (.obj (put fields step rest value)) other = get? (.obj fields) other := by
  induction rest generalizing fields step other with
  | nil =>
    cases other with
    | nil => exact absurd List.nil_prefix notAbove
    | cons first others =>
      have parts : first ≠ step := by
        rintro rfl
        exact notBelow (List.cons_prefix_cons.mpr ⟨rfl, List.nil_prefix⟩)
      change get? (.obj (fields.put step value)) (first :: others) = _
      rw [get?_cons, get?_cons, Entries.get?_put_of_ne _ _ parts]
  | cons next rest ih =>
    cases other with
    | nil => exact absurd List.nil_prefix notAbove
    | cons first others =>
      rw [put_cons]
      by_cases shared : first = step
      · subst shared
        rw [List.cons_prefix_cons, not_and] at notAbove notBelow
        rw [get?_cons, get?_cons, Entries.get?_put_self, Option.bind_some, ih _ (notAbove rfl) (notBelow rfl)]
        cases others with
        | nil => exact absurd List.nil_prefix (notAbove rfl)
        | cons second others => exact get?_mapping _ second others
      · rw [get?_cons, get?_cons, Entries.get?_put_of_ne _ _ shared]

theorem get?_put_above (fields : Entries Json) (value : Json) {step next : String} {rest above last : Path}
    (way : step :: rest = above ++ next :: last) :
    get? (.obj (put fields step rest value)) above =
      some (.obj (put (mapping (get? (.obj fields) above)) next last value)) := by
  induction above generalizing fields step rest with
  | nil =>
    cases way
    rfl
  | cons first above ih =>
    obtain ⟨rfl, later⟩ := List.cons.inj way
    obtain ⟨second, others, rfl⟩ : ∃ second others, rest = second :: others :=
      List.exists_cons_of_ne_nil (by rw [later]; simp)
    have same : mapping (get? (.obj (mapping (fields.get? step))) above) =
        mapping (get? (.obj fields) (step :: above)) := by
      rw [get?_cons]
      cases above with
      | nil =>
        cases fields.get? step with
        | none => rfl
        | some found => rfl
      | cons second above => rw [get?_mapping]
    rw [put_cons, get?_cons, Entries.get?_put_self, Option.bind_some, ih _ later, same]

theorem put_put (fields : Entries Json) (step : String) (rest : Path) (first second : Json) :
    put (put fields step rest first) step rest second = put fields step rest second := by
  induction rest generalizing fields step with
  | nil => exact Entries.put_put fields step first second
  | cons next rest ih =>
    rw [put_cons, put_cons, put_cons, Entries.get?_put_self, Entries.put_put]
    change fields.put step (.obj (put (put _ next rest first) next rest second)) = _
    rw [ih]

end ChatWidget.Tree
