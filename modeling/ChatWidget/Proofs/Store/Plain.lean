import ChatWidget.Proofs.Store.History
import ChatWidget.Proofs.Store.PathLaws
import ChatWidget.Proofs.Store.Unshared
/-!
Stores that are plain trees. Where each mapping stands at one place, what is written below an address is out of sight
of all others; so a call on such a store does to its tree what writing at the path does to a tree without objects,
and what is read is what is read there.
-/
namespace ChatWidget

namespace Objects

/-! ### What a slot shows -/

/-- Is a value seen through a slot, from whatever depth on? -/
def Shows (objects : Objects) (slot : Slot) (value : Json) : Prop :=
  ∃ enough, ∀ depth ≥ enough, objects.viewWithin depth slot = value

variable {objects after : Objects} {id : ObjectId} {fields : Entries Json}

theorem Shows.unique {slot : Slot} {first second : Json} (one : objects.Shows slot first)
    (other : objects.Shows slot second) : first = second := by
  obtain ⟨enough, seen⟩ := one
  obtain ⟨deeper, also⟩ := other
  exact (seen _ (Nat.le_max_left enough deeper)).symm.trans (also _ (Nat.le_max_right enough deeper))

theorem shows_value {v value : Json} : objects.Shows (.value v) value ↔ v = value := by
  constructor
  · rintro ⟨enough, seen⟩
    rw [← seen enough (Nat.le_refl _), viewWithin_value]
  · rintro rfl
    exact ⟨0, fun _ _ => viewWithin_value _ _ _⟩

theorem shows_object : objects.Shows (.object id) (.obj fields) ↔
    ∃ enough, ∀ depth ≥ enough,
      (objects.fields id).map (fun (name, slot) => (name, objects.viewWithin depth slot)) = fields := by
  constructor
  · rintro ⟨enough, seen⟩
    refine ⟨enough, fun depth deep => ?_⟩
    have here := seen (depth + 1) (Nat.le_succ_of_le deep)
    rw [viewWithin] at here
    exact Json.obj.inj here
  · rintro ⟨enough, seen⟩
    refine ⟨enough + 1, fun depth deep => ?_⟩
    obtain ⟨depth, rfl⟩ : ∃ n, depth = n + 1 := ⟨depth - 1, by omega⟩
    rw [viewWithin, seen depth (Nat.le_of_succ_le_succ deep)]

theorem Shows.obj {value : Json} (shown : objects.Shows (.object id) value) : ∃ fields, value = .obj fields := by
  obtain ⟨enough, seen⟩ := shown
  obtain ⟨fields, object⟩ := viewWithin_object objects enough id
  exact ⟨fields, (seen enough (Nat.le_refl _)).symm.trans object⟩

theorem Shows.get? (shown : objects.Shows (.object id) (.obj fields)) (name : String) :
    match (objects.fields id).get? name with
    | none => fields.get? name = none
    | some slot => ∃ value, fields.get? name = some value ∧ objects.Shows slot value := by
  obtain ⟨enough, seen⟩ := shows_object.mp shown
  have found : ∀ depth ≥ enough, fields.get? name =
      ((objects.fields id).get? name).map (objects.viewWithin depth) := by
    intro depth deep
    rw [← seen depth deep]
    exact Entries.get?_map (fun _ slot => objects.viewWithin depth slot) _ name
  cases there : (objects.fields id).get? name with
  | none =>
    dsimp only
    rw [found enough (Nat.le_refl _), there]
    rfl
  | some slot =>
    refine ⟨objects.viewWithin enough slot, ?_, enough, fun depth deep => ?_⟩
    · rw [found enough (Nat.le_refl _), there]
      rfl
    · have same := (found depth deep).symm.trans (found enough (Nat.le_refl _))
      rw [there] at same
      exact Option.some.inj same

theorem Shows.mapping_none (fit : objects.AreFit) (shown : objects.Shows (.object id) (.obj fields)) {step : String}
    (none : ∀ inner, (objects.fields id).get? step ≠ some (.object inner)) :
    Tree.mapping (fields.get? step) = [] := by
  have entry := shown.get? step
  cases there : (objects.fields id).get? step with
  | none =>
    rw [there] at entry
    rw [entry]
    rfl
  | some slot =>
    rw [there] at entry
    obtain ⟨found, named, shows⟩ := entry
    rw [named]
    cases slot with
    | value v =>
      cases shows_value.mp shows
      exact Tree.mapping_leaf (fit id _ (Entries.get?_mem there))
    | object inner => exact absurd there (none inner)

/-- A way through a mapping leads where it leads through the value that is seen. -/
theorem Shows.slotAt? (fit : objects.AreFit) (shown : objects.Shows (.object id) (.obj fields)) (path : Path) :
    match objects.slotAt? id path with
    | none => Tree.get? (.obj fields) path = none
    | some slot => ∃ value, Tree.get? (.obj fields) path = some value ∧ objects.Shows slot value := by
  induction path generalizing id fields with
  | nil => exact ⟨_, rfl, shown⟩
  | cons step rest ih =>
    have entry := shown.get? step
    rw [Tree.get?_cons]
    cases rest with
    | nil =>
      rw [Objects.slotAt?]
      cases there : (objects.fields id).get? step with
      | none =>
        rw [there] at entry
        dsimp only at entry ⊢
        rw [entry]
        rfl
      | some slot =>
        rw [there] at entry
        obtain ⟨value, named, seen⟩ := entry
        exact ⟨value, by rw [named]; rfl, seen⟩
    | cons next rest =>
      rw [Objects.slotAt?]
      cases there : (objects.fields id).get? step with
      | none =>
        rw [there] at entry
        dsimp only at entry ⊢
        rw [entry]
        rfl
      | some slot =>
        rw [there] at entry
        obtain ⟨value, named, seen⟩ := entry
        rw [named]
        cases slot with
        | value v =>
          cases shows_value.mp seen
          exact Tree.get?_leaf (fit id _ (Entries.get?_mem there)) next rest
        | object inner =>
          obtain ⟨entries, rfl⟩ := seen.obj
          exact ih seen

theorem Shows.put {step : String} {slot : Slot} {value : Json} (shown : objects.Shows (.object id) (.obj fields))
    (distinct : (objects.fields id).HasDistinctNames) (written : after.fields id = (objects.fields id).put step slot)
    (others : ∀ entry ∈ objects.fields id, entry.1 ≠ step →
      ∀ depth, after.viewWithin depth entry.2 = objects.viewWithin depth entry.2)
    (new : after.Shows slot value) : after.Shows (.object id) (.obj (fields.put step value)) := by
  obtain ⟨enough, seen⟩ := shows_object.mp shown
  obtain ⟨deeper, there⟩ := new
  apply shows_object.mpr
  refine ⟨max enough deeper, fun depth deep => ?_⟩
  rw [written, ← seen depth (le_of_max_le_left deep), ← there depth (le_of_max_le_right deep)]
  exact distinct.map_put fun entry member other => others entry member other depth

theorem shows_new (objects : Objects) {id : ObjectId} (inside : id < objects.entries.size) (step : String) :
    (objects.link id step).Shows (.object objects.entries.size) (.obj []) := by
  have fresh : (objects.link id step).fields objects.entries.size = [] := by
    rw [link, fields_setFields_ne _ (Nat.ne_of_gt inside), fields_add, if_pos rfl]
  apply shows_object.mpr
  exact ⟨0, fun depth _ => by rw [fresh]; rfl⟩

/-! ### Writing below an address -/

namespace Addressed

variable {addresses : Addresses} {path : Path}

theorem viewWithin_same (addressed : objects.Addressed addresses)
    (same : ∀ {id more}, addresses id = some (path ++ more) → after.fields id = objects.fields id) {slot : Slot}
    (stands : slot.StandsAt addresses path) (depth : Nat) :
    after.viewWithin depth slot = objects.viewWithin depth slot := by
  refine viewWithin_frame (fun slot => ∃ more, slot.StandsAt addresses (path ++ more)) ?_ depth ⟨[], ?_⟩
  · rintro id ⟨more, here⟩
    refine ⟨same here, fun entry member => ⟨more ++ [entry.1], ?_⟩⟩
    rw [← List.append_assoc]
    exact addressed.below here entry member
  · rwa [List.append_nil]

theorem fields_putAt (addressed : objects.Addressed addresses) (here : addresses id = some path) (step : String)
    (rest : Path) (slot : Slot) {other : ObjectId} {place : Path} (there : addresses other = some place)
    (beside : ∀ between, place = path ++ between → ¬ between <+: (step :: rest).dropLast) :
    (objects.putAt id step rest slot).fields other = objects.fields other := by
  induction rest generalizing objects addresses id path step with
  | nil =>
    refine fields_setFields_ne _ ?_ _
    rintro rfl
    cases here.symm.trans there
    exact beside [] (List.append_nil _).symm List.nil_prefix
  | cons next rest ih =>
    have further : ∀ between, place = (path ++ [step]) ++ between → ¬ between <+: (next :: rest).dropLast := by
      intro between split way
      refine beside (step :: between) (by rw [split, List.append_assoc]; rfl) ?_
      rw [List.dropLast_cons_of_ne_nil (List.cons_ne_nil _ _)]
      exact List.cons_prefix_cons.mpr ⟨rfl, way⟩
    have differ : other ≠ id := by
      rintro rfl
      cases here.symm.trans there
      exact beside [] (List.append_nil _).symm List.nil_prefix
    unfold Objects.putAt
    split
    next inner found => exact ih addressed (addressed.below here _ (Entries.get?_mem found)) next there further
    next =>
      obtain ⟨wider, grown, linked, new⟩ := addressed.link here step
      calc ((objects.link id step).putAt objects.entries.size next rest slot).fields other
        _ = (objects.link id step).fields other := ih linked new next (grown there) further
        _ = objects.fields other := fields_link_ne (addressed.inside there) differ step

theorem viewWithin_putAt (addressed : objects.Addressed addresses) (here : addresses id = some path) {step : String}
    (rest : Path) (slot : Slot) {entry : String × Slot} (member : entry ∈ objects.fields id) (beside : entry.1 ≠ step)
    (depth : Nat) :
    (objects.putAt id step rest slot).viewWithin depth entry.2 = objects.viewWithin depth entry.2 := by
  refine addressed.viewWithin_same ?_ (addressed.below here entry member) depth
  intro other more there
  apply addressed.fields_putAt here step rest slot there
  intro between split way
  rw [List.append_assoc] at split
  cases List.append_cancel_left split
  have start := way.trans (List.dropLast_prefix _)
  exact beside (List.cons_prefix_cons.mp start).1

theorem viewWithin_link (addressed : objects.Addressed addresses) (here : addresses id = some path) (step : String)
    {slot : Slot} {way : Path} (further : way ≠ []) (stands : slot.StandsAt addresses (path ++ way)) (depth : Nat) :
    (objects.link id step).viewWithin depth slot = objects.viewWithin depth slot := by
  refine addressed.viewWithin_same ?_ stands depth
  intro other more there
  refine fields_link_ne (addressed.inside there) ?_ step
  rintro rfl
  have same := here.symm.trans there
  simp [further] at same

theorem shows_link (addressed : objects.Addressed addresses) (sound : objects.AreSound)
    (here : addresses id = some path) (shown : objects.Shows (.object id) (.obj fields)) (step : String) :
    (objects.link id step).Shows (.object id) (.obj (fields.put step (.obj []))) := by
  refine shown.put (sound id).1 (fields_link_self (addressed.inside here) step) ?_
    (shows_new _ (addressed.inside here) step)
  intro entry member _
  exact addressed.viewWithin_link here step (List.cons_ne_nil _ _) (addressed.below here entry member)

theorem shows_through (addressed : objects.Addressed addresses) (sound : objects.AreSound)
    (here : addresses id = some path) {step next : String} {rest : Path} {slot : Slot} {inner : ObjectId} {value : Json}
    (found : (objects.fields id).get? step = some (.object inner)) (shown : objects.Shows (.object id) (.obj fields))
    (below : ∀ entries, objects.Shows (.object inner) (.obj entries) →
      (objects.putAt inner next rest slot).Shows (.object inner) (.obj (Tree.put entries next rest value))) :
    (objects.putAt inner next rest slot).Shows (.object id) (.obj (Tree.put fields step (next :: rest) value)) := by
  have stands : addresses inner = some (path ++ [step]) := addressed.below here _ (Entries.get?_mem found)
  have same : objects.putAt id step (next :: rest) slot = objects.putAt inner next rest slot := by
    rw [Objects.putAt, found]
  have entry := shown.get? step
  rw [found] at entry
  obtain ⟨_, named, seen⟩ := entry
  obtain ⟨entries, rfl⟩ := seen.obj
  have new := below entries seen
  rw [← same] at new ⊢
  rw [Tree.put_cons, named]
  refine shown.put (sound id).1 ?_ (fun entry member other => addressed.viewWithin_putAt here _ slot member other) new
  rw [Entries.put_found found, same]
  apply addressed.fields_putAt stands next rest slot here
  intro between split
  simp at split

/-- Putting something below a mapping is seen as putting what it shows into the entries that are seen. The induction is
on the way; where a mapping has to be made on it, it is there from the beginning for the rest of the way. -/
theorem shows_putAt (addressed : objects.Addressed addresses) (sound : objects.AreSound) (fit : objects.AreFit)
    (here : addresses id = some path) {step : String} {rest : Path} {slot : Slot} {value : Json}
    (stands : slot.StandsAt addresses (path ++ step :: rest)) (shown : objects.Shows (.object id) (.obj fields))
    (given : objects.Shows slot value) :
    (objects.putAt id step rest slot).Shows (.object id) (.obj (Tree.put fields step rest value)) := by
  induction rest generalizing objects addresses id path step fields with
  | nil =>
    obtain ⟨enough, seen⟩ := given
    refine shown.put (sound id).1 (fields_setFields_self (addressed.inside here) _)
      (fun entry member other => addressed.viewWithin_putAt here [] slot member other) ⟨enough, fun depth deep => ?_⟩
    rw [← seen depth deep]
    refine addressed.viewWithin_same ?_ stands depth
    intro other more there
    apply addressed.fields_putAt here step [] slot there
    intro between split way
    rw [List.append_assoc] at split
    cases List.append_cancel_left split
    simp at way
  | cons next rest ih =>
    unfold Objects.putAt
    split
    next inner found =>
      refine addressed.shows_through sound here found shown fun entries seen => ?_
      rw [List.append_cons] at stands
      exact ih addressed sound fit (addressed.below here _ (Entries.get?_mem found)) stands seen given
    next none =>
      obtain ⟨wider, grown, linked, new⟩ := addressed.link here step
      have kept : (objects.link id step).Shows slot value := by
        obtain ⟨enough, seen⟩ := given
        refine ⟨enough, fun depth deep => ?_⟩
        rw [← seen depth deep]
        exact addressed.viewWithin_link here step (List.cons_ne_nil _ _) stands depth
      have found : ((objects.link id step).fields id).get? step = some (.object objects.entries.size) := by
        rw [fields_link_self (addressed.inside here), Entries.get?_put_self]
      have empty := addressed.shows_link sound here shown step
      have done := linked.shows_through (sound.link id step) (grown here) found empty fun entries seen => by
        rw [List.append_cons] at stands
        exact ih linked (sound.link id step) (fit.link id step) new (stands.mono grown) seen kept
      rw [Tree.put_cons, Entries.get?_put_self, Entries.put_put] at done
      rw [Tree.put_cons, shown.mapping_none fit none]
      exact done

theorem shows_grown (addressed : objects.Addressed addresses) (grown : objects.GrowsTo after) {slot : Slot}
    (stands : slot.StandsAt addresses path) {value : Json} (shown : objects.Shows slot value) :
    after.Shows slot value := by
  obtain ⟨enough, seen⟩ := shown
  refine ⟨enough, fun depth deep => ?_⟩
  rw [← seen depth deep]
  exact addressed.viewWithin_same (fun there => grown.same _ (addressed.inside there)) stands depth

end Addressed

theorem takeIn_shows (value : Json) (objects : Objects) :
    (takeIn value objects).2.Shows (takeIn value objects).1 value :=
  ⟨_, fun _ deep => (takeIn_seen value objects).seen _ (.refl _) _ (Nat.le_trans deep (Nat.le_add_left _ _))⟩

end Objects

namespace Store

theorem IsUnshared.isAddressed {store : Store} (unshared : store.IsUnshared) (tidy : store.IsTidy) :
    store.IsAddressed := by
  classical
  let addresses : Addresses := fun id =>
    if there : ∃ path, store.slot? path = some (.object id) then some there.choose else none
  have known : ∀ {id path}, addresses id = some path ↔ store.slot? path = some (.object id) := by
    intro id path
    by_cases there : ∃ path, store.slot? path = some (.object id)
    · simp only [addresses, dif_pos there, Option.some.injEq]
      constructor
      · rintro rfl
        exact there.choose_spec
      · exact unshared _ _ id there.choose_spec
    · simp only [addresses, dif_neg there, reduceCtorEq, false_iff]
      exact fun here => there ⟨path, here⟩
  refine ⟨addresses, ⟨fun there => tidy.fits (known.mp there), ?_⟩, known.mpr rfl⟩
  intro id path there field member
  obtain ⟨name, slot⟩ := field
  cases slot with
  | value v => trivial
  | object inner => exact known.mpr (slot?_entry tidy.sound (known.mp there) member)

/-- Is a store that shares no mapping the given tree? -/
structure IsPlain (store : Store) (tree : Entries Json) : Prop where
  tidy : store.IsTidy
  unshared : store.IsUnshared
  same : store.tree = .obj tree

namespace IsPlain

variable {store : Store} {tree : Entries Json}

theorem shows_view (tidy : store.IsTidy) (unshared : store.IsUnshared) {path : Path} {slot : Slot}
    (there : store.slot? path = some slot) : store.objects.Shows slot (store.objects.view slot) :=
  ⟨_, fun _ deep => (unshared.hasNoLoop.view_eq tidy there deep).symm⟩

theorem shows (plain : store.IsPlain tree) : store.objects.Shows (.object store.root) (.obj tree) := by
  have top : store.slot? [] = some (.object store.root) := rfl
  rw [← plain.same]
  exact shows_view plain.tidy plain.unshared top

theorem get (plain : store.IsPlain tree) (path default : Json) :
    store.get path default = Tree.read (.obj tree) path default := by
  unfold Tree.read
  cases way : Path.ofJson path with
  | error fault =>
    unfold Store.get
    rw [way]
    rfl
  | ok steps =>
    change store.get path default = .ok ((Tree.get? (.obj tree) steps).getD default)
    rw [get_at way]
    have shown := plain.shows.slotAt? plain.tidy.fit steps
    cases there : store.slot? steps with
    | none =>
      unfold slot? at there
      rw [there] at shown
      dsimp only at shown
      rw [shown]
      rfl
    | some slot =>
      have seen := shows_view plain.tidy plain.unshared there
      unfold slot? at there
      rw [there] at shown
      obtain ⟨value, found, shown⟩ := shown
      rw [found, Option.map_some, seen.unique shown]

/-- What is put at a path is put there in the tree that is seen; at the empty path it is the new tree. -/
theorem shows_put {store changed : Store} (tidy : store.IsTidy) {addresses : Addresses}
    (addressed : store.objects.Addressed addresses) (root : addresses store.root = some []) {steps : Path} {slot : Slot}
    {value : Json} (stands : slot.StandsAt addresses steps) (other : slot ≠ .object store.root)
    (shown : store.objects.Shows (.object store.root) (.obj tree)) (given : store.objects.Shows slot value)
    (put : store.put steps slot = .ok changed) {after : Entries Json} (wrote : Tree.set tree steps value = .ok after) :
    changed.objects.Shows (.object store.root) (.obj after) := by
  unfold Store.put at put
  split at put
  next step rest =>
    cases put
    cases wrote
    exact addressed.shows_putAt tidy.sound tidy.fit root stands shown given
  next id =>
    cases put
    obtain ⟨entries, rfl⟩ := given.obj
    cases wrote
    have differ : id ≠ store.root := fun same => other (same ▸ rfl)
    obtain ⟨enough, seen⟩ := Objects.shows_object.mp given
    apply Objects.shows_object.mpr
    refine ⟨enough, fun depth deep => ?_⟩
    have inside : store.root < (store.objects.setFields store.root []).entries.size := by
      rw [Objects.size_setFields]
      exact tidy.inside
    rw [← seen depth deep, Objects.fields_setFields_self inside, Objects.fields_setFields_ne _ differ]
    apply List.map_congr_left
    rintro ⟨name, inner⟩ member
    refine congrArg (Prod.mk name) (addressed.viewWithin_same ?_ (addressed.below stands _ member) depth)
    intro below more there
    have apart : below ≠ store.root := by
      rintro rfl
      cases root.symm.trans there
    rw [Objects.fields_setFields_ne _ apart, Objects.fields_setFields_ne _ apart]
  next => cases put

theorem set (plain : store.IsPlain tree) {path value : Json} {after : Entries Json}
    (wrote : Tree.write tree path value = .ok after) (tidy : value.IsTidy) (writable : value.isWritable = true) :
    ∃ changed, (Change.set path (.data value) tidy).applied store = .ok changed ∧ changed.IsPlain after := by
  obtain ⟨steps, way, wrote⟩ := bind_ok wrote
  have taken := Objects.takeIn_seen value store.objects
  obtain ⟨changed, put⟩ : ∃ changed, Store.put { store with objects := (Objects.takeIn value store.objects).2 } steps
      (Objects.takeIn value store.objects).1 = .ok changed := by
    cases steps with
    | cons step rest => exact ⟨_, rfl⟩
    | nil =>
      cases value with
      | obj whole =>
        rw [Objects.takeIn_obj]
        exact ⟨_, rfl⟩
      | _ => cases wrote
  have applied : (Change.set path (.data value) tidy).applied store = .ok changed := by
    unfold Change.applied Change.placing Offered.value
    dsimp only
    rw [if_pos writable]
    change (Path.ofJson path >>= _) = _
    rw [way]
    exact put
  have still := Change.applied_isTidy plain.tidy applied
  have addressed := plain.unshared.isAddressed plain.tidy
  have copiesNone : ¬ (Use.edit (.set path (.data value) tidy)).CopiesMapping store := by
    rintro ⟨_, _, _, _, same, -⟩
    cases same
  have unshared := (Change.applied_isAddressed addressed copiesNone applied).isUnshared
  obtain ⟨addresses, addressed, root⟩ := addressed
  obtain ⟨wider, grown, wide, stands⟩ := addressed.takeIn value steps
  have stood : (Slot.object store.root).StandsAt addresses [] := root
  have shown := addressed.shows_grown taken.grown stood plain.shows
  have before : IsTidy { store with objects := (Objects.takeIn value store.objects).2 } :=
    ⟨(Objects.takeIn_sound ⟨tidy, writable⟩ plain.tidy.sound).2, (Objects.takeIn_fit value plain.tidy.fit).2,
      Nat.lt_of_lt_of_le plain.tidy.inside taken.grown.size⟩
  have seen := shows_put before wide (grown root) stands (Objects.takeIn_fresh value plain.tidy.inside) shown
    (Objects.takeIn_shows value store.objects) put wrote
  have top : changed.slot? [] = some (.object changed.root) := rfl
  have view := shows_view still unshared top
  rw [(Change.applied_same applied).1] at view
  refine ⟨changed, applied, still, unshared, ?_⟩
  rw [Store.tree, (Change.applied_same applied).1]
  exact view.unique seen

theorem of_same {first second : Store} (same : SameTree first second) (plain : second.IsPlain tree) :
    first.IsPlain tree := by
  have slots : first.slot? = second.slot? := funext same.slot?
  refine ⟨⟨?_, ?_, ?_⟩, ?_, same.tree.trans plain.same⟩
  · rw [same.objects]
    exact plain.tidy.sound
  · rw [same.objects]
    exact plain.tidy.fit
  · rw [same.objects, same.root]
    exact plain.tidy.inside
  · unfold IsUnshared
    rw [slots]
    exact plain.unshared

theorem of_ofEntries (key : String) (durable : Bool) (sound : Json.IsSound (.obj tree)) :
    (ofEntries key durable tree).IsPlain tree :=
  ⟨ofEntries_isTidy key durable sound, (ofEntries_isAddressed key durable tree).isUnshared,
    tree_ofEntries key durable tree⟩

end IsPlain

/-- Putting a value at a path that is not empty obeys the laws of writing into a tree, at the paths in the form in which
callers give them. What is read at the path and below is what is read in the value, and there are no ways into a value
that is no mapping. At a path beside it is read what was there before, even if something that was no mapping had to make
room. At a path above there is then the mapping that was there, or an empty one, with the value put into it. Of two
values put at one path the later stays, with the entries in the order that it gives alone. And a store that shares no
mapping is read and written as its tree is, where reading leaves everything as it is. -/
theorem paths_obey_tree_laws (tree : Entries Json) {path other : Json} {step : String} {rest steps : Path}
    (way : Path.ofJson path = .ok (step :: rest)) (elsewhere : Path.ofJson other = .ok steps) (value : Json) :
    ∃ after, Tree.write tree path value = .ok after ∧
      (∀ more default, steps = step :: rest ++ more →
        Tree.read (.obj after) other default = .ok ((Tree.get? value more).getD default) ∧
        ((∀ fields, value ≠ .obj fields) → more ≠ [] → Tree.read (.obj after) other default = .ok default)) ∧
      (∀ default, ¬ steps <+: step :: rest → ¬ step :: rest <+: steps →
        Tree.read (.obj after) other default = Tree.read (.obj tree) other default) ∧
      (∀ next last default, step :: rest = steps ++ next :: last →
        ∃ inner, Tree.set (Tree.mapping (Tree.get? (.obj tree) steps)) (next :: last) value = .ok inner ∧
          Tree.read (.obj after) other default = .ok (.obj inner)) ∧
      (∀ again, Tree.write after path again = Tree.write tree path again) ∧
      ∀ {μ : Type} [StorageArea μ] {calm : μ → Prop}, FailsSoftly calm →
        ∀ now : Logged (Store × μ), now.state.1.IsPlain tree → (now.state.1.durable = true → calm now.state.2) →
        (∀ default, (Use.get other default).answer now = (Tree.read (.obj tree) other default).map some ∧
          (Use.get other default).after now = now) ∧
        ∀ tidy : value.IsTidy, value.isWritable = true →
          (Use.edit (.set path (.data value) tidy)).answer now = .ok none ∧
          ((Use.edit (.set path (.data value) tidy)).after now).state.1.IsPlain after := by
  have wrote : Tree.write tree path value = .ok (Tree.put tree step rest value) := Tree.write_ofJson way tree value
  refine ⟨Tree.put tree step rest value, wrote, ?_, ?_, ?_, ?_, ?_⟩
  · rintro more default rfl
    rw [Tree.read_ofJson elsewhere, Tree.get?_put_below]
    refine ⟨rfl, fun leaf further => ?_⟩
    obtain ⟨first, others, rfl⟩ := List.exists_cons_of_ne_nil further
    rw [Tree.get?_leaf leaf]
    rfl
  · intro default notAbove notBelow
    rw [Tree.read_ofJson elsewhere, Tree.read_ofJson elsewhere, Tree.get?_put_beside tree value notAbove notBelow]
  · intro next last default split
    refine ⟨_, rfl, ?_⟩
    rw [Tree.read_ofJson elsewhere, Tree.get?_put_above tree value split]
    rfl
  · intro again
    rw [Tree.write_ofJson way, Tree.write_ofJson way]
    exact congrArg Except.ok (Tree.put_put tree step rest value again)
  · intro μ _ calm soft now plain calmly
    refine ⟨fun default => ?_, fun tidy writable => ?_⟩
    · obtain ⟨answered, same⟩ := Use.answer_get now other default
      exact ⟨by rw [answered, plain.get], same⟩
    · obtain ⟨changed, applied, done⟩ := plain.set wrote tidy writable
      have stands : StandsFor calm now.state now.state.1 := ⟨⟨rfl, rfl⟩, rfl, calmly⟩
      obtain ⟨answered, left⟩ := Use.answer_eq soft stands (.edit (.set path (.data value) tidy))
      rw [Use.reply, applied] at answered
      rw [Use.left, applied] at left
      exact ⟨answered, .of_same left.tree done⟩

/-- A number makes room for a mapping; a list with a number in it leads to another place below that. -/
theorem paths_obey_tree_laws_replaced :
    let tree : Entries Json := [("a", .int 5), ("c", .null)]
    let value : Json := .obj [("x", .int 1)]
    let after : Entries Json := [("a", .obj [("b", value)]), ("c", .null)]
    let now : Logged (Store × MapArea) := ⟨(ofEntries "k" false tree, {}), []⟩
    Path.ofJson (.str "a.b") = .ok ["a", "b"] ∧ Path.ofJson (.arr [.str "a", .int 1]) = .ok ["a", "1"] ∧
      Tree.write tree (.str "a.b") value = .ok after ∧
      Tree.read (.obj after) (.arr [.str "a", .int 1]) (.str "none") =
        Tree.read (.obj tree) (.arr [.str "a", .int 1]) (.str "none") ∧
      ∀ tidy : value.IsTidy, ((Use.edit (.set (.str "a.b") (.data value) tidy)).after now).state.1.IsPlain after := by
  intro tree value after now
  have way : Path.ofJson (.str "a.b") = .ok ["a", "b"] := rfl
  have elsewhere : Path.ofJson (.arr [.str "a", .int 1]) = .ok ["a", "1"] := rfl
  have sound : Json.IsSound (.obj tree) :=
    ⟨⟨show (["a", "c"] : List String).Nodup by decide, trivial, trivial, trivial⟩, rfl⟩
  obtain ⟨last, wrote, -, beside, -, -, live⟩ := paths_obey_tree_laws tree way elsewhere value
  have same : Tree.write tree (.str "a.b") value = .ok after := by
    rw [Tree.write_ofJson way]
    rfl
  cases wrote.symm.trans same
  refine ⟨way, elsewhere, wrote, beside _ (by decide) (by decide), fun tidy => ?_⟩
  exact ((live MapArea.failsSoftly now (.of_ofEntries "k" false sound) fun _ => rfl).2 tidy rfl).2

end Store

end ChatWidget
