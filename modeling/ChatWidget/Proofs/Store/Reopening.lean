import ChatWidget.Proofs.Store.Matching
import ChatWidget.Proofs.Store.Saved
import ChatWidget.Proofs.Store.Unshared
import ChatWidget.Proofs.Store.Watched
/-!
Opening a store again. What is found on the medium is a copy of the tree in which each mapping stands at one place.
If that was so before, nobody can tell the new store from the old one. If a mapping stood at two places, a value that
is written through one of them and looked for through the other tells them apart.
-/
namespace ChatWidget

namespace Objects

theorem slotAt?_cons_object {objects : Objects} {id last : ObjectId} {step : String} {rest : Path} :
    objects.slotAt? id (step :: rest) = some (.object last) ↔
      ∃ inner, (objects.fields id).get? step = some (.object inner) ∧
        objects.slotAt? inner rest = some (.object last) := by
  cases rest with
  | nil =>
    rw [slotAt?]
    refine ⟨fun found => ⟨last, found, rfl⟩, ?_⟩
    rintro ⟨inner, found, same⟩
    cases same
    exact found
  | cons next rest =>
    rw [slotAt?]
    refine ⟨fun found => ?_, ?_⟩
    · split at found
      next inner there => exact ⟨inner, there, found⟩
      next => cases found
    · rintro ⟨inner, there, found⟩
      rw [there]
      exact found

/-- What is put at a path by a step from a mapping that is there goes into this mapping. -/
theorem putAt_into {objects : Objects} {id last : ObjectId} {path : Path} {name step : String} {rest : Path}
    (whole : path ++ [name] = step :: rest) (found : objects.slotAt? id path = some (.object last)) (slot : Slot) :
    objects.putAt id step rest slot = objects.setFields last ((objects.fields last).put name slot) := by
  induction path generalizing id step rest with
  | nil =>
    cases whole
    cases found
    rw [putAt]
  | cons first path ih =>
    obtain ⟨inner, there, found⟩ := slotAt?_cons_object.mp found
    cases rest with
    | nil => simp at whole
    | cons next rest =>
      obtain ⟨rfl, later⟩ := List.cons.inj whole
      rw [putAt, there]
      exact ih later found

theorem fields_alike {first second : Objects} {depth : Nat} {one other : ObjectId}
    (same : first.viewWithin (depth + 1) (.object one) = second.viewWithin (depth + 1) (.object other)) :
    Entries.Alike (fun one other => first.viewWithin depth one = second.viewWithin depth other)
      (first.fields one) (second.fields other) := by
  rw [viewWithin, viewWithin] at same
  exact Entries.alike_iff_map.mpr (Json.obj.inj same)

theorem match_of_view {first second : Objects} {depth : Nat} {one other : Slot} {size size' : Nat}
    (fits : one.Fits size) (fits' : other.Fits size')
    (same : first.viewWithin depth one = second.viewWithin depth other) :
    Slot.Match (fun id id' => one = .object id ∧ other = .object id') one other := by
  cases one with
  | value v =>
    rw [viewWithin_value] at same
    cases other with
    | value v' =>
      rw [viewWithin_value] at same
      exact same ▸ .value v
    | object id' =>
      obtain ⟨fields, seen⟩ := second.viewWithin_object depth id'
      exact absurd (same.trans seen) (fits fields)
  | object id =>
    cases other with
    | value v' =>
      rw [viewWithin_value] at same
      obtain ⟨fields, seen⟩ := first.viewWithin_object depth id
      exact absurd (same.symm.trans seen) (fits' fields)
    | object id' => exact .object ⟨rfl, rfl⟩

end Objects

namespace Store

/-! ### Two stores with one tree -/

/-- Have two stores that are in order the same tree, with no mapping inside itself? -/
structure LooksLike (first second : Store) : Prop where
  tidy : first.IsTidy
  tidy' : second.IsTidy
  noLoop : first.HasNoLoop
  noLoop' : second.HasNoLoop
  same : first.tree = second.tree

namespace LooksLike

variable {first second : Store}

theorem slot? (alike : LooksLike first second) (path : Path) (depth : Nat)
    (deep : first.objects.entries.size + second.objects.entries.size ≤ depth) :
    Option.Rel (fun one other => first.objects.viewWithin depth one = second.objects.viewWithin depth other)
      (first.slot? path) (second.slot? path) := by
  induction path using List.reverseRecOn generalizing depth with
  | nil =>
    have root : first.slot? [] = some (.object first.root) := rfl
    have root' : second.slot? [] = some (.object second.root) := rfl
    refine .some ?_
    rw [← alike.noLoop.view_eq alike.tidy root (by omega), ← alike.noLoop'.view_eq alike.tidy' root' (by omega)]
    exact alike.same
  | append_singleton path step ih =>
    -- A step takes one level off, so the mappings before it are to look the same one level deeper.
    have before := ih (depth + 1) (by omega)
    rw [slot?_concat, slot?_concat]
    generalize found : first.slot? path = slot at before ⊢
    generalize found' : second.slot? path = slot' at before ⊢
    cases before with
    | none => exact .none
    | @some one other seen =>
      have fits := alike.tidy.fits found
      have fits' := alike.tidy'.fits found'
      cases Objects.match_of_view fits fits' seen with
      | value v => exact .none
      | object => exact (Objects.fields_alike seen).get? step

theorem slot?_object (alike : LooksLike first second) {path : Path} {id : ObjectId}
    (found : first.slot? path = some (.object id)) : ∃ twin, second.slot? path = some (.object twin) := by
  have both := alike.slot? path _ (le_refl _)
  rw [found] at both
  cases found' : second.slot? path with
  | none =>
    rw [found'] at both
    cases both
  | some slot =>
    rw [found'] at both
    cases both with
    | some seen =>
      cases Objects.match_of_view (alike.tidy.fits found) (alike.tidy'.fits found') seen with
      | object => exact ⟨_, rfl⟩

/-- If no mapping is shared in either of them, their mappings go together by the paths at which they stand. -/
theorem goTogether (alike : LooksLike first second) (unshared : first.IsUnshared) (unshared' : second.IsUnshared) :
    Matches first second := by
  let pair : Pairing := fun one other =>
    ∃ path, first.slot? path = some (.object one) ∧ second.slot? path = some (.object other)
  refine ⟨⟨pair, ⟨?_, ?_, ?_⟩, [], rfl, rfl⟩, alike.tidy, alike.tidy'⟩
  · rintro one other ⟨path, found, found'⟩
    exact ⟨alike.tidy.fits found, alike.tidy'.fits found'⟩
  · rintro one other one' other' ⟨path, found, found'⟩ ⟨more, there, there'⟩
    constructor
    · rintro rfl
      obtain rfl := unshared _ _ _ found there
      cases found'.symm.trans there'
      rfl
    · rintro rfl
      obtain rfl := unshared' _ _ _ found' there'
      cases found.symm.trans there
      rfl
  · rintro one other ⟨path, found, found'⟩
    have both := alike.slot? path _ (Nat.le_succ _)
    rw [found, found'] at both
    cases both with
    | some seen =>
      apply (Objects.fields_alike seen).imp
      intro name slot slot' member member' seen
      have next := slot?_entry alike.tidy.sound found member
      have next' := slot?_entry alike.tidy'.sound found' member'
      cases Objects.match_of_view (alike.tidy.fit one _ member) (alike.tidy'.fit other _ member') seen with
      | value v => exact .value v
      | object => exact .object ⟨path ++ [name], next, next'⟩

end LooksLike

/-! ### Writing through one place and reading at another -/

def listed (path : Path) : Json := .arr (path.map .str)

theorem ofJson_listed (path : Path) : Path.ofJson (listed path) = .ok path := by
  change (path.map Json.str).mapM Json.toText = .ok path
  induction path with
  | nil => rfl
  | cons step rest ih =>
    rw [List.map_cons, List.mapM_cons, ih]
    rfl

/-- The store with a flag written to an entry of a mapping. -/
def flagged (store : Store) (id : ObjectId) (name : String) (flag : Bool) : Store :=
  { store with
    objects := store.objects.setFields id ((store.objects.fields id).put name (.value (.bool flag))) }

variable {store : Store} {id other : ObjectId} {name : String} {flag : Bool}

theorem applied_flag {path : Path} (found : store.slot? path = some (.object id)) (name : String) (flag : Bool) :
    (Change.set (listed (path ++ [name])) (.data (.bool flag)) trivial).applied store =
      .ok (store.flagged id name flag) := by
  obtain ⟨step, rest, whole⟩ : ∃ step rest, path ++ [name] = step :: rest :=
    List.exists_cons_of_ne_nil (by simp)
  change (do store.put (← Path.ofJson (listed (path ++ [name]))) (.value (.bool flag))) = _
  rw [ofJson_listed, whole]
  change Except.ok { store with objects := store.objects.putAt store.root step rest _ } = _
  rw [Objects.putAt_into whole found]
  rfl

/-- All mappings that are found after a flag has been written were there before. -/
theorem slot?_flagged_reflects {path : Path} (found : (store.flagged id name flag).slot? path = some (.object other)) :
    store.slot? path = some (.object other) := by
  induction path using List.reverseRecOn generalizing other with
  | nil => exact found
  | append_singleton path step ih =>
    obtain ⟨inner, before, last⟩ := Objects.slotAt?_concat_some found
    rw [slot?_concat, ih before]
    dsimp only
    by_cases here : inner = id
    · subst here
      unfold flagged at last
      cases Objects.fields_setFields store.objects inner inner
          ((store.objects.fields inner).put name (.value (.bool flag))) with
      | inl kept => exact kept ▸ last
      | inr new =>
        dsimp only at last
        rw [new] at last
        by_cases same : step = name
        · rw [same, Entries.get?_put_self] at last
          cases last
        · rw [Entries.get?_put_of_ne _ _ same] at last
          exact last
    · exact Objects.fields_setFields_ne store.objects here _ ▸ last

theorem HasNoLoop.flagged (noLoop : store.HasNoLoop) (id : ObjectId) (name : String) (flag : Bool) :
    (store.flagged id name flag).HasNoLoop :=
  fun path more inner here there =>
    noLoop path more inner (slot?_flagged_reflects here) (slot?_flagged_reflects there)

/-- A mapping is found as before if the way to it does not lead on from where the flag was written. -/
theorem slot?_flagged {path : Path}
    (clear : ∀ before more, path = before ++ more → store.slot? before = some (.object id) → more = [])
    (found : store.slot? path = some (.object other)) :
    (store.flagged id name flag).slot? path = some (.object other) := by
  induction path using List.reverseRecOn generalizing other with
  | nil => exact found
  | append_singleton path step ih =>
    obtain ⟨inner, before, last⟩ := Objects.slotAt?_concat_some found
    have further : inner ≠ id := by
      rintro rfl
      exact absurd (clear path [step] rfl before) (by simp)
    have still := ih (fun before more split there =>
      absurd (clear before (more ++ [step]) (by rw [split, List.append_assoc]) there) (by simp)) before
    rw [slot?_concat, still]
    exact (congrArg (Entries.get? · step) (Objects.fields_setFields_ne store.objects further _)).trans last

theorem get_flagged (tidy : store.IsTidy) (noLoop : store.HasNoLoop) {path : Path}
    (found : store.slot? path = some (.object id)) (default : Json) :
    (store.flagged id name flag).get (listed (path ++ [name])) default = .ok (.bool flag) := by
  have still : (store.flagged id name flag).slot? path = some (.object id) :=
    slot?_flagged (fun before more split there => noLoop before more id there (split ▸ found)) found
  rw [get_at (ofJson_listed _), slot?_concat, still]
  dsimp only [flagged]
  rw [Objects.fields_setFields_self (tidy.fits found), Entries.get?_put_self, Option.map_some, Option.getD_some,
    Objects.view, Objects.viewWithin_value]

theorem get_flagged_ne {path : Path} (different : other ≠ id)
    (clear : ∀ before more, path = before ++ more → store.slot? before = some (.object id) → more = [])
    (found : store.slot? path = some (.object other))
    (new : (store.objects.fields other).get? name ≠ some (.value (.bool flag))) :
    (store.flagged id name flag).get (listed (path ++ [name])) .null ≠ .ok (.bool flag) := by
  have still : (store.flagged id name flag).slot? path = some (.object other) := slot?_flagged clear found
  rw [get_at (ofJson_listed _), slot?_concat, still]
  dsimp only [flagged]
  rw [Objects.fields_setFields_ne _ different]
  intro same
  cases entry : (store.objects.fields other).get? name with
  | none =>
    rw [entry] at same
    cases same
  | some slot =>
    rw [entry] at same new
    cases slot with
    | value v =>
      rw [Option.map_some, Option.getD_some, Objects.view, Objects.viewWithin_value] at same
      exact new (by rw [Except.ok.inj same])
    | object inner =>
      obtain ⟨fields, seen⟩ := (store.flagged id name flag).objects.viewWithin_object _ inner
      cases seen.symm.trans (Except.ok.inj same)

/-- If a mapping is shared in one of two stores with one tree and none in the other, two calls tell them apart. -/
theorem LooksLike.told_apart {first second : Store} (alike : LooksLike first second) (unshared : second.IsUnshared)
    (shared : ¬ first.IsUnshared) :
    ∃ uses, (∀ earlier later, uses = earlier ++ later → (leftAll earlier first).HasNoLoop) ∧
      replies uses first ≠ replies uses second := by
  unfold IsUnshared at shared
  push Not at shared
  obtain ⟨path, more, id, here, there, different⟩ := shared
  obtain ⟨twin, here'⟩ := alike.slot?_object here
  obtain ⟨twin', there'⟩ := alike.slot?_object there
  have apart : twin' ≠ twin := fun same => different (unshared path more twin here' (same ▸ there'))
  -- Nothing on the way to the other place is the mapping that is written to: in the first store this would be a
  -- mapping inside itself.
  have clear : ∀ before last, more = before ++ last → second.slot? before = some (.object twin) → last = [] := by
    intro before last split found
    obtain rfl := unshared before path twin found here'
    exact alike.noLoop before last id here (split ▸ there)
  obtain ⟨flag, new⟩ : ∃ flag, (second.objects.fields twin').get? "x" ≠ some (.value (.bool flag)) := by
    by_cases known : (second.objects.fields twin').get? "x" = some (.value (.bool true))
    · exact ⟨false, by simp [known]⟩
    · exact ⟨true, known⟩
  have one : (first.flagged id "x" flag).get (listed (more ++ ["x"])) .null = .ok (.bool flag) :=
    get_flagged alike.tidy alike.noLoop there .null
  have two : (second.flagged twin "x" flag).get (listed (more ++ ["x"])) .null ≠ .ok (.bool flag) :=
    get_flagged_ne apart clear there' new
  have left : ∀ {store : Store} {id}, store.slot? path = some (.object id) →
      Use.left store (.edit (.set (listed (path ++ ["x"])) (.data (.bool flag)) trivial)) =
        store.flagged id "x" flag := by
    intro store id found
    rw [Use.left, applied_flag found]
    rfl
  refine ⟨[.edit (.set (listed (path ++ ["x"])) (.data (.bool flag)) trivial),
    .get (listed (more ++ ["x"])) .null], ?_, ?_⟩
  · intro earlier later split
    have after := alike.noLoop.flagged id "x" flag
    rcases List.cons_eq_append_iff.mp split with ⟨rfl, -⟩ | ⟨rest, rfl, split'⟩
    · exact alike.noLoop
    · rw [leftAll, List.foldl_cons, left here]
      rcases List.cons_eq_append_iff.mp split' with ⟨rfl, -⟩ | ⟨rest, rfl, split''⟩
      · exact after
      · obtain ⟨rfl, -⟩ := List.nil_eq_append_iff.mp split''
        exact after
  · intro same
    have last := (List.cons.inj (List.cons.inj same).2).1
    rw [left here, left here', Use.reply, Use.reply, one] at last
    cases got : (second.flagged twin "x" flag).get (listed (more ++ ["x"])) .null with
    | error fault =>
      rw [got] at last
      cases last
    | ok answer =>
      rw [got] at last
      cases last
      exact two got

/-! ### Closing a store and opening it again -/

theorem SameTree.hasNoLoop_iff {first second : Store} (same : SameTree first second) :
    first.HasNoLoop ↔ second.HasNoLoop := by
  unfold HasNoLoop
  simp only [same.slot?]

theorem SameTree.isUnshared_iff {first second : Store} (same : SameTree first second) :
    first.IsUnshared ↔ second.IsUnshared := by
  unfold IsUnshared
  simp only [same.slot?]

variable {μ : Type} [StorageArea μ]

/-- Does no mapping stand inside itself at any time while calls are made? -/
def NoneInsideItself (uses : List Use) (now : Logged (Store × μ)) : Prop :=
  ∀ earlier later, uses = earlier ++ later → (afterAll earlier now).state.1.HasNoLoop

/-- Do calls copy no mapping from one path to another? -/
def CopiesNoMapping (uses : List Use) (now : Logged (Store × μ)) : Prop :=
  ∀ earlier use later, uses = earlier ++ use :: later → ¬ use.CopiesMapping (afterAll earlier now).state.1

theorem IsSaved.standsFor {area : Mapping μ} {fine : μ → Prop} {key : String} {now : Store × μ}
    (saved : IsSaved area fine key now) : StandsFor fine now now.1 :=
  ⟨⟨rfl, rfl⟩, rfl, fun _ => saved.fine⟩

theorem Use.after_saved {area : Mapping μ} {fine : μ → Prop} (works : Mapping.Works fine) {key : String} (use : Use)
    {now : Logged (Store × μ)} (saved : IsSaved area fine key now.state) :
    IsSaved area fine key (use.after now).state := by
  cases use with
  | get path default =>
    rw [(answer_get now path default).2]
    exact saved
  | edit change =>
    rw [(answer_edit now change).2]
    exact change.saved works saved

theorem afterAll_saved {area : Mapping μ} {fine : μ → Prop} (works : Mapping.Works fine) {key : String}
    (uses : List Use) {now : Logged (Store × μ)} (saved : IsSaved area fine key now.state) :
    IsSaved area fine key (afterAll uses now).state := by
  induction uses generalizing now with
  | nil => exact saved
  | cons use uses ih => exact ih (use.after_saved works saved)

variable {calm : μ → Prop} {now again : Logged (Store × μ)} {store store' : Store}

theorem noneInsideItself_iff (soft : FailsSoftly calm) (stands : StandsFor calm now.state store) (uses : List Use) :
    NoneInsideItself uses now ↔ ∀ earlier later, uses = earlier ++ later → (leftAll earlier store).HasNoLoop := by
  unfold NoneInsideItself
  simp only [(answers_eq soft _ stands).2.tree.hasNoLoop_iff]

/-- Two stores with one tree, the second of which shares no mapping, answer all calls alike if and only if no mapping
is shared in the first one either. -/
theorem LooksLike.answers_iff (soft : FailsSoftly calm) (stands : StandsFor calm now.state store)
    (stands' : StandsFor calm again.state store') (alike : LooksLike store store') (unshared : store'.IsUnshared) :
    now.state.1.IsUnshared ↔
      ∀ later, NoneInsideItself later now → answers later now = answers later again := by
  rw [stands.tree.isUnshared_iff]
  constructor
  · intro unshared' later orderly
    rw [(answers_eq soft later stands).1, (answers_eq soft later stands').1]
    exact (alike.goTogether unshared' unshared).replies later ((noneInsideItself_iff soft stands later).mp orderly)
  · intro same
    by_contra shared
    obtain ⟨later, orderly, apart⟩ := alike.told_apart unshared shared
    apply apart
    rw [← (answers_eq soft later stands).1, ← (answers_eq soft later stands').1]
    exact same later ((noneInsideItself_iff soft stands later).mpr orderly)

theorem CopiesNoMapping.isUnshared (soft : FailsSoftly calm) (stands : StandsFor calm now.state store)
    (addressed : store.IsAddressed) {uses : List Use} (copiesNone : CopiesNoMapping uses now) :
    (afterAll uses now).state.1.IsUnshared := by
  rw [(answers_eq soft uses stands).2.tree.isUnshared_iff]
  apply (leftAll_isAddressed uses addressed _).isUnshared
  intro earlier use later split copies
  apply copiesNone earlier use later split
  obtain ⟨source, target, steps, id, copy, way, found⟩ := copies
  exact ⟨source, target, steps, id, copy, way, ((answers_eq soft earlier stands).2.tree.slot? steps).trans found⟩

/-- Take a store that was opened durable on a working medium, under a key other than the one that media are tried
out with, and calls during which no mapping stands inside itself. Another store can be opened on the medium after
them, and has the tree of the first one. If no mapping stands at two places then, which is so if the calls have copied
none, any later calls get the same answers from both stores; and otherwise there are calls that do not. -/
theorem reopening_is_transparent (area : Mapping μ) {fine : μ → Prop} (works : Mapping.Works fine)
    {key : Option String} (other : keyFor key ≠ probeKey) {medium after : Logged μ} {store : Store}
    (finely : fine medium.state) (opened : (openOn key).start medium = (.ok store, after))
    (durable : store.durable = true) (before : List Use)
    (orderly : NoneInsideItself before ⟨(store, after.state), after.log⟩) :
    let start : Logged (Store × μ) := ⟨(store, after.state), after.log⟩
    let now := afterAll before start
    ∃ again last, (openOn key).start ⟨now.state.2, now.log⟩ = (.ok again, last) ∧ again.durable = true ∧
      again.tree = now.state.1.tree ∧
      (now.state.1.IsUnshared ↔ ∀ later, NoneInsideItself later now →
        answers later now = answers later ⟨(again, last.state), last.log⟩) ∧
      (CopiesNoMapping before start → now.state.1.IsUnshared) := by
  intro start now
  have soft := works.failsSoftly
  have saved : IsSaved area fine (keyFor key) start.state := opened_saved works finely opened durable
  obtain ⟨first, rfl, found⟩ := openOn_durable area opened durable
  have stands := saved.standsFor
  have reached := (answers_eq soft before stands).2
  have current : IsSaved area fine (keyFor key) now.state := afterAll_saved works before saved
  obtain ⟨entries, whole, kept⟩ := current.document
  obtain ⟨last, reopened, savedAgain⟩ := openOn_saved works other ⟨now.state.2, now.log⟩ current.fine kept
  have unshared := (ofEntries_isAddressed (keyFor key) true entries).isUnshared
  have same : now.state.1.tree = (leftAll before start.state.1).tree := reached.tree.tree
  have alike : LooksLike (leftAll before start.state.1) (ofEntries (keyFor key) true entries) := by
    refine ⟨leftAll_isTidy before (ofEntries_isTidy _ _ (document_sound found)), ?_, ?_, unshared.hasNoLoop, ?_⟩
    · exact ofEntries_isTidy _ _ (document_sound kept)
    · exact reached.tree.hasNoLoop_iff.mp (orderly before [] (List.append_nil _).symm)
    · rw [← same, whole, tree_ofEntries]
  refine ⟨_, last, reopened, rfl, by rw [tree_ofEntries, whole], ?_, ?_⟩
  · exact alike.answers_iff soft reached savedAgain.standsFor unshared
  · exact CopiesNoMapping.isUnshared soft stands (ofEntries_isAddressed _ _ _)

theorem NoneInsideItself.split {before later : List Use} (whole : NoneInsideItself (before ++ later) now) :
    NoneInsideItself before now ∧ NoneInsideItself later (afterAll before now) := by
  constructor
  · intro earlier rest split
    exact whole earlier (rest ++ later) (by rw [split, List.append_assoc])
  · intro earlier rest split
    have there := whole (before ++ earlier) rest (by rw [split, List.append_assoc])
    rw [afterAll, List.foldl_append] at there
    exact there

/-- Calls can be checked not to put a mapping inside itself, given ranks for the mappings that there are. -/
theorem noneInsideItself_of_check (soft : FailsSoftly calm) (stands : StandsFor calm now.state store) (uses : List Use)
    (rank : ObjectId → Nat)
    (checked : uses.inits.all fun earlier => (leftAll earlier store).objects.isRankedBy rank) :
    NoneInsideItself uses now := by
  rw [noneInsideItself_iff soft stands]
  intro earlier later split
  have member : earlier ∈ uses.inits := (List.mem_inits _ _).mpr ⟨later, split.symm⟩
  exact AreAcyclic.hasNoLoop ⟨rank, Objects.isRanked_of_check (List.all_eq_true.mp checked earlier member)⟩

/-- A mapping that is copied only after the store has been opened again is one mapping in both stores. -/
theorem reopening_is_transparent_copied :
    let opened := (openOn (some "k")).start ⟨({} : MapArea), []⟩
    let start : Logged (Store × MapArea) := ⟨(ofEntries "k" true [], opened.2.state), opened.2.log⟩
    let before : List Use := [.edit (.set (.str "a.x") (.data (.int 1)) trivial)]
    let later : List Use := [.edit (.copy (.str "a") (.str "b")),
      .edit (.set (.str "b.x") (.data (.int 2)) trivial), .get (.str "a.x") .null]
    let now := afterAll before start
    opened.1 = .ok start.state.1 ∧ NoneInsideItself (before ++ later) start ∧
      ∃ again last, (openOn (some "k")).start ⟨now.state.2, now.log⟩ = (.ok again, last) ∧
        answers later now = answers later ⟨(again, last.state), last.log⟩ ∧
        answers later now = [.ok none, .ok none, .ok (some (.int 2))] := by
  intro opened start before later now
  have stands : StandsFor (fun area : MapArea => isWriteOutage area.outage = true) start.state
      (ofEntries "k" true []) := ⟨⟨rfl, rfl⟩, rfl, fun _ => rfl⟩
  have orderly : NoneInsideItself (before ++ later) start :=
    noneInsideItself_of_check MapArea.failsSoftly stands _ (fun id => 1 - id) (by decide +kernel)
  have copiesNone : CopiesNoMapping before start := by
    rintro earlier use rest split ⟨source, target, steps, id, copy, -⟩
    have member : use ∈ before := split ▸ List.mem_append_right _ List.mem_cons_self
    cases (List.mem_singleton.mp member).symm.trans copy
  have started : (openOn (some "k")).start ⟨({} : MapArea), []⟩ = (.ok (ofEntries "k" true []), opened.2) :=
    Prod.ext rfl rfl
  obtain ⟨again, last, reopened, -, -, alike, unshared⟩ := reopening_is_transparent MapArea.mapping MapArea.works
    (by decide) ⟨fun _ => rfl, fun _ => rfl, fun _ => rfl⟩ started rfl before orderly.split.1
  have same := alike.mp (unshared copiesNone) later orderly.split.2
  have reached := (answers_eq MapArea.failsSoftly before stands).2
  exact ⟨rfl, orderly, again, last, reopened, same, (answers_eq MapArea.failsSoftly later reached).1.trans rfl⟩

/-- A mapping that was copied before is not. Here it stands at two places when the store is closed; through the one
place 2 is written, and at the other there is 2 in the first store and 1 in the one that was opened again. -/
theorem reopening_parts_places :
    let opened := (openOn (some "k")).start ⟨({} : MapArea), []⟩
    let start : Logged (Store × MapArea) := ⟨(ofEntries "k" true [], opened.2.state), opened.2.log⟩
    let before : List Use := [.edit (.set (.str "a.x") (.data (.int 1)) trivial),
      .edit (.copy (.str "a") (.str "b"))]
    let later : List Use := [.edit (.set (.str "b.x") (.data (.int 2)) trivial), .get (.str "a.x") .null]
    let now := afterAll before start
    opened.1 = .ok start.state.1 ∧ NoneInsideItself (before ++ later) start ∧
      ∃ again last, (openOn (some "k")).start ⟨now.state.2, now.log⟩ = (.ok again, last) ∧
        answers later now = [.ok none, .ok (some (.int 2))] ∧
        answers later ⟨(again, last.state), last.log⟩ = [.ok none, .ok (some (.int 1))] := by
  intro opened start before later now
  have stands : StandsFor (fun area : MapArea => isWriteOutage area.outage = true) start.state
      (ofEntries "k" true []) := ⟨⟨rfl, rfl⟩, rfl, fun _ => rfl⟩
  have orderly : NoneInsideItself (before ++ later) start :=
    noneInsideItself_of_check MapArea.failsSoftly stands _ (fun id => 1 - id) (by decide +kernel)
  have started : (openOn (some "k")).start ⟨({} : MapArea), []⟩ = (.ok (ofEntries "k" true []), opened.2) :=
    Prod.ext rfl rfl
  have saved : IsSaved MapArea.mapping _ "k" now.state := afterAll_saved MapArea.works before
    (opened_saved MapArea.works ⟨fun _ => rfl, fun _ => rfl, fun _ => rfl⟩ started rfl)
  have tree : now.state.1.tree = .obj [("a", .obj [("x", .int 1)]), ("b", .obj [("x", .int 1)])] := rfl
  obtain ⟨entries, whole, kept⟩ := saved.document
  cases tree.symm.trans whole
  obtain ⟨last, reopened, savedAgain⟩ := openOn_saved MapArea.works
    (show keyFor (some "k") ≠ probeKey by decide) ⟨now.state.2, now.log⟩ saved.fine kept
  have reached := (answers_eq MapArea.failsSoftly before stands).2
  exact ⟨rfl, orderly, _, last, reopened, (answers_eq MapArea.failsSoftly later reached).1.trans rfl,
    (answers_eq MapArea.works.failsSoftly later savedAgain.standsFor).1.trans rfl⟩

end Store

end ChatWidget
