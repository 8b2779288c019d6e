import ChatWidget.Proofs.Json.OneLine
import ChatWidget.Proofs.Json.ReadSound
import ChatWidget.Proofs.Store.Area
import ChatWidget.Proofs.Text.Utf8
/-!
Areas in a file. What is written to the file is found there again, through the bytes of the file, its line
ends and its text; so an area in a file behaves as a map, and it works as long as its file can be read and
its folder is one.
-/
namespace ChatWidget.FileArea

theorem entriesOfBytes_written (path : String) {entries : Entries Json}
    (sound : Json.IsSound (.obj entries)) : entriesOfBytes path (bytesOfEntries entries) = .ok entries := by
  have back := Json.read_written sound
  unfold Json.read at back
  rw [Json.written, String.toList_ofList] at back
  unfold entriesOfBytes bytesOfEntries
  rw [Text.decodeUtf8_encodeUtf8]
  dsimp only
  rw [Text.unifyLineEnds_oneLine (Json.writtenChars_oneLine _)]
  cases found : Json.readChars (Json.obj entries).writtenChars with
  | error stop =>
    rw [found] at back
    cases back
  | ok value =>
    rw [found] at back
    cases back
    rfl

theorem entries_sound {area : FileArea} {entries : Entries Json} (found : area.entries = .ok entries) :
    Json.IsSound (.obj entries) := by
  unfold FileArea.entries at found
  split at found
  next =>
    cases found
    exact Json.isSound_empty
  next =>
    cases found
    exact Json.isSound_empty
  next => cases found
  next bytes =>
    unfold entriesOfBytes at found
    split at found
    next => cases found
    next cs _ =>
      dsimp only at found
      split at found
      next => cases found
      next inner read =>
        cases found
        have whole : Json.read (String.ofList (Text.unifyLineEnds cs)) = .ok (.obj entries) := by
          rw [Json.read, String.toList_ofList, read]
        exact Json.read_sound whole
      next => cases found

def holding (area : FileArea) (entries : Entries Json) : FileArea :=
  { area with folder := .holding (bytesOfEntries entries) }

theorem entries_holding (area : FileArea) {entries : Entries Json} (sound : Json.IsSound (.obj entries)) :
    (area.holding entries).entries = .ok entries := entriesOfBytes_written _ sound

/-- Can the file be read, and is its folder one? -/
structure IsFine (area : FileArea) : Prop where
  readable : ∃ entries, area.entries = .ok entries
  isOpen : area.folder ≠ .blocked

theorem IsFine.holding (area : FileArea) {entries : Entries Json} (sound : Json.IsSound (.obj entries)) :
    (area.holding entries).IsFine := by
  refine ⟨⟨entries, entries_holding area sound⟩, ?_⟩
  rintro ⟨⟩

theorem entries_unreadable {area : FileArea} {fault : Fault} (failed : area.entries = .error fault) :
    ∃ reason, fault = .storeUnreadable reason := by
  unfold entries at failed
  split at failed
  next => cases failed
  next => cases failed
  next =>
    cases failed
    exact ⟨_, rfl⟩
  next bytes =>
    unfold entriesOfBytes at failed
    split at failed
    next =>
      cases failed
      exact ⟨_, rfl⟩
    next =>
      dsimp only at failed
      split at failed
      next =>
        cases failed
        exact ⟨_, rfl⟩
      next => cases failed
      next =>
        cases failed
        exact ⟨_, rfl⟩

theorem entries_blocked {area : FileArea} (blocked : area.folder = .blocked) : area.entries = .ok [] := by
  unfold FileArea.entries
  rw [blocked]

/-! ### Operations on an area -/

section

variable {now : Logged FileArea} {items : Entries Json}

theorem start_unreadable {α : Type} (next : Entries Json → Op FileArea α) {fault : Fault}
    (failed : now.state.entries = .error fault) :
    (Op.read entries >>= fun found => Op.lift found >>= next).start now = (.error fault, now) := by
  rw [Op.start_bind, Op.start_read]
  dsimp only
  rw [Op.start_bind, Op.start_lift, failed]

theorem start_readable {α : Type} (next : Entries Json → Op FileArea α) (found : now.state.entries = .ok items) :
    (Op.read entries >>= fun found => Op.lift found >>= next).start now = (next items).start now := by
  rw [Op.start_bind, Op.start_read]
  dsimp only
  rw [Op.start_bind, Op.start_lift, found]

theorem start_write_blocked (items : Entries Json) (blocked : now.state.folder = .blocked) :
    ∃ reason, (write items).start now = (.error (.storeUnwritable reason), now) := by
  unfold write
  rw [Op.start_bind, Op.whole, Op.start_read]
  dsimp only [id]
  rw [blocked]
  exact ⟨_, rfl⟩

theorem start_write_open (items : Entries Json) (isOpen : now.state.folder ≠ .blocked) :
    (write items).start now = (.ok (), { now with state := now.state.holding items }) := by
  unfold write
  rw [Op.start_bind, Op.whole, Op.start_read]
  dsimp only [id]
  split
  next blocked => exact absurd blocked isOpen
  next => rfl

end

theorem start_getItem (key : String) (now : Logged FileArea) :
    (getItem key).start now = (now.state.entries.map (·.get? key), now) := by
  cases found : now.state.entries with
  | error fault => exact start_unreadable _ found
  | ok entries => exact start_readable _ found

/-- An item is written with all others, or nothing is, which a store takes for an outage. -/
theorem start_setItem (key text : String) (now : Logged FileArea) :
    (¬ now.state.IsFine ∧ ∃ fault, (setItem key text).start now = (.error fault, now) ∧ Store.isOutage fault = true) ∨
      now.state.IsFine ∧ ∃ entries, now.state.entries = .ok entries ∧ (setItem key text).start now =
        (.ok (), { now with state := now.state.holding (entries.put key (.str text)) }) := by
  cases found : now.state.entries with
  | error fault =>
    obtain ⟨reason, rfl⟩ := entries_unreadable found
    refine .inl ⟨fun fine => ?_, _, start_unreadable _ found, rfl⟩
    obtain ⟨entries, readable⟩ := fine.readable
    cases found.symm.trans readable
  | ok entries =>
    have ran : (setItem key text).start now = (write (entries.put key (.str text))).start now := start_readable _ found
    by_cases blocked : now.state.folder = .blocked
    · obtain ⟨reason, failed⟩ := start_write_blocked (entries.put key (.str text)) blocked
      exact .inl ⟨fun fine => fine.isOpen blocked, _, ran.trans failed, rfl⟩
    · exact .inr ⟨⟨⟨entries, found⟩, blocked⟩, entries, rfl, ran.trans (start_write_open _ blocked)⟩

/-- All items but one are written; an item that is not there is not removed. -/
theorem start_removeItem (key : String) {now : Logged FileArea} {entries : Entries Json}
    (found : now.state.entries = .ok entries) :
    (removeItem key).start now = (.ok (), { now with
      state := if entries.has key then now.state.holding (entries.erase key) else now.state }) := by
  refine (start_readable _ found).trans ?_
  split
  next has =>
    refine start_write_open _ fun blocked => ?_
    cases (entries_blocked blocked).symm.trans found
    cases has
  next => rfl

/-- The item under a key, if the file can be read. -/
def item (area : FileArea) (key : String) : Option Json :=
  match area.entries with
  | .ok entries => entries.get? key
  | .error _ => none

theorem item_eq {area : FileArea} {entries : Entries Json} (found : area.entries = .ok entries) :
    area.item = entries.get? := by
  funext key
  rw [item, found]

theorem put_sound {entries : Entries Json} (sound : Json.IsSound (.obj entries)) (key text : String) :
    Json.IsSound (.obj (entries.put key (.str text))) := sound.put key ⟨trivial, rfl⟩

theorem erase_sound {entries : Entries Json} (sound : Json.IsSound (.obj entries)) (key : String) :
    Json.IsSound (.obj (entries.erase key)) := by
  obtain ⟨distinct, each⟩ := Json.isSound_obj.mp sound
  refine Json.isSound_obj.mpr ⟨?_, fun field member => each field (List.mem_of_mem_filter member)⟩
  exact (distinct.sublist (List.filter_sublist.map _))

theorem erase_of_not_has {entries : Entries Json} {key : String} (none : entries.has key = false) :
    entries.erase key = entries := by
  unfold Entries.erase
  rw [List.filter_eq_self]
  intro entry member
  rw [Entries.has, List.any_eq_false] at none
  simpa using none entry member

/-- An area in a file behaves as a map. -/
def mapping : Mapping FileArea where
  item := item
  getItem := by
    intro key now after value read
    have same := (start_getItem key now).symm.trans read
    cases found : now.state.entries with
    | error fault =>
      rw [found] at same
      cases same
    | ok entries =>
      rw [found] at same
      cases same
      rw [item_eq found]
      exact ⟨rfl, rfl⟩
  setItem := by
    intro key text now after written
    rcases start_setItem key text now with ⟨-, fault, failed, -⟩ | ⟨-, entries, found, wrote⟩
    · cases failed.symm.trans written
    · cases wrote.symm.trans written
      rw [item_eq (entries_holding _ (put_sound (entries_sound found) key text)), item_eq found,
        MapArea.get?_put]
  setItem_failed := by
    intro key text now after fault written
    rcases start_setItem key text now with ⟨-, fault, failed, -⟩ | ⟨-, entries, found, wrote⟩
    · cases failed.symm.trans written
      rfl
    · cases wrote.symm.trans written
  removeItem := by
    intro key now after removed
    cases found : now.state.entries with
    | error fault => cases (start_unreadable _ found).symm.trans removed
    | ok entries =>
      cases (start_removeItem key found).symm.trans removed
      rw [item_eq found, ← MapArea.get?_erase]
      dsimp only
      split
      next => rw [item_eq (entries_holding _ (erase_sound (entries_sound found) key))]
      next none => rw [item_eq found, erase_of_not_has (Bool.not_eq_true _ ▸ none)]

theorem works : Mapping.Works IsFine where
  present _ _ := rfl
  getItem := by
    intro key now fine
    obtain ⟨entries, found⟩ := fine.readable
    refine ⟨entries.get? key, now, (start_getItem key now).trans ?_, fine⟩
    rw [found]
    rfl
  setItem := by
    intro key text now fine
    rcases start_setItem key text now with ⟨unfit, -⟩ | ⟨-, entries, found, wrote⟩
    · exact absurd fine unfit
    · exact ⟨_, wrote, .holding _ (put_sound (entries_sound found) key text)⟩
  removeItem := by
    intro key now fine
    obtain ⟨entries, found⟩ := fine.readable
    refine ⟨_, start_removeItem key found, ?_⟩
    dsimp only
    split
    · exact .holding _ (erase_sound (entries_sound found) key)
    · exact fine

end ChatWidget.FileArea
