import ChatWidget.Proofs.Store.Folder
/-!
An area in a file as a persistent map. As long as the file can be read, calls answer as a finite map does that keeps
its keys in order, and what they leave in the file is what becomes of the map. A call that fails leaves everything as
it was, down to the bytes of the file.
-/
namespace ChatWidget

/-- A finite map from keys to items, with its keys in order. -/
structure ItemMap where
  keys : List String
  item : String → Option Json

namespace ItemMap

/-- The map with a text under a key. A key that is known keeps its place, and a new one goes to the end. -/
def put (map : ItemMap) (key text : String) : ItemMap :=
  ⟨if key ∈ map.keys then map.keys else map.keys ++ [key], Function.update map.item key (some (.str text))⟩

/-- The map without a key. All others keep their order. -/
def erase (map : ItemMap) (key : String) : ItemMap :=
  ⟨map.keys.filter (· != key), Function.update map.item key none⟩

def ofEntries (entries : Entries Json) : ItemMap := ⟨entries.names, entries.get?⟩

theorem ofEntries_put (entries : Entries Json) (key text : String) :
    ofEntries (Entries.put entries key (.str text)) = (ofEntries entries).put key text := by
  unfold ofEntries put
  rw [Entries.names_put, MapArea.get?_put]

theorem ofEntries_erase (entries : Entries Json) (key : String) :
    ofEntries (Entries.erase entries key) = (ofEntries entries).erase key := by
  have names : (Entries.erase entries key).names = entries.names.filter (· != key) := by
    unfold Entries.erase Entries.names
    rw [List.filter_map]
    rfl
  unfold ofEntries erase
  rw [names, MapArea.get?_erase]

theorem ofEntries_inj {first second : Entries Json} (distinct : first.HasDistinctNames)
    (same : ofEntries first = ofEntries second) : first = second :=
  distinct.ext (congrArg keys same) fun name => congrArg (item · name) same

end ItemMap

namespace FileArea

/-- A call on an area. -/
inductive Call where
  | get (key : String)
  | set (key text : String)
  | remove (key : String)

namespace Call

/-- Perform a call. Only reading brings an item. -/
def perform : Call → Op FileArea (Option Json)
  | .get key => getItem key
  | .set key text => do
    setItem key text
    return none
  | .remove key => do
    removeItem key
    return none

def answer (now : Logged FileArea) (call : Call) : Except Fault (Option Json) := (call.perform.start now).1

def after (now : Logged FileArea) (call : Call) : Logged FileArea := (call.perform.start now).2

def reply (map : ItemMap) : Call → Option Json
  | .get key => map.item key
  | _ => none

def left (map : ItemMap) : Call → ItemMap
  | .get _ => map
  | .set key text => map.put key text
  | .remove key => map.erase key

/-- Does a call write the file, given the map in it? -/
def Writes (map : ItemMap) : Call → Prop
  | .get _ => False
  | .set _ _ => True
  | .remove key => key ∈ map.keys

end Call

/-! ### One call -/

/-- How a call on an area ends, and what it leaves. -/
inductive Ends (now : Logged FileArea) (call : Call) : Except Fault (Option Json) → Logged FileArea → Prop where
  | unreadable {reason : String} (failed : now.state.entries = .error (.storeUnreadable reason)) :
      Ends now call (.error (.storeUnreadable reason)) now
  /-- A file stands where the folder should be. -/
  | unwritable {reason : String} (blocked : now.state.folder = .blocked) (sets : ∃ key text, call = .set key text) :
      Ends now call (.error (.storeUnwritable reason)) now
  /-- The call answers as the map in the file does, and leaves what becomes of the map. -/
  | answered {items left : Entries Json} {after : Logged FileArea} (found : now.state.entries = .ok items)
      (kept : after.state.entries = .ok left) (becomes : ItemMap.ofEntries left = call.left (.ofEntries items))
      (idle : ¬ call.Writes (.ofEntries items) → after = now)
      (written : call.Writes (.ofEntries items) → now.state.folder ≠ .blocked ∧ after.state.folder ≠ .blocked) :
      Ends now call (.ok (call.reply (.ofEntries items))) after

variable {now : Logged FileArea} {items : Entries Json}

theorem has_iff {key : String} : items.has key = true ↔ key ∈ (ItemMap.ofEntries items).keys := by
  unfold Entries.has ItemMap.ofEntries Entries.names
  simp

/-- A call ends in no other way. -/
theorem Call.ends (call : Call) (now : Logged FileArea) : Ends now call (call.answer now) (call.after now) := by
  suffices known : ∃ result after, call.perform.start now = (result, after) ∧ Ends now call result after by
    obtain ⟨result, after, ran, ends⟩ := known
    unfold Call.answer Call.after
    rw [ran]
    exact ends
  cases found : now.state.entries with
  | error fault =>
    obtain ⟨reason, rfl⟩ := entries_unreadable found
    refine ⟨_, now, ?_, .unreadable found⟩
    cases call with
    | get key => exact start_unreadable _ found
    | set key text => exact Op.start_bind_error (start_unreadable _ found) _
    | remove key => exact Op.start_bind_error (start_unreadable _ found) _
  | ok items =>
    have sound := entries_sound found
    cases call with
    | get key => exact ⟨_, now, start_readable _ found, .answered found found rfl (fun _ => rfl) nofun⟩
    | set key text =>
      have ran : (setItem key text).start now = (write (items.put key (.str text))).start now := start_readable _ found
      by_cases blocked : now.state.folder = .blocked
      · obtain ⟨reason, failed⟩ := start_write_blocked (items.put key (.str text)) blocked
        exact ⟨_, now, Op.start_bind_error (ran.trans failed) _, .unwritable blocked ⟨key, text, rfl⟩⟩
      · have wrote := start_write_open (items.put key (.str text)) blocked
        exact ⟨_, _, Op.start_bind_ok (ran.trans wrote) _,
          .answered found (entries_holding _ (put_sound sound key text)) (ItemMap.ofEntries_put items key text)
            (fun idle => absurd trivial idle) fun _ => ⟨blocked, nofun⟩⟩
    | remove key =>
      have ran : (removeItem key).start now =
          (if items.has key then write (items.erase key) else pure ()).start now := start_readable _ found
      by_cases has : items.has key = true
      · have isOpen : now.state.folder ≠ .blocked := by
          intro blocked
          cases (entries_blocked blocked).symm.trans found
          cases has
        have wrote := start_write_open (items.erase key) isOpen
        rw [if_pos has] at ran
        exact ⟨_, _, Op.start_bind_ok (ran.trans wrote) _,
          .answered found (entries_holding _ (erase_sound sound key)) (ItemMap.ofEntries_erase items key)
            (fun idle => absurd (has_iff.mp has) idle) fun _ => ⟨isOpen, nofun⟩⟩
      · have same : items.erase key = items := erase_of_not_has (Bool.not_eq_true _ ▸ has)
        have becomes := ItemMap.ofEntries_erase items key
        rw [same] at becomes
        rw [if_neg has] at ran
        exact ⟨_, now, Op.start_bind_ok ran _,
          .answered found found becomes (fun _ => rfl) fun writes => absurd (has_iff.mpr writes) has⟩

/-! ### Runs -/

def answers : List Call → Logged FileArea → List (Except Fault (Option Json))
  | [], _ => []
  | call :: calls, now => call.answer now :: answers calls (call.after now)

def afterCalls (calls : List Call) (now : Logged FileArea) : Logged FileArea := calls.foldl Call.after now

def replies : List Call → ItemMap → List (Option Json)
  | [], _ => []
  | call :: calls, map => call.reply map :: replies calls (call.left map)

theorem Call.ends_usable (call : Call) {now : Logged FileArea} {items : Entries Json}
    (usable : now.state.IsUsable items) :
    call.answer now = .ok (call.reply (.ofEntries items)) ∧
      ∃ left, (call.after now).state.IsUsable left ∧ ItemMap.ofEntries left = call.left (.ofEntries items) := by
  have ends := call.ends now
  generalize call.answer now = result at ends ⊢
  generalize call.after now = after at ends ⊢
  cases ends with
  | unreadable failed => cases failed.symm.trans usable.2
  | unwritable blocked => exact absurd blocked usable.1
  | @answered found left _ read kept becomes idle written =>
    cases read.symm.trans usable.2
    refine ⟨rfl, left, ⟨?_, kept⟩, becomes⟩
    by_cases writes : call.Writes (.ofEntries items)
    · exact (written writes).2
    · rw [idle writes]
      exact usable.1

theorem answers_usable (calls : List Call) {now : Logged FileArea} {items : Entries Json}
    (usable : now.state.IsUsable items) :
    answers calls now = (replies calls (.ofEntries items)).map .ok ∧
      ∃ left, (afterCalls calls now).state.IsUsable left ∧
        ItemMap.ofEntries left = calls.foldl Call.left (.ofEntries items) := by
  induction calls generalizing now items with
  | nil => exact ⟨rfl, items, usable, rfl⟩
  | cons call calls ih =>
    obtain ⟨answered, between, next, becomes⟩ := call.ends_usable usable
    obtain ⟨others, left, last, whole⟩ := ih next
    rw [becomes] at others whole
    refine ⟨?_, left, last, whole⟩
    rw [answers, answered, others]
    rfl

theorem Ends.failed_iff {now after : Logged FileArea} {call : Call} {result : Except Fault (Option Json)}
    (ends : Ends now call result after) :
    (∃ fault, result = .error fault) ↔
      (∀ items, now.state.entries ≠ .ok items) ∨ now.state.folder = .blocked ∧ ∃ key text, call = .set key text := by
  cases ends with
  | unreadable failed =>
    refine ⟨fun _ => .inl fun items found => ?_, fun _ => ⟨_, rfl⟩⟩
    cases failed.symm.trans found
  | unwritable blocked sets => exact ⟨fun _ => .inr ⟨blocked, sets⟩, fun _ => ⟨_, rfl⟩⟩
  | @answered items _ _ found kept becomes idle written =>
    refine ⟨by rintro ⟨fault, ⟨⟩⟩, ?_⟩
    rintro (unreadable | ⟨blocked, key, text, rfl⟩)
    · exact absurd found (unreadable items)
    · exact absurd blocked (written trivial).1

/-- Take any calls on an area, whatever stands in its folder at first. If the folder can be used, all of them are
answered as by the map that the file holds at first (the empty one without a file), and the file holds what has become
of this map. After them, wherever the run started, one more call behaves so: it fails just where the file cannot be
read or has to be written in a folder that is none, the failure is one of the storage, and everything stays as it is;
otherwise it answers as the map in the file does and leaves what becomes of it; and if it has nothing to write, as when
it removes a key that is not there, everything stays as it is too. -/
theorem calls_as_on_map (area : FileArea) (log : List Log.Event) (calls : List Call) :
    let now := afterCalls calls ⟨area, log⟩
    (∀ items, area.IsUsable items →
      answers calls ⟨area, log⟩ = (replies calls (.ofEntries items)).map .ok ∧
        ∃ left, now.state.IsUsable left ∧ ItemMap.ofEntries left = calls.foldl Call.left (.ofEntries items)) ∧
    ∀ call : Call,
      ((∃ fault, call.answer now = .error fault) ↔
        (∀ items, now.state.entries ≠ .ok items) ∨ now.state.folder = .blocked ∧ ∃ key text, call = .set key text) ∧
      (∀ fault, call.answer now = .error fault → fault.kind = .storage ∧ call.after now = now) ∧
      (∀ items result, now.state.entries = .ok items → call.answer now = .ok result →
        result = call.reply (.ofEntries items) ∧
          ∃ left, (call.after now).state.entries = .ok left ∧ ItemMap.ofEntries left = call.left (.ofEntries items)) ∧
      ∀ items, now.state.entries = .ok items → ¬ call.Writes (.ofEntries items) → call.after now = now := by
  intro now
  refine ⟨fun items usable => answers_usable calls usable, fun call => ⟨(call.ends now).failed_iff, ?_⟩⟩
  have ends := call.ends now
  generalize call.answer now = result at ends ⊢
  generalize call.after now = after at ends ⊢
  cases ends with
  | unreadable failed =>
    refine ⟨?_, nofun, fun _ _ _ => rfl⟩
    rintro fault ⟨⟩
    exact ⟨rfl, rfl⟩
  | unwritable blocked sets =>
    refine ⟨?_, nofun, fun _ _ _ => rfl⟩
    rintro fault ⟨⟩
    exact ⟨rfl, rfl⟩
  | @answered items left _ found kept becomes idle written =>
    have only : ∀ {other}, now.state.entries = .ok other → other = items :=
      fun read => Except.ok.inj (read.symm.trans found)
    refine ⟨nofun, ?_, fun other read => only read ▸ idle⟩
    rintro other result read ⟨⟩
    cases only read
    exact ⟨rfl, left, kept, becomes⟩

/-- A list stands in a file beside a text that is written anew, and keeps its place. -/
theorem calls_as_on_map_beside :
    let items : Entries Json := [("n", .arr [.int 1, .null]), ("k", .str "x"), ("z", .bool true)]
    let area := FileArea.holding { root := "data" } items
    let calls : List Call := [.set "k" "a\r\n\"<é>", .remove "other", .set "new" "", .remove "z", .get "k", .get "n"]
    let now := afterCalls calls ⟨area, []⟩
    area.IsUsable items ∧
      answers calls ⟨area, []⟩ =
        [.ok none, .ok none, .ok none, .ok none, .ok (some (.str "a\r\n\"<é>")), .ok (some (.arr [.int 1, .null]))] ∧
      now.state.entries = .ok [("n", .arr [.int 1, .null]), ("k", .str "a\r\n\"<é>"), ("new", .str "")] ∧
      (Call.remove "z").after now = now := by
  intro items area calls now
  have distinct : items.names.Nodup := by decide
  have sound : Json.IsSound (.obj items) :=
    ⟨⟨distinct, ⟨trivial, trivial, trivial⟩, trivial, trivial, trivial⟩, rfl⟩
  have usable : area.IsUsable items := ⟨nofun, entries_holding _ sound⟩
  obtain ⟨run, later⟩ := calls_as_on_map area [] calls
  obtain ⟨answered, left, ⟨-, kept⟩, becomes⟩ := run items usable
  have whole : calls.foldl Call.left (.ofEntries items) =
      .ofEntries [("n", .arr [.int 1, .null]), ("k", .str "a\r\n\"<é>"), ("new", .str "")] := by
    simp only [calls, List.foldl, Call.left, ← ItemMap.ofEntries_put, ← ItemMap.ofEntries_erase]
    rfl
  have same := ItemMap.ofEntries_inj (Json.isSound_obj.mp (entries_sound kept)).1 (becomes.trans whole)
  rw [same] at kept
  refine ⟨usable, answered.trans rfl, kept, (later (.remove "z")).2.2.2 _ kept ?_⟩
  change "z" ∉ _
  decide

end FileArea

end ChatWidget
