import ChatWidget.Log.Line
import ChatWidget.Proofs.Json.OneLine
import ChatWidget.Proofs.Json.ReadSound
import ChatWidget.Proofs.Text.Pieces
/-!
A journal: the lines of records one after the other, each ended by a line feed. Whatever a record has in it, its line
is a line, so the journal falls apart into the lines that it was put together from; and each line is read back as the
entries of its record, the values that go with the record laid over its own.
-/
namespace ChatWidget.Log

/-! ### One line -/

namespace Record

/-- What a record has of its own: when, how important and whose it is, and its message, of which no more than 64
characters are left where it is redacted. -/
def own (record : Record) (redact : Bool) : Entries Json :=
  [("ts", .str record.created.text), ("level", .str record.level), ("name", .str record.name),
   ("msg", .str (if redact then String.ofList (record.message.toList.take 64) else record.message))]

theorem own_sound (record : Record) (redact : Bool) : Json.IsSound (.obj (record.own redact)) := by
  have distinct : (record.own redact).HasDistinctNames :=
    (by decide : ["ts", "level", "name", "msg"].Nodup)
  refine Json.isSound_obj.mpr ⟨distinct, fun field member => ?_⟩
  simp only [own, List.mem_cons, List.not_mem_nil, or_false] at member
  rcases member with rfl | rfl | rfl | rfl
  all_goals exact ⟨trivial, rfl⟩

variable {record : Record}

theorem entries_sound (sound : Json.IsSound (.obj record.fields)) (redact : Bool) :
    Json.IsSound (.obj (record.entries redact)) :=
  (record.own_sound redact).putAll (Json.isSound_obj.mp sound).2

theorem entries_eq_overlaid (sound : Json.IsSound (.obj record.fields)) (redact : Bool) :
    record.entries redact = (record.own redact).overlaid record.fields :=
  Entries.putAll_eq_overlaid (Json.isSound_obj.mp (record.own_sound redact)).1 (Json.isSound_obj.mp sound).1

theorem line_oneLine (record : Record) (redact : Bool) : Text.IsOneLine (record.line redact).toList := by
  rw [line, Json.written, String.toList_ofList]
  exact Json.writtenChars_oneLine _

theorem read_line (sound : Json.IsSound (.obj record.fields)) (redact : Bool) :
    Json.read (record.line redact) = .ok (.obj ((record.own redact).overlaid record.fields)) := by
  rw [line, Json.read_written (entries_sound sound redact), entries_eq_overlaid sound]

end Record

/-! ### Many lines -/

def journal (lines : List String) : String := String.join (lines.map (· ++ "\n"))

/-- What the lines of a journal hold, each up to its line feed. -/
def readJournal (text : String) : List (Except String Json) :=
  (Text.splitAt '\n' text.toList).dropLast.map fun line => Json.read (String.ofList line)

theorem splitAt_journal {lines : List String} (single : ∀ line ∈ lines, '\n' ∉ line.toList) :
    Text.splitAt '\n' (journal lines).toList = lines.map String.toList ++ [[]] := by
  induction lines with
  | nil => rfl
  | cons line lines ih =>
    obtain ⟨here, later⟩ := List.forall_mem_cons.mp single
    have grown : (journal (line :: lines)).toList = line.toList ++ '\n' :: (journal lines).toList := by
      unfold journal
      simp [String.toList_join]
    rw [grown, Text.splitAt_append, Text.splitAt_whole here, ih later]
    rfl

theorem readJournal_journal {lines : List String} (single : ∀ line ∈ lines, '\n' ∉ line.toList) :
    readJournal (journal lines) = lines.map Json.read := by
  rw [readJournal, splitAt_journal single, List.dropLast_concat, List.map_map]
  exact List.map_congr_left fun line _ => congrArg Json.read String.ofList_toList

/-- Take any records, redacted or not, with mappings of values that can be written. The line of each is on one line and
is read back as the entries of its own with those of the mapping laid over them; and the lines written one after the
other, each ended by a line feed, fall apart into these lines and are read back as these entries. -/
theorem journal_reads_back {written : List (Record × Bool)}
    (sound : ∀ entry ∈ written, Json.IsSound (.obj entry.1.fields)) :
    let lines := written.map fun (record, redact) => record.line redact
    (∀ line ∈ lines, '\n' ∉ line.toList ∧ '\r' ∉ line.toList) ∧
    (∀ record redact, (record, redact) ∈ written →
      Json.read (record.line redact) = .ok (.obj ((record.own redact).overlaid record.fields))) ∧
    Text.splitAt '\n' (journal lines).toList = lines.map String.toList ++ [[]] ∧
    readJournal (journal lines) =
      written.map fun (record, redact) => .ok (.obj ((record.own redact).overlaid record.fields)) := by
  intro lines
  have single : ∀ line ∈ lines, '\n' ∉ line.toList ∧ '\r' ∉ line.toList := by
    intro line member
    obtain ⟨⟨record, redact⟩, -, rfl⟩ := List.mem_map.mp member
    have oneLine := record.line_oneLine redact
    exact ⟨oneLine.not_mem (by decide), oneLine.not_mem (by decide)⟩
  have read : ∀ record redact, (record, redact) ∈ written →
      Json.read (record.line redact) = .ok (.obj ((record.own redact).overlaid record.fields)) :=
    fun record redact member => Record.read_line (sound _ member) redact
  refine ⟨single, read, splitAt_journal fun line member => (single line member).1, ?_⟩
  rw [readJournal_journal fun line member => (single line member).1, List.map_map]
  exact List.map_congr_left fun entry member => read entry.1 entry.2 member

/-- Here one record has a message of its own among its values, and the message of the other looks like two records. -/
theorem journal_reads_back_forged :
    let first : Record :=
      { created := ⟨5000000⟩, message := "a\nb", fields := [("msg", .arr [.float .nan, .str "\n"]), ("n", .int 1)] }
    let second : Record :=
      { created := ⟨250000⟩, level := "ERROR",
        message := "m\"\r\n\"ts\": 0, and as much more as it takes to be cut after sixty-four characters" }
    '\n' ∉ (first.line false).toList ∧
      readJournal (journal [first.line false, second.line true]) =
        [.ok (.obj [("ts", .str "1970-01-01T00:00:05Z"), ("level", .str "INFO"), ("name", .str "responsio"),
            ("msg", .arr [.float .nan, .str "\n"]), ("n", .int 1)]),
          .ok (.obj [("ts", .str "1970-01-01T00:00:00.250000Z"), ("level", .str "ERROR"), ("name", .str "responsio"),
            ("msg", .str "m\"\r\n\"ts\": 0, and as much more as it takes to be cut after sixty-")])] := by
  intro first second
  have sound : ∀ entry ∈ [(first, false), (second, true)], Json.IsSound (.obj entry.1.fields) := by
    intro entry member
    simp only [List.mem_cons, List.not_mem_nil, or_false] at member
    rcases member with rfl | rfl
    · have distinct : ["msg", "n"].Nodup := by decide
      exact ⟨⟨distinct, ⟨trivial, trivial, trivial⟩, trivial, trivial⟩, by decide +kernel⟩
    · exact Json.isSound_empty
  obtain ⟨single, -, -, read⟩ := journal_reads_back sound
  have own : first.own false = [("ts", .str "1970-01-01T00:00:05Z"), ("level", .str "INFO"), ("name", .str "responsio"),
      ("msg", .str "a\nb")] := by
    have time : first.created.text = "1970-01-01T00:00:05Z" := by decide +kernel
    rw [Record.own, time]
    rfl
  have own' : second.own true = [("ts", .str "1970-01-01T00:00:00.250000Z"), ("level", .str "ERROR"),
      ("name", .str "responsio"),
      ("msg", .str "m\"\r\n\"ts\": 0, and as much more as it takes to be cut after sixty-")] := by
    have time : second.created.text = "1970-01-01T00:00:00.250000Z" := by decide +kernel
    have message : String.ofList (second.message.toList.take 64) =
        "m\"\r\n\"ts\": 0, and as much more as it takes to be cut after sixty-" := by decide +kernel
    rw [Record.own, time, if_pos rfl, message]
  refine ⟨(single _ List.mem_cons_self).1, read.trans ?_⟩
  simp [own, own', Entries.overlaid, Entries.names, Entries.get?, first, second]

end ChatWidget.Log
