import ChatWidget.Proofs.Store.Saved
import ChatWidget.Proofs.Store.Top
/-!
A history as a record that only grows. It finds the entries it has started with and then what has been added
since, whatever becomes of its medium and of the rest of its tree; and what it writes is seen in its own place
alone.
-/
namespace ChatWidget.History

open Store (Use IsUpright FailsSoftly SameTree)

variable {μ : Type} [StorageArea μ]

/-! ### Calls -/

/-- A call on a history, or another one on the store that it is kept in. -/
inductive Call where
  | append (fragment : String)
  | clear
  | all
  | length
  | other (use : Use)

namespace Call

def perform (history : History) : Call → Op (Store × μ) (Option Json)
  | .append fragment => do
    history.append (.str fragment)
    return none
  | .clear => do
    history.clear
    return none
  | .all => do
    let (store, _) ← Op.whole
    return some (.arr (← Op.lift (history.all store)))
  | .length => do
    let (store, _) ← Op.whole
    return some (.int (← Op.lift (history.length store)))
  | .other use => use.perform

def record (entries : List Json) : Call → List Json
  | .append fragment => entries ++ [.str fragment]
  | .clear => []
  | _ => entries

def reply? (entries : List Json) : Call → Option (Option Json)
  | .append _ | .clear => some none
  | .all => some (some (.arr entries))
  | .length => some (some (.int entries.length))
  | .other _ => none

/-- Does a call leave the entry with the name to the history, and the tree outside of itself? -/
def IsElsewhere (key : String) : Call → Prop
  | .other (.edit change) => change.IsElsewhere key ∧ ¬ change.NestsTree
  | _ => True

/-- Is a call one that changes the record? -/
def Records : Call → Prop
  | .append _ | .clear => True
  | _ => False

end Call

/-- The state after calls that are made one after another, whether they fail or not. -/
def afterCalls (history : History) (calls : List Call) (now : Logged (Store × μ)) : Logged (Store × μ) :=
  calls.foldl (fun now call => ((call.perform history).start now).2) now

def answers (history : History) : List Call → Logged (Store × μ) → List (Except Fault (Option Json))
  | [], _ => []
  | call :: calls, now =>
    ((call.perform history).start now).1 :: answers history calls ((call.perform history).start now).2

/-! ### One call -/

/-- Does the entry of the root with the name hold the list, or possibly something else if the list is empty? -/
structure Keeps (calm : μ → Prop) (key : String) (now : Store × μ) (entries : List Json) : Prop where
  upright : IsUpright calm now
  entry : entriesOf ((now.1.objects.fields now.1.root).get? key) = entries

omit [StorageArea μ] in
theorem Keeps.all {calm : μ → Prop} {key : String} {history : History} (way : Path.ofJson history.path = .ok [key])
    {now : Store × μ} {entries : List Json} (keeps : Keeps calm key now entries) :
    history.all now.1 = .ok entries := by
  rw [all_eq_entry way, keeps.entry]

omit [StorageArea μ] in
theorem Keeps.length {calm : μ → Prop} {key : String} {history : History}
    (way : Path.ofJson history.path = .ok [key]) {now : Store × μ} {entries : List Json}
    (keeps : Keeps calm key now entries) : history.length now.1 = .ok entries.length := by
  unfold History.length
  rw [keeps.all way]
  rfl

/-- Putting a list in the place of the history changes this entry of the root and nothing else. -/
theorem set_keeps {calm : μ → Prop} (soft : FailsSoftly calm) {key : String} {path : Json}
    (way : Path.ofJson path = .ok [key]) {now : Logged (Store × μ)} (upright : IsUpright calm now.state)
    {entries : List Json} (sound : Json.IsSound (.arr entries)) :
    ∃ after, (Store.set path (.data (.arr entries))).start now = (.ok (), after) ∧
      Keeps calm key after.state entries ∧ after.state.1.root = now.state.1.root ∧
      after.state.1.objects = now.state.1.objects.setFields now.state.1.root
        ((now.state.1.objects.fields now.state.1.root).put key (.value (.arr entries))) := by
  have applied : (Store.Change.set path (.data (.arr entries)) sound.tidy).applied now.state.1 =
      now.state.1.put [key] (.value (.arr entries)) := by
    unfold Store.Change.applied Store.Change.placing Store.Placing.applied
    dsimp only
    rw [Offered.value, if_pos sound.writable]
    dsimp only
    rw [Objects.takeIn_leaf (by simp)]
    dsimp only [bind, Except.bind]
    rw [way]
  rcases (Store.Change.set path (.data (.arr entries)) sound.tidy).start_calm soft upright.calm with
    ⟨fault, failed, -⟩ | ⟨changed, after, accepted, ran, same, calmly⟩
  · cases applied.symm.trans failed
  · cases applied.symm.trans accepted
    have objects : after.state.1.objects = now.state.1.objects.setFields now.state.1.root
        ((now.state.1.objects.fields now.state.1.root).put key (.value (.arr entries))) := same.objects
    have root : after.state.1.root = now.state.1.root := same.root
    refine ⟨after, ran, ⟨⟨?_, ?_, calmly⟩, ?_⟩, root, objects⟩
    · rw [objects, root]
      exact upright.top.putEntry _ key (by simp)
    · rw [objects]
      exact upright.sound.putEntry _ key sound
    · rw [objects, root, Objects.fields_setFields_self upright.top.inside, Entries.get?_put_self]
      rfl

theorem get_same {before after : Store} {key : String} {slot : Slot} (top : before.objects.IsTop before.root)
    (root : after.root = before.root)
    (objects : after.objects = before.objects.setFields before.root ((before.objects.fields before.root).put key slot))
    {path : Json} {step : String} {rest : Path} (way : Path.ofJson path = .ok (step :: rest)) (other : step ≠ key)
    (default : Json) : after.get path default = before.get path default := by
  have found : after.slot? (step :: rest) = before.slot? (step :: rest) := by
    unfold Store.slot?
    rw [objects, root]
    exact top.slotAt?_setFields (Entries.get?_put_of_ne _ _ other) rest
  rw [Store.get_at way, Store.get_at way, found]
  cases there : before.slot? (step :: rest) with
  | none => rfl
  | some slot =>
    rw [Option.map_some, Option.map_some]
    unfold Objects.view
    rw [objects, Objects.size_setFields, top.viewWithin_setFields _ _ (top.slotAt?_ne there)]

omit [StorageArea μ] in
theorem Keeps.sound {calm : μ → Prop} {key : String} {history : History}
    (way : Path.ofJson history.path = .ok [key]) {now : Store × μ} {entries : List Json}
    (keeps : Keeps calm key now entries) (fragment : String) : Json.IsSound (.arr (entries ++ [.str fragment])) := by
  have each := Json.isSound_arr.mp (all_sound keeps.upright.sound (keeps.all way))
  refine Json.isSound_arr.mpr fun item member => ?_
  rcases List.mem_append.mp member with before | new
  · exact each item before
  · rw [List.mem_singleton.mp new]
    exact ⟨trivial, rfl⟩

/-- A call that changes the record is accepted, and what it changes is not seen elsewhere. -/
theorem Keeps.recording {calm : μ → Prop} (soft : FailsSoftly calm) {key : String} {history : History}
    (way : Path.ofJson history.path = .ok [key]) {now : Logged (Store × μ)} {entries : List Json}
    (keeps : Keeps calm key now.state entries) {call : Call} (records : call.Records) :
    ∃ after, (call.perform history).start now = (.ok none, after) ∧
      Keeps calm key after.state (call.record entries) ∧
      ∀ {path : Json} {step : String} {rest : Path}, Path.ofJson path = .ok (step :: rest) → step ≠ key →
        ∀ default, after.state.1.get path default = now.state.1.get path default := by
  have written : ∀ {list : List Json}, Json.IsSound (.arr list) → ∃ after,
      (Store.set history.path (.data (.arr list))).start now = (.ok (), after) ∧ Keeps calm key after.state list ∧
      ∀ {path : Json} {step : String} {rest : Path}, Path.ofJson path = .ok (step :: rest) → step ≠ key →
        ∀ default, after.state.1.get path default = now.state.1.get path default := by
    intro list sound
    obtain ⟨after, ran, kept, root, objects⟩ := set_keeps soft way keeps.upright sound
    exact ⟨after, ran, kept, fun way other => get_same keeps.upright.top root objects way other⟩
  cases call with
  | append fragment =>
    obtain ⟨after, ran, kept, elsewhere⟩ := written (keeps.sound way fragment)
    have appended : (history.append (.str fragment)).start now = (.ok (), after) := by
      unfold History.append
      rw [Op.start_bind, Op.whole, Op.start_read]
      dsimp only [id]
      rw [Op.start_bind, Op.start_lift, keeps.all way]
      exact ran
    exact ⟨after, Op.start_bind_ok appended _, kept, elsewhere⟩
  | clear =>
    have empty : Json.IsSound (.arr []) := Json.isSound_arr.mpr (by simp)
    obtain ⟨after, ran, kept, elsewhere⟩ := written empty
    exact ⟨after, Op.start_bind_ok ran _, kept, elsewhere⟩
  | _ => exact absurd records id

/-- A call on the store that has to do with other entries leaves the record as it is. -/
theorem Keeps.use {calm : μ → Prop} (soft : FailsSoftly calm) {key : String} {now : Logged (Store × μ)}
    {entries : List Json} (keeps : Keeps calm key now.state entries) {use : Use}
    (elsewhere : (Call.other use).IsElsewhere key) : Keeps calm key (use.after now).state entries := by
  cases use with
  | get path default =>
    rw [(Use.answer_get now path default).2]
    exact keeps
  | edit change =>
    obtain ⟨apart, flat⟩ := elsewhere
    rw [(Use.answer_edit now change).2]
    refine ⟨keeps.upright.change soft flat, ?_⟩
    rcases change.start_calm soft keeps.upright.calm with
      ⟨fault, -, ran⟩ | ⟨changed, after, applied, ran, same, -⟩
    · rw [ran]
      exact keeps.entry
    · rw [ran, same.objects, same.root, (Store.Change.applied_same applied).1,
        Store.Change.applied_elsewhere keeps.upright.top flat apart applied]
      exact keeps.entry

/-- A call leaves the record as it is to be, and answers what this determines. -/
theorem Keeps.step {calm : μ → Prop} (soft : FailsSoftly calm) {key : String} {history : History}
    (way : Path.ofJson history.path = .ok [key]) {now : Logged (Store × μ)} {entries : List Json}
    (keeps : Keeps calm key now.state entries) {call : Call} (elsewhere : call.IsElsewhere key) :
    Keeps calm key ((call.perform history).start now).2.state (call.record entries) ∧
      ∀ answer, call.reply? entries = some answer → ((call.perform history).start now).1 = .ok answer := by
  have recorded : call.Records → Keeps calm key ((call.perform history).start now).2.state (call.record entries) ∧
      ((call.perform history).start now).1 = .ok none := fun records => by
    obtain ⟨after, ran, kept, -⟩ := keeps.recording soft way records
    rw [ran]
    exact ⟨kept, rfl⟩
  cases call with
  | append fragment =>
    obtain ⟨kept, answered⟩ := recorded trivial
    refine ⟨kept, ?_⟩
    rintro answer ⟨⟩
    exact answered
  | clear =>
    obtain ⟨kept, answered⟩ := recorded trivial
    refine ⟨kept, ?_⟩
    rintro answer ⟨⟩
    exact answered
  | all =>
    have ran : (Call.all.perform history).start now = (.ok (some (.arr entries)), now) := by
      unfold Call.perform
      rw [Op.start_bind, Op.whole, Op.start_read]
      dsimp only [id]
      rw [Op.start_bind, Op.start_lift, keeps.all way]
      rfl
    rw [ran]
    refine ⟨keeps, ?_⟩
    rintro answer ⟨⟩
    rfl
  | length =>
    have ran : (Call.length.perform history).start now = (.ok (some (.int entries.length)), now) := by
      unfold Call.perform
      rw [Op.start_bind, Op.whole, Op.start_read]
      dsimp only [id]
      rw [Op.start_bind, Op.start_lift, keeps.length way]
      rfl
    rw [ran]
    refine ⟨keeps, ?_⟩
    rintro answer ⟨⟩
    rfl
  | other use => exact ⟨keeps.use soft elsewhere, by rintro answer ⟨⟩⟩

/-! ### Runs -/

theorem Keeps.run {calm : μ → Prop} (soft : FailsSoftly calm) {key : String} {history : History}
    (way : Path.ofJson history.path = .ok [key]) (calls : List Call) {now : Logged (Store × μ)}
    {entries : List Json} (keeps : Keeps calm key now.state entries)
    (elsewhere : ∀ call ∈ calls, call.IsElsewhere key) :
    Keeps calm key (afterCalls history calls now).state (calls.foldl Call.record entries) ∧
      ∀ earlier call later, calls = earlier ++ call :: later →
        ∀ answer, call.reply? (earlier.foldl Call.record entries) = some answer →
          (answers history calls now)[earlier.length]? = some (.ok answer) := by
  induction calls generalizing now entries with
  | nil => exact ⟨keeps, fun earlier call later split => by simp at split⟩
  | cons call calls ih =>
    obtain ⟨kept, answered⟩ := keeps.step soft way (elsewhere call List.mem_cons_self)
    obtain ⟨last, others⟩ := ih kept fun other member => elsewhere other (List.mem_cons_of_mem _ member)
    refine ⟨last, ?_⟩
    intro earlier other later split answer is
    cases earlier with
    | nil =>
      cases split
      rw [answers, List.length_nil, List.getElem?_cons_zero, answered answer is]
    | cons first earlier =>
      obtain ⟨rfl, rest⟩ := List.cons.inj split
      rw [answers, List.length_cons, List.getElem?_cons_succ]
      exact others earlier other later rest answer is

end ChatWidget.History
