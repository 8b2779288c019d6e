import ChatWidget.Proofs.Command.Batch
import ChatWidget.Proofs.Entries
/-!
Batches inside batches. What a handler does with its data is a tree of steps here, which changes the state,
logs, runs batches that stand no deeper than the data, and ends well or badly. The rules for what such
handlers make of a batch are given without the program; the program is shown to follow them, also where
every call and every batch is written down as it begins and ends.
-/
namespace ChatWidget.Batch

variable {σ τ α β : Type}

/-- What a handler does with its data. -/
inductive Behaviour (σ : Type) (data : Json) where
  | ends (result : Except Fault Unit)
  | acts (step : σ → σ × List Log.Event) (next : σ → Behaviour σ data)
  | runs (commands : Json) (inside : commands.depth ≤ data.depth) (next : Report → Behaviour σ data)

/-- What the handlers do, by their names. -/
abbrev Table (σ : Type) := Entries (∀ data, Behaviour σ data)

/-- Where a handler begins and ends, and where a batch inside it does. -/
inductive Mark where
  | began (name : String) (data : Json)
  | ended (name : String) (result : Except Fault Unit)
  | opened (commands : Json)
  | closed (report : Report)

/-! ### Watching -/

/-- A state that has the one that handlers work on, and room for marks beside it. -/
structure Watcher (σ τ : Type) where
  look : τ → σ
  put : σ → List Mark → τ → τ
  look_put : ∀ s marks t, look (put s marks t) = s
  put_look : ∀ t, put (look t) [] t = t
  put_put : ∀ first later marks more t, put later more (put first marks t) = put later (marks ++ more) t

namespace Watcher

/-- Nothing is written down. -/
def bystander : Watcher σ σ := ⟨id, fun s _ _ => s, fun _ _ _ => rfl, fun _ => rfl, fun _ _ _ _ _ => rfl⟩

/-- All marks are written down in order. -/
def recorder : Watcher σ (σ × List Mark) where
  look := Prod.fst
  put s marks t := (s, t.2 ++ marks)
  look_put _ _ _ := rfl
  put_look t := by rw [List.append_nil]
  put_put _ _ _ _ _ := by rw [List.append_assoc]

def act (w : Watcher σ τ) (step : σ → σ × List Log.Event) : Op τ σ :=
  Op.ofRun fun s =>
    let (after, events) := step (w.look s.state)
    (.ok (w.look s.state), ⟨w.put after [] s.state, s.log ++ events⟩)

def mark (w : Watcher σ τ) (mark : Mark) : Op τ Unit :=
  Op.change fun t => w.put (w.look t) [mark] t

end Watcher

/-- Do what is to be done, given how to run a batch. -/
def Behaviour.op (w : Watcher σ τ) (run : Json → Op τ Report) {data : Json} : Behaviour σ data → Op τ Unit
  | ends result => Op.lift result
  | acts step next => do (next (← w.act step)).op w run
  | runs commands _ next => do
    w.mark (.opened commands)
    let report ← run commands
    w.mark (.closed report)
    (next report).op w run

def handlerOf (w : Watcher σ τ) (name : String) (behaves : ∀ data, Behaviour σ data) : Handler τ :=
  fun run data => do
    w.mark (.began name data)
    let result ← Op.attempt ((behaves data).op w run)
    w.mark (.ended name result)
    Op.lift result

def Table.handlers (w : Watcher σ τ) (table : Table σ) : Entries (Handler τ) :=
  table.map fun (name, behaves) => (name, handlerOf w name behaves)

/-! ### What comes of a batch -/

@[ext]
structure Trail where
  marks : List Mark := []
  events : List Log.Event := []

instance : Append Trail where
  append first later := ⟨first.marks ++ later.marks, first.events ++ later.events⟩

@[simp] theorem Trail.marks_append (first later : Trail) :
    (first ++ later).marks = first.marks ++ later.marks := rfl

@[simp] theorem Trail.events_append (first later : Trail) :
    (first ++ later).events = first.events ++ later.events := rfl

attribute [ext] Report

instance : Append Report where
  append first later :=
    ⟨first.executed ++ later.executed, first.rejected ++ later.rejected, first.error <|> later.error⟩

@[simp] theorem Report.executed_append (first later : Report) :
    (first ++ later).executed = first.executed ++ later.executed := rfl

@[simp] theorem Report.rejected_append (first later : Report) :
    (first ++ later).rejected = first.rejected ++ later.rejected := rfl

@[simp] theorem Report.error_append (first later : Report) :
    (first ++ later).error = (first.error <|> later.error) := rfl

/-- Which handler does an entry call, and with what? -/
inductive Calls (table : Table σ) : Json → String → Json → (∀ data, Behaviour σ data) → Prop
  | intro {fields : Entries Json} {name : String} {behaves : ∀ data, Behaviour σ data}
      (named : fields.get? "command" = some (.str name)) (nonempty : name ≠ "")
      (answers : table.get? name = some behaves) :
      Calls table (.obj fields) name ((fields.get? "data").getD .null) behaves

/-- Why does an entry call no handler? -/
inductive Refuses (table : Table σ) : Json → Fault → Prop
  | notObject {entry : Json} (other : ∀ fields, entry ≠ .obj fields) :
      Refuses table entry .commandNotObject
  | unnamed {fields : Entries Json}
      (nameless : ∀ name, fields.get? "command" = some (.str name) → name = "") :
      Refuses table (.obj fields) .commandUnnamed
  | unknown {fields : Entries Json} {name : String}
      (named : fields.get? "command" = some (.str name)) (nonempty : name ≠ "")
      (unanswered : table.get? name = none) : Refuses table (.obj fields) (.commandUnknown name)

/-- What comes of an entry: it is refused without a call, or its handler is called. -/
inductive Share where
  | refused (entry : Json) (fault : Fault)
  | called (entry : Json) (name : String) (data : Json) (inner : Trail) (result : Except Fault Unit)

namespace Share

def entry : Share → Json
  | refused entry _ => entry
  | called entry _ _ _ _ => entry

def executed : Share → List String
  | called _ name _ _ (.ok ()) => [name]
  | _ => []

def rejected : Share → List Json
  | refused entry _ => [entry]
  | called _ _ _ _ (.ok ()) => []
  | called entry _ _ _ (.error _) => [entry]

/-- What is logged because the entry is rejected. -/
def complaints : Share → List Log.Event
  | refused entry fault => [.commandRejected fault.code fault.message entry]
  | called _ _ _ _ (.ok ()) => []
  | called _ name _ _ (.error _) => [.commandFailed name]

def trail : Share → Trail
  | share@(refused _ _) => ⟨[], share.complaints⟩
  | share@(called _ name data inner result) =>
    ⟨.began name data :: inner.marks ++ [.ended name result], inner.events ++ share.complaints⟩

end Share

def trailOf (shares : List Share) : Trail :=
  ⟨shares.flatMap (·.trail.marks), shares.flatMap (·.trail.events)⟩

def reportOf (shares : List Share) : Report :=
  { executed := shares.flatMap Share.executed, rejected := shares.flatMap Share.rejected }

mutual

/-- How does a behaviour go on from a state, and how does it end? -/
inductive Behaves (table : Table σ) : {data : Json} → Behaviour σ data → σ → Trail →
    Except Fault Unit → σ → Prop
  | ends {data : Json} {result : Except Fault Unit} {s : σ} :
      Behaves table (.ends result : Behaviour σ data) s {} result s
  | acts {data : Json} {step : σ → σ × List Log.Event} {next : σ → Behaviour σ data} {s after : σ}
      {later : Trail} {result : Except Fault Unit}
      (rest : Behaves table (next s) (step s).1 later result after) :
      Behaves table (.acts step next) s ⟨later.marks, (step s).2 ++ later.events⟩ result after
  | runs {data commands : Json} {inside : commands.depth ≤ data.depth}
      {next : Report → Behaviour σ data} {s between after : σ} {inner later : Trail} {report : Report}
      {result : Except Fault Unit} (batch : Runs table commands s inner report between)
      (rest : Behaves table (next report) between later result after) :
      Behaves table (.runs commands inside next) s
        ⟨.opened commands :: inner.marks ++ .closed report :: later.marks, inner.events ++ later.events⟩
        result after

/-- What comes of something that is to be run as a batch? -/
inductive Runs (table : Table σ) : Json → σ → Trail → Report → σ → Prop
  | list {entries : List Json} {s after : σ} {shares : List Share}
      (served : Serves table entries s shares after) :
      Runs table (.arr entries) s (trailOf shares) (reportOf shares) after
  | other {commands : Json} {s : σ} (other : ∀ entries, commands ≠ .arr entries) :
      Runs table commands s ⟨[], [.batchNotList commands]⟩ { error := some "Invalid response" } s

/-- What comes of entries, one after another? -/
inductive Serves (table : Table σ) : List Json → σ → List Share → σ → Prop
  | nil {s : σ} : Serves table [] s [] s
  | cons {entry : Json} {entries : List Json} {s between after : σ} {share : Share} {shares : List Share}
      (first : Befits table entry s share between) (rest : Serves table entries between shares after) :
      Serves table (entry :: entries) s (share :: shares) after

/-- What comes of one entry? -/
inductive Befits (table : Table σ) : Json → σ → Share → σ → Prop
  | refused {entry : Json} {fault : Fault} {s : σ} (refuses : Refuses table entry fault) :
      Befits table entry s (.refused entry fault) s
  | called {entry data : Json} {name : String} {behaves : ∀ data, Behaviour σ data} {s after : σ}
      {inner : Trail} {result : Except Fault Unit} (calls : Calls table entry name data behaves)
      (does : Behaves table (behaves data) s inner result after) :
      Befits table entry s (.called entry name data inner result) after

end

/-! ### How far batches stand inside batches -/

theorem depth_le_items {item : Json} {items : List Json} (member : item ∈ items) :
    item.depth ≤ Json.depthOfItems items := by
  induction items with
  | nil => cases member
  | cons first rest ih =>
    rw [Json.depthOfItems]
    rcases List.mem_cons.mp member with rfl | later
    · exact Nat.le_max_left _ _
    · exact Nat.le_trans (ih later) (Nat.le_max_right _ _)

theorem depth_le_fields {name : String} {value : Json} {fields : Entries Json}
    (member : (name, value) ∈ fields) : value.depth ≤ Json.depthOfFields fields := by
  induction fields with
  | nil => cases member
  | cons first rest ih =>
    obtain ⟨other, old⟩ := first
    rw [Json.depthOfFields]
    rcases List.mem_cons.mp member with here | later
    · cases here
      exact Nat.le_max_left _ _
    · exact Nat.le_trans (ih later) (Nat.le_max_right _ _)

/-- A handler gets data that are less deep than the entry. -/
theorem Calls.depth_lt {table : Table σ} {entry data : Json} {name : String}
    {behaves : ∀ data, Behaviour σ data} (calls : Calls table entry name data behaves) :
    data.depth < entry.depth := by
  cases calls with
  | @intro fields _ _ =>
    rw [Json.depth, Nat.lt_succ_iff]
    cases sent : fields.get? "data" with
    | none => exact Nat.zero_le _
    | some value => exact depth_le_fields (Entries.get?_mem sent)

/-! ### The program follows the rules -/

/-- Does an operation leave a trail, whoever watches it? -/
def Leaves (op : ∀ τ, Watcher σ τ → Op τ α) (s : σ) (trail : Trail) (result : Except Fault α)
    (after : σ) : Prop :=
  ∀ (τ : Type) (w : Watcher σ τ) (t : τ) (log : List Log.Event),
    (op τ w).start ⟨w.put s [] t, log⟩ = (result, ⟨w.put after trail.marks t, log ++ trail.events⟩)

section Leaves

variable {op : ∀ τ, Watcher σ τ → Op τ α} {next : ∀ τ, Watcher σ τ → α → Op τ β} {s between after : σ}
  {first later : Trail}

theorem Leaves.bind {a : α} {result : Except Fault β} (leaves : Leaves op s first (.ok a) between)
    (then_ : Leaves (fun τ w => next τ w a) between later result after) :
    Leaves (fun τ w => op τ w >>= next τ w) s (first ++ later) result after := by
  intro τ w t log
  have rest := then_ τ w (w.put between first.marks t) (log ++ first.events)
  rw [w.put_put, w.put_put, List.append_nil, List.append_assoc] at rest
  rw [Op.start_bind_ok (leaves τ w t log)]
  exact rest

theorem Leaves.same {trail other : Trail} {a b : α} (leaves : Leaves op s trail (.ok a) after)
    (trails : trail = other) (results : a = b) : Leaves op s other (.ok b) after := by
  rw [← trails, ← results]
  exact leaves

theorem Leaves.pure (a : α) : Leaves (σ := σ) (fun _ _ => Pure.pure a) s {} (.ok a) s := by
  intro τ w t log
  rw [Op.start_pure, List.append_nil]

theorem Leaves.lift (result : Except Fault α) :
    Leaves (σ := σ) (fun _ _ => Op.lift result) s {} result s := by
  intro τ w t log
  rw [Op.start_lift, List.append_nil]

theorem Leaves.note (event : Log.Event) :
    Leaves (σ := σ) (fun _ _ => Op.note event) s ⟨[], [event]⟩ (.ok ()) s := fun _ _ _ _ => rfl

theorem Leaves.attempt {trail : Trail} {result : Except Fault α} (leaves : Leaves op s trail result after) :
    Leaves (fun τ w => Op.attempt (op τ w)) s trail (.ok result) after := by
  intro τ w t log
  rw [Op.start_attempt, leaves τ w t log]

theorem Leaves.mark (mark : Mark) :
    Leaves (fun _ w => w.mark mark) s ⟨[mark], []⟩ (.ok ()) s := by
  intro τ w t log
  unfold Watcher.mark
  rw [Op.start_change, w.look_put, w.put_put, List.nil_append, List.append_nil]

theorem Leaves.act (step : σ → σ × List Log.Event) :
    Leaves (fun _ w => w.act step) s ⟨[], (step s).2⟩ (.ok s) (step s).1 := by
  intro τ w t log
  change (Except.ok _, Logged.mk _ _) = _
  rw [w.look_put, w.put_put, List.nil_append]

end Leaves

section

variable {table : Table σ}

theorem get?_handlers (w : Watcher σ τ) (table : Table σ) (name : String) :
    (table.handlers w).get? name = (table.get? name).map (handlerOf w name) :=
  Entries.get?_map (handlerOf w) table name

theorem ofJson_named {fields : Entries Json} {name : String}
    (named : fields.get? "command" = some (.str name)) (nonempty : name ≠ "") :
    Command.ofJson (.obj fields) = .ok ⟨name, (fields.get? "data").getD .null⟩ := by
  simp [Command.ofJson, named, nonempty]

theorem handlerFor_called {entry data : Json} {name : String} {behaves : ∀ data, Behaviour σ data}
    (calls : Calls table entry name data behaves) (w : Watcher σ τ) :
    handlerFor (table.handlers w) entry = .ok (handlerOf w name behaves, ⟨name, data⟩) := by
  obtain ⟨named, nonempty, answers⟩ := calls
  unfold handlerFor
  simp only [ofJson_named named nonempty, bind, Except.bind, get?_handlers, answers, Option.map_some]
  rfl

theorem handlerFor_refused {entry : Json} {fault : Fault} (refuses : Refuses table entry fault)
    (w : Watcher σ τ) : handlerFor (table.handlers w) entry = .error fault := by
  unfold handlerFor
  cases refuses with
  | notObject other =>
    have described : Command.ofJson entry = .error .commandNotObject := by
      unfold Command.ofJson
      split
      next fields => exact absurd rfl (other fields)
      next => rfl
    rw [described]
    rfl
  | unnamed nameless =>
    rename_i fields
    have described : Command.ofJson (.obj fields) = .error .commandUnnamed := by
      simp only [Command.ofJson]
      split
      next name named => rw [nameless name named]; rfl
      next => rfl
    rw [described]
    rfl
  | unknown named nonempty unanswered =>
    simp only [ofJson_named named nonempty, bind, Except.bind, get?_handlers, unanswered,
      Option.map_none]
    rfl

/-- An entry calls a handler, or there is a reason why it does not. -/
theorem calls_or_refuses (table : Table σ) (entry : Json) :
    (∃ name data behaves, Calls table entry name data behaves) ∨ ∃ fault, Refuses table entry fault := by
  cases entry with
  | obj fields =>
    by_cases named : ∃ name, Entries.get? fields "command" = some (.str name) ∧ name ≠ ""
    · obtain ⟨name, named, nonempty⟩ := named
      cases answers : table.get? name with
      | none => exact .inr ⟨_, .unknown named nonempty answers⟩
      | some behaves => exact .inl ⟨name, _, behaves, .intro named nonempty answers⟩
    · push Not at named
      exact .inr ⟨_, .unnamed named⟩
  | _ => exact .inr ⟨_, .notObject fun _ same => by cases same⟩

/-- Is a batch run by the rules, with any depth that is enough for it? -/
def Follows (table : Table σ) (commands : Json) : Prop :=
  ∀ s, ∃ trail report after, Runs table commands s trail report after ∧
    ∀ depth, commands.depth < depth →
      Leaves (fun _ w => executeWithin (table.handlers w) depth commands) s trail (.ok report) after

theorem behaves_leaves {data : Json}
    (inner : ∀ commands, commands.depth ≤ data.depth → Follows table commands)
    (behaviour : Behaviour σ data) (s : σ) : ∃ trail result after,
      Behaves table behaviour s trail result after ∧ ∀ depth, data.depth < depth →
        Leaves (fun _ w => behaviour.op w (executeWithin (table.handlers w) depth)) s trail result
          after := by
  induction behaviour generalizing s with
  | ends result => exact ⟨_, _, _, .ends, fun depth _ => .lift result⟩
  | acts step next ih =>
    obtain ⟨later, result, after, rest, leaves⟩ := ih s (step s).1
    exact ⟨_, _, _, .acts rest, fun depth deep => (Leaves.act step).bind (leaves depth deep)⟩
  | runs commands inside next ih =>
    obtain ⟨trail, report, between, batch, ran⟩ := inner commands inside s
    obtain ⟨later, result, after, rest, leaves⟩ := ih report between
    refine ⟨_, _, _, .runs batch rest, fun depth deep => ?_⟩
    change Leaves _ s (⟨[.opened commands], []⟩ ++ (trail ++ (⟨[.closed report], []⟩ ++ later))) _ _
    apply (Leaves.mark _).bind
    apply (ran depth (Nat.lt_of_le_of_lt inside deep)).bind
    apply (Leaves.mark _).bind
    exact leaves depth deep

theorem befits_leaves {entry : Json}
    (inner : ∀ commands, commands.depth < entry.depth → Follows table commands)
    (s : σ) : ∃ share after, share.entry = entry ∧ Befits table entry s share after ∧
      ∀ depth, entry.depth ≤ depth → ∀ report,
        Leaves (fun _ w => runEntry (table.handlers w) (executeWithin (table.handlers w) depth) report
          entry) s share.trail (.ok (report ++ reportOf [share])) after := by
  rcases calls_or_refuses table entry with ⟨name, data, behaves, calls⟩ | ⟨fault, refuses⟩
  · obtain ⟨trail, result, after, does, leaves⟩ := behaves_leaves
      (fun commands inside => inner commands (Nat.lt_of_le_of_lt inside calls.depth_lt))
      (behaves data) s
    refine ⟨.called entry name data trail result, after, rfl, .called calls does, fun depth deep report => ?_⟩
    have deep := Nat.lt_of_lt_of_le calls.depth_lt deep
    have handled : Leaves (fun _ w => handlerOf w name behaves (executeWithin (table.handlers w) depth) data)
        s (⟨[.began name data], []⟩ ++ (trail ++ (⟨[.ended name result], []⟩ ++ {}))) result after := by
      apply (Leaves.mark _).bind
      apply (leaves depth deep).attempt.bind
      apply (Leaves.mark _).bind
      exact .lift result
    unfold runEntry
    simp only [handlerFor_called calls]
    cases result with
    | ok done =>
      apply Leaves.same
      · apply handled.attempt.bind
        exact .pure _
      · ext <;> simp [Share.trail, Share.complaints]
      · ext <;> simp [reportOf, Share.executed, Share.rejected]
    | error fault =>
      apply Leaves.same
      · apply handled.attempt.bind
        apply (Leaves.note _).bind
        exact .pure _
      · ext <;> simp [Share.trail, Share.complaints]
      · ext <;> simp [reportOf, Share.executed, Share.rejected]
  · refine ⟨.refused entry fault, s, rfl, .refused refuses, fun depth deep report => ?_⟩
    unfold runEntry
    simp only [handlerFor_refused refuses]
    apply Leaves.same
    · apply (Leaves.note _).bind
      exact .pure _
    · ext <;> simp [Share.trail, Share.complaints]
    · ext <;> simp [reportOf, Share.executed, Share.rejected]

theorem serves_leaves {entries : List Json}
    (inner : ∀ entry ∈ entries, ∀ commands, commands.depth < entry.depth → Follows table commands)
    (s : σ) : ∃ shares after, shares.map Share.entry = entries ∧ Serves table entries s shares after ∧
      ∀ depth, Json.depthOfItems entries ≤ depth → ∀ report,
        Leaves (fun _ w => entries.foldlM
          (runEntry (table.handlers w) (executeWithin (table.handlers w) depth)) report)
          s (trailOf shares) (.ok (report ++ reportOf shares)) after := by
  induction entries generalizing s with
  | nil =>
    refine ⟨[], s, rfl, .nil, fun depth _ report => ?_⟩
    apply Leaves.same (.pure report)
    · rfl
    · ext <;> simp [reportOf]
  | cons entry entries ih =>
    obtain ⟨share, between, same, first, leaves⟩ := befits_leaves (inner entry List.mem_cons_self) s
    obtain ⟨shares, after, others, rest, later⟩ :=
      ih (fun entry member => inner entry (List.mem_cons_of_mem _ member)) between
    refine ⟨share :: shares, after, by rw [List.map_cons, same, others], .cons first rest, ?_⟩
    intro depth deep report
    rw [Json.depthOfItems, Nat.max_le] at deep
    simp only [List.foldlM_cons]
    apply Leaves.same
    · apply (leaves depth deep.1 report).bind
      exact later depth deep.2 _
    · ext <;> simp [trailOf]
    · ext <;> simp [reportOf]

theorem follows (table : Table σ) (commands : Json) : Follows table commands := by
  induction below : commands.depth using Nat.strongRecOn generalizing commands with
  | _ deep ih =>
    subst below
    intro s
    cases commands with
    | arr entries =>
      have inner : ∀ entry ∈ entries, ∀ commands, commands.depth < entry.depth → Follows table commands := by
        intro entry member commands lower
        refine ih _ (Nat.lt_of_lt_of_le lower ?_) commands rfl
        exact Nat.le_succ_of_le (depth_le_items member)
      obtain ⟨shares, after, -, served, leaves⟩ := serves_leaves inner s
      refine ⟨_, _, after, .list served, fun depth deep => ?_⟩
      cases depth with
      | zero => cases deep
      | succ depth =>
        rw [Json.depth] at deep
        apply Leaves.same (leaves depth (Nat.lt_succ_iff.mp (Nat.lt_of_succ_lt deep)) {})
        · rfl
        · ext <;> simp [reportOf]
    | _ =>
      refine ⟨_, _, s, .other (fun _ same => by cases same), fun depth deep => ?_⟩
      cases depth with
      | zero => cases deep
      | succ depth =>
        change Leaves _ s (⟨[], [_]⟩ ++ {}) _ _
        apply (Leaves.note _).bind
        exact .pure _

theorem list_follows (table : Table σ) (entries : List Json) (s : σ) :
    ∃ shares after, shares.map Share.entry = entries ∧ Serves table entries s shares after ∧
      ∀ depth, Json.depthOfItems entries ≤ depth → ∀ report,
        Leaves (fun _ w => entries.foldlM
          (runEntry (table.handlers w) (executeWithin (table.handlers w) depth)) report)
          s (trailOf shares) (.ok (report ++ reportOf shares)) after :=
  serves_leaves (fun _ _ commands _ => follows table commands) s

theorem eq_of_leaves {op other : ∀ τ, Watcher σ τ → Op τ α}
    (both : ∀ s, ∃ trail result after, Leaves op s trail result after ∧ Leaves other s trail result after)
    (w : Watcher σ τ) : op τ w = other τ w := by
  funext ⟨t, log⟩
  obtain ⟨trail, result, after, one, two⟩ := both (w.look t)
  have same := (one τ w t log).trans (two τ w t log).symm
  rw [w.put_look] at same
  exact same

theorem execute_list (handlers : Entries (Handler τ)) (entries : List Json) :
    execute handlers (.arr entries) = entries.foldlM
      (runEntry handlers (executeWithin handlers (Json.depthOfItems entries + 1))) {} := rfl

theorem depthOfItems_append (xs ys : List Json) :
    Json.depthOfItems (xs ++ ys) = max (Json.depthOfItems xs) (Json.depthOfItems ys) := by
  induction xs with
  | nil => simp [Json.depthOfItems]
  | cons item xs ih => rw [List.cons_append, Json.depthOfItems, Json.depthOfItems, ih, Nat.max_assoc]

/-- A batch of two parts is the one part run after the other. -/
theorem execute_append (table : Table σ) (w : Watcher σ τ) (xs ys : List Json) :
    execute (table.handlers w) (.arr (xs ++ ys)) = (do
      let first ← execute (table.handlers w) (.arr xs)
      let later ← execute (table.handlers w) (.arr ys)
      pure (first ++ later)) := by
  let batch (entries : List Json) (τ : Type) (w : Watcher σ τ) : Op τ Report :=
    execute (table.handlers w) (.arr entries)
  let parts (τ : Type) (w : Watcher σ τ) : Op τ Report :=
    batch xs τ w >>= fun first => batch ys τ w >>= fun later => pure (first ++ later)
  have same : ∀ s, ∃ trail result after,
      Leaves (batch (xs ++ ys)) s trail result after ∧ Leaves parts s trail result after := by
    intro s
    obtain ⟨early, between, -, -, one⟩ := list_follows table xs s
    obtain ⟨late, after, -, -, two⟩ := list_follows table ys between
    refine ⟨trailOf early ++ trailOf late, .ok ({} ++ reportOf early ++ reportOf late), after, ?_, ?_⟩
    · simp only [batch, execute_list, List.foldlM_append, depthOfItems_append]
      apply (one _ _ _).bind
      · exact two _ (by omega) _
      · omega
    · apply Leaves.same
      · apply (one _ (Nat.le_succ _) {}).bind
        apply (two _ (Nat.le_succ _) {}).bind
        exact .pure _
      · ext <;> simp
      · ext <;> simp
  exact eq_of_leaves same w

theorem Share.length_executed_add_rejected (share : Share) :
    share.executed.length + share.rejected.length = 1 := by
  rcases share with _ | ⟨_, _, _, _, fault | done⟩
  · rfl
  · rfl
  · rfl

theorem length_reportOf (shares : List Share) :
    (reportOf shares).executed.length + (reportOf shares).rejected.length = shares.length := by
  induction shares with
  | nil => rfl
  | cons share shares ih =>
    have one := share.length_executed_add_rejected
    simp only [reportOf, List.flatMap_cons, List.length_append, List.length_cons] at ih ⊢
    omega

theorem Share.level_complaints (share : Share) :
    share.complaints.map Log.Event.level = share.rejected.map fun _ => .error := by
  rcases share with _ | ⟨_, _, _, _, fault | done⟩
  · rfl
  · rfl
  · rfl

theorem level_complaints (shares : List Share) :
    (shares.flatMap Share.complaints).map Log.Event.level =
      (reportOf shares).rejected.map fun _ => .error := by
  simp only [reportOf, List.map_flatMap, Share.level_complaints]

/-- A batch splits into what is executed and what is rejected. Take any handlers, which may fail and run
further batches from within their data. Every entry gets its share in turn: the handler that it calls is
called once with its data, or else it is refused. The report has the names of those whose handlers ended
well and the other entries, both in order, and one error is logged for each of the latter. What is written
down and what is logged meanwhile stand in order, with those of an inner batch between the beginning and
the end of the call that runs it, and nothing depends on whether anyone writes it down. Running two lists
one after the other is running their concatenation. -/
theorem execute_partitions (table : Table σ) (entries : List Json) (s : σ) :
    (∃ shares after, shares.map Share.entry = entries ∧ Serves table entries s shares after ∧
      (∀ marks log, (execute (table.handlers .recorder) (.arr entries)).start ⟨(s, marks), log⟩ =
        (.ok (reportOf shares),
          ⟨(after, marks ++ (trailOf shares).marks), log ++ (trailOf shares).events⟩)) ∧
      (∀ log, (execute (table.handlers .bystander) (.arr entries)).start ⟨s, log⟩ =
        (.ok (reportOf shares), ⟨after, log ++ (trailOf shares).events⟩)) ∧
      (reportOf shares).executed.length + (reportOf shares).rejected.length = entries.length ∧
      (shares.flatMap Share.complaints).map Log.Event.level =
        (reportOf shares).rejected.map fun _ => .error) ∧
    ∀ (τ : Type) (w : Watcher σ τ) (xs ys : List Json),
      execute (table.handlers w) (.arr (xs ++ ys)) = (do
        let first ← execute (table.handlers w) (.arr xs)
        let later ← execute (table.handlers w) (.arr ys)
        pure (first ++ later)) := by
  obtain ⟨shares, after, same, served, leaves⟩ := list_follows table entries s
  have ran := leaves _ (Nat.le_succ _) {}
  refine ⟨⟨shares, after, same, served, ?_, ?_, ?_, level_complaints shares⟩, fun _ => execute_append table⟩
  · intro marks log
    have recorded := ran _ .recorder (s, marks) log
    have here : Watcher.recorder.put s [] (s, marks) = (s, marks) := Watcher.recorder.put_look (s, marks)
    rw [here] at recorded
    exact recorded
  · exact ran _ .bystander s
  · rw [length_reportOf, ← same, List.length_map]

/-- A handler that runs its data as a batch, and one that fails: the inner batch is over before the outer
call is. -/
example :
    let table : Table Unit :=
      [("all", fun data => .runs data (Nat.le_refl _) fun _ => .ends (.ok ())),
       ("fail", fun _ => .ends (.error .wrongType))]
    let failing := Json.obj [("command", .str "fail")]
    let inner := Json.arr [failing]
    ((execute (table.handlers .recorder)
      (.arr [.obj [("command", .str "all"), ("data", inner)]])).start ⟨((), []), []⟩).2.state.2 =
      [.began "all" inner, .opened inner, .began "fail" .null, .ended "fail" (.error .wrongType),
       .closed { rejected := [failing] }, .ended "all" (.ok ())] := rfl

end

end ChatWidget.Batch
