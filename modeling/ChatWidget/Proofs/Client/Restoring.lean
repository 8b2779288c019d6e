import ChatWidget.Proofs.Client.Run
/-!
Showing a history again, whatever stands in it. Entries that are read as an element are shown in order, and
those without an element are skipped with a line in the log. Any other entry, which is one that is no text or
holds a declaration that is none, ends it: what comes after such an entry is not shown.
-/
namespace ChatWidget

open Markup (Node)

namespace Elements

variable {ι : Type} {elements : Elements ι} {parent : ElementId}

/-- Do the children of an element show the nodes, one each and in order? -/
structure Carries (elements : Elements ι) (parent : ElementId) (nodes : List Node) : Prop where
  owned : elements.Owns parent
  shown : elements.AllShow (fun id => id < elements.table.size ∧ id ≠ parent) (elements.get parent).children nodes

theorem Owns.clear (owns : elements.Owns parent) : (elements.clear parent).Carries parent [] := by
  have effect := get_removeAll owns owns.distinct (fun _ member => member) parent
  have none : ((elements.clear parent).get parent).children = [] := by
    unfold Elements.clear
    rw [effect, if_pos rfl, Element.holding_children, List.filter_eq_nil_iff]
    intro child member
    simpa using member
  refine ⟨owns.removeAll owns.distinct fun _ member => member, ?_⟩
  rw [none, AllShow]
  trivial

theorem Carries.add {nodes : List Node} (carries : elements.Carries parent nodes) (node : Node) :
    ((elements.graft node).2.append parent (elements.graft node).1).Carries parent (nodes ++ [node]) := by
  have grafted := append_graft_areGrafted elements carries.owned.inside node
  refine ⟨carries.owned.grafted grafted, ?_⟩
  rw [grafted.listed, Element.holding_children]
  refine .append (carries.shown.frame fun id old => ?_) (grafted.shows.frame fun id new => ?_)
  · refine ⟨⟨Nat.lt_of_lt_of_le old.1 grafted.grown, old.2⟩, ?_⟩
    rw [grafted.same id old.1 old.2]
  · exact ⟨⟨new.2, Nat.ne_of_gt (Nat.lt_of_lt_of_le carries.owned.inside new.1)⟩, rfl⟩

theorem Carries.modify {nodes : List Node} (carries : elements.Carries parent nodes)
    {change : Element ι → Element ι} (same : ∀ e, (change e).children = e.children) :
    (elements.modify parent change).Carries parent nodes := by
  have effect := fun id => get_modify elements parent id change carries.owned.inside
  have children : ((elements.modify parent change).get parent).children = (elements.get parent).children := by
    rw [effect, if_pos rfl, same]
  have others : ∀ id ≠ parent, (elements.modify parent change).get id = elements.get id := by
    intro id other
    rw [effect, if_neg other]
  refine ⟨carries.owned.frame ?_ children ?_, ?_⟩
  · rw [size_modify]
    exact carries.owned.inside
  · intro child member
    rw [others child fun isParent => carries.owned.apart (isParent ▸ member)]
  · rw [children, size_modify]
    exact carries.shown.frame fun id old => ⟨old, by rw [others id old.2]⟩

end Elements

namespace Client

variable {μ : Type}

/-- The node that an entry of a history is read as, or why it is read as none. -/
def reading : Json → Except Fault Node
  | .str markup => Markup.parse markup
  | _ => .error .wrongType

def IsTame (entry : Json) : Prop := ∀ fault, reading entry = .error fault → fault = .noElement

/-- How far the showing of entries comes, and how it ends: with all of them, or before the first one that is
neither shown nor skipped. -/
inductive Reaches : List Json → List Json → Except Fault Unit → Prop
  | all {entries : List Json} (tame : ∀ entry ∈ entries, IsTame entry) : Reaches entries entries (.ok ())
  | upTo {shown rest : List Json} {entry : Json} {fault : Fault} (tame : ∀ entry ∈ shown, IsTame entry)
      (refused : reading entry = .error fault) (other : fault ≠ .noElement) :
      Reaches (shown ++ entry :: rest) shown (.error fault)

/-- The nodes that entries are read as. -/
def readable (entries : List Json) : List Node := entries.filterMap fun entry => (reading entry).toOption

/-- What is logged of an entry with an index if it is without any element. -/
def skip? (entry : Json) (index : Nat) : Option Log.Event :=
  match reading entry with
  | .error .noElement => some (.historyEntrySkipped index Fault.noElement.code entry)
  | _ => none

/-- What is logged of entries, given the index of the first one. -/
def skips (index : Nat) (entries : List Json) : List Log.Event :=
  (entries.zipIdx index).filterMap fun (entry, index) => skip? entry index

/-- An entry that ends the showing is no text, or a text with a declaration that is none. -/
theorem Reaches.failed {entries shown : List Json} {fault : Fault} (reaches : Reaches entries shown (.error fault)) :
    ∃ entry ∈ entries, reading entry = .error fault ∧
      (entry.str? = none ∧ fault = .wrongType ∨ entry.str?.isSome = true ∧ fault = .badDeclaration) := by
  cases reaches with
  | @upTo _ _ entry _ _ refused other =>
    refine ⟨entry, by simp, refused, ?_⟩
    cases entry with
    | str markup =>
      rcases Markup.parse_error refused with missing | bad
      · exact absurd missing other
      · exact .inr ⟨rfl, bad⟩
    | _ =>
      cases refused
      exact .inl ⟨rfl, rfl⟩

theorem reaches_some (entries : List Json) : ∃ shown result, Reaches entries shown result := by
  induction entries with
  | nil => exact ⟨[], .ok (), .all fun _ member => nomatch member⟩
  | cons entry entries ih =>
    by_cases tame : IsTame entry
    · obtain ⟨shown, result, reaches⟩ := ih
      cases reaches with
      | all rest => exact ⟨_, _, .all (List.forall_mem_cons.mpr ⟨tame, rest⟩)⟩
      | upTo before refused other =>
        exact ⟨entry :: _, _, .upTo (List.forall_mem_cons.mpr ⟨tame, before⟩) refused other⟩
    · unfold IsTame at tame
      push Not at tame
      obtain ⟨fault, refused, other⟩ := tame
      exact ⟨[], _, .upTo (List.forall_mem_nil _) refused other⟩

/-! ### Showing entries -/

def putElements (now : Client × Surroundings μ) (elements : Elements Listener) : Client × Surroundings μ :=
  putWidget now { now.1.widget with elements }

theorem start_replayEntry_reading (index : Nat) (entry : Json) (s : Logged (Client × Surroundings μ)) :
    (replayEntry index entry).start s =
      match reading entry with
      | .ok node => (.ok (), { s with
          state := putWidget s.state (s.state.1.widget.addNode s.state.1.widget.window.chat node).2 })
      | .error .noElement => (.ok (), { s with
          log := s.log ++ [.historyEntrySkipped index Fault.noElement.code entry] })
      | .error fault => (.error fault, s) := by
  unfold replayEntry
  cases entry with
  | str markup =>
    dsimp only
    rw [Op.start_bind, current, Op.start_read]
    dsimp only [reading]
    cases read : Markup.parse markup with
    | ok node =>
      rw [addMessage_ok _ read]
      rfl
    | error fault =>
      unfold Widget.addMessage Widget.addMarkup
      rw [read]
      cases fault <;> rfl
  | _ => rfl

theorem start_replayEntry_refused {entry : Json} {fault : Fault} (refused : reading entry = .error fault)
    (other : fault ≠ .noElement) (index : Nat) (s : Logged (Client × Surroundings μ)) :
    (replayEntry index entry).start s = (.error fault, s) := by
  rw [start_replayEntry_reading, refused]
  cases fault with
  | noElement => exact absurd rfl other
  | _ => rfl

theorem replay_append (shown rest : List Json) (index : Nat) :
    (replay index (shown ++ rest) : ClientOn μ Unit) =
      replay index shown >>= fun _ => replay (index + shown.length) rest := by
  induction shown generalizing index with
  | nil => rfl
  | cons entry shown ih =>
    have later : index + (entry :: shown).length = index + 1 + shown.length := by
      rw [List.length_cons, Nat.add_assoc, Nat.add_comm 1]
    simp only [List.cons_append, replay, bind_assoc, ih, later]

/-- Tame entries are shown or skipped one by one. Nothing is changed but the elements and the log. -/
theorem start_replay_tame (entries : List Json) (tame : ∀ entry ∈ entries, IsTame entry) (index : Nat)
    {s : Logged (Client × Surroundings μ)} {nodes : List Node}
    (carries : s.state.1.widget.elements.Carries s.state.1.widget.window.chat nodes) :
    ∃ elements, (replay index entries).start s =
        (.ok (), ⟨putElements s.state elements, s.log ++ skips index entries⟩) ∧
      elements.Carries s.state.1.widget.window.chat (nodes ++ readable entries) := by
  induction entries generalizing index s nodes with
  | nil =>
    refine ⟨s.state.1.widget.elements, ?_, ?_⟩
    · rw [skips, List.zipIdx_nil, List.filterMap_nil, List.append_nil]
      rfl
    · rw [readable, List.filterMap_nil, List.append_nil]
      exact carries
  | cons entry entries ih =>
    obtain ⟨first, rest⟩ := List.forall_mem_cons.mp tame
    have began := start_replayEntry_reading index entry s
    cases read : reading entry with
    | ok node =>
      obtain ⟨elements, ran, more⟩ := ih rest (index + 1) (s := { s with
        state := putWidget s.state (s.state.1.widget.addNode s.state.1.widget.window.chat node).2 })
        (carries.add node)
      have unlogged : skips index (entry :: entries) = skips (index + 1) entries := by
        simp [skips, skip?, read]
      have here : readable (entry :: entries) = node :: readable entries := by
        simp [readable, read, Except.toOption]
      rw [read] at began
      refine ⟨elements, ?_, ?_⟩
      · rw [replay, Op.start_bind_ok began, unlogged]
        exact ran
      · rw [here, ← List.singleton_append, ← List.append_assoc]
        exact more
    | error fault =>
      cases first fault read
      obtain ⟨elements, ran, more⟩ := ih rest (index + 1) (s := { s with
        log := s.log ++ [.historyEntrySkipped index Fault.noElement.code entry] }) carries
      have logged : skips index (entry :: entries) =
          .historyEntrySkipped index Fault.noElement.code entry :: skips (index + 1) entries := by
        simp [skips, skip?, read]
      have missing : readable (entry :: entries) = readable entries := by
        simp [readable, read, Except.toOption]
      rw [read] at began
      refine ⟨elements, ?_, ?_⟩
      · rw [replay, Op.start_bind_ok began, ran, logged, List.append_assoc]
        rfl
      · rw [missing]
        exact more

/-- Showing entries, whatever they are, shows those that it reaches. -/
theorem start_replay_reaches {entries shown : List Json} {result : Except Fault Unit}
    (reaches : Reaches entries shown result) {s : Logged (Client × Surroundings μ)}
    (carries : s.state.1.widget.elements.Carries s.state.1.widget.window.chat []) :
    ∃ elements, (replay 0 entries).start s =
        (result, ⟨putElements s.state elements, s.log ++ skips 0 shown⟩) ∧
      elements.Carries s.state.1.widget.window.chat (readable shown) := by
  cases reaches with
  | all tame => exact start_replay_tame entries tame 0 carries
  | upTo tame refused other =>
    obtain ⟨elements, ran, carried⟩ := start_replay_tame shown tame 0 carries
    refine ⟨elements, ?_, carried⟩
    rw [replay_append, Op.start_bind_ok ran, replay,
      Op.start_bind_error (start_replayEntry_refused refused other _ _)]

/-! ### Restoring -/

/-- What a store has under a text is read as a history in any case. -/
theorem all_of_text {history : History} {path : String} (named : history.path = .str path) (store : Store) :
    ∃ entries, history.all store = .ok entries := by
  unfold History.all
  rw [named, Store.get_at rfl]
  dsimp only [bind, Except.bind, pure, Except.pure]
  split
  · exact ⟨_, rfl⟩
  · exact ⟨_, rfl⟩

theorem start_restore_reaches (data : Json) {s : Logged (Client × Surroundings μ)} {entries shown : List Json}
    {result : Except Fault Unit} (found : s.state.1.history.all s.state.1.store = .ok entries)
    (reaches : Reaches entries shown result)
    (owned : s.state.1.widget.elements.Owns s.state.1.widget.window.chat) :
    ∃ elements, (restore data).start s =
        (result, ⟨putElements s.state elements, s.log ++ skips 0 shown⟩) ∧
      elements.Carries s.state.1.widget.window.chat (readable shown) := by
  obtain ⟨elements, ran, carries⟩ := start_replay_reaches reaches
    (s := { s with state := putWidget s.state s.state.1.widget.clearChat }) owned.clear
  unfold restore
  rw [Op.start_bind_ok (start_changeWidget _ _),
    Op.start_bind_ok (start_entries ⟨putWidget s.state s.state.1.widget.clearChat, s.log⟩ found)]
  cases result with
  | ok done =>
    refine ⟨elements.modify s.state.1.widget.window.chat (·.scrollToBottom), ?_, carries.modify fun _ => rfl⟩
    rw [Op.start_bind_ok ran, start_changeWidget]
    rfl
  | error fault =>
    refine ⟨elements, ?_, carries⟩
    rw [Op.start_bind_error ran]
    rfl

def withHistory (entries : List Json) : Logged (Client × Surroundings MapArea) :=
  let start := onEmptyPage {}
  ⟨putStore start.state (.ofEntries "k" true [("history", .arr entries)], {}), []⟩

end Client

end ChatWidget
