import ChatWidget.Proofs.Store.Durable
import ChatWidget.Proofs.Store.Opening
/-!
What comes of opening a store, whatever stands in its folder. The file may be missing or be a folder, its
bytes may be no text, the text no value and the value no mapping, and the item under the key may be any value:
all of this ends in a durable store with the tree that the item holds, or else in a store in memory with an
empty tree. The one exception is an item that counts as present and is no text, which lets the opening fail.
-/
namespace ChatWidget

/-- Does an item hold a tree? An item that is missing, or does not count as present, holds the empty one. -/
inductive Store.HoldsTree : Option Json → Entries Json → Prop
  | missing : HoldsTree none []
  | blank {item : Json} (absent : item.isTruthy = false) : HoldsTree (some item) []
  | written {text : String} {tree : Entries Json} (present : (Json.str text).isTruthy = true)
      (read : Json.read text = .ok (.obj tree)) : HoldsTree (some (.str text)) tree

/-- Is an item present without being a text? -/
def Store.IsStray (item : Option Json) : Prop :=
  ∃ value, item = some value ∧ value.isTruthy = true ∧ value.str? = none

namespace FileArea

/-- Can an area be used, with the given mapping in its file? Without a file the mapping is empty. -/
def IsUsable (area : FileArea) (items : Entries Json) : Prop :=
  area.folder ≠ .blocked ∧ area.entries = .ok items

/-- Does an area hold a tree for a store under a key? -/
def Offers (area : FileArea) (key : String) (tree : Entries Json) : Prop :=
  ∃ items, area.IsUsable items ∧ Store.HoldsTree (items.get? key) tree

/-- Is the item under a key of an area present without being a text? -/
def HasStray (area : FileArea) (key : String) : Prop :=
  ∃ items, area.IsUsable items ∧ Store.IsStray (items.get? key)

end FileArea

namespace Store

/-! ### What an item holds -/

theorem document_text (key : String) {text : String} (present : (Json.str text).isTruthy = true) :
    document key (some (.str text)) =
      match Json.read text with
      | .error reason => .error (.badValue reason)
      | .ok (.obj entries) => .ok entries
      | .ok _ => .error (.storeUnreadable ("Stored document " ++ key.literal ++ " is not a mapping")) := by
  have nonempty : text.isEmpty = false := by simpa [Json.isTruthy] using present
  unfold document
  dsimp only
  rw [nonempty]
  exact if_neg Bool.false_ne_true

theorem document_blank (key : String) {item : Json} (absent : item.isTruthy = false) :
    document key (some item) = .ok [] := by
  cases item with
  | str text =>
    have empty : text.isEmpty = true := by simpa [Json.isTruthy] using absent
    exact if_pos empty
  | _ =>
    unfold document
    dsimp only
    rw [absent, if_neg Bool.false_ne_true]

theorem document_stray (key : String) {item : Option Json} (stray : IsStray item) :
    document key item = .error .wrongType := by
  obtain ⟨value, rfl, present, noText⟩ := stray
  cases value with
  | str text => cases noText
  | _ => exact if_pos present

theorem document_eq_ok_iff (key : String) {item : Option Json} {tree : Entries Json} :
    document key item = .ok tree ↔ HoldsTree item tree := by
  constructor
  · intro found
    cases item with
    | none =>
      cases found
      exact .missing
    | some item =>
      cases present : item.isTruthy with
      | false =>
        rw [document_blank key present] at found
        cases found
        exact .blank present
      | true =>
        cases item with
        | str text =>
          rw [document_text key present] at found
          split at found
          next => cases found
          next entries read =>
            cases found
            exact .written present read
          next => cases found
        | _ => cases (document_stray key ⟨_, rfl, present, rfl⟩).symm.trans found
  · intro holds
    cases holds with
    | missing => rfl
    | blank absent => exact document_blank key absent
    | written present read => rw [document_text key present, read]

theorem document_outage {key : String} {item : Option Json} {fault : Fault} (proper : ¬ IsStray item)
    (failed : document key item = .error fault) : isOutage fault = true := by
  cases item with
  | none => cases failed
  | some item =>
    cases present : item.isTruthy with
    | false =>
      rw [document_blank key present] at failed
      cases failed
    | true =>
      cases item with
      | str text =>
        rw [document_text key present] at failed
        split at failed
        next =>
          cases failed
          rfl
        next => cases failed
        next =>
          cases failed
          rfl
      | _ => exact absurd ⟨_, rfl, present, rfl⟩ proper

/-! ### Opening -/

theorem openedFrom_stray (key : String) {item : Option Json} (stray : IsStray item) :
    openedFrom key item = .error .wrongType := by
  unfold openedFrom
  rw [document_stray key stray]
  exact if_neg Bool.false_ne_true

theorem openedFrom_tree (key : String) {item : Option Json} {tree : Entries Json} (holds : HoldsTree item tree) :
    openedFrom key item = .ok (ofEntries key true tree) := by
  unfold openedFrom
  rw [(document_eq_ok_iff key).mpr holds]

theorem openedFrom_none (key : String) {item : Option Json} (proper : ¬ IsStray item)
    (treeless : ∀ tree, ¬ HoldsTree item tree) : openedFrom key item = .ok (ofEntries key false []) := by
  unfold openedFrom
  cases read : document key item with
  | ok tree => exact absurd ((document_eq_ok_iff key).mp read) (treeless tree)
  | error fault => exact if_pos (document_outage proper read)

theorem start_openOn_usable {area : FileArea} {items : Entries Json} (usable : area.IsUsable items)
    {name : Option String} (other : keyFor name ≠ probeKey) (log : List Log.Event) :
    ((openOn name).start ⟨area, log⟩).1 = openedFrom (keyFor name) (items.get? (keyFor name)) := by
  have fine : area.IsFine := ⟨⟨items, usable.2⟩, usable.1⟩
  have opened := @start_openOn _ _ _ FileArea.mapping FileArea.works name ⟨area, log⟩ fine
  obtain ⟨after, ran, -, left⟩ := opened
  have same : FileArea.mapping.item after.state (keyFor name) = items.get? (keyFor name) := by
    rw [left, Function.update_of_ne other]
    change area.item (keyFor name) = _
    rw [FileArea.item_eq usable.2]
  rw [ran, same]

theorem start_openOn_stray {area : FileArea} {name : Option String} (stray : area.HasStray (keyFor name))
    (other : keyFor name ≠ probeKey) (log : List Log.Event) :
    ((openOn name).start ⟨area, log⟩).1 = .error .wrongType := by
  obtain ⟨items, usable, stray⟩ := stray
  rw [start_openOn_usable usable other, openedFrom_stray _ stray]

theorem start_openOn_offered {area : FileArea} {name : Option String} {tree : Entries Json}
    (offers : area.Offers (keyFor name) tree) (other : keyFor name ≠ probeKey) (log : List Log.Event) :
    ((openOn name).start ⟨area, log⟩).1 = .ok (ofEntries (keyFor name) true tree) := by
  obtain ⟨items, usable, holds⟩ := offers
  rw [start_openOn_usable usable other, openedFrom_tree _ holds]

/-- The folder cannot be used here, or it can and the item is a text that holds no tree. -/
theorem start_openOn_treeless {area : FileArea} {name : Option String} (proper : ¬ area.HasStray (keyFor name))
    (treeless : ∀ tree, ¬ area.Offers (keyFor name) tree) (other : keyFor name ≠ probeKey) (log : List Log.Event) :
    ((openOn name).start ⟨area, log⟩).1 = .ok (ofEntries (keyFor name) false []) := by
  by_cases fine : area.IsFine
  · obtain ⟨⟨items, found⟩, isOpen⟩ := fine
    have usable : area.IsUsable items := ⟨isOpen, found⟩
    rw [start_openOn_usable usable other]
    exact openedFrom_none _ (fun stray => proper ⟨items, usable, stray⟩) fun tree holds =>
      treeless tree ⟨items, usable, holds⟩
  · obtain ⟨after, ran, -⟩ := @start_openOn_unfit ⟨area, log⟩ fine name
    rw [ran]

/-- Opening a store under a key other than the one that a medium is tried out with, whatever stands in its
folder, fails only where the item under the key is present without being a text. Otherwise there is a store. It is
durable where the folder can be used and the item holds a tree, which is then its tree; and else it is in memory
with an empty one. -/
theorem openOn_whatever_stands (area : FileArea) (log : List Log.Event) {name : Option String}
    (other : keyFor name ≠ probeKey) :
    let ended := ((openOn name).start ⟨area, log⟩).1
    (area.HasStray (keyFor name) → ended = .error .wrongType) ∧
      (¬ area.HasStray (keyFor name) → ∃ store, ended = .ok store ∧
        (store.durable = true ↔ ∃ tree, area.Offers (keyFor name) tree) ∧
        (∀ tree, area.Offers (keyFor name) tree → store.tree = .obj tree) ∧
        (store.durable = false → store.tree = .obj [])) := by
  intro ended
  refine ⟨fun stray => start_openOn_stray stray other log, fun proper => ?_⟩
  by_cases offered : ∃ tree, area.Offers (keyFor name) tree
  · obtain ⟨tree, offers⟩ := offered
    have made := start_openOn_offered offers other log
    refine ⟨_, made, ⟨fun _ => ⟨tree, offers⟩, fun _ => rfl⟩, fun again others => ?_, fun idle => by cases idle⟩
    -- An area offers one tree, since one store is made.
    have same := Except.ok.inj (made.symm.trans (start_openOn_offered others other log))
    rw [same]
    exact tree_ofEntries _ _ _
  · have made := start_openOn_treeless proper (fun tree offers => offered ⟨tree, offers⟩) other log
    refine ⟨_, made, ⟨fun durable => (by cases durable), fun offers => absurd offers offered⟩, fun tree offers => ?_,
      fun _ => tree_ofEntries _ _ _⟩
    exact absurd ⟨tree, offers⟩ offered

/-- A file with a tree under the key is one for a durable store with this tree. -/
theorem openOn_whatever_stands_file :
    let tree : Entries Json := [("x", .int 1)]
    let area := FileArea.holding { root := "data" } [("k", .str "\x7b\"x\": 1\x7d")]
    keyFor (some "k") ≠ probeKey ∧ area.Offers "k" tree ∧
      ∃ store, ((openOn (some "k")).start ⟨area, []⟩).1 = .ok store ∧ store.durable = true ∧
        store.tree = .obj tree := by
  intro tree area
  have other : keyFor (some "k") ≠ probeKey := by decide
  have sound : Json.IsSound (.obj tree) := ⟨⟨List.nodup_singleton _, trivial, trivial⟩, rfl⟩
  have written : (Json.obj tree).written = "\x7b\"x\": 1\x7d" := by decide +kernel
  have read : Json.read "\x7b\"x\": 1\x7d" = .ok (.obj tree) := written ▸ Json.read_written sound
  have whole : Json.IsSound (.obj [("k", .str "\x7b\"x\": 1\x7d")]) :=
    ⟨⟨List.nodup_singleton _, trivial, trivial⟩, rfl⟩
  have usable : area.IsUsable [("k", .str "\x7b\"x\": 1\x7d")] := ⟨nofun, FileArea.entries_holding _ whole⟩
  have offers : area.Offers "k" tree := ⟨_, usable, .written rfl read⟩
  have proper : ¬ area.HasStray "k" := by
    rintro ⟨items, same, value, held, -, noText⟩
    rw [Except.ok.inj (same.2.symm.trans usable.2)] at held
    cases held
    cases noText
  obtain ⟨store, opened, durable, trees, -⟩ := (openOn_whatever_stands area [] other).2 proper
  exact ⟨other, offers, store, opened, durable.mpr ⟨tree, offers⟩, trees tree offers⟩

/-- A number under the key, in a file that is as good as any, lets the opening fail. -/
theorem number_fails_openOn :
    let area := FileArea.holding { root := "data" } [("k", .int 5)]
    keyFor (some "k") ≠ probeKey ∧ area.entries = .ok [("k", .int 5)] ∧
      ((openOn (some "k")).start ⟨area, []⟩).1 = .error .wrongType := by
  intro area
  have sound : Json.IsSound (.obj [("k", .int 5)]) := ⟨⟨List.nodup_singleton _, trivial, trivial⟩, rfl⟩
  have usable : area.IsUsable [("k", .int 5)] := ⟨nofun, FileArea.entries_holding _ sound⟩
  have other : keyFor (some "k") ≠ probeKey := by decide
  refine ⟨other, usable.2, ?_⟩
  rw [start_openOn_usable usable other]
  rfl

end Store

end ChatWidget
