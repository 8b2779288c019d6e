import ChatWidget.Proofs.Client.Activation
import ChatWidget.Proofs.Client.Steady
import ChatWidget.Proofs.Store.File
import ChatWidget.Proofs.Store.Saved
/-!
Reloading a page. A client that is made anew on the area of an earlier one finds the history that this one
had at the end, and shows the same messages once it restores them.
-/
namespace ChatWidget

namespace Client

variable {μ : Type} [StorageArea μ]

/-! ### The earlier client -/

section

variable {area : Mapping μ} {fine : μ → Prop} {key : String}

/-- As long as the medium works, it keeps the tree of a client's store through all turns. -/
theorem saved_steady (works : Mapping.Works fine) :
    IsSteady fun now : Client × Surroundings μ =>
      Store.IsSaved area fine key (now.1.store, now.2.medium) where
  blind _ _ saved := saved
  clear := by
    intro s saved
    rw [Op.start_bind, current, Op.start_read]
    exact History.clear_saved works s.state.1.history
      (s := ⟨(s.state.1.store, s.state.2.medium), s.log⟩) saved
  record := by
    intro fragment s saved
    unfold record
    rw [Op.start_bind, current, Op.start_read]
    exact History.append_saved works s.state.1.history fragment
      (s := ⟨(s.state.1.store, s.state.2.medium), s.log⟩) saved

/-- Is the conversation of a client one that is shown, recorded and saved? -/
structure IsSettled (area : Mapping μ) (fine : μ → Prop) (key : String) (now : Client × Surroundings μ) :
    Prop where
  agrees : ∃ slots, Agrees fine now slots
  saved : Store.IsSaved area fine key (now.1.store, now.2.medium)
  history : now.1.history = {}

theorem play_settled (works : Mapping.Works fine) (start : Logged (Client × Surroundings μ))
    (fresh : IsFresh fine start.state)
    (saved : Store.IsSaved area fine key (start.state.1.store, start.state.2.medium))
    (history : start.state.1.history = {}) (turns : List Turn) :
    IsSettled area fine key (play turns start).state := by
  have plain : IsSteady fun now : Client × Surroundings μ => now.1.history = {} :=
    .aside (fun _ _ same => same) fun _ _ same => same
  exact ⟨(play_holds works.failsSoftly turns fresh.holds).agrees,
    (saved_steady works).play (IsDeaf.posts fun _ _ holds => holds) turns saved,
    plain.play (IsDeaf.posts fun _ _ same => same) turns history⟩

end

def restoring : Json := .arr [.obj [("command", .str "restore")]]

theorem start_restoring {s after : Logged (Client × Surroundings μ)}
    (done : (restore .null).start s = (.ok (), after)) :
    (execute restoring).start s = (.ok { executed := ["restore"] }, after) := by
  have called : Batch.handlerFor (handlers (μ := μ)) (.obj [("command", .str "restore")]) =
      .ok (fun _ => restore, ⟨"restore", .null⟩) := rfl
  have ran : ∀ run, (Batch.runEntry (handlers (μ := μ)) run {} (.obj [("command", .str "restore")])).start s =
      (.ok { executed := ["restore"] }, after) := by
    intro run
    unfold Batch.runEntry
    rw [called]
    dsimp only
    rw [Op.start_bind, Op.start_attempt, done]
    rfl
  unfold execute Batch.execute restoring
  rw [Batch.executeWithin, List.foldlM_cons, Op.start_bind_ok (ran _)]
  rfl

/-- A client that is made over what an earlier one has saved shows the messages of this one, once it
restores them, and has the same history. -/
theorem IsSettled.reload {area : Mapping μ} {fine : μ → Prop} (works : Mapping.Works fine)
    {settings : Settings} (other : Store.keyFor (some settings.storageKey) ≠ Store.probeKey)
    {last : Client × Surroundings μ}
    (settled : IsSettled area fine (Store.keyFor (some settings.storageKey)) last) {activation : Activation}
    {site : Site} {who : String} (found : siteFor settings activation = .ok (some site))
    (identity : site.identity = .str who) {document : Document} {elements : Elements Listener}
    (page : IsPage document elements) (wire : Wire) (log : List Log.Event) :
    ∃ second there restored,
      (activate settings activation document elements).start ⟨⟨last.2.medium, wire⟩, log⟩ =
        (.ok (some second), there) ∧
      (execute restoring).start ⟨(second, there.state), there.log⟩ =
        (.ok { executed := ["restore"] }, restored) ∧
      ∃ nodes entries,
        last.1.widget.elements.AllShow (fun _ => True) last.1.widget.messages nodes ∧
        restored.state.1.widget.elements.AllShow (fun _ => True) restored.state.1.widget.messages
          (nodes.filter (! Widget.isPending ·)) ∧
        last.1.history.all last.1.store = .ok entries ∧
        restored.state.1.history.all restored.state.1.store = .ok entries := by
  obtain ⟨slots, agrees⟩ := settled.agrees
  obtain ⟨nodes, shown, messages, -⟩ := agrees.displayed
  have kept := settled.saved.kept
  cases document_ : Store.document (Store.keyFor (some settings.storageKey))
    (area.item last.2.medium (Store.keyFor (some settings.storageKey))) with
  | error fault =>
    rw [document_] at kept
    cases kept
  | ok entries =>
    rw [document_] at kept
    obtain ⟨after, opened, -⟩ :=
      Store.openOn_saved works other ⟨last.2.medium, log⟩ settled.saved.fine document_
    obtain ⟨second, there, activated, -, widget, store, history, -, -⟩ :=
      start_activate found identity document elements wire opened
    have same : second.history.all second.store = last.1.history.all last.1.store := by
      have tree : second.store.tree = last.1.store.tree := by
        rw [store, Store.tree_ofEntries]
        exact Except.ok.inj kept
      have inside := (Store.ofEntries_isOrderly (Store.keyFor (some settings.storageKey)) true entries).inside
      rw [← store] at inside
      rw [history, settled.history, History.all_eq_tree inside,
        History.all_eq_tree agrees.records.orderly.inside, tree]
    have recorded := same.trans agrees.records.found
    obtain ⟨owner, displays⟩ := Widget.create_displays page.closed page.root page.head
    rw [← widget] at displays
    obtain ⟨again, owner, done, displayed⟩ :=
      start_restore .null (s := ⟨(second, there.state), there.log⟩) displays recorded
    refine ⟨second, there, _, activated, start_restoring done, nodes, _, shown, ?_, agrees.records.found,
      recorded⟩
    rw [messages]
    exact displayed.shown.frame fun _ _ => ⟨trivial, rfl⟩

/-- Is this a page that a client can be made for, with somebody who is talking? -/
structure IsVisit (settings : Settings) (activation : Activation) (document : Document)
    (elements : Elements Listener) : Prop where
  site : ∃ site who, siteFor settings activation = .ok (some site) ∧ site.identity = .str who
  page : IsPage document elements

/-- A client that is made over an area with nothing in it is a fresh one, and its store is saved. -/
theorem start_activate_fresh {area : Mapping μ} {fine : μ → Prop} (works : Mapping.Works fine)
    {settings : Settings} (other : Store.keyFor (some settings.storageKey) ≠ Store.probeKey)
    {activation : Activation} {document : Document} {elements : Elements Listener}
    (visit : IsVisit settings activation document elements) {medium : μ} (finely : fine medium)
    (nothing : Store.document (Store.keyFor (some settings.storageKey))
      (area.item medium (Store.keyFor (some settings.storageKey))) = .ok [])
    (wire : Wire) (log : List Log.Event) :
    ∃ first before, (activate settings activation document elements).start ⟨⟨medium, wire⟩, log⟩ =
        (.ok (some first), before) ∧
      IsFresh fine (first, before.state) ∧
      Store.IsSaved area fine (Store.keyFor (some settings.storageKey)) (first.store, before.state.medium) ∧
      first.history = {} := by
  obtain ⟨site, who, found, identity⟩ := visit.site
  obtain ⟨after, opened, saved⟩ := Store.openOn_saved works other ⟨medium, log⟩ finely nothing
  obtain ⟨first, before, activated, there, widget, store, history, quiet, same, -, -⟩ :=
    start_activate found identity document elements wire opened
  rw [← store, ← same] at saved
  have opened_ : (Store.openOn (some settings.storageKey)).start ⟨medium, log⟩ =
      (.ok first.store, ⟨before.state.medium, after.log⟩) := by
    rw [opened, store, same]
  refine ⟨first, before, activated, ?_, saved, history⟩
  refine ⟨⟨document, elements, visit.page, widget⟩, ⟨_, _, _, opened_⟩, saved.fine, ?_, ?_, ⟨who, ?_⟩, quiet⟩
  · rw [history]
    exact ⟨"history", [], rfl⟩
  · have inside := (Store.ofEntries_isOrderly (Store.keyFor (some settings.storageKey)) true []).inside
    dsimp only
    rw [history, store, History.all_eq_tree inside, Store.tree_ofEntries]
    rfl
  · rw [there]
    exact identity

/-- A reload of a page shows the same conversation. Take a client on a file that has nothing in it yet, under
any key but the one that areas are tried out with, and any turns with it. A second client on what is in the
file then, under the same key, shows the same messages once it restores them, apart from the bubbles of
awaited answers, and has the same history. -/
theorem reload_shows_same {settings again : Settings} (key : again.storageKey = settings.storageKey)
    (other : Store.keyFor (some settings.storageKey) ≠ Store.probeKey)
    {area : FileArea} (empty : area.entries = .ok []) (isFolder : area.folder ≠ .blocked)
    {activation reactivation : Activation} {document redocument : Document}
    {elements reelements : Elements Listener} (visit : IsVisit settings activation document elements)
    (revisit : IsVisit again reactivation redocument reelements) (turns : List Turn) (wire rewire : Wire)
    (log relog : List Log.Event) :
    ∃ first before, (activate settings activation document elements).start ⟨⟨area, wire⟩, log⟩ =
        (.ok (some first), before) ∧
      let last := (play turns ⟨(first, before.state), before.log⟩).state
      ∃ second there restored,
        (activate again reactivation redocument reelements).start ⟨⟨last.2.medium, rewire⟩, relog⟩ =
          (.ok (some second), there) ∧
        (execute restoring).start ⟨(second, there.state), there.log⟩ =
          (.ok { executed := ["restore"] }, restored) ∧
        ∃ nodes entries,
          last.1.widget.elements.AllShow (fun _ => True) last.1.widget.messages nodes ∧
          restored.state.1.widget.elements.AllShow (fun _ => True) restored.state.1.widget.messages
            (nodes.filter (! Widget.isPending ·)) ∧
          last.1.history.all last.1.store = .ok entries ∧
          restored.state.1.history.all restored.state.1.store = .ok entries := by
  have fine : area.IsFine := ⟨⟨[], empty⟩, isFolder⟩
  have nothing : Store.document (Store.keyFor (some settings.storageKey))
      (FileArea.mapping.item area (Store.keyFor (some settings.storageKey))) = .ok [] := by
    change Store.document _ (area.item _) = _
    rw [FileArea.item_eq empty]
    rfl
  obtain ⟨first, before, activated, fresh, saved, history⟩ :=
    start_activate_fresh FileArea.works other visit fine nothing wire log
  have settled := play_settled FileArea.works ⟨(first, before.state), before.log⟩ fresh saved
    history turns
  obtain ⟨site, who, found, identity⟩ := revisit.site
  rw [← key] at other settled
  exact ⟨first, before, activated,
    settled.reload FileArea.works other found identity revisit.page rewire relog⟩

/-- Here the user says something before and after the server does, and an answer is still awaited at the
end. -/
theorem reload_shows_same_awaiting :
    let settings : Settings := { identity := some "me" }
    let page := Document.create ({} : Elements Listener)
    let turns : List Turn := [.init .null, .submit "a<b", .text (.str "\u00e9\n"), .submit " more "]
    IsVisit settings {} page.1 page.2 ∧
      Store.keyFor (some settings.storageKey) ≠ Store.probeKey ∧
      ∃ first before second there restored nodes,
        (activate settings {} page.1 page.2).start ⟨⟨({ root := "r" } : FileArea), {}⟩, []⟩ =
          (.ok (some first), before) ∧
        let last := (play turns ⟨(first, before.state), before.log⟩).state
        (activate settings {} page.1 page.2).start ⟨⟨last.2.medium, {}⟩, []⟩ = (.ok (some second), there) ∧
        (execute restoring).start ⟨(second, there.state), there.log⟩ =
          (.ok { executed := ["restore"] }, restored) ∧
        last.1.widget.elements.AllShow (fun _ => True) last.1.widget.messages nodes ∧
        restored.state.1.widget.elements.AllShow (fun _ => True) restored.state.1.widget.messages
          (nodes.filter (! Widget.isPending ·)) ∧
        restored.state.1.history.all restored.state.1.store = last.1.history.all last.1.store := by
  intro settings page turns
  have visit : IsVisit { identity := some "me" } {} page.1 page.2 :=
    ⟨⟨⟨"http://localhost:8080/", "http://localhost:8080/responsio/", .str "me"⟩, "me", by rfl, rfl⟩,
      create_isPage⟩
  have other : Store.keyFor (some settings.storageKey) ≠ Store.probeKey := by decide
  generalize turns = turns
  obtain ⟨first, before, activated, second, there, restored, again, done, nodes, entries, shown, shownAgain,
      all, same⟩ :=
    reload_shows_same rfl other (show ({ root := "r" } : FileArea).entries = .ok [] from rfl) nofun visit visit
      turns {} {} [] []
  exact ⟨visit, other, first, before, second, there, restored, nodes, activated, again, done, shown,
    shownAgain, same.trans all.symm⟩

end Client

end ChatWidget
