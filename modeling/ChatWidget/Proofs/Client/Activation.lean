import ChatWidget.Client.Activate
import ChatWidget.Proofs.Client.Speaking
import ChatWidget.Proofs.Net.Discovery
import ChatWidget.Proofs.Store.Folder
/-!
Making a client. Who is talking, and where the script and the page are, is given or else comes from the settings.
Without an identity, or with a script that is not this widget's, there is no client, and neither the medium nor the
wire is touched. Otherwise there is one, as long as the medium fails in no other way than those that a store can do
without it for.
-/
namespace ChatWidget

/-! ### Addresses that cannot be read -/

namespace UrlParts

theorem split_error {scheme address : List Char} {fault : Fault} (failed : split scheme address = .error fault) :
    ∃ reason, fault = .badValue reason := by
  have refused : ∀ authority, checkAuthority authority = .error fault → ∃ reason, fault = .badValue reason := by
    intro authority refused
    unfold checkAuthority at refused
    split_ifs at refused
    · cases refused
      exact ⟨_, rfl⟩
    · cases refused
      exact ⟨_, rfl⟩
  unfold split at failed
  dsimp only at failed
  rcases bind_error failed with checked | ⟨_, -, rest⟩
  · exact refused _ checked
  · cases rest

theorem join_error {base address : List Char} {fault : Fault} (failed : join base address = .error fault) :
    ∃ reason, fault = .badValue reason := by
  unfold join at failed
  split at failed
  next => cases failed
  next =>
    split at failed
    next => cases failed
    next =>
      rcases bind_error failed with failed | ⟨_, -, failed⟩
      · exact split_error failed
      · rcases bind_error failed with failed | ⟨_, -, failed⟩
        · exact split_error failed
        · dsimp only at failed
          split_ifs at failed
          all_goals cases failed

end UrlParts

/-! ### Media that a store can be opened over -/

namespace Store

variable {μ : Type}

/-- From the given states on, does an operation on a medium fail in no other way than those that a store can do
without the medium for? -/
def FailsAsOutage {α : Type} (fine : μ → Prop) (op : Op μ α) : Prop :=
  ∀ now, fine now.state → fine (op.start now).2.state ∧ ∀ fault, (op.start now).1 = .error fault → isOutage fault = true

theorem FailsAsOutage.bind {α β : Type} {fine : μ → Prop} {op : Op μ α} {next : α → Op μ β}
    (first : FailsAsOutage fine op)
    (second : ∀ a now after, fine now.state → op.start now = (.ok a, after) → fine after.state →
      fine ((next a).start after).2.state ∧
        ∀ fault, ((next a).start after).1 = .error fault → isOutage fault = true) :
    FailsAsOutage fine (op >>= next) := by
  intro now finely
  obtain ⟨still, outage⟩ := first now finely
  rcases ended : op.start now with ⟨fault | a, after⟩
  · rw [ended] at still outage
    rw [Op.start_bind_error ended]
    refine ⟨still, fun same failed => outage same ?_⟩
    cases failed
    rfl
  · rw [ended] at still
    rw [Op.start_bind_ok ended]
    exact second a now after finely ended still

variable [StorageArea μ]

/-- From the given states on a medium fails only so, and the item that it has under the key is missing or a text. -/
structure IsProper (fine : μ → Prop) (key : String) : Prop where
  setItem : ∀ other text, FailsAsOutage fine (StorageArea.setItem other text)
  removeItem : ∀ other, FailsAsOutage fine (StorageArea.removeItem other)
  getItem : FailsAsOutage fine (StorageArea.getItem key)
  text : ∀ (now : Logged μ) (value : Json), fine now.state →
    ((StorageArea.getItem key).start now).1 = .ok (some value) → ∃ text, value = .str text

theorem IsProper.probe {fine : μ → Prop} {key : String} (proper : IsProper fine key) :
    FailsAsOutage fine (probe key) := by
  have load : FailsAsOutage fine (load key) := by
    refine proper.getItem.bind fun item now after finely found still => ⟨still, fun fault failed => ?_⟩
    have noStray : ¬ IsStray item := by
      rintro ⟨value, rfl, -, noText⟩
      obtain ⟨text, rfl⟩ := proper.text now value finely (by rw [found])
      cases noText
    exact document_outage noStray failed
  have removes : FailsAsOutage fine (StorageArea.removeItem (μ := μ) probeKey >>= fun _ => Store.load key) :=
    (proper.removeItem probeKey).bind fun _ _ after _ _ still => load after still
  exact (proper.setItem probeKey probeKey).bind fun _ _ after _ _ still => removes after still

theorem start_openOn_proper {fine : μ → Prop} {name : Option String} (proper : IsProper fine (keyFor name))
    (medium : Logged μ) (finely : fine medium.state) :
    ∃ store after, (openOn name).start medium = (.ok store, after) := by
  unfold openOn
  dsimp only
  rw [Op.start_bind, Op.whole, Op.start_read]
  dsimp only [id]
  split
  next => exact ⟨_, _, rfl⟩
  next =>
    rw [Op.start_bind, Op.start_attempt]
    obtain ⟨-, outage⟩ := proper.probe medium finely
    rcases tried : (probe (keyFor name)).start medium with ⟨fault | entries, after⟩
    · dsimp only
      rw [if_pos (outage fault (by rw [tried]))]
      exact ⟨_, _, rfl⟩
    · exact ⟨_, _, rfl⟩

end Store

namespace MapArea

/-- Does an area fail only so, with nothing or a text under a key? -/
def IsProper (key : String) (area : MapArea) : Prop :=
  Store.isOutage area.outage = true ∧ ∀ value, area.items.get? key = some value → ∃ text, value = .str text

theorem IsProper.update {key other : String} {area : MapArea} (fine : area.IsProper key) {items : Entries Json}
    {written : Option Json} (changed : items.get? = Function.update area.items.get? other written)
    (texts : ∀ value, written = some value → ∃ text, value = .str text) :
    ∀ value, items.get? key = some value → ∃ text, value = .str text := by
  intro value found
  rw [changed] at found
  by_cases same : key = other
  · rw [same, Function.update_self] at found
    exact texts value found
  · rw [Function.update_of_ne same] at found
    exact fine.2 value found

theorem isProper (key : String) : Store.IsProper (IsProper key) key where
  setItem other text now fine := by
    change IsProper key ((MapArea.setItem other text).start now).2.state ∧
      ∀ fault, ((MapArea.setItem other text).start now).1 = .error fault → _
    rw [start_setItem]
    split
    next =>
      refine ⟨fine, fun fault failed => ?_⟩
      cases failed
      exact fine.1
    next =>
      have written : ∀ value, some (Json.str text) = some value → ∃ text, value = .str text :=
        fun value is => ⟨text, (Option.some.inj is).symm⟩
      exact ⟨⟨fine.1, fine.update (get?_put _ _ _) written⟩, nofun⟩
  removeItem other now fine := by
    change IsProper key ((MapArea.removeItem other).start now).2.state ∧
      ∀ fault, ((MapArea.removeItem other).start now).1 = .error fault → _
    rw [start_removeItem]
    split
    next =>
      refine ⟨fine, fun fault failed => ?_⟩
      cases failed
      exact fine.1
    next => exact ⟨⟨fine.1, fine.update (get?_erase _ _) nofun⟩, nofun⟩
  getItem now fine := by
    change IsProper key ((MapArea.getItem key).start now).2.state ∧
      ∀ fault, ((MapArea.getItem key).start now).1 = .error fault → _
    rw [start_getItem]
    refine ⟨fine, fun fault failed => ?_⟩
    dsimp only at failed
    split at failed
    next =>
      cases failed
      exact fine.1
    next => cases failed
  text now value fine found := by
    change ((MapArea.getItem key).start now).1 = _ at found
    rw [start_getItem] at found
    dsimp only at found
    split at found
    next => cases found
    next => exact fine.2 value (Except.ok.inj found)

end MapArea

namespace Client

variable {μ : Type}

theorem start_perform {α : Type} {client : Client} {op : ClientOn μ α} {s : Logged (Surroundings μ)} {value : α}
    {after : Logged (Client × Surroundings μ)}
    (done : op.start ⟨(client, s.state), s.log⟩ = (.ok value, after)) :
    (client.perform op).start s = (.ok (value, after.state.1), ⟨after.state.2, after.log⟩) := by
  have performed : (client.perform op).start s =
      ((op.start ⟨(client, s.state), s.log⟩).1.map
          fun value => (value, (op.start ⟨(client, s.state), s.log⟩).2.state.1),
        ⟨(op.start ⟨(client, s.state), s.log⟩).2.state.2, (op.start ⟨(client, s.state), s.log⟩).2.log⟩) := rfl
  rw [performed, done]
  rfl

def requestsOf : Except Fault Exchange → List Request
  | .ok exchange => [exchange.request]
  | .error _ => []

/-- The requests that a new client of a site begins with: the one for what to begin with, if it can be prepared. -/
def firstRequests (site : Site) (who : String) (now : Int) : List Request :=
  requestsOf (Exchange.prepare site {} now (callFor "GET" "init" who .null))

theorem arrived_firstRequests (site : Site) (who : String) (wire : Wire) (callbacks : Callbacks Callback) :
    (({ site } : Transport Callback).afterIssue wire (callFor "GET" "init" who .null) callbacks).2.arrived =
      wire.arrived ++ firstRequests site who wire.now := by
  obtain ⟨-, arrived⟩ :=
    Transport.arrived_afterIssue ({ site } : Transport Callback) wire (callFor "GET" "init" who .null) callbacks
  refine arrived.trans ?_
  unfold firstRequests
  dsimp only
  cases Exchange.prepare site {} wire.now (callFor "GET" "init" who .null) with
  | error fault => rfl
  | ok exchange => rfl

variable [StorageArea μ]

/-- A client is made with a store that is opened for it and with nothing said yet. It asks for what to begin with, if it
is to. -/
theorem start_activate {settings : Settings} {activation : Activation} {site : Site} {who : String}
    (found : siteFor settings activation = .ok (some site)) (identity : site.identity = .str who)
    (document : Document) (elements : Elements Listener) {medium : μ} (wire : Wire) {log : List Log.Event}
    {store : Store} {after : Logged μ}
    (opened : (Store.openOn (some settings.storageKey)).start ⟨medium, log⟩ = (.ok store, after)) :
    ∃ client last, (activate settings activation document elements).start ⟨⟨medium, wire⟩, log⟩ =
        (.ok (some client), last) ∧
      client.site = site ∧ client.widget = Widget.create document elements ∧ client.store = store ∧
      client.history = {} ∧ client.sent "POST" = [] ∧ last.state.medium = after.state ∧
      client.transport.issued = (if activation.boot then [callFor "GET" "init" who .null] else []) ∧
      last.state.wire.arrived = wire.arrived ++ if activation.boot then firstRequests site who wire.now else [] := by
  obtain ⟨client, same⟩ : ∃ client : Client, client =
    { site, settings, widget := Widget.create document elements, store, transport := { site } } := ⟨_, rfl⟩
  have transport : client.transport = { site } := by rw [same]
  have made : (open_ settings site (Widget.create document elements)).start ⟨⟨medium, wire⟩, log⟩ =
      (.ok client, ⟨⟨after.state, wire⟩, after.log⟩) := by
    unfold open_
    rw [Op.start_bind, Op.start_within, opened, same]
    rfl
  unfold activate
  rw [found]
  dsimp only
  rw [Op.start_bind_ok made, Op.start_bind, Op.start_note]
  dsimp only
  cases activation.boot with
  | false =>
    refine ⟨client, ⟨⟨after.state, wire⟩, _⟩, rfl, ?_, ?_, ?_, ?_, ?_, rfl, ?_, (List.append_nil _).symm⟩
    all_goals rw [same]
    all_goals rfl
  | true =>
    have who_ : client.site.identity = .str who := by
      rw [same]
      exact identity
    let event := Log.Event.activated site.identity site.service client.store.durable
    obtain ⟨callbacks, last, booted⟩ := start_converse
      (s := ⟨(client, (⟨after.state, wire⟩ : Surroundings μ)), after.log ++ [event]⟩) who_ "GET" "init" .null
    have issued := Transport.issued_afterIssue ({ site } : Transport Callback) wire
      (callFor "GET" "init" who .null) callbacks
    have arrived := arrived_firstRequests site who wire callbacks
    dsimp only at booted
    rw [transport] at booted
    obtain ⟨sent, is⟩ : ∃ sent, ({ site } : Transport Callback).afterIssue wire
      (callFor "GET" "init" who .null) callbacks = sent := ⟨_, rfl⟩
    rw [is] at issued
    rw [is] at arrived
    rw [is] at booted
    refine ⟨{ client with transport := sent.1 }, ⟨⟨after.state, sent.2⟩, last⟩, ?_, ?_, ?_, ?_, ?_, ?_, rfl, ?_, ?_⟩
    · rw [if_pos (rfl : true = true), Op.start_bind_ok (start_perform booted)]
      rfl
    · rw [same]
    · rw [same]
    · rw [same]
    · rw [same]
    · change (sent.1.issued.filter (·.method == "POST")).map (·.data) = []
      rw [issued]
      rfl
    · rw [if_pos rfl]
      exact issued
    · rw [if_pos rfl]
      exact arrived

/-! ### What is given, and what the settings have -/

/-- A text that is given and is not empty. -/
def present (given : Option String) : Option String := given.filter fun text => !text.isEmpty

def identityOf (settings : Settings) (identity : Option String) : Option String :=
  (present identity).or (present settings.identity)

def scriptOf (settings : Settings) (script : Option String) : String := (present script).getD settings.scriptSrc

/-- Where the page is. -/
def pageOf (settings : Settings) (page : Option String) : String := (present page).getD settings.pageUrl

/-- The parts of the script's own address, if there is one that can be read. -/
def scriptParts (page script : String) : Except Fault UrlParts :=
  UrlParts.join page.toList script.toList >>= UrlParts.split []

theorem present_text (text : String) : present (some text) = if text.isEmpty then none else some text := by
  rw [present, Option.filter_some]
  cases text.isEmpty with
  | true => rfl
  | false => rfl

theorem isTruthy_text (text : String) : (Json.str text).isTruthy = !text.isEmpty := by
  rw [Json.isTruthy]
  by_cases empty : text = ""
  · rw [empty]
    rfl
  · have other : text.isEmpty = false := by
      rw [← Bool.not_eq_true, String.isEmpty_iff]
      exact empty
    rw [other, bne_iff_ne.mpr empty]
    rfl

theorem ofOption_orElse (given : Option String) (other : String) :
    (Json.ofOption given).orElse (.str other) = .str ((present given).getD other) := by
  cases given with
  | none => rfl
  | some text =>
    rw [Json.orElse, Json.ofOption, isTruthy_text, present, Option.filter_some]
    split
    next => rfl
    next => rfl

theorem identityOf_eq (settings : Settings) (identity : Option String) :
    (Json.ofOption identity).orElse (Json.ofOption settings.identity) = Json.ofOption (identityOf settings identity) ∨
      identityOf settings identity = none ∧
        ((Json.ofOption identity).orElse (Json.ofOption settings.identity)).isTruthy = false := by
  have fallback : (Json.ofOption settings.identity) = Json.ofOption (present settings.identity) ∨
      present settings.identity = none ∧ (Json.ofOption settings.identity).isTruthy = false := by
    cases settings.identity with
    | none => exact .inl rfl
    | some text =>
      rw [present_text, Json.ofOption, isTruthy_text]
      cases text.isEmpty with
      | true => exact .inr ⟨rfl, rfl⟩
      | false => exact .inl rfl
  unfold identityOf Json.orElse
  cases identity with
  | none => exact fallback
  | some text =>
    rw [present_text, Json.ofOption, isTruthy_text]
    cases text.isEmpty with
    | true => exact fallback
    | false => exact .inl rfl

/-- The site that texts, and where they are missing the settings, tell of. -/
theorem siteFor_texts (settings : Settings) (script page identity : Option String) (boot : Bool) :
    siteFor settings ⟨.ofOption script, .ofOption page, .ofOption identity, boot⟩ =
      match identityOf settings identity with
      | none => .ok none
      | some who =>
        Site.discover (.str (scriptOf settings script)) (.str (pageOf settings page)) (.str who) := by
  unfold siteFor
  dsimp only
  rw [ofOption_orElse, ofOption_orElse]
  rcases identityOf_eq settings identity with same | ⟨nobody, absent⟩
  · rw [same]
    cases identityOf settings identity with
    | none => rfl
    | some who => rfl
  · rw [nobody]
    unfold Site.discover
    rw [absent]
    rfl

theorem identityOf_isTruthy {settings : Settings} {identity : Option String} {who : String}
    (known : identityOf settings identity = some who) : (Json.str who).isTruthy = true := by
  rw [isTruthy_text]
  rcases Option.or_eq_some_iff.mp known with given | ⟨-, given⟩
  · exact (Option.filter_eq_some_iff.mp given).2
  · exact (Option.filter_eq_some_iff.mp given).2

theorem discover_unreadable {page script who : String} (someone : (Json.str who).isTruthy = true) {fault : Fault}
    (failed : scriptParts page script = .error fault) :
    Site.discover (.str script) (.str page) (.str who) = .error fault := by
  unfold Site.discover
  rw [someone, Site.scriptAddress_text, if_neg (by decide : ¬ (!true) = true)]
  unfold scriptParts at failed
  cases joined : UrlParts.join page.toList script.toList with
  | error other =>
    rw [joined] at failed
    cases failed
    rfl
  | ok address =>
    rw [joined] at failed
    replace failed : UrlParts.split [] address = .error fault := failed
    dsimp only [bind, Except.bind]
    rw [failed]

/-- Where it can be read, there is a site exactly if it ends with the place of the script. -/
theorem discover_readable {page script who : String} (someone : (Json.str who).isTruthy = true) {parts : UrlParts}
    (read : scriptParts page script = .ok parts) :
    Fault.scriptName.toList <:+ parts.path ∧
        (∃ site, Site.discover (.str script) (.str page) (.str who) = .ok (some site) ∧ site.identity = .str who) ∨
      ¬ Fault.scriptName.toList <:+ parts.path ∧
        Site.discover (.str script) (.str page) (.str who) = .error (.unknownScript (.str script)) := by
  obtain ⟨address, joined, read⟩ := bind_ok read
  rw [Site.discover_eq someone joined read]
  by_cases ends : Fault.scriptName.toList <:+ parts.path
  · obtain ⟨before, path⟩ := ends
    rw [Site.rootOf_some path.symm]
    exact .inl ⟨⟨before, path⟩, _, rfl, rfl⟩
  · rw [Site.rootOf_none ends]
    exact .inr ⟨ends, rfl⟩

theorem scriptParts_error {page script : String} {fault : Fault} (failed : scriptParts page script = .error fault) :
    ∃ reason, fault = .badValue reason := by
  rcases bind_error failed with failed | ⟨_, -, failed⟩
  · exact UrlParts.join_error failed
  · exact UrlParts.split_error failed

/-- Without a site nothing but the log changes, and it tells why. -/
theorem start_activate_refused (settings : Settings) (activation : Activation) (document : Document)
    (elements : Elements Listener) (s : Logged (Surroundings μ)) :
    (siteFor settings activation = .ok none →
      (activate settings activation document elements).start s = (.ok none, { s with log := s.log ++ [.identityMissing] })) ∧
    (∀ script, siteFor settings activation = .error (.unknownScript script) →
      (activate settings activation document elements).start s =
        (.ok none, { s with log := s.log ++ [.scriptNotRecognised script] })) ∧
    ∀ reason, siteFor settings activation = .error (.badValue reason) →
      (activate settings activation document elements).start s = (.error (.badValue reason), s) := by
  unfold activate
  refine ⟨fun nobody => ?_, fun script foreign => ?_, fun reason unreadable => ?_⟩
  · rw [nobody]
    rfl
  · rw [foreign]
    rfl
  · rw [unreadable]
    rfl

/-- The ways in which making a client ends: nobody is talking, the script's own address cannot be read or is not one of
this widget's script, or there is a client. -/
inductive Ends (s : Logged (Surroundings μ)) (script page : String) (boot : Bool) : Option String →
    Except Fault UrlParts → Except Fault (Option Client) → Surroundings μ → Prop where
  | nobody {parts : Except Fault UrlParts} : Ends s script page boot none parts (.ok none) s.state
  | unreadable {who : String} (fault : Fault) :
      Ends s script page boot (some who) (.error fault) (.error fault) s.state
  | foreign {who : String} {parts : UrlParts} : ¬ Fault.scriptName.toList <:+ parts.path →
      Ends s script page boot (some who) (.ok parts) (.ok none) s.state
  | made {who : String} {parts : UrlParts} {client : Client} {after : Surroundings μ} :
      Fault.scriptName.toList <:+ parts.path →
      Site.discover (.str script) (.str page) (.str who) = .ok (some client.site) →
      client.transport.issued = (if boot then [callFor "GET" "init" who .null] else []) →
      after.wire.arrived =
        s.state.wire.arrived ++ (if boot then firstRequests client.site who s.state.wire.now else []) →
      Ends s script page boot (some who) (.ok parts) (.ok (some client)) after

theorem start_activate_ends {fine : μ → Prop} (settings : Settings)
    (proper : Store.IsProper fine (Store.keyFor (some settings.storageKey))) {s : Logged (Surroundings μ)}
    (finely : fine s.state.medium) (script page identity : Option String) (boot : Bool) (document : Document)
    (elements : Elements Listener) {ended : Except Fault (Option Client) × Logged (Surroundings μ)}
    (run : (activate settings ⟨.ofOption script, .ofOption page, .ofOption identity, boot⟩ document elements).start s =
      ended) :
    Ends s (scriptOf settings script) (pageOf settings page) boot (identityOf settings identity)
      (scriptParts (pageOf settings page) (scriptOf settings script)) ended.1 ended.2.state := by
  have site := siteFor_texts settings script page identity boot
  obtain ⟨nobody, foreign, unreadable⟩ := start_activate_refused settings
    ⟨.ofOption script, .ofOption page, .ofOption identity, boot⟩ document elements s
  cases known : identityOf settings identity with
  | none =>
    rw [known] at site
    rw [← run, nobody site]
    exact .nobody
  | some who =>
    have someone := identityOf_isTruthy known
    rw [known] at site
    cases read : scriptParts (pageOf settings page) (scriptOf settings script) with
    | error fault =>
      obtain ⟨reason, rfl⟩ := scriptParts_error read
      rw [← run, unreadable reason (site.trans (discover_unreadable someone read))]
      exact .unreadable _
    | ok parts =>
      rcases discover_readable someone read with ⟨ends, discovered, makes, own⟩ | ⟨other, none⟩
      · obtain ⟨store, after, opened⟩ := Store.start_openOn_proper proper ⟨s.state.medium, s.log⟩ finely
        obtain ⟨client, last, made, same, -, -, -, -, -, issued, arrived⟩ :=
          start_activate (site.trans makes) own document elements s.state.wire opened
        rw [← run, made]
        rw [← same] at makes arrived
        exact .made ends makes issued arrived
      · rw [← run, foreign _ (site.trans none)]
        exact .foreign other

end Client

end ChatWidget
