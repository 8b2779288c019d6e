import ChatWidget.Proofs.Client.Contained
import ChatWidget.Proofs.Markup.Stylesheet
import ChatWidget.Proofs.Widget.InPage
/-!
Initialization is all or nothing, and happens once. Until one comes to its end the page has nothing of the
widget, however many fail on the way; the one that does mounts the widget, and none after it does anything.
-/
namespace ChatWidget.Client

open Op (Keeps)
open Widget (Stays IsLater fresh IsChats)

variable {μ : Type}

/-! ### One initialization -/

def baseNode (site : Site) : Markup.Node := Stylesheet.node Stylesheet.baseId (Stylesheet.baseAddress site.root)

/-- May the root of a site stand between quotes in markup, and does it read as it stands? -/
structure IsPlainRoot (site : Site) : Prop where
  unquoted : '"' ∉ site.root.toList
  literal : '&' ∉ site.root.toList

theorem IsPlainRoot.base {site : Site} (plain : IsPlainRoot site) : baseNode? site = .ok (baseNode site) := by
  have unquoted : '"' ∉ (Stylesheet.baseAddress site.root).toList := by
    rw [Stylesheet.baseAddress, String.toList_append, List.mem_append, not_or]
    exact ⟨plain.unquoted, by decide⟩
  have literal : '&' ∉ (Stylesheet.baseAddress site.root).toList := by
    rw [Stylesheet.baseAddress, String.toList_append, List.mem_append, not_or]
    exact ⟨plain.literal, by decide⟩
  rw [baseNode?, Stylesheet.parse_link (by decide) (by decide) unquoted, Markup.unescape_literal literal,
    String.ofList_toList]
  rfl

/-- A style without quotes gives a link to the stylesheet for it, with the references in it resolved. -/
theorem IsPlainRoot.chosen {site : Site} (plain : IsPlainRoot site) {style : String} (unquoted : '"' ∉ style.toList) :
    chosenNode? site style = .ok (Stylesheet.node Stylesheet.chosenId
      (String.ofList (Markup.unescape (Stylesheet.chosenAddress site.root style).toList))) := by
  refine Stylesheet.parse_link (by decide) (by decide) ?_
  simp only [Stylesheet.chosenAddress, String.toList_append, List.mem_append, not_or]
  exact ⟨⟨⟨plain.unquoted, by decide⟩, unquoted⟩, by decide⟩

theorem captionOf_ok (settings : Settings) {options : Json} (writable : (options.field "title").isWritable = true) :
    ∃ caption, captionOf settings options = .ok caption := by
  have titled : (titleOf settings options).isWritable = true := by
    unfold titleOf Json.orElse
    split
    · exact writable
    · cases settings.title <;> rfl
  unfold captionOf
  split
  · refine ⟨some (titleOf settings options).asText, ?_⟩
    rw [Json.toText, if_pos titled]
    rfl
  · exact ⟨none, rfl⟩

theorem start_init_ready (options : Json) {s : Logged (Client × Surroundings μ)}
    (ready : s.state.1.widget.ready = true) :
    (init options).start s = (.ok (), { s with log := s.log ++ [.widgetAlreadyInitialized] }) := by
  unfold init
  rw [Op.start_bind, current, Op.start_read]
  dsimp only
  rw [if_pos ready]
  rfl

/-! ### How a widget may stand -/

/-- Is a widget mounted as the options of an initialization say, or else the settings? -/
def IsMountedBy (site : Site) (settings : Settings) (options : Json) (widget : Widget) : Prop :=
  ∃ attachment style chosen,
    fresh.document.query fresh.elements (selectorOf settings options) = .ok (some attachment) ∧
    (styleOf settings options).toText = .ok style ∧ chosenNode? site style = .ok chosen ∧
    widget.IsInstalled (fun _ => True) attachment chosen (baseNode site)

/-- An initialization that finds a place for the window and has an element to show for the style mounts the
widget. -/
theorem init_mounts {s : Logged (Client × Surroundings μ)} (stays : Stays IsLater fresh s.state.1.widget)
    (plain : IsPlainRoot s.state.1.site) {options : Json} (writable : (options.field "title").isWritable = true)
    {attachment : ElementId} {style : String} {chosen : Markup.Node}
    (begun : IsBegun options s.state.1 attachment style chosen) :
    IsMountedBy s.state.1.site s.state.1.settings options ((init options).start s).2.state.1.widget := by
  have comes := initializes options s
  generalize ((init options).start s).2.state = last at comes ⊢
  cases comes with
  | idle never => exact absurd begun (never attachment style chosen)
  | half _ failed =>
    rw [plain.base] at failed
    cases failed
  | untitled _ _ failed =>
    obtain ⟨caption, titled⟩ := captionOf_ok s.state.1.settings writable
    rw [titled] at failed
    cases failed
  | mounted begun read _ =>
    rw [plain.base] at read
    cases read
    have found := begun.found
    rw [stays.query] at found
    have onPage := Widget.query_onPage found
    exact ⟨_, _, _, found, begun.styled, begun.read, stays.goesOn onPage (stays.walledAgain _ _ onPage _)⟩

/-- How a widget may stand after initializations: it waits, or one of these has mounted it, and all that has
changed since is its chat. -/
inductive Stands (site : Site) (settings : Settings) (inits : List Json) (widget : Widget) : Prop
  | waiting (stays : Stays IsLater fresh widget)
  | mounted {options : Json} {attachment : ElementId} {style : String} {chosen : Markup.Node}
      {caption : Option String} {earlier : Widget} (member : options ∈ inits)
      (found : fresh.document.query fresh.elements (selectorOf settings options) = .ok (some attachment))
      (styled : (styleOf settings options).toText = .ok style) (read : chosenNode? site style = .ok chosen)
      (before : Stays IsLater fresh earlier)
      (stays : Stays (IsChats earlier chosen (baseNode site))
        (earlier.install attachment chosen (baseNode site) caption) widget)

namespace Stands

variable {site : Site} {settings : Settings} {inits : List Json} {widget after : Widget}

theorem changed (stands : Stands site settings inits widget)
    (step : ∀ own before, Stays own before widget → Stays own before after) :
    Stands site settings inits after := by
  cases stands with
  | waiting stays => exact .waiting (step _ _ stays)
  | mounted member found styled read before stays => exact .mounted member found styled read before (step _ _ stays)

theorem cases (stands : Stands site settings inits widget) :
    widget.IsUntouched ∨ ∃ options ∈ inits, IsMountedBy site settings options widget := by
  cases stands with
  | waiting stays => exact .inl stays.untouched
  | mounted member found styled read before stays =>
    have installed := before.goesOn (Widget.query_onPage found) stays
    exact .inr ⟨_, member, _, _, _, found, styled, read, installed⟩

theorem waits (stands : Stands site settings inits widget) (notReady : widget.ready = false) :
    Stays IsLater fresh widget := by
  cases stands with
  | waiting stays => exact stays
  | mounted member found styled read before stays =>
    rw [(before.goesOn (Widget.query_onPage found) stays).ready] at notReady
    cases notReady

theorem listening (stands : Stands site settings inits widget) :
    ∀ listener ∈ widget.elements.listenersFor widget.window.input "keyup", listener = .sendOnEnter := by
  rcases stands.cases with untouched | ⟨options, -, mounted⟩
  · unfold Elements.listenersFor
    intro listener member
    rw [untouched.deaf] at member
    cases member
  · obtain ⟨attachment, style, chosen, -, -, -, installed⟩ := mounted
    exact installed.listening

end Stands

section Standing

/-- Does a client of a site, with its settings, stand as it may after initializations? -/
structure Standing (site : Site) (settings : Settings) (inits : List Json) (now : Client × Surroundings μ) :
    Prop where
  place : now.1.site = site
  setting : now.1.settings = settings
  stands : Stands site settings inits now.1.widget

variable {site : Site} {settings : Settings} {inits : List Json}

theorem Standing.reshown {now : Client × Surroundings μ} (standing : Standing site settings inits now)
    {widget : Widget} (stands : Stands site settings inits widget) :
    Standing site settings inits (putWidget now widget) :=
  ⟨standing.place, standing.setting, stands⟩

/-- An initialization leaves a client standing, whether it fails or not. -/
theorem Standing.init (plain : IsPlainRoot site) {options : Json} (member : options ∈ inits)
    (writable : (options.field "title").isWritable = true) :
    Keeps (Standing (μ := μ) site settings inits) (init options) := by
  intro s standing
  have comes := initializes options s
  generalize ((Client.init options).start s).2.state = last at comes ⊢
  cases comes with
  | idle _ => exact standing
  | half begun failed =>
    rw [standing.place, plain.base] at failed
    cases failed
  | untitled begun read failed =>
    obtain ⟨caption, titled⟩ := captionOf_ok s.state.1.settings writable
    rw [titled] at failed
    cases failed
  | mounted begun read titled =>
    obtain ⟨notReady, found, styled, chosen⟩ := begun
    rw [standing.place, plain.base] at read
    rw [standing.place] at chosen
    rw [standing.setting] at found styled
    cases read
    have stays := standing.stands.waits notReady
    rw [stays.query] at found
    exact standing.reshown (.mounted member found styled chosen stays
      (stays.walledAgain _ _ (Widget.query_onPage found) _))

variable [StorageArea μ]

/-- What outlasts a change that leaves a widget as it was but for its chat outlasts all that is done to a chat. -/
theorem IsLasting.of_changed {P : Client × Surroundings μ → Prop}
    (changed : ∀ now widget, P now → (∀ own before, Stays own before now.1.widget → Stays own before widget) →
      P (putWidget now widget))
    (aside : ∀ now kept, P now → P (putStore now kept)) : IsLasting P := by
  refine ⟨?_, ?_, ?_, ?_, ?_, ?_, ?_⟩
  · exact fun now node holds => changed now _ holds fun _ _ stays => stays.addNode node
  · exact fun now holds => changed now _ holds fun _ _ stays => stays.clearChat
  · exact fun now holds => changed now _ holds fun _ _ stays => stays.removePlaceholders
  · exact fun now holds => changed now _ holds fun _ _ stays => stays.scrollToEnd
  · exact fun now value holds => changed now _ holds fun _ _ stays => stays.within (stays.walled.value _ value)
  · exact keeps_current.bind fun _ => keeps_onStore aside _
  · exact fun _ => keeps_current.bind fun _ => keeps_onStore aside _

theorem Standing.lasting : IsLasting (Standing (μ := μ) site settings inits) :=
  .of_changed (fun _ _ standing keeps => standing.reshown (standing.stands.changed keeps))
    fun _ _ standing => ⟨standing.place, standing.setting, standing.stands⟩

end Standing

/-! ### Turns -/

/-- The options of the initializations among the entries of a batch. -/
def initsOf (entries : List Json) : List Json :=
  (entries.filterMap Turn.ofEntry?).filterMap fun
    | .init options => some options
    | _ => none

/-- The options of the initializations that a turn brings, in order. -/
def Turn.inits : Turn → List Json
  | .init options => [options]
  | .execute commands => initsOf (commands.arr?.getD [])
  | .receive outcome => initsOf ((commandsOf outcome).getD [])
  | _ => []

theorem Turn.ofEntry?_command {entry : Json} {turn : Turn} (known : Turn.ofEntry? entry = some turn) :
    ∃ name data, Turn.ofCommand? name data = some turn := by
  unfold Turn.ofEntry? at known
  split at known
  next fields =>
    split at known
    next name _ => exact ⟨name, _, known⟩
    next => cases known
  next => cases known

theorem mem_initsOf {entries : List Json} {options : Json}
    (member : Turn.init options ∈ entries.filterMap Turn.ofEntry?) : options ∈ initsOf entries :=
  List.mem_filterMap.mpr ⟨_, member, rfl⟩

variable [StorageArea μ] {P : Client × Surroundings μ → Prop}

theorem Leads.keeps {turns : List Turn} {now last : Client × Surroundings μ} (leads : Leads turns now last)
    (each : ∀ turn ∈ turns, Keeps P turn.perform) (holds : P now) : P last := by
  induction leads with
  | nil => exact holds
  | cons log rest ih =>
    exact ih (fun later member => each later (List.mem_cons_of_mem _ member))
      (each _ List.mem_cons_self ⟨_, log⟩ holds)

namespace IsLasting

variable (lasting : IsLasting P)

include lasting

theorem entry {entries : List Json} (inits : ∀ options ∈ initsOf entries, Keeps P (init options)) :
    ∀ turn ∈ entries.filterMap Turn.ofEntry?, Keeps P turn.perform := by
  intro turn member
  obtain ⟨entry, -, known⟩ := List.mem_filterMap.mp member
  obtain ⟨name, data, known⟩ := Turn.ofEntry?_command known
  unfold Turn.ofCommand? at known
  split_ifs at known
  all_goals cases known
  · exact inits data (mem_initsOf member)
  · exact lasting.restore data
  · exact lasting.reset data
  · exact lasting.text data

theorem execute {commands : Json}
    (inits : ∀ options ∈ initsOf (commands.arr?.getD []), Keeps P (init options)) :
    Keeps P (execute commands) := by
  intro s holds
  obtain ⟨report, after, ran, effect⟩ := start_execute commands s
  rw [ran]
  cases list : commands.arr? with
  | none =>
    rw [list] at effect
    dsimp only at effect ⊢
    rw [effect]
    exact holds
  | some entries =>
    rw [list] at effect inits
    exact effect.keeps (lasting.entry inits) holds

/-- A lasting property that does not look at requests outlasts a turn, if the initializations that this brings
keep it. -/
theorem turn (deaf : IsDeaf P)
    (reacts : ∀ now, P now →
      ∀ listener ∈ now.1.widget.elements.listenersFor now.1.widget.window.input "keyup",
        ∀ again event, Keeps P (react (μ := μ) again listener event))
    {turn : Turn} (inits : ∀ options ∈ turn.inits, Keeps P (init options)) : Keeps P turn.perform := by
  cases turn with
  | init options => exact inits options List.mem_cons_self
  | restore data => exact lasting.restore data
  | reset data => exact lasting.reset data
  | text data => exact lasting.text data
  | submit words => exact (lasting.submit deaf.posts _).discard
  | enter value => exact lasting.type reacts value _
  | execute commands => exact (lasting.execute inits).discard
  | receive outcome =>
    cases outcome with
    | success payload => exact (lasting.execute inits).discard
    | failure status message => exact .note _

theorem play (deaf : IsDeaf P)
    (reacts : ∀ now, P now →
      ∀ listener ∈ now.1.widget.elements.listenersFor now.1.widget.window.input "keyup",
        ∀ again event, Keeps P (react (μ := μ) again listener event))
    {turns : List Turn} (inits : ∀ options ∈ turns.flatMap Turn.inits, Keeps P (init options))
    {s : Logged (Client × Surroundings μ)} (holds : P s.state) : P (play turns s).state := by
  induction turns generalizing s with
  | nil => exact holds
  | cons turn turns ih =>
    rw [List.flatMap_cons] at inits
    refine ih (fun options member => inits options (List.mem_append_right _ member)) ?_
    exact lasting.turn deaf reacts (fun options member => inits options (List.mem_append_left _ member)) s holds

end IsLasting

/-! ### Any run -/

/-- A widget that is mounted stays mounted, whatever is done with its client. -/
theorem play_ready (turns : List Turn) {s : Logged (Client × Surroundings μ)}
    (ready : s.state.1.widget.ready = true) : (play turns s).state.1.widget.ready = true := by
  have aside : ∀ (now : Client × Surroundings μ) kept, now.1.widget.ready = true →
      (putStore now kept).1.widget.ready = true := fun _ _ ready => ready
  have lasting : IsLasting fun now : Client × Surroundings μ => now.1.widget.ready = true :=
    ⟨fun _ _ ready => ready, fun _ ready => ready, fun _ ready => ready, fun _ ready => ready,
      fun _ _ ready => ready, keeps_current.bind fun _ => keeps_onStore aside _,
      fun _ => keeps_current.bind fun _ => keeps_onStore aside _⟩
  have deaf : IsDeaf fun now : Client × Surroundings μ => now.1.widget.ready = true := fun _ _ ready => ready
  refine lasting.play deaf ?_ ?_ ready
  · intro now _ listener _ again event
    cases listener with
    | scrollToEnd chat => exact fun _ ready => ready
    | toggleWindow window => exact fun _ ready => ready
    | sendOnEnter => exact lasting.enter deaf.posts event
  · intro options _ s ready
    rw [start_init_ready options ready]
    exact ready

/-- A client stands through any turns whose initializations leave it standing. -/
theorem Standing.through {site : Site} {settings : Settings} {inits : List Json} {turns : List Turn}
    (each : ∀ options ∈ turns.flatMap Turn.inits, Keeps (Standing (μ := μ) site settings inits) (Client.init options))
    {s : Logged (Client × Surroundings μ)} (standing : Standing site settings inits s.state) :
    Standing site settings inits (play turns s).state := by
  have deaf : IsDeaf (Standing (μ := μ) site settings inits) :=
    fun _ _ standing => ⟨standing.place, standing.setting, standing.stands⟩
  refine Standing.lasting.play deaf ?_ each standing
  intro now standing listener member again event
  rw [standing.stands.listening listener member]
  exact Standing.lasting.enter deaf.posts event

/-- A client stands through any turns whose initializations have titles that can be written. -/
theorem Standing.play {site : Site} (plain : IsPlainRoot site) {settings : Settings} {turns : List Turn}
    (writable : ∀ options ∈ turns.flatMap Turn.inits, (options.field "title").isWritable = true)
    {s : Logged (Client × Surroundings μ)} (standing : Standing site settings (turns.flatMap Turn.inits) s.state) :
    Standing site settings (turns.flatMap Turn.inits) (play turns s).state :=
  standing.through fun options member => Standing.init plain member (writable options member)

/-- A client on an empty page, for a site at an address. -/
def onEmptyPageAt (root : String) : Logged (Client × Surroundings MapArea) :=
  let start := onEmptyPage {}
  { start with state := ({ start.state.1 with site := { start.state.1.site with root } }, start.state.2) }

end ChatWidget.Client
