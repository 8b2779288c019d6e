import ChatWidget.Proofs.Client.Initialization
/-!
The stylesheets that the first initialization puts into the head, and that stay there: what their links are
read as. The address goes into the markup as it is. Without a quote in it the link has nothing but the four
attributes it is written with; the address in it has its references resolved, so it is the one asked for
exactly when there is nothing to resolve. With a quote in it the address is never that of the element.
-/
namespace ChatWidget.Client

open Widget (Stays IsLater IsChats fresh)

variable {μ : Type}

/-- What a link is read as: the one asked for exactly when its address has no quote and nothing to resolve, and
without a quote the one with the address resolved. -/
theorem read_link {id address : String} {read : Markup.Node} (idUnquoted : '"' ∉ id.toList) (idInside : '>' ∉ id.toList)
    (literal : Markup.unescape id.toList = id.toList) (parsed : Markup.parse (Stylesheet.link id address) = .ok read) :
    (read = Stylesheet.node id address ↔
        '"' ∉ address.toList ∧ Markup.unescape address.toList = address.toList) ∧
      ('"' ∉ address.toList → read = Stylesheet.node id (String.ofList (Markup.unescape address.toList))) := by
  constructor
  · rw [← Stylesheet.parse_link_iff idUnquoted idInside literal, parsed, Except.ok.injEq]
  · intro unquoted
    rw [Stylesheet.parse_link idUnquoted literal unquoted] at parsed
    exact (Except.ok.inj parsed).symm

theorem init_reads {options : Json} {s : Logged (Client × Surroundings μ)} (notReady : s.state.1.widget.ready = false)
    (ready : ((init options).start s).2.state.1.widget.ready = true) :
    ∃ attachment style chosen base caption, IsBegun options s.state.1 attachment style chosen ∧
      baseNode? s.state.1.site = .ok base ∧
      ((init options).start s).2.state.1.widget = s.state.1.widget.install attachment chosen base caption := by
  have comes := initializes options s
  generalize ((init options).start s).2.state = last at comes ready ⊢
  -- In every other case the widget is as it was, and this is not ready.
  have still : ¬ s.state.1.widget.ready = true := by simp [notReady]
  cases comes with
  | idle _ => exact absurd ready still
  | half _ _ => exact absurd ready still
  | untitled _ _ _ => exact absurd ready still
  | mounted begun read _ => exact ⟨_, _, _, _, _, begun, read, rfl⟩

section Turns

variable [StorageArea μ]

theorem play_waits {turns : List Turn} (none : turns.flatMap Turn.inits = []) {s : Logged (Client × Surroundings μ)}
    (new : s.state.1.widget = fresh) : Standing s.state.1.site s.state.1.settings [] (play turns s).state := by
  refine Standing.through ?_ ⟨rfl, rfl, .waiting (by rw [new]; exact Widget.fresh_stays)⟩
  rw [none]
  exact fun options member => absurd member List.not_mem_nil

/-- Once a widget is mounted it stays installed, whatever is done with its client. -/
theorem play_installed {earlier : Widget} (before : Stays IsLater fresh earlier) {attachment : ElementId}
    (onPage : attachment < 3) (chosen base : Markup.Node) (caption : Option String) (turns : List Turn)
    {s : Logged (Client × Surroundings μ)}
    (stays : Stays (IsChats earlier chosen base) (earlier.install attachment chosen base caption) s.state.1.widget) :
    (play turns s).state.1.widget.IsInstalled (fun _ => True) attachment chosen base := by
  let P := fun now : Client × Surroundings μ =>
    Stays (IsChats earlier chosen base) (earlier.install attachment chosen base caption) now.1.widget
  have lasting : IsLasting P := .of_changed (fun _ _ stays keeps => keeps _ _ stays) fun _ _ stays => stays
  have deaf : IsDeaf P := fun _ _ stays => stays
  refine before.goesOn onPage (lasting.play deaf ?_ ?_ stays)
  · intro now stays listener member again event
    rw [(before.goesOn onPage stays).listening listener member]
    exact lasting.enter deaf.posts event
  · intro options _ s stays
    rw [start_init_ready options (before.goesOn onPage stays).ready]
    exact stays

theorem Stands.waiting_of_nil {site : Site} {settings : Settings} {widget : Widget}
    (stands : Stands site settings [] widget) : Stays IsLater fresh widget := by
  cases stands with
  | waiting stays => exact stays
  | mounted member => cases member

/-- Take a client with a new widget on an empty page, turns without an initialization, and then one that asks
for a style, in its options or else by the settings, and mounts the widget. From then on, whatever is done, the
head has two elements, and besides only the window if this stands there: what the link for the style reads as,
and what the link that is always there does. Each is the link asked for, with its four attributes and nothing
else, exactly when its address holds no quote and no reference that resolves to something else; and without a
quote the resolved address is all that may differ. -/
theorem links_after_first_init {start : Logged (Client × Surroundings μ)} (new : start.state.1.widget = fresh)
    {turns : List Turn} (first : turns.flatMap Turn.inits = []) {options : Json} {style : String}
    (asked : styleOf start.state.1.settings options = .str style)
    (ready : ((init options).start (play turns start)).2.state.1.widget.ready = true) (later : List Turn) :
    let widget := (play later ((init options).start (play turns start)).2).state.1.widget
    let chosenAddress := Stylesheet.chosenAddress start.state.1.site.root style
    let baseAddress := Stylesheet.baseAddress start.state.1.site.root
    ∃ attachment chosen base first second,
      fresh.document.query fresh.elements (selectorOf start.state.1.settings options) = .ok (some attachment) ∧
      (widget.elements.get widget.document.head).children =
        [first, second] ++ (if attachment = widget.document.head then [widget.window.frame] else []) ∧
      first ≠ second ∧ widget.elements.Shows (fun _ => True) first chosen ∧
      widget.elements.Shows (fun _ => True) second base ∧
      (chosen = Stylesheet.node Stylesheet.chosenId chosenAddress ↔
        '"' ∉ chosenAddress.toList ∧ Markup.unescape chosenAddress.toList = chosenAddress.toList) ∧
      (base = Stylesheet.node Stylesheet.baseId baseAddress ↔
        '"' ∉ baseAddress.toList ∧ Markup.unescape baseAddress.toList = baseAddress.toList) ∧
      ('"' ∉ chosenAddress.toList →
        chosen = Stylesheet.node Stylesheet.chosenId (String.ofList (Markup.unescape chosenAddress.toList))) ∧
      ('"' ∉ baseAddress.toList →
        base = Stylesheet.node Stylesheet.baseId (String.ofList (Markup.unescape baseAddress.toList))) := by
  intro widget chosenAddress baseAddress
  have waiting := play_waits first new
  have stays := waiting.stands.waiting_of_nil
  obtain ⟨attachment, chosenStyle, chosen, base, caption, begun, baseRead, mounted⟩ :=
    init_reads stays.ready ready
  obtain ⟨-, found, styled, chosenRead⟩ := begun
  rw [waiting.setting, asked] at styled
  rw [waiting.setting, stays.query] at found
  rw [waiting.place] at chosenRead baseRead
  cases styled
  have onPage := Widget.query_onPage found
  have installed := play_installed stays onPage chosen base caption later
    (s := ((init options).start (play turns start)).2) (by rw [mounted]; exact stays.walledAgain _ _ onPage _)
  obtain ⟨firstLink, secondLink, children, apart, -, showsChosen, showsBase, -⟩ := installed.links
  obtain ⟨exactChosen, resolvedChosen⟩ := read_link (by decide) (by decide) (by decide) chosenRead
  obtain ⟨exactBase, resolvedBase⟩ := read_link (by decide) (by decide) (by decide) baseRead
  exact ⟨attachment, chosen, base, firstLink, secondLink, found, children, apart, showsChosen, showsBase, exactChosen,
    exactBase, resolvedChosen, resolvedBase⟩

end Turns

/-- With a plain style the two links are those asked for. -/
theorem links_after_first_init_dark :
    let start := onEmptyPageAt "http://localhost:8080/"
    let before : List Turn := [.text (.str "hello")]
    let options : Json := .obj [("style", .str "dark")]
    let widget := (play [.init .null] ((init options).start (play before start)).2).state.1.widget
    start.state.1.widget = fresh ∧ before.flatMap Turn.inits = [] ∧
      styleOf start.state.1.settings options = .str "dark" ∧
      ((init options).start (play before start)).2.state.1.widget.ready = true ∧
      ∃ first second, [first, second] <+: (widget.elements.get widget.document.head).children ∧
        widget.elements.Shows (fun _ => True) first
          (Stylesheet.node Stylesheet.chosenId "http://localhost:8080/css/responsio-dark.css") ∧
        widget.elements.Shows (fun _ => True) second
          (Stylesheet.node Stylesheet.baseId "http://localhost:8080/css/responsio-base-styles.css") := by
  intro start before options widget
  have new : start.state.1.widget = fresh := rfl
  have none : before.flatMap Turn.inits = [] := rfl
  have asked : styleOf start.state.1.settings options = .str "dark" := rfl
  have ready : ((init options).start (play before start)).2.state.1.widget.ready = true := by decide +kernel
  refine ⟨new, none, asked, ready, ?_⟩
  obtain ⟨_, chosen, base, first, second, -, children, -, showsChosen, showsBase, exactChosen, exactBase, -, -⟩ :=
    links_after_first_init new none asked ready [.init .null]
  have chosenAddress : Stylesheet.chosenAddress start.state.1.site.root "dark" =
      "http://localhost:8080/css/responsio-dark.css" := by
    decide +kernel
  have baseAddress : Stylesheet.baseAddress start.state.1.site.root =
      "http://localhost:8080/css/responsio-base-styles.css" := by
    decide +kernel
  rw [chosenAddress] at exactChosen
  rw [baseAddress] at exactBase
  rw [exactChosen.mpr (by decide +kernel)] at showsChosen
  rw [exactBase.mpr (by decide +kernel)] at showsBase
  refine ⟨first, second, ?_, showsChosen, showsBase⟩
  rw [children]
  exact List.prefix_append _ _

/-- A reference in a style is resolved on the way, and then the first of the two links is to another stylesheet
than the one asked for. -/
theorem style_resolved_in_link :
    let now := (play [.init (.obj [("style", .str "a&amp;b")])] (onEmptyPageAt "http://localhost:8080/")).state.1
    now.widget.ready = true ∧
      (now.widget.elements.get now.widget.document.head).children.map
          (fun id => (now.widget.elements.get id).attributes.get? "href") =
        [some (some "http://localhost:8080/css/responsio-a&b.css"),
          some (some "http://localhost:8080/css/responsio-base-styles.css")] ∧
      Stylesheet.chosenAddress now.site.root "a&amp;b" = "http://localhost:8080/css/responsio-a&amp;b.css" := by
  decide +kernel

end ChatWidget.Client
