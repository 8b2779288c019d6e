import ChatWidget.Proofs.Client.Activation
import ChatWidget.Proofs.Settings.Given
/-!
Who is talking, given with the activation or among the settings. The settings drop the blanks around an identity, and
nothing drops them from one that is given with the activation: so the two ways agree on the identities without blanks
around them, and elsewhere only where there is no client anyway.
-/
namespace ChatWidget.Client

variable {μ : Type}

/-! ### Other settings for the same site -/

def under (settings : Settings) (client : Client) : Client := { client with settings := settings }

theorem start_converse_under (settings : Settings) (method folder : String) (data : Json) (client : Client)
    (around : Surroundings μ) (log : List Log.Event) :
    (converse method folder data).start ⟨(client.under settings, around), log⟩ =
      (((converse method folder data).start ⟨(client, around), log⟩).1,
        ⟨(((converse method folder data).start ⟨(client, around), log⟩).2.state.1.under settings,
          ((converse method folder data).start ⟨(client, around), log⟩).2.state.2),
          ((converse method folder data).start ⟨(client, around), log⟩).2.log⟩) := by
  unfold converse
  simp only [Op.start_bind, current, Op.start_read, Op.start_lift]
  have same : (under settings client).site = client.site := rfl
  rw [same]
  cases endpoint folder client.site.identity with
  | error fault => rfl
  | ok address => rfl

theorem start_perform_under (settings : Settings) (client : Client) (s : Logged (Surroundings μ)) :
    ((client.under settings).perform boot).start s =
      ((((client.perform boot).start s).1.map fun (result, client) => (result, client.under settings)),
        ((client.perform boot).start s).2) := by
  have performed : ∀ client : Client, (client.perform boot).start s =
      ((boot.start ⟨(client, s.state), s.log⟩).1.map fun value =>
          (value, (boot.start ⟨(client, s.state), s.log⟩).2.state.1),
        ⟨(boot.start ⟨(client, s.state), s.log⟩).2.state.2, (boot.start ⟨(client, s.state), s.log⟩).2.log⟩) :=
    fun _ => rfl
  rw [performed, performed, boot, start_converse_under]
  rw [map_mapped]

variable [StorageArea μ]

/-- Settings that tell of the same site and of the same place for the store make the same client, but for them. -/
theorem start_activate_under {settings other : Settings} {activation activation' : Activation}
    (site : siteFor other activation' = siteFor settings activation) (key : other.storageKey = settings.storageKey)
    (boots : activation'.boot = activation.boot) (document : Document) (elements : Elements Listener)
    (s : Logged (Surroundings μ)) :
    (activate other activation' document elements).start s =
      (((activate settings activation document elements).start s).1.map (Option.map (under other)),
        ((activate settings activation document elements).start s).2) := by
  unfold activate
  rw [site, boots]
  split
  next => rfl
  next => rfl
  next => rfl
  next found _ =>
    unfold open_
    rw [key]
    simp only [Op.start_bind, Op.start_within, Op.start_note]
    rcases (Store.openOn (some settings.storageKey)).start ⟨s.state.medium, s.log⟩ with ⟨fault | store, after⟩
    · rfl
    · have made : (⟨found, other, Widget.create document elements, store, {}, { site := found }, []⟩ : Client) =
          under other ⟨found, settings, Widget.create document elements, store, {}, { site := found }, []⟩ := rfl
      dsimp only
      cases activation.boot with
      | false => rfl
      | true =>
        simp only [if_true, Op.start_bind, Op.start_pure]
        rw [made, start_perform_under]
        generalize (perform _ boot).start _ = asked
        obtain ⟨fault | answer, last⟩ := asked
        · rfl
        · rfl

/-! ### What is left of an identity -/

theorem cleanIdentity_text (text : String) : Settings.cleanIdentity (some text) = present (some text.trimBlanks) := by
  rw [present_text, Settings.cleanIdentity, Option.map_some]
  by_cases empty : text.trimBlanks = ""
  · rw [empty]
    rfl
  · have other : text.trimBlanks.isEmpty = false := by
      rw [← Bool.not_eq_true, String.isEmpty_iff]
      exact empty
    rw [other]
    split
    next same => exact absurd (Option.some.inj same) empty
    next => rfl

theorem identityOf_nobody {settings : Settings} (nobody : settings.identity = none) (identity : Option String) :
    identityOf settings identity = present identity := by
  rw [identityOf, nobody]
  exact Option.or_none

theorem scriptOf_withIdentity (settings : Settings) (identity script : Option String) :
    scriptOf (settings.withIdentity identity) script = scriptOf settings script := rfl

theorem pageOf_withIdentity (settings : Settings) (identity page : Option String) :
    pageOf (settings.withIdentity identity) page = pageOf settings page := rfl

theorem identityOf_clean (settings : Settings) {identity : Option String} {text : String}
    (clean : Settings.cleanIdentity (some text) = identity) :
    identityOf (settings.withIdentity identity) none = present (some text.trimBlanks) := by
  have twice : ∀ given, present (present given) = present given := by
    intro given
    rw [present, present, Option.filter_filter]
    simp only [Bool.and_self]
  have set : (settings.withIdentity identity).identity = identity := rfl
  rw [identityOf, set, ← clean, cleanIdentity_text, twice]
  exact Option.none_or

theorem siteFor_clean {settings : Settings} (nobody : settings.identity = none) {identity : Option String}
    {text : String} (clean : Settings.cleanIdentity (some text) = identity) (script page : Option String) (boot : Bool) :
    siteFor (settings.withIdentity identity) ⟨.ofOption script, .ofOption page, .null, boot⟩ =
      siteFor settings ⟨.ofOption script, .ofOption page, .str text.trimBlanks, boot⟩ := by
  have set := siteFor_texts (settings.withIdentity identity) script page none boot
  have given := siteFor_texts settings script page (some text.trimBlanks) boot
  rw [identityOf_clean settings clean, scriptOf_withIdentity, pageOf_withIdentity] at set
  rw [identityOf_nobody nobody] at given
  exact set.trans given.symm

/-! ### How making a client ends -/

/-- Is an address one that can be read and is not that of this widget's script? -/
def IsForeign (parts : Except Fault UrlParts) : Prop :=
  ∃ found, parts = .ok found ∧ ¬ Fault.scriptName.toList <:+ found.path

def madeFor (result : Except Fault (Option Client)) : Except Fault (Option Json) :=
  result.map (Option.map (·.site.identity))

/-- What making a client for a text ends in: in none for the empty text or another widget's script, in a failure where
the script's address cannot be read, and otherwise in a client for this text, which asks for what to begin with, if it
is to, for nobody else. -/
structure EndsFor (text : String) (boot : Bool) (parts : Except Fault UrlParts)
    (result : Except Fault (Option Client)) : Prop where
  nobody : result = .ok none ↔ text = "" ∨ IsForeign parts
  failed : ∀ fault, result = .error fault ↔ text ≠ "" ∧ parts = .error fault
  client : ∀ client, result = .ok (some client) → client.site.identity = .str text ∧
    client.transport.issued = if boot then [callFor "GET" "init" text .null] else []

theorem present_eq_none_iff (text : String) : present (some text) = none ↔ text = "" := by
  rw [present_text, ← String.isEmpty_iff]
  split
  next empty => simp [empty]
  next filled => simp [filled]

section
omit [StorageArea μ]
variable {s : Logged (Surroundings μ)} {script page : String} {boot : Bool} {who : Option String}
  {parts : Except Fault UrlParts} {result : Except Fault (Option Client)} {after : Surroundings μ}

theorem Ends.endsFor {text : String} (ends : Ends s script page boot (present (some text)) parts result after) :
    EndsFor text boot parts result := by
  have empty := present_eq_none_iff text
  have known : ∀ name, present (some text) = some name → name = text := fun name who =>
    (Option.some.inj (Option.filter_eq_some_iff.mp who).1).symm
  generalize present (some text) = who at ends empty known
  cases ends with
  | nobody => exact ⟨by simp [empty.mp rfl], by simp [empty.mp rfl], by simp⟩
  | unreadable fault =>
    have filled : text ≠ "" := fun none => nomatch empty.mpr none
    exact ⟨by simp [IsForeign, filled], by simp [filled], by simp⟩
  | foreign other => exact ⟨by simp [IsForeign, other], by simp, by simp⟩
  | made own makes issued arrived =>
    have filled : text ≠ "" := fun none => nomatch empty.mpr none
    refine ⟨by simp [IsForeign, own, filled], by simp, fun client same => ?_⟩
    cases same
    cases known _ rfl
    exact ⟨(Site.discover_ok makes).2.1, issued⟩

/-- Where the same address decides, two who are talking end alike exactly if they are the same, or if the address is
that of another script, or if both are there and it cannot be read. -/
theorem Ends.alike_iff {script' page' : String} {boot' : Bool} {who' : Option String} {s' : Logged (Surroundings μ)}
    {result' : Except Fault (Option Client)} {after' : Surroundings μ}
    (ends : Ends s script page boot who parts result after)
    (ends' : Ends s' script' page' boot' who' parts result' after') :
    madeFor result = madeFor result' ↔
      who = who' ∨ IsForeign parts ∨ (who ≠ none ∧ who' ≠ none ∧ ∃ fault, parts = .error fault) := by
  unfold IsForeign
  cases ends with
  | nobody =>
    cases ends' with
    | nobody => simp [madeFor]
    | unreadable fault => simp [madeFor, Except.map]
    | foreign other => simp [madeFor, other]
    | made own => simp [madeFor, Except.map, own]
  | unreadable fault =>
    cases ends' with
    | nobody => simp [madeFor, Except.map]
    | unreadable => simp [madeFor]
  | foreign other =>
    cases ends' with
    | nobody => simp [madeFor, other]
    | foreign => simp [madeFor, other]
    | made own => exact absurd own other
  | made own makes =>
    cases ends' with
    | nobody => simp [madeFor, Except.map, own]
    | foreign other => exact absurd own other
    | made _ makes' => simp [madeFor, Except.map, own, (Site.discover_ok makes).2.1, (Site.discover_ok makes').2.1]

end

theorem EndsFor.exists_client {text : String} {boot : Bool} {parts : UrlParts}
    {result : Except Fault (Option Client)} (ends : EndsFor text boot (.ok parts) result) (filled : text ≠ "")
    (own : Fault.scriptName.toList <:+ parts.path) :
    ∃ client, result = .ok (some client) ∧ client.site.identity = .str text ∧
      client.transport.issued = if boot then [callFor "GET" "init" text .null] else [] := by
  rcases result with fault | (_ | client)
  · cases ((ends.failed fault).mp rfl).2
  · rcases ends.nobody.mp rfl with empty | ⟨_, found, foreign⟩
    · exact absurd empty filled
    · cases found
      exact absurd own foreign
  · exact ⟨client, rfl, ends.client client rfl⟩

/-! ### The two ways -/

theorem present_trimBlanks_iff (text : String) :
    present (some text) = present (some text.trimBlanks) ↔ text.trimBlanks = text := by
  constructor
  · intro same
    rw [present_text, present_text] at same
    split at same
    next empty =>
      rw [String.isEmpty_iff.mp empty]
      rfl
    next =>
      split at same
      next => cases same
      next => exact (Option.some.inj same).symm
  · intro same
    rw [same]

theorem present_trimBlanks_eq_none_iff (text : String) :
    present (some text.trimBlanks) = none ↔ Text.allBlank text.toList = true := by
  rw [present_eq_none_iff, ← String.isEmpty_iff, Text.isEmpty_trimBlanks]

/-- Take settings that sources make and that are for nobody, any script and page, given or missing, any text, and a
medium that fails only in ways that a store can do without it for, with nothing or a text under the key. With the text
among the settings, making a client ends exactly as it does when the text is given without the blanks around it: in the
same client but for its settings, with the same medium, the same requests and the same log. With the text given as it
is, there is no client for the empty text, but one for any other blanks, and its blanks stay in the identity. So the
two ways of giving it end alike exactly if there are no blanks around it, or the script is not this widget's, or its
address cannot be read and the text is not blank. -/
theorem identity_given_or_set {fine : μ → Prop} {read : ConfigFile.Reader} {sources : SettingsSources}
    {settings : Settings} {warnings : List ConfigWarning}
    (loaded : sources.loadWith read = (.ok settings, warnings)) (nobody : settings.identity = none)
    (proper : Store.IsProper fine (Store.keyFor (some settings.storageKey))) {s : Logged (Surroundings μ)}
    (finely : fine s.state.medium) (script page : Option String) (text : String) (boot : Bool) (document : Document)
    (elements : Elements Listener) :
    ∃ configured, (sources.givingIdentity text).loadWith read = (.ok configured, warnings) ∧
      let made (settings : Settings) (identity : Json) :=
        (activate settings ⟨.ofOption script, .ofOption page, identity, boot⟩ document elements).start s
      let given := made settings (.str text)
      let trimmed := made settings (.str text.trimBlanks)
      let set := made configured .null
      let parts := scriptParts (pageOf settings page) (scriptOf settings script)
      set = (trimmed.1.map (Option.map (under configured)), trimmed.2) ∧
      EndsFor text boot parts given.1 ∧ EndsFor text.trimBlanks boot parts set.1 ∧
      (madeFor given.1 = madeFor set.1 ↔ text.trimBlanks = text ∨ IsForeign parts ∨
        Text.allBlank text.toList = false ∧ ∃ fault, parts = .error fault) := by
  refine ⟨_, SettingsSources.loadWith_givingIdentity loaded text, ?_⟩
  generalize clean : Settings.cleanIdentity (some text) = identity
  intro made given trimmed set parts
  have endsGiven := start_activate_ends settings proper finely script page (some text) boot document elements
    (rfl : _ = given)
  have endsSet := start_activate_ends (settings.withIdentity identity) proper finely script page none boot document
    elements (rfl : _ = set)
  rw [identityOf_nobody nobody] at endsGiven
  rw [identityOf_clean settings clean, scriptOf_withIdentity, pageOf_withIdentity] at endsSet
  refine ⟨start_activate_under (siteFor_clean nobody clean script page boot) rfl rfl document elements s,
    endsGiven.endsFor, endsSet.endsFor, ?_⟩
  have filled : Text.allBlank text.toList = false → text ≠ "" := by
    rintro some rfl
    cases some
  rw [endsGiven.alike_iff endsSet, present_trimBlanks_iff, Ne, Ne, present_trimBlanks_eq_none_iff,
    present_eq_none_iff, Bool.not_eq_true]
  exact or_congr_right (or_congr_right ⟨fun both => both.2, fun both => ⟨filled both.1, both⟩⟩)

/-- Here there are blanks around the text: each of the two ways ends in a client, and they ask for different places. -/
theorem identity_given_or_set_padded :
    let area : MapArea := { items := [(Store.defaultKey, .str "[")], setOutages := .always }
    let page := Document.create ({} : Elements Listener)
    ∃ configured, (({} : SettingsSources).givingIdentity " me ").load = (.ok configured, []) ∧
      let made (settings : Settings) (identity : Json) :=
        ((activate settings ⟨.null, .null, identity, true⟩ page.1 page.2).start ⟨⟨area, {}⟩, []⟩).1
      (∃ client, made {} (.str " me ") = .ok (some client) ∧
        client.transport.issued.map (·.endpoint) = ["init/%20me%20"]) ∧
      (∃ client, made configured .null = .ok (some client) ∧
        client.transport.issued.map (·.endpoint) = ["init/me"]) ∧
      madeFor (made {} (.str " me ")) ≠ madeFor (made configured .null) := by
  intro area page
  have fine : area.IsProper Store.defaultKey := ⟨rfl, fun value found => ⟨"[", (Option.some.inj found).symm⟩⟩
  have read : scriptParts "http://localhost:8080/" "/javascript/responsio-1.0.0.js" = .ok {
      scheme := "http".toList
      authority := "localhost:8080".toList
      path := "/javascript/responsio-1.0.0.js".toList } := by rfl
  have own : Fault.scriptName.toList <:+ "/javascript/responsio-1.0.0.js".toList := List.suffix_rfl
  obtain ⟨configured, loaded, -, given, set, alike⟩ := identity_given_or_set
    (SettingsSources.loadWith_nothing Yaml.read) rfl (MapArea.isProper Store.defaultKey) (s := ⟨⟨area, {}⟩, []⟩) fine
    none none " me " true page.1 page.2
  change EndsFor _ _ (scriptParts "http://localhost:8080/" "/javascript/responsio-1.0.0.js") _ at given set
  rw [read] at given set
  obtain ⟨first, firstMade, -, firstAsks⟩ := given.exists_client (by decide) own
  obtain ⟨second, secondMade, -, secondAsks⟩ := set.exists_client (by decide) own
  refine ⟨configured, loaded, ⟨first, firstMade, by rw [firstAsks]; rfl⟩,
    ⟨second, secondMade, by rw [secondAsks]; rfl⟩, fun same => ?_⟩
  rcases alike.mp same with same | ⟨_, found, foreign⟩ | ⟨-, fault, failed⟩
  · exact absurd same (by decide)
  · cases read.symm.trans found
    exact foreign own
  · cases read.symm.trans failed

/-- A blank that is given makes a client, and among the settings it makes none. -/
theorem blank_identity_makes_client :
    let page := Document.create ({} : Elements Listener)
    let made (settings : Settings) (identity : Json) :=
      ((activate settings ⟨.null, .null, identity, false⟩ page.1 page.2).start ⟨⟨({} : MapArea), {}⟩, []⟩).1
    ∃ configured, (({} : SettingsSources).givingIdentity " ").load = (.ok configured, []) ∧
      madeFor (made {} (.str " ")) = .ok (some (.str " ")) ∧ madeFor (made configured .null) = .ok none :=
  ⟨_, SettingsSources.loadWith_givingIdentity (SettingsSources.loadWith_nothing _) " ", by rfl, by rfl⟩

end ChatWidget.Client
