import ChatWidget.Proofs.Client.Steady
import ChatWidget.Proofs.Net.Service
/-!
Where the requests of a client go. Each goes to an address of its own for the identity that the client speaks for: the
address of the service with a folder and one segment more, from which the identity can be read again. Only an identity
that is a step of a path has no such segment.
-/
namespace ChatWidget

open RequestUrl (IsFolder)

namespace Exchange

def endpointChars (folder identity : String) : List Char := folder.toList ++ '/' :: Text.quoted identity.toList

def addressFor (base : RequestUrl) (folder identity : String) : RequestUrl :=
  { base with path := base.path ++ endpointChars folder identity }

/-- Is a text a segment that is no step? -/
structure IsSegment (segment : List Char) : Prop where
  chars : ∀ c ∈ segment, Text.isSegmentChar c = true
  stay : segment ≠ ['.']
  up : segment ≠ ['.', '.']

theorem IsSegment.noSlash {segment : List Char} (is : IsSegment segment) : '/' ∉ segment := by
  intro member
  exact absurd (is.chars _ member) (by decide)

theorem isSegment_quoted {identity : String} (stay : identity ≠ ".") (up : identity ≠ "..") :
    IsSegment (Text.quoted identity.toList) := by
  have dot : Text.quoted ".".toList = ['.'] := by decide
  have dots : Text.quoted "..".toList = ['.', '.'] := by decide
  refine ⟨Text.isSegmentChar_quoted _, fun same => stay ?_, fun same => up ?_⟩
  · exact String.toList_inj.mp (Text.quoted_injective (same.trans dot.symm))
  · exact String.toList_inj.mp (Text.quoted_injective (same.trans dots.symm))

variable {folder identity : String}

theorem splitAt_endpointChars (is : IsSegment folder.toList) :
    Text.splitAt '/' (endpointChars folder identity) = [folder.toList, Text.quoted identity.toList] := by
  have noSlash : '/' ∉ Text.quoted identity.toList := fun member =>
    absurd (Text.isSegmentChar_quoted _ _ member) (by decide)
  rw [endpointChars, Text.splitAt_append, Text.splitAt_whole is.noSlash, Text.splitAt_whole noSlash]
  rfl

theorem below_endpointChars (is : IsSegment folder.toList) :
    ∀ c ∈ endpointChars folder identity, RequestUrl.isBelowChar c = true := by
  intro c member
  unfold RequestUrl.isBelowChar
  rcases List.mem_append.mp member with first | rest
  · rw [is.chars c first]
    rfl
  · rcases List.mem_cons.mp rest with slash | last
    · rw [slash]
      decide
    · rw [Text.isSegmentChar_quoted _ c last]
      rfl

theorem parse_endpoint {service : List Char} {base : RequestUrl} (below : IsFolder service base)
    (is : IsSegment folder.toList) (stay : identity ≠ ".") (up : identity ≠ "..") :
    RequestUrl.parse (service ++ endpointChars folder identity) =
      if RequestUrl.maximalLength < (service ++ endpointChars folder identity).length then
        .error (.invalidUrl "URL too long")
      else .ok (addressFor base folder identity) := by
  apply below.parse_append (below_endpointChars is)
  rw [splitAt_endpointChars is]
  have last := isSegment_quoted stay up
  intro segment member
  simp only [List.mem_cons, List.not_mem_nil, or_false] at member
  rcases member with rfl | rfl
  · exact ⟨is.stay, is.up⟩
  · exact ⟨last.stay, last.up⟩

theorem addressFor_injective {base : RequestUrl} {other who : String} (first : IsSegment folder.toList)
    (second : IsSegment other.toList) (plain : base.query = none ∧ base.fragment = none)
    (same : (addressFor base folder identity).text = (addressFor base other who).text) :
    folder = other ∧ identity = who := by
  have text : ∀ folder identity : String, (addressFor base folder identity).text =
      ((if base.scheme.isEmpty then [] else base.scheme ++ [':']) ++
        (if base.authority.isEmpty then [] else '/' :: '/' :: base.authority) ++ base.path) ++
        endpointChars folder identity := by
    intro folder identity
    unfold RequestUrl.text addressFor
    rw [plain.1, plain.2]
    simp [RequestUrl.authority, RequestUrl.hostText]
  rw [text, text] at same
  have pieces := congrArg (Text.splitAt '/') (List.append_cancel_left same)
  rw [splitAt_endpointChars first, splitAt_endpointChars second] at pieces
  obtain ⟨folders, rest⟩ := List.cons.inj pieces
  obtain ⟨segments, -⟩ := List.cons.inj rest
  exact ⟨String.toList_inj.mp folders, String.toList_inj.mp (Text.quoted_injective segments)⟩

/-! ### Requests -/

/-- An endpoint as a client names it. -/
def endpointName (folder identity : String) : String := folder ++ "/" ++ identity.quoted

theorem toList_endpointName : (endpointName folder identity).toList = endpointChars folder identity := by
  unfold endpointName endpointChars String.quoted
  rw [String.toList_append, String.toList_append, String.toList_ofList, List.append_assoc, String.toList_ofList]
  rfl

theorem isBelowChar_noScheme {c : Char} (below : RequestUrl.isBelowChar c = true) :
    (!(decide (c = '\t') || decide (c = '\n') || decide (c = '\r'))) = true ∧ decide (c ≠ ':') = true := by
  rcases Bool.or_eq_true_iff.mp below with segment | slash
  · constructor
    · exact Text.isSegmentChar_ascii (p := fun c => !(decide (c = '\t') || decide (c = '\n') || decide (c = '\r')))
        (by decide +kernel) segment
    · exact Text.isSegmentChar_ascii (p := fun c => decide (c ≠ ':')) (by decide +kernel) segment
  · rw [of_decide_eq_true slash]
    decide

theorem split_noScheme {cs : List Char} (below : ∀ c ∈ cs, RequestUrl.isBelowChar c = true)
    (root : cs.head? ≠ some '/') : ∃ parts, UrlParts.split [] cs = .ok parts ∧ parts.scheme = [] := by
  have kept : cs.filter (fun c => !(decide (c = '\t') || decide (c = '\n') || decide (c = '\r'))) = cs :=
    List.filter_eq_self.mpr fun c member => (isBelowChar_noScheme (below c member)).1
  have noColon : cs.dropWhile (fun c => decide (c ≠ ':')) = [] :=
    List.dropWhile_eq_nil_iff.mpr fun c member => (isBelowChar_noScheme (below c member)).2
  have noScheme : UrlParts.splitScheme [] cs = ([], cs) := by
    unfold UrlParts.splitScheme
    rw [noColon]
  unfold UrlParts.split
  dsimp only
  rw [kept, noScheme]
  dsimp only
  split
  next => exact absurd rfl root
  next => exact ⟨_, rfl, rfl⟩

/-- What a client names is no address of its own, so it is below the service. -/
theorem resolve_endpoint (site : Site) (is : IsSegment folder.toList) (named : folder.toList ≠ []) :
    resolve site (endpointName folder identity) = .ok (site.service ++ endpointName folder identity) := by
  have root : (endpointChars folder identity).head? ≠ some '/' := by
    obtain ⟨first, rest, start⟩ := List.exists_cons_of_ne_nil named
    intro slash
    rw [endpointChars, start, List.cons_append, List.head?_cons, Option.some.injEq] at slash
    exact is.noSlash (by rw [start, slash]; exact List.mem_cons_self)
  obtain ⟨parts, split, scheme⟩ := split_noScheme (below_endpointChars is) root
  unfold resolve
  rw [toList_endpointName, split]
  change (if ["http", "https"].contains (String.ofList parts.scheme) then _ else _) = _
  rw [scheme]
  rfl

/-- Is this how a client asks: for what to begin with, or to say something? -/
inductive IsAsked : String → String → Json → Prop where
  | boot : IsAsked "GET" "init" .null
  | said (message : String) : IsAsked "POST" "chat" (.obj [("input", .str message)])

theorem IsAsked.isSegment {method : String} {data : Json} (asked : IsAsked method folder data) :
    IsSegment folder.toList ∧ folder.toList ≠ [] := by
  cases asked with
  | boot => exact ⟨⟨List.all_eq_true.mp (by decide), by decide, by decide⟩, by decide⟩
  | said message => exact ⟨⟨List.all_eq_true.mp (by decide), by decide, by decide⟩, by decide⟩

theorem IsAsked.terms {method : String} {data : Json} (asked : IsAsked method folder data) (identity : String) :
    String.ofList (method.toList.map Text.upperAscii) = method ∧
      ∃ terms contentType,
        termsOf method (.data data) (Client.callFor method folder identity data).options = .ok terms ∧
        headerText terms.accept = .ok Response.jsonType ∧ headerText? terms.contentType = .ok contentType ∧
        headerText? terms.encoding = .ok none ∧ terms.parameters = none := by
  cases asked with
  | boot => exact ⟨rfl, { accept := .str Response.jsonType }, none, rfl, rfl, rfl, rfl, rfl⟩
  | said message =>
    let said : Terms := {
      accept := .str Response.jsonType
      contentType := some (.str bodyType)
      body := (Json.obj [("input", .str message)]).written }
    exact ⟨rfl, said, some bodyType, rfl, rfl, rfl, rfl, rfl⟩

/-- Is the address for an identity longer than any that a request is sent to? It is as long in each folder. -/
def isTooLong (service : String) (identity : String) : Bool :=
  decide (RequestUrl.maximalLength < (service.toList ++ endpointChars "chat" identity).length)

theorem IsAsked.isTooLong {method : String} {data : Json} (asked : IsAsked method folder data) (service : String) :
    RequestUrl.maximalLength < (service.toList ++ endpointChars folder identity).length ↔
      Exchange.isTooLong service identity = true := by
  have long : (endpointChars folder identity).length = (endpointChars "chat" identity).length := by
    cases asked with
    | boot => rfl
    | said message => rfl
  unfold Exchange.isTooLong
  rw [decide_eq_true_eq, List.length_append, List.length_append, long]

theorem isAbsolute_addressFor {service : List Char} {base : RequestUrl} (below : IsFolder service base)
    (folder identity : String) : (addressFor base folder identity).isAbsolute = true := by
  have scheme : base.scheme ≠ [] := by
    rcases below.web with web | web
    · rw [web]
      decide
    · rw [web]
      decide
  simp [RequestUrl.isAbsolute, addressFor, scheme, below.host]

theorem cookiesFor_ok (now : Int) {target : RequestUrl} (absolute : target.isAbsolute = true) (jar : CookieJar) :
    ∃ cookie, cookiesFor now target jar = .ok cookie := by
  unfold cookiesFor
  rw [if_pos absolute]
  split
  next => exact ⟨_, rfl⟩
  next => exact ⟨_, rfl⟩

/-- What a client asks for comes to a request to the address in its folder, unless that is too long. -/
theorem prepare_asking (site : Site) (jar : CookieJar) (now : Int) {base : RequestUrl}
    (below : IsFolder site.service.toList base) (stay : identity ≠ ".") (up : identity ≠ "..") {method : String}
    {data : Json} (asked : IsAsked method folder data) :
    ∃ request : Request, request.method = method ∧ request.url = String.ofList (addressFor base folder identity).text ∧
      prepare site jar now (Client.callFor method folder identity data) =
        if isTooLong site.service identity then .error (.invalidUrl "URL too long")
        else .ok { url := site.service ++ endpointName folder identity, target := addressFor base folder identity
                   jar := jar.copy, request } := by
  obtain ⟨is, named⟩ := asked.isSegment
  obtain ⟨upper, terms, contentType, known, accept, typed, encoded, none⟩ := asked.terms identity
  have absolute := isAbsolute_addressFor below folder identity
  obtain ⟨cookie, chosen⟩ := cookiesFor_ok now absolute jar.copy
  let request : Request := {
    method, contentType, cookie
    url := String.ofList (addressFor base folder identity).text
    accept := Response.jsonType
    body := terms.body }
  refine ⟨request, rfl, rfl, ?_⟩
  have read : RequestUrl.parse (site.service ++ endpointName folder identity).toList =
      if isTooLong site.service identity then .error (.invalidUrl "URL too long")
      else .ok (addressFor base folder identity) := by
    rw [String.toList_append, toList_endpointName, parse_endpoint below is stay up]
    exact if_congr (asked.isTooLong site.service) rfl rfl
  have ready : (addressFor base folder identity).forRequest = .ok (addressFor base folder identity) := by
    unfold RequestUrl.forRequest
    rw [if_pos absolute]
  unfold prepare
  change (resolve site (endpointName folder identity) >>= _) = _
  rw [resolve_endpoint site is named]
  change (termsOf (String.ofList (method.toList.map Text.upperAscii)) (.data data) _ >>= _) = _
  rw [upper, known]
  change (RequestUrl.parse (site.service ++ endpointName folder identity).toList >>= _) = _
  rw [read]
  split
  next => rfl
  next =>
    simp only [bind, Except.bind, pure, Except.pure, ready, accept, typed, encoded, none, chosen]
    dsimp only [Client.callFor]
    rw [upper]

end Exchange

namespace Client

variable {μ : Type}

def folders : List (String × String) := [("GET", "init"), ("POST", "chat")]

/-- Does a request go where it should for a call, to the address for an identity in the folder for its method? -/
def GoesOut (base : RequestUrl) (identity : String) (call : Call) (request : Request) : Prop :=
  request.method = call.method ∧ ∃ folder, (call.method, folder) ∈ folders ∧
    request.url = String.ofList (Exchange.addressFor base folder identity).text

/-- Does all that a client has asked for its identity since a state go out, unless its address is too long? -/
structure HasSent (service identity : String) (base : RequestUrl) (before now : Client × Surroundings μ) : Prop where
  speaker : now.1.site.identity = .str identity
  place : now.1.transport.site.service = service
  sent : ∃ calls requests, now.1.transport.issued = before.1.transport.issued ++ calls ∧
    now.2.wire.arrived = before.2.wire.arrived ++ requests ∧
    if Exchange.isTooLong service identity then requests = [] else List.Forall₂ (GoesOut base identity) calls requests

variable {service identity : String} {base : RequestUrl} {before now : Client × Surroundings μ}

theorem HasSent.asked (has : HasSent service identity base before now)
    (below : RequestUrl.IsFolder service.toList base) (stay : identity ≠ ".") (up : identity ≠ "..")
    {method folder : String} {data : Json} (asked : Exchange.IsAsked method folder data)
    (callbacks : Callbacks Callback) :
    HasSent service identity base before (putTransport now
      (now.1.transport.afterIssue now.2.wire (callFor method folder identity data) callbacks)) := by
  obtain ⟨calls, requests, issued, arrived, sent⟩ := has.sent
  have asks := Transport.issued_afterIssue now.1.transport now.2.wire (callFor method folder identity data) callbacks
  obtain ⟨site, arrives⟩ :=
    Transport.arrived_afterIssue now.1.transport now.2.wire (callFor method folder identity data) callbacks
  rw [← has.place] at below
  obtain ⟨request, posted, address, prepared⟩ := Exchange.prepare_asking now.1.transport.site now.1.transport.jar
    now.2.wire.now below stay up asked
  rw [prepared] at arrives
  have known : (method, folder) ∈ folders := by
    cases asked with
    | boot => decide
    | said message => decide
  generalize now.1.transport.afterIssue now.2.wire _ callbacks = after at asks site arrives ⊢
  refine ⟨has.speaker, (congrArg Site.service site).trans has.place, ?_⟩
  change ∃ more later, after.1.issued = _ ∧ after.2.arrived = _ ∧ _
  rw [asks, arrives, issued, arrived, List.append_assoc, List.append_assoc]
  refine ⟨_, _, rfl, rfl, ?_⟩
  rw [has.place]
  split
  next long =>
    rw [if_pos long] at sent
    rw [sent]
    rfl
  next fits =>
    rw [if_neg fits] at sent
    exact List.rel_append sent (.cons ⟨posted, folder, known, address⟩ .nil)

theorem HasSent.converse (below : RequestUrl.IsFolder service.toList base) (stay : identity ≠ ".")
    (up : identity ≠ "..") {method folder : String} {data : Json} (asked : Exchange.IsAsked method folder data) :
    Op.Keeps (HasSent (μ := μ) service identity base before) (converse method folder data) := by
  intro s has
  obtain ⟨callbacks, log, sent⟩ := start_converse has.speaker method folder data
  rw [sent]
  exact has.asked below stay up asked callbacks

theorem hasSent_steady [StorageArea μ] : IsSteady (HasSent (μ := μ) service identity base before) :=
  .aside (fun _ _ has => ⟨has.speaker, has.place, has.sent⟩) fun _ _ has => ⟨has.speaker, has.place, has.sent⟩

/-! ### All that is done with a client -/

variable [StorageArea μ]

/-- Something that is done with a client, asking for what to begin with among it. -/
inductive Act where
  | boot
  | turn (turn : Turn)

def Act.perform : Act → ClientOn μ Unit
  | .boot => Client.boot
  | .turn next => next.perform

/-- Act one after another, whether what is done fails or not. -/
def act (acts : List Act) (s : Logged (Client × Surroundings μ)) : Logged (Client × Surroundings μ) :=
  acts.foldl (fun s act => (act.perform.start s).2) s

theorem HasSent.act (below : RequestUrl.IsFolder service.toList base) (stay : identity ≠ ".") (up : identity ≠ "..")
    (acts : List Act) {s : Logged (Client × Surroundings μ)} (has : HasSent service identity base before s.state) :
    HasSent service identity base before (act acts s).state := by
  have posts : OutlastsPosts (HasSent (μ := μ) service identity base before) := fun message =>
    HasSent.converse below stay up (.said message)
  induction acts generalizing s with
  | nil => exact has
  | cons first acts ih =>
    apply ih
    cases first with
    | boot => exact HasSent.converse below stay up .boot s has
    | turn turn => exact hasSent_steady.turn posts turn s has

/-- Take a client whose site was found for an identity, with a service on the web, and let anything be done with it.
Whatever it asks for goes out, unless its address is too long: the requests for what to begin with and those that say
something, each to the path of the service with their folder and one segment more, from which the identity can be read
again. So no other identity has the address of a request. Only an identity that is a step has none of its own. -/
theorem requests_go_to_own_address {s : Logged (Client × Surroundings μ)} {script page : Json} {identity : String}
    (found : Site.discover script page (.str identity) = .ok (some s.state.1.site))
    (one : s.state.1.transport.site = s.state.1.site) {base : RequestUrl}
    (read : RequestUrl.parse s.state.1.site.service.toList = .ok base)
    (web : base.scheme = "http".toList ∨ base.scheme = "https".toList) (host : base.host ≠ [])
    (stay : identity ≠ ".") (up : identity ≠ "..") (acts : List Act) :
    let segment := Text.quoted identity.toList
    (segment ≠ [] ∧ '/' ∉ segment ∧ Text.unquoted segment = .ok identity.toList) ∧
      (∃ calls requests, (act acts s).state.1.transport.issued = s.state.1.transport.issued ++ calls ∧
        (act acts s).state.2.wire.arrived = s.state.2.wire.arrived ++ requests ∧
        if Exchange.isTooLong s.state.1.site.service identity then requests = []
        else List.Forall₂ (GoesOut base identity) calls requests) ∧
      ∀ other, other ≠ identity → ∀ folder ∈ folders.map (·.2), ∀ own ∈ folders.map (·.2),
        (Exchange.addressFor base folder other).text ≠ (Exchange.addressFor base own identity).text := by
  intro segment
  have below := Site.isFolder_service found read web host
  obtain ⟨truthy, speaker, -, -⟩ := Site.discover_ok found
  have unquoted : Text.unquoted segment = .ok identity.toList := Text.unquoted_quoted _
  refine ⟨⟨?_, (Exchange.isSegment_quoted stay up).noSlash, unquoted⟩, ?_, ?_⟩
  · intro empty
    have nothing : Text.unquoted [] = .ok [] := Text.unquoted_quoted []
    rw [empty, nothing] at unquoted
    have nobody : identity = "" := String.toList_inj.mp (Except.ok.inj unquoted).symm
    rw [nobody] at truthy
    exact absurd truthy (by decide)
  · have nothing : HasSent s.state.1.site.service identity base s.state s.state := by
      refine ⟨speaker, congrArg Site.service one, [], [], by simp, by simp, ?_⟩
      split
      next => rfl
      next => exact .nil
    exact (nothing.act below stay up acts).sent
  · intro other different folder inFolders own ownFolder same
    have segments : ∀ folder ∈ folders.map (·.2), Exchange.IsSegment folder.toList := by
      intro folder member
      simp only [folders, List.map_cons, List.map_nil, List.mem_cons, List.not_mem_nil, or_false] at member
      rcases member with rfl | rfl
      · exact (Exchange.IsAsked.isSegment .boot).1
      · exact (Exchange.IsAsked.isSegment (.said "")).1
    exact different (Exchange.addressFor_injective (segments folder inFolders) (segments own ownFolder)
      ⟨below.query, below.fragment⟩ same).2

/-- A client on an empty page, for an identity at the site of a script. -/
def speakingAs (identity : String) : Logged (Client × Surroundings MapArea) :=
  let start := onEmptyPage {}
  let site : Site := {
    root := "http://localhost:8080/"
    service := "http://localhost:8080/responsio/"
    identity := .str identity }
  { start with state := ({ start.state.1 with site, transport := { site } }, start.state.2) }

/-- Here the identity holds steps and marks that would end the path. -/
theorem requests_go_to_own_address_marked :
    let identity := "../a?b=%2F"
    let s := speakingAs identity
    let acts : List Act := [.boot, .turn (.init .null), .turn (.submit "hello")]
    let script : Json := .str ("http://localhost:8080" ++ Fault.scriptName)
    Site.discover script .null (.str identity) = .ok (some s.state.1.site) ∧
      (act acts s).state.2.wire.arrived.map (·.url) =
        ["http://localhost:8080/responsio/init/..%2Fa%3Fb%3D%252F",
          "http://localhost:8080/responsio/chat/..%2Fa%3Fb%3D%252F"] ∧
      ∃ base calls requests, RequestUrl.parse s.state.1.site.service.toList = .ok base ∧
        (act acts s).state.2.wire.arrived = requests ∧ List.Forall₂ (GoesOut base identity) calls requests := by
  intro identity s acts script
  have found : Site.discover script .null (.str identity) = .ok (some s.state.1.site) := rfl
  let base : RequestUrl := {
    scheme := "http".toList
    host := "localhost".toList
    port := some 8080
    path := "/responsio/".toList }
  have read : RequestUrl.parse s.state.1.site.service.toList = .ok base := by
    change RequestUrl.parse "http://localhost:8080/responsio/".toList = _
    rfl
  have short : Exchange.isTooLong s.state.1.site.service identity = false := by decide +kernel
  have urls : (act acts s).state.2.wire.arrived.map (·.url) =
      ["http://localhost:8080/responsio/init/..%2Fa%3Fb%3D%252F",
        "http://localhost:8080/responsio/chat/..%2Fa%3Fb%3D%252F"] := by
    decide +kernel
  -- The acts need not be looked at any more, and would be run again by each step.
  generalize acts = acts at urls ⊢
  obtain ⟨-, ⟨calls, requests, -, arrived, sent⟩, -⟩ := requests_go_to_own_address (s := s) found rfl read
    (.inl rfl) (by decide) (by decide) (by decide) acts
  rw [short, if_neg Bool.false_ne_true] at sent
  exact ⟨found, urls, base, calls, requests, read, arrived, sent⟩

/-- The address for an identity that is a step ends before it, and for a step up before the folder. -/
theorem step_has_no_address :
    (act [.boot] (speakingAs ".")).state.2.wire.arrived.map (·.url) = ["http://localhost:8080/responsio/init"] ∧
      (act [.boot] (speakingAs "..")).state.2.wire.arrived.map (·.url) = ["http://localhost:8080/responsio"] := by
  decide +kernel

end Client

end ChatWidget
