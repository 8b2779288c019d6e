import ChatWidget.Proofs.Net.Ending
import ChatWidget.Proofs.Net.Service
/-!
Whom a request goes to. The address of a service ends in a folder, so scheme and authority are found in it before
anything that is put behind it is looked at: whatever an endpoint holds, it comes into the path, the query or the
fragment, and the request goes to the host and the port of the service, in the name of the same user.
-/
namespace ChatWidget

namespace RequestUrl

/-! ### What is put behind a text -/

theorem cutAt_behind {marks cs : List Char} (more : List Char) (some : (cutAt marks cs).2 ≠ []) :
    cutAt marks (cs ++ more) = ((cutAt marks cs).1, (cutAt marks cs).2 ++ more) := by
  obtain ⟨c, rest, after⟩ := List.exists_cons_of_ne_nil some
  have joined := cutAt_joined marks cs
  have mark := cutAt_after after
  have cut : cutAt marks ((cutAt marks cs).1 ++ ((cutAt marks cs).2 ++ more)) =
      ((cutAt marks cs).1, (cutAt marks cs).2 ++ more) := by
    apply cutAt_append cutAt_before
    intro d later same
    rw [after, List.cons_append] at same
    rw [← (List.cons.inj same).1]
    exact mark
  rwa [← List.append_assoc, joined] at cut

theorem cutAt_none {marks cs : List Char} (none : (cutAt marks cs).2 = []) : ∀ c ∈ cs, c ∉ marks := by
  have joined := cutAt_joined marks cs
  rw [none, List.append_nil] at joined
  rw [← joined]
  exact cutAt_before

theorem schemeCut_behind {cs : List Char} (slash : '/' ∈ cs) (more : List Char) :
    schemeCut (cs ++ more) = ((schemeCut cs).1, (schemeCut cs).2 ++ more) := by
  by_cases colon : (cutAt [':'] cs).2 = []
  · -- A colon can only stand behind the text then, and no scheme goes on past a slash.
    have cut := cutAt_past (cutAt_none colon) more
    obtain ⟨first, rest, start⟩ := List.exists_cons_of_ne_nil (List.ne_nil_of_mem slash)
    have noScheme : ∀ others, (Text.isLetter first && (rest ++ others).all isSchemeChar) = false := by
      intro others
      rw [Bool.and_eq_false_iff]
      rw [start] at slash
      rcases List.mem_cons.mp slash with rfl | inside
      · exact .inl (by decide)
      · exact .inr (List.all_eq_false.mpr ⟨'/', List.mem_append_left _ inside, by decide⟩)
    have alone : schemeCut cs = ([], cs) := by
      unfold schemeCut
      rw [colon]
    rw [alone]
    unfold schemeCut
    rw [cut, start, List.cons_append]
    dsimp only
    split
    next mark later first' others after same =>
      rw [(List.cons.inj same).1.symm, (List.cons.inj same).2.symm, noScheme, if_neg Bool.false_ne_true]
    next same => cases same
    next => rfl
  · have cut := cutAt_behind more colon
    obtain ⟨mark, rest, after⟩ := List.exists_cons_of_ne_nil colon
    unfold schemeCut
    rw [cut, after, List.cons_append]
    cases start : (cutAt [':'] cs).1 with
    | nil => rfl
    | cons first others =>
      dsimp only
      split
      next => rfl
      next => rfl

theorem authorityCut_behind {cs : List Char} (more : List Char) (long : 2 ≤ cs.length)
    (some : ∀ rest, cs = '/' :: '/' :: rest → '/' ∈ rest) :
    authorityCut (cs ++ more) = ((authorityCut cs).1, (authorityCut cs).2 ++ more) := by
  match cs, long with
  | c :: d :: rest, _ =>
    by_cases slashes : c = '/' ∧ d = '/'
    · obtain ⟨rfl, rfl⟩ := slashes
      apply cutAt_behind
      intro none
      exact cutAt_none none '/' (some rest rfl) (by decide)
    · have other : ∀ rest, authorityCut (c :: d :: rest) = ([], c :: d :: rest) := by
        intro rest
        unfold authorityCut
        split
        next same =>
          obtain ⟨first, same⟩ := List.cons.inj same
          exact absurd ⟨first, (List.cons.inj same).1⟩ slashes
        next => rfl
      rw [List.cons_append, List.cons_append, other, other]
      rfl

theorem schemeCut_folder {folder cs : List Char} (noColon : ':' ∉ folder) (ends : folder <:+ cs) :
    folder <:+ (schemeCut cs).2 := by
  have later : ∀ mark rest, (cutAt [':'] cs).2 = mark :: rest → folder <:+ rest := by
    intro mark rest after
    have colon := List.mem_singleton.mp (cutAt_after after)
    have joined := cutAt_joined [':'] cs
    rw [after, colon] at joined
    have behind : ':' :: rest <:+ cs := ⟨_, joined⟩
    rcases List.suffix_or_suffix_of_suffix ends behind with within | longer
    · rcases List.suffix_cons_iff.mp within with whole | within
      · exact absurd (whole ▸ List.mem_cons_self) noColon
      · exact within
    · exact absurd (longer.mem List.mem_cons_self) noColon
  unfold schemeCut
  split
  next mark rest first more after start =>
    split
    next => exact later mark rest after
    next => exact ends
  next mark rest after start => exact later mark rest after
  next => exact ends

/-- What is put behind a text that ends in the folder of a service comes into the path or behind it. -/
theorem Written.ofText_behind {cs : List Char} (noMarks : HasNoMarks cs) (ends : Site.serviceFolder.toList <:+ cs)
    (more : List Char) : ∃ inPath query fragment, Written.ofText (cs ++ more) =
      { Written.ofText cs with path := (Written.ofText cs).path ++ inPath, query, fragment } := by
  have folder := schemeCut_folder (by decide) ends
  have slash : '/' ∈ Site.serviceFolder.toList := by decide
  have authority : authorityCut ((schemeCut cs).2 ++ more) =
      ((authorityCut (schemeCut cs).2).1, (authorityCut (schemeCut cs).2).2 ++ more) := by
    apply authorityCut_behind
    · exact le_trans (by decide) folder.length_le
    · intro rest start
      rw [start] at folder
      rcases List.suffix_cons_iff.mp folder with whole | folder
      · cases whole
      rcases List.suffix_cons_iff.mp folder with whole | folder
      · cases whole
      exact folder.mem slash
  have path : ∀ c ∈ (authorityCut (schemeCut cs).2).2, c ∉ ['?', '#'] := fun c member =>
    noMarks c (mem_schemeCut (mem_authorityCut member))
  have whole : cutAt ['?', '#'] (authorityCut (schemeCut cs).2).2 = ((authorityCut (schemeCut cs).2).2, []) := by
    have cut := cutAt_past path []
    rwa [List.append_nil, show cutAt ['?', '#'] [] = ([], []) from rfl, List.append_nil] at cut
  rw [Written.ofText_eq, Written.ofText_eq, schemeCut_behind (ends.mem slash)]
  dsimp only
  rw [authority]
  dsimp only
  rw [cutAt_past path, whole]
  exact ⟨_, _, _, rfl⟩

/-! ### Whom an address names -/

/-- Whom an address names, and as whom: what there is of it up to host and port. -/
def origin (url : RequestUrl) : RequestUrl := { url with path := [], query := none, fragment := none }

def IsRooted (path : List Char) : Prop := ∀ c rest, path = c :: rest → c = '/'

theorem isRooted_nil : IsRooted [] := nofun

theorem isRooted_slash (rest : List Char) : IsRooted ('/' :: rest) := by
  intro c others same
  exact (List.cons.inj same).1.symm

theorem IsRooted.percentEncode {path : List Char} (rooted : IsRooted path) :
    IsRooted (Text.percentEncode inPath path) := by
  cases path with
  | nil => exact isRooted_nil
  | cons c rest =>
    rw [rooted c rest rfl]
    exact isRooted_slash _

theorem IsRooted.resolvePath {path : List Char} (rooted : IsRooted path) : IsRooted (resolvePath path) := by
  rw [resolvePath_eq]
  split
  next => exact rooted
  next =>
    cases path with
    | nil => exact isRooted_nil
    | cons c rest =>
      rw [rooted c rest rfl, Text.splitAt_separator, List.foldl_cons]
      obtain ⟨others, folded⟩ := foldl_stepped_front (Text.splitAt '/' rest) []
      have first : stepped [] [] = [[]] := rfl
      rw [first, folded]
      cases others with
      | nil => exact isRooted_nil
      | cons next others => exact isRooted_slash _

/-- The path in normal form begins at the root if it does so as it is written, and where there is a host it has to. -/
theorem ofWritten_rooted {written : Written} {url : RequestUrl} (read : ofWritten written = .ok url) :
    (IsRooted written.path → IsRooted url.path) ∧ (url.host ≠ [] → IsRooted url.path) := by
  obtain ⟨host, port, -, -, checked, rfl⟩ := ofWritten_ok_iff.mp read
  have keeps : IsRooted written.path → ∀ resolves : Bool,
      IsRooted (Text.percentEncode inPath (if resolves then RequestUrl.resolvePath written.path else written.path)) := by
    intro rooted resolves
    cases resolves with
    | true => exact rooted.resolvePath.percentEncode
    | false => exact rooted.percentEncode
  refine ⟨fun rooted => keeps rooted _, fun some => keeps ?_ _⟩
  dsimp only at some
  have named : written.isNamed host port = true := by simp [Written.isNamed, some]
  rw [named] at checked
  intro c rest start
  unfold checkPath at checked
  rw [if_pos rfl, start] at checked
  simpa using checked

/-- Two addresses with the same scheme and authority name the same, if either path can stand there. -/
theorem ofWritten_origin {written other : Written} (scheme : other.scheme = written.scheme)
    (authority : other.authority = written.authority)
    (fits : ∀ named, checkPath written.path (!written.scheme.isEmpty) named = .ok () →
      checkPath other.path (!written.scheme.isEmpty) named = .ok ())
    {url : RequestUrl} (read : ofWritten written = .ok url) :
    ∃ own, ofWritten other = .ok own ∧ own.origin = url.origin := by
  obtain ⟨host, port, hosted, ported, checked, rfl⟩ := ofWritten_ok_iff.mp read
  have named : other.isNamed host port = written.isNamed host port := by
    rw [Written.isNamed, authority]
    rfl
  refine ⟨_, ofWritten_ok_iff.mpr ⟨host, port, ?_, ?_, ?_, rfl⟩, ?_⟩
  · rw [authority]
    exact hosted
  · rw [scheme, authority]
    exact ported
  · rw [scheme, named]
    exact fits _ checked
  · rw [origin, origin, scheme, authority]

theorem IsRooted.front {path more : List Char} (rooted : IsRooted (path ++ more)) : IsRooted path := by
  rintro c rest rfl
  exact rooted c (rest ++ more) rfl

theorem checkPath_ok_iff {path : List Char} {hasScheme named : Bool} :
    checkPath path hasScheme named = .ok () ↔
      if named then IsRooted path
      else hasScheme = true ∨ ¬ ['/', '/'] <+: path ∧ path.head? ≠ some ':' := by
  unfold checkPath IsRooted
  cases named with
  | true =>
    cases path with
    | nil => simp
    | cons c rest => simp
  | false =>
    cases hasScheme with
    | true => simp
    | false =>
      rw [← List.isPrefixOf_iff_prefix]
      simp only [Bool.false_eq_true, if_false, false_or]
      split
      next twice => simp [twice]
      next once =>
        split
        next colon => simp [colon]
        next other => simp [once, other]

theorem checkPath_front {path more : List Char} {hasScheme named : Bool}
    (checked : checkPath (path ++ more) hasScheme named = .ok ()) : checkPath path hasScheme named = .ok () := by
  rw [checkPath_ok_iff] at checked ⊢
  cases named with
  | true => exact IsRooted.front checked
  | false =>
    refine checked.imp_right fun fits => ⟨fun twice => fits.1 (twice.trans (List.prefix_append _ _)), fun colon => ?_⟩
    apply fits.2
    rw [List.head?_append, colon]
    rfl

/-- An address that goes on names the same as without what is put behind it. -/
theorem parse_behind {cs more : List Char} (noMarks : HasNoMarks cs) (ends : Site.serviceFolder.toList <:+ cs)
    {url : RequestUrl} (read : parse (cs ++ more) = .ok url) :
    ∃ own, parse cs = .ok own ∧ own.origin = url.origin := by
  obtain ⟨inPath, query, fragment, longer⟩ := Written.ofText_behind noMarks ends more
  obtain ⟨controls, whole⟩ := parse_ok read
  rw [longer] at whole
  have origins : ∃ own, ofWritten (Written.ofText cs) = .ok own ∧ own.origin = url.origin := by
    refine ofWritten_origin ?_ ?_ ?_ whole
    · rfl
    · rfl
    · intro named checked
      change checkPath (_ ++ inPath) _ named = .ok () at checked
      exact checkPath_front checked
  have short : ¬ maximalLength < cs.length := by
    intro long
    have exceeds : maximalLength < (cs ++ more).length := by
      rw [List.length_append]
      omega
    unfold parse at read
    rw [if_pos exceeds] at read
    cases read
  have none : cs.find? isControl = none := by
    rw [List.find?_append, Option.or_eq_none_iff] at controls
    exact controls.1
  unfold parse
  rw [if_neg short, none]
  exact origins

/-! ### Asking -/

/-- Can a request be sent to an address, with parameters or without? -/
structure IsReady (url : RequestUrl) : Prop where
  rooted : IsRooted url.path
  single : url.scheme = [] → ¬ ['/', '/'] <+: url.path

theorem IsReady.checkPath {url : RequestUrl} (ready : IsReady url) (named : Bool) :
    checkPath url.path (!url.scheme.isEmpty) named = .ok () := by
  rw [checkPath_ok_iff]
  cases named with
  | true => exact ready.rooted
  | false =>
    by_cases scheme : url.scheme = []
    · refine .inr ⟨ready.single scheme, fun colon => ?_⟩
      obtain ⟨rest, start⟩ := List.head?_eq_some_iff.mp colon
      exact absurd (ready.rooted ':' rest start) (by decide)
    · exact .inl (by simp [scheme])

theorem origin_eq_iff {own url : RequestUrl} : own.origin = url.origin ↔
    own.scheme = url.scheme ∧ own.userInfo = url.userInfo ∧ own.host = url.host ∧ own.port = url.port := by
  simp [origin]

theorem percentEncode_head {rest : List Char} (other : rest.head? ≠ some '/') :
    (Text.percentEncode inPath rest).head? ≠ some '/' := by
  cases rest with
  | nil => exact other
  | cons c rest =>
    unfold Text.percentEncode
    rw [List.flatMap_cons]
    split
    next => exact other
    next =>
      have some : String.utf8EncodeChar c ≠ [] := by
        rw [← List.length_pos_iff, String.length_utf8EncodeChar]
        exact Char.utf8Size_pos c
      obtain ⟨byte, bytes, coded⟩ := List.exists_cons_of_ne_nil some
      rw [Text.percentChar, coded, List.flatMap_cons, Text.percentByte]
      simp

theorem ofWritten_relative {rest : List Char} (other : rest.head? ≠ some '/') (query : Option (List Char)) :
    ∃ url, ofWritten ⟨[], [], '/' :: rest, query, none⟩ = .ok url ∧ url.origin = {} ∧ IsReady url := by
  have fits : checkPath ('/' :: rest) false false = .ok () := by
    rw [checkPath_ok_iff]
    refine .inr ⟨fun twice => other ?_, by simp⟩
    obtain ⟨more, start⟩ := twice
    rw [← (List.cons.inj start).2]
    rfl
  have read : ofWritten ⟨[], [], '/' :: rest, query, none⟩ =
      .ok { path := Text.percentEncode inPath ('/' :: rest), query := query.map (Text.percentEncode inQuery) } := by
    unfold ofWritten
    change (checkPath ('/' :: rest) false false >>= _) = _
    rw [fits]
    rfl
  refine ⟨_, read, rfl, (isRooted_slash rest).percentEncode, fun _ twice => percentEncode_head other ?_⟩
  obtain ⟨more, start⟩ := twice
  have coded : Text.percentEncode inPath ('/' :: rest) = '/' :: Text.percentEncode inPath rest := rfl
  rw [coded] at start
  rw [← (List.cons.inj start).2]
  rfl

theorem forRequest_origin {own url asked : RequestUrl} (same : own.origin = url.origin)
    (rooted : own.host ≠ [] → IsRooted own.path) (done : url.forRequest = .ok asked) :
    ∃ mine, own.forRequest = .ok mine ∧ mine.origin = asked.origin ∧ IsReady mine := by
  obtain ⟨scheme, -, host, -⟩ := origin_eq_iff.mp same
  have alike : own.isAbsolute = url.isAbsolute := by
    unfold isAbsolute
    rw [scheme, host]
  have relative : ∀ path : List Char, (path.dropWhile (· = '/')).head? ≠ some '/' := by
    intro path start
    have first := List.head?_dropWhile_not (fun c => decide (c = '/')) path
    rw [start] at first
    cases first
  unfold forRequest at done ⊢
  rw [alike]
  split
  next absolute =>
    rw [if_pos absolute] at done
    cases done
    have named : own.scheme ≠ [] ∧ own.host ≠ [] := by
      rw [← alike] at absolute
      simpa [isAbsolute] using absolute
    exact ⟨own, rfl, same, rooted named.2, fun none => absurd none named.1⟩
  next other =>
    rw [if_neg other] at done
    obtain ⟨mine, asks, empty, ready⟩ :=
      ofWritten_relative (relative (if own.path.isEmpty then ['/'] else own.path)) own.query
    obtain ⟨their, theirs, nothing, -⟩ :=
      ofWritten_relative (relative (if url.path.isEmpty then ['/'] else url.path)) url.query
    rw [theirs] at done
    cases done
    exact ⟨mine, asks, empty.trans nothing.symm, ready⟩

theorem withQuery_origin {own url asked : RequestUrl} (same : own.origin = url.origin) (ready : IsReady own)
    {query : List Char} (done : url.withQuery query = .ok asked) :
    ∃ mine, own.withQuery query = .ok mine ∧ mine.origin = asked.origin ∧ IsRooted mine.path := by
  obtain ⟨scheme, user, host, port⟩ := origin_eq_iff.mp same
  have authority : own.authority = url.authority := by
    unfold RequestUrl.authority hostText
    rw [user, host, port]
  have fits := ready.checkPath
  rw [scheme] at fits
  have asks : ∃ mine, own.withQuery query = .ok mine ∧ mine.origin = asked.origin := by
    refine ofWritten_origin ?_ ?_ ?_ done
    · exact scheme
    · exact authority
    · exact fun named _ => fits named
  obtain ⟨mine, asks, origin⟩ := asks
  exact ⟨mine, asks, origin, (ofWritten_rooted asks).1 ready.rooted⟩

def endMarks : List Char := ['/', '?', '#']

/-- The address as text is whom it names, and then at most what begins with a mark that ends an authority. -/
theorem text_origin {url : RequestUrl} (rooted : IsRooted url.path) :
    ∃ rest, url.text = url.origin.text ++ rest ∧ ∀ c more, rest = c :: more → c ∈ endMarks := by
  have written : ∃ tail, url.text = url.origin.text ++ (url.path ++ tail) ∧
      ∀ c more, tail = c :: more → c = '?' ∨ c = '#' := by
    obtain ⟨scheme, userInfo, host, port, path, query, fragment⟩ := url
    simp only [text, origin, authority, hostText, List.append_nil, List.append_assoc]
    cases query with
    | some query => exact ⟨_, rfl, fun c more start => .inl (List.cons.inj start).1.symm⟩
    | none =>
      cases fragment with
      | some fragment => exact ⟨_, rfl, fun c more start => .inr (List.cons.inj start).1.symm⟩
      | none => exact ⟨_, rfl, fun c more start => nomatch start⟩
  obtain ⟨tail, written, marked⟩ := written
  refine ⟨url.path ++ tail, written, ?_⟩
  intro c more start
  cases path : url.path with
  | cons first others =>
    rw [path] at start
    rw [← (List.cons.inj start).1, rooted first others path]
    exact .head _
  | nil =>
    rw [path, List.nil_append] at start
    rcases marked c more start with rfl | rfl
    · exact .tail _ (.head _)
    · exact .tail _ (.tail _ (.head _))

end RequestUrl

namespace Exchange

open RequestUrl (IsRooted)

/-- Is an endpoint no address of the web itself? One that cannot be read is none. -/
def IsRelative (endpoint : String) : Prop :=
  ∀ parts, UrlParts.split [] endpoint.toList = .ok parts →
    parts.scheme ≠ "http".toList ∧ parts.scheme ≠ "https".toList

theorem resolve_relative {site : Site} {endpoint url : String} (relative : IsRelative endpoint)
    (resolved : resolve site endpoint = .ok url) : url = site.service ++ endpoint := by
  unfold resolve at resolved
  obtain ⟨parts, read, resolved⟩ := bind_ok resolved
  obtain ⟨http, https⟩ := relative parts read
  have other : ["http", "https"].contains (String.ofList parts.scheme) = false := by
    simp only [List.contains_eq_mem, List.mem_cons, List.not_mem_nil, or_false, decide_eq_false_iff_not, not_or]
    refine ⟨fun same => http ?_, fun same => https ?_⟩
    · rw [← same, String.toList_ofList]
    · rw [← same, String.toList_ofList]
  rw [other, if_neg Bool.false_ne_true] at resolved
  cases resolved
  rfl

theorem resolve_nothing (site : Site) : resolve site "" = .ok site.service := by
  change Except.ok (site.service ++ "") = _
  rw [String.append_empty]

/-- Where a request goes below a service, and where one to the service itself goes with the same parameters. -/
theorem addressed_origin {service endpoint : String} (noMarks : HasNoMarks service.toList)
    (ends : Site.serviceFolder.toList <:+ service.toList) {parameters : Option (List (String × String))}
    {target : RequestUrl} (found : addressed (service ++ endpoint) parameters = .ok target) :
    ∃ own, addressed service parameters = .ok own ∧ own.origin = target.origin ∧ IsRooted own.path ∧
      IsRooted target.path := by
  unfold addressed at found ⊢
  obtain ⟨parsed, read, found⟩ := bind_ok found
  obtain ⟨ready, asked, found⟩ := bind_ok found
  rw [String.toList_append] at read
  obtain ⟨base, based, same⟩ := RequestUrl.parse_behind noMarks ends read
  have rooted : ∀ {text : List Char} {url : RequestUrl}, RequestUrl.parse text = .ok url → url.host ≠ [] →
      IsRooted url.path := fun read => (RequestUrl.ofWritten_rooted (RequestUrl.parse_ok read).2).2
  obtain ⟨own, asks, origin, ownReady⟩ := RequestUrl.forRequest_origin same (rooted based) asked
  obtain ⟨_, again, -, isReady⟩ := RequestUrl.forRequest_origin rfl (rooted read) asked
  rw [asked] at again
  cases again
  rw [based]
  change ∃ own, (base.forRequest >>= _) = _ ∧ _
  rw [asks]
  cases parameters with
  | none =>
    cases found
    exact ⟨own, rfl, origin, ownReady.rooted, isReady.rooted⟩
  | some parameters =>
    obtain ⟨final, queried, same, rooted⟩ := RequestUrl.withQuery_origin origin ownReady found
    obtain ⟨_, again, -, isRooted⟩ := RequestUrl.withQuery_origin rfl isReady found
    change ready.withQuery (RequestUrl.formQuery parameters) = .ok target at found
    rw [found] at again
    cases again
    exact ⟨final, queried, same, rooted, isRooted⟩

/-- A call to what is no address of the web goes where the same call to the service itself goes. -/
theorem prepare_origin {script page identity : Json} {site : Site}
    (found : Site.discover script page identity = .ok (some site)) {jar : CookieJar} {now : Int} {call : Call}
    (relative : IsRelative call.endpoint) {exchange : Exchange} (prepared : prepare site jar now call = .ok exchange) :
    ∃ own, prepare site jar now { call with endpoint := "" } = .ok own ∧ own.url = site.service ∧
      own.target.origin = exchange.target.origin ∧ IsRooted own.target.path ∧ IsRooted exchange.target.path := by
  obtain ⟨url, terms, target, accept, contentType, encoding, cookie, resolved, known, address, accepts, typed, encoded,
    chosen, rfl⟩ := prepare_ok_iff.mp prepared
  obtain ⟨-, -, noMarks, -⟩ := Site.discover_ok found
  have ends : Site.serviceFolder.toList <:+ site.service.toList := by
    rw [Site.discover_service found, String.toList_append]
    exact List.suffix_append _ _
  rw [resolve_relative relative resolved] at address
  obtain ⟨own, ownAddress, same, rooted, isRooted⟩ := addressed_origin noMarks ends address
  obtain ⟨scheme, -, host, -⟩ := RequestUrl.origin_eq_iff.mp same
  have cookies : ∃ cookie, cookiesFor now own jar.copy = .ok cookie := by
    unfold cookiesFor at chosen ⊢
    have alike : own.isAbsolute = target.isAbsolute := by
      unfold RequestUrl.isAbsolute
      rw [scheme, host]
    rw [alike]
    split
    next => exact ⟨_, rfl⟩
    next some =>
      rw [if_neg some] at chosen
      split at chosen
      next absolute =>
        rw [if_pos absolute]
        exact ⟨_, rfl⟩
      next => cases chosen
  obtain ⟨ownCookie, ownChosen⟩ := cookies
  exact ⟨_, prepare_ok_iff.mpr ⟨_, terms, own, accept, contentType, encoding, ownCookie, resolve_nothing site, known,
    ownAddress, accepts, typed, encoded, ownChosen, rfl⟩, rfl, same, rooted, isRooted⟩

end Exchange

namespace Transport

variable {κ : Type}

theorem send_arrived_error {s : Logged (Transport κ × Wire)} {call : Call} {fault : Fault}
    (refused : Exchange.prepare s.state.1.site s.state.1.jar s.state.2.now call = .error fault) :
    ((send call).start s).2.state.2.arrived = s.state.2.arrived := by
  obtain ⟨⟨transport, wire⟩, log⟩ := s
  obtain ⟨events, sent⟩ := start_send call transport wire log
  replace refused : Exchange.prepare transport.site transport.jar wire.now call = .error fault := refused
  rw [sent, refused]

theorem send_arrived {s : Logged (Transport κ × Wire)} {call : Call} {exchange : Exchange}
    (prepared : Exchange.prepare s.state.1.site s.state.1.jar s.state.2.now call = .ok exchange) :
    ((send call).start s).2.state.2.arrived = s.state.2.arrived ++ [exchange.request] := by
  obtain ⟨⟨transport, wire⟩, log⟩ := s
  obtain ⟨events, sent⟩ := start_send call transport wire log
  replace prepared : Exchange.prepare transport.site transport.jar wire.now call = .ok exchange := prepared
  rw [sent, prepared]
  rfl

/-- Take the requests of a site that was found, and a call to what is no address of the web itself. If a request is sent
at all, the same call to the service itself sends one too, and both go to one scheme, host and port, in the name of one
user. As texts their addresses are the same up to the first mark behind these. -/
theorem relative_calls_stay_at_service {script page identity : Json} {s : Logged (Transport κ × Wire)}
    (found : Site.discover script page identity = .ok (some s.state.1.site)) {call : Call}
    (relative : Exchange.IsRelative call.endpoint) :
    let toService : Call := { call with endpoint := "" }
    let arrived (call : Call) := ((send call).start s).2.state.2.arrived
    arrived call = s.state.2.arrived ∨ ∃ exchange own : Exchange,
      Exchange.prepare s.state.1.site s.state.1.jar s.state.2.now call = .ok exchange ∧
      Exchange.prepare s.state.1.site s.state.1.jar s.state.2.now toService = .ok own ∧
      own.url = s.state.1.site.service ∧
      arrived call = s.state.2.arrived ++ [exchange.request] ∧
      arrived toService = s.state.2.arrived ++ [own.request] ∧
      exchange.request.url = String.ofList exchange.target.text ∧ own.request.url = String.ofList own.target.text ∧
      exchange.target.scheme = own.target.scheme ∧ exchange.target.userInfo = own.target.userInfo ∧
      exchange.target.host = own.target.host ∧ exchange.target.port = own.target.port ∧
      ∃ origin rest ownRest : List Char,
        exchange.target.text = origin ++ rest ∧ own.target.text = origin ++ ownRest ∧
        ∀ c more, rest = c :: more ∨ ownRest = c :: more → c ∈ ['/', '?', '#'] := by
  intro toService arrived
  cases prepared : Exchange.prepare s.state.1.site s.state.1.jar s.state.2.now call with
  | error fault =>
    exact .inl (send_arrived_error prepared)
  | ok exchange =>
    obtain ⟨own, ownPrepared, url, same, ownRooted, rooted⟩ := Exchange.prepare_origin found relative prepared
    obtain ⟨scheme, user, host, port⟩ := RequestUrl.origin_eq_iff.mp same
    obtain ⟨rest, text, ends⟩ := RequestUrl.text_origin rooted
    obtain ⟨ownRest, ownText, ownEnds⟩ := RequestUrl.text_origin ownRooted
    rw [same] at ownText
    refine .inr ⟨exchange, own, rfl, ownPrepared, url, send_arrived prepared, send_arrived ownPrepared,
      (Exchange.prepare_cookies prepared).2.1, (Exchange.prepare_cookies ownPrepared).2.1, scheme.symm, user.symm,
      host.symm, port.symm, exchange.target.origin.text, rest, ownRest, text, ownText, ?_⟩
    rintro c more (start | start)
    · exact ends c more start
    · exact ownEnds c more start

/-- Here the endpoint looks like the address of another host, with a user of its own and steps up. -/
theorem relative_calls_stay_at_service_odd :
    let site : Site :=
      ⟨"https://me:pw@chat.example.com:8443/", "https://me:pw@chat.example.com:8443/responsio/", .str "me"⟩
    let s : Logged (Transport Unit × Wire) := ⟨({ site }, {}), []⟩
    let call : Call := { endpoint := "//evil.com\\@h:9/../../y?q", data := .data (.obj [("a", .int 1)]) }
    Site.discover (.str "https://me:pw@chat.example.com:8443/javascript/responsio-1.0.0.js") .null (.str "me") =
        .ok (some site) ∧
      ((send call).start s).2.state.2.arrived.map (·.url) =
        ["https://me:pw@chat.example.com:8443/responsio//y?a=1"] ∧
      ∃ exchange own : Exchange, ((send call).start s).2.state.2.arrived = [exchange.request] ∧
        own.url = site.service ∧ exchange.target.host = own.target.host ∧
        exchange.target.userInfo = own.target.userInfo := by
  intro site s call
  have found : Site.discover (.str "https://me:pw@chat.example.com:8443/javascript/responsio-1.0.0.js") .null
      (.str "me") = .ok (some ⟨"https://me:pw@chat.example.com:8443/",
        "https://me:pw@chat.example.com:8443/responsio/", .str "me"⟩) := by rfl
  have urls : ((send call).start s).2.state.2.arrived.map (·.url) =
      ["https://me:pw@chat.example.com:8443/responsio//y?a=1"] := by decide +kernel
  have relative : Exchange.IsRelative call.endpoint := by
    intro parts read
    have known : UrlParts.split [] "//evil.com\\@h:9/../../y?q".toList = .ok {
        authority := "evil.com\\@h:9".toList
        path := "/../../y".toList
        query := "q".toList } := by rfl
    cases known.symm.trans read
    decide
  refine ⟨found, urls, ?_⟩
  rcases relative_calls_stay_at_service (s := s) found relative with none | ⟨exchange, own, -, -, url, arrived, -, -, -,
    -, user, host, -, -⟩
  · dsimp only at none
    rw [none] at urls
    cases urls
  · exact ⟨exchange, own, arrived, url, host, user⟩

end Transport

end ChatWidget
