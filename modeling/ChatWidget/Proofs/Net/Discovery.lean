import ChatWidget.Proofs.Net.Service
/-!
Finding a site from the address of its script. Splitting an address undoes putting it together from its parts, so the
root of a site is split into what the script's address was split into, up to the place of the script. An address with a
scheme and an authority means the same on every page, so a site is found again from its own root.
-/
namespace ChatWidget

namespace UrlParts

/-! ### Splitting -/

def counts (c : Char) : Bool := !(c = '\t' || c = '\n' || c = '\r')

/-- An address is split part by part, and the authority is cut off as it is where a request is sent. -/
theorem split_eq (scheme address : List Char) :
    split scheme address =
      let (scheme, cs) := splitScheme scheme (address.filter counts)
      let (authority, cs) := RequestUrl.authorityCut cs
      (checkAuthority authority).bind fun _ =>
        let (cs, fragment) := splitOnce '#' cs
        let (path, query) := splitOnce '?' cs
        .ok ⟨scheme, authority, path, query, fragment⟩ := by
  have same : (fun c => ! ['/', '?', '#'].contains c) = fun c => !(c = '/' || c = '?' || c = '#') := by
    funext c
    simp [Bool.or_assoc]
  unfold split RequestUrl.authorityCut RequestUrl.cutAt
  dsimp only
  rw [same]
  rfl

/-- Can a scheme be written like this, in small letters? -/
structure IsScheme (scheme : List Char) : Prop where
  chars : ∀ c ∈ scheme, isSchemeChar c = true ∧ smallLetter c = c
  letter : ∀ first rest, scheme = first :: rest → isAsciiLetter first = true

/-- What is true of all characters of ASCII that schemes are written with is true of all of these. -/
theorem isSchemeChar_ascii {p : Char → Bool} (each : ∀ n < 128, isSchemeChar (Char.ofNat n) = true →
    p (Char.ofNat n) = true) {c : Char} (good : isSchemeChar c = true) : p c = true := by
  have ascii : c.toNat < 128 := by
    simp only [isSchemeChar, Bool.or_eq_true, Bool.and_eq_true, decide_eq_true_eq] at good
    rcases good with ((((upper | small) | digit) | rfl) | rfl) | rfl
    · omega
    · omega
    · omega
    all_goals decide
  have same : Char.ofNat c.toNat = c := Char.ofNat_toNat c
  rw [← same] at good ⊢
  exact each c.toNat ascii good

theorem smallLetter_scheme {c : Char} (good : isSchemeChar c = true) :
    isSchemeChar (smallLetter c) = true ∧ smallLetter (smallLetter c) = smallLetter c ∧
      isAsciiLetter (smallLetter c) = isAsciiLetter c := by
  have each := isSchemeChar_ascii (p := fun c => isSchemeChar (smallLetter c) &&
    (smallLetter (smallLetter c) == smallLetter c) && (isAsciiLetter (smallLetter c) == isAsciiLetter c))
    (by decide +kernel) good
  simpa [and_assoc] using each

theorem scheme_noColon {c : Char} (good : isSchemeChar c = true) : c ≠ ':' ∧ counts c = true := by
  have each := isSchemeChar_ascii (p := fun c => c != ':' && counts c) (by decide +kernel) good
  simpa using each

theorem splitScheme_isScheme (cs : List Char) : IsScheme (splitScheme [] cs).1 := by
  unfold splitScheme
  dsimp only
  split
  next mark rest first more after start =>
    split
    next good =>
      obtain ⟨letter, chars⟩ := Bool.and_eq_true_iff.mp good
      have each := List.all_eq_true.mp chars
      refine ⟨?_, ?_⟩
      · intro c member
        obtain ⟨d, inside, rfl⟩ := List.mem_map.mp member
        obtain ⟨small, still, -⟩ := smallLetter_scheme (each d inside)
        exact ⟨small, still⟩
      · intro c others same
        rw [start, List.map_cons] at same
        obtain ⟨-, -, letters⟩ := smallLetter_scheme (each first (by rw [start]; exact List.mem_cons_self))
        rw [← (List.cons.inj same).1, letters]
        exact letter
    next => exact ⟨nofun, nofun⟩
  next => exact ⟨nofun, nofun⟩

theorem splitScheme_written {scheme : List Char} (is : IsScheme scheme) (some : scheme ≠ []) (given rest : List Char) :
    splitScheme given (scheme ++ ':' :: rest) = (scheme, rest) := by
  obtain ⟨first, more, start⟩ := List.exists_cons_of_ne_nil some
  have noColon : ∀ c ∈ scheme, decide (c ≠ ':') = true := by
    intro c member
    exact decide_eq_true (scheme_noColon (is.chars c member).1).1
  have good : (isAsciiLetter first && scheme.all isSchemeChar) = true := by
    rw [is.letter first more start, Bool.true_and, List.all_eq_true]
    exact fun c member => (is.chars c member).1
  have small : scheme.map smallLetter = scheme := by
    rw [List.map_congr_left fun c member => (is.chars c member).2, List.map_id']
  unfold splitScheme
  dsimp only
  rw [List.takeWhile_append_of_pos noColon, List.dropWhile_append_of_pos noColon, List.takeWhile_cons,
    List.dropWhile_cons]
  simp only [ne_eq, not_true_eq_false, decide_false, Bool.false_eq_true, if_false, List.append_nil]
  rw [start] at good small ⊢
  dsimp only
  rw [if_pos good, small]

/-- A part of an address with the mark before it, if there is anything in it. -/
def marked (mark : Char) (cs : List Char) : List Char := if cs.isEmpty then [] else mark :: cs

theorem mem_marked {mark c : Char} {cs : List Char} (member : c ∈ marked mark cs) : c = mark ∨ c ∈ cs := by
  unfold marked at member
  split at member
  next => exact absurd member List.not_mem_nil
  next => exact List.mem_cons.mp member

theorem splitOnce_append {mark : Char} {before : List Char} (absent : mark ∉ before) (after : List Char) :
    splitOnce mark (before ++ marked mark after) = (before, after) := by
  have kept : ∀ c ∈ before, decide (c ≠ mark) = true := by
    intro c member
    exact decide_eq_true fun same => absent (same ▸ member)
  unfold splitOnce
  rw [List.takeWhile_append_of_pos kept, List.dropWhile_append_of_pos kept]
  cases after with
  | nil => simp [marked]
  | cons c rest => simp [marked]

/-! ### The parts of an address -/

/-- Are these the parts that an address is split into? -/
structure IsSplit (parts : UrlParts) : Prop where
  scheme : IsScheme parts.scheme
  authority : ∀ c ∈ parts.authority, c ∉ ['/', '?', '#']
  checked : checkAuthority parts.authority = .ok ()
  path : ∀ c ∈ parts.path, c ∉ ['?', '#']
  root : parts.authority ≠ [] → ∀ c rest, parts.path = c :: rest → c = '/'
  query : '#' ∉ parts.query
  counts : ∀ c ∈ parts.authority ++ parts.path ++ parts.query ++ parts.fragment, UrlParts.counts c = true

theorem mem_authorityCut_first {c : Char} {cs : List Char} (member : c ∈ (RequestUrl.authorityCut cs).1) :
    c ∈ cs ∧ c ∉ ['/', '?', '#'] := by
  obtain ⟨rest, slashes, cut⟩ := RequestUrl.authorityCut_some (List.ne_nil_of_mem member)
  rw [cut] at member
  have inside : c ∈ rest := (List.takeWhile_sublist _).mem member
  rw [slashes]
  exact ⟨List.mem_cons_of_mem _ (List.mem_cons_of_mem _ inside), RequestUrl.cutAt_before c member⟩

theorem mem_splitOnce_second {mark c : Char} {cs : List Char} (member : c ∈ (splitOnce mark cs).2) : c ∈ cs :=
  (List.dropWhile_sublist _).mem (List.mem_of_mem_drop member)

theorem mem_splitScheme {scheme cs : List Char} {c : Char} (member : c ∈ (splitScheme scheme cs).2) : c ∈ cs := by
  unfold splitScheme at member
  dsimp only at member
  split at member
  next mark rest first more after start =>
    have inside : c ∈ rest ∨ c ∈ cs := by
      split at member
      next => exact .inl member
      next => exact .inr member
    rcases inside with inside | inside
    · apply (List.dropWhile_sublist fun c => decide (c ≠ ':')).mem
      rw [after]
      exact List.mem_cons_of_mem _ inside
    · exact inside
  next => exact member

theorem isSplit_of_split {address : List Char} {parts : UrlParts} (read : split [] address = .ok parts) :
    IsSplit parts := by
  obtain ⟨-, -, noMarks⟩ := split_noMarks read
  rw [split_eq] at read
  dsimp only at read
  obtain ⟨_, checked, read⟩ := bind_ok read
  cases read
  have counted : ∀ c ∈ (splitScheme [] (address.filter counts)).2, counts c = true :=
    fun c member => (List.mem_filter.mp (mem_splitScheme member)).2
  generalize (splitScheme [] (address.filter counts)).2 = cs at *
  refine ⟨splitScheme_isScheme _, fun c member => (mem_authorityCut_first member).2, checked, noMarks, ?_, ?_, ?_⟩
  · intro some c rest same
    obtain ⟨later, -, cut⟩ := RequestUrl.authorityCut_some some
    have start : c :: rest <+: (RequestUrl.authorityCut cs).2 := by
      rw [← same]
      exact (List.takeWhile_prefix _).trans (List.takeWhile_prefix _)
    obtain ⟨more, start⟩ := start
    have mark := RequestUrl.cutAt_after ((congrArg Prod.snd cut).symm.trans start.symm)
    have noMark := noMarks c (by rw [same]; exact List.mem_cons_self)
    simp only [List.mem_cons, List.not_mem_nil, or_false] at mark noMark
    exact mark.resolve_right noMark
  · intro member
    obtain ⟨-, different⟩ := mem_splitOnce (mem_splitOnce_second member)
    exact different rfl
  · intro c member
    apply counted
    simp only [List.mem_append] at member
    rcases member with ((member | member) | member) | member
    · exact (mem_authorityCut_first member).1
    · exact RequestUrl.mem_authorityCut (mem_splitOnce (mem_splitOnce member).1).1
    · exact RequestUrl.mem_authorityCut (mem_splitOnce (mem_splitOnce_second member)).1
    · exact RequestUrl.mem_authorityCut (mem_splitOnce_second member)

/-! ### Putting together -/

namespace IsSplit

variable {parts : UrlParts}

theorem text_eq (is : IsSplit parts) (scheme : parts.scheme ≠ []) (authority : parts.authority ≠ []) :
    parts.text = parts.scheme ++ ':' :: '/' :: '/' :: (parts.authority ++
      ((parts.path ++ marked '?' parts.query) ++ marked '#' parts.fragment)) := by
  have path : (if parts.path.isEmpty || parts.path.head? == some '/' then parts.path else '/' :: parts.path) =
      parts.path := by
    cases start : parts.path with
    | nil => rfl
    | cons c rest =>
      rw [is.root authority c rest start]
      rfl
  unfold text marked
  dsimp only
  rw [path]
  simp [scheme, authority]

/-- An address that is put together from parts is split into these parts, whatever scheme it is read with. -/
theorem split_text (is : IsSplit parts) (scheme : parts.scheme ≠ []) (authority : parts.authority ≠ [])
    (given : List Char) : split given parts.text = .ok parts := by
  have counted : parts.text.filter UrlParts.counts = parts.text := by
    rw [List.filter_eq_self, is.text_eq scheme authority]
    intro c member
    have known : c ∈ parts.scheme ∨ c ∈ [':', '/', '?', '#'] ∨
        c ∈ parts.authority ++ parts.path ++ parts.query ++ parts.fragment := by
      have inQuery := @mem_marked '?' c parts.query
      have inFragment := @mem_marked '#' c parts.fragment
      simp only [List.mem_append, List.mem_cons, List.not_mem_nil, or_false] at member ⊢
      grind
    rcases known with inside | mark | inside
    · exact (scheme_noColon (is.scheme.chars c inside).1).2
    · exact List.all_eq_true.mp (by decide : [':', '/', '?', '#'].all UrlParts.counts = true) c mark
    · exact is.counts c inside
  have noQuery : '?' ∉ parts.path := fun member => is.path _ member (by simp)
  have noFragment : '#' ∉ parts.path ++ marked '?' parts.query := by
    intro member
    rcases List.mem_append.mp member with inPath | behind
    · exact is.path _ inPath (by simp)
    · rcases mem_marked behind with mark | inQuery
      · cases mark
      · exact is.query inQuery
  have ended : ∀ c rest, (parts.path ++ marked '?' parts.query) ++ marked '#' parts.fragment = c :: rest →
      c ∈ ['/', '?', '#'] := by
    intro c rest same
    cases start : parts.path with
    | cons first more =>
      rw [start] at same
      rw [← (List.cons.inj same).1, is.root authority first more start]
      decide
    | nil =>
      have first : c = '?' ∨ c = '#' := by
        rw [start, List.nil_append] at same
        unfold marked at same
        grind
      rcases first with rfl | rfl
      · decide
      · decide
  have cut : RequestUrl.authorityCut ('/' :: '/' :: (parts.authority ++
      ((parts.path ++ marked '?' parts.query) ++ marked '#' parts.fragment))) =
      (parts.authority, (parts.path ++ marked '?' parts.query) ++ marked '#' parts.fragment) :=
    RequestUrl.cutAt_append is.authority ended
  rw [split_eq, counted, is.text_eq scheme authority, splitScheme_written is.scheme scheme]
  dsimp only
  rw [cut]
  dsimp only
  rw [is.checked, splitOnce_append noFragment]
  dsimp only [Except.bind]
  rw [splitOnce_append noQuery]

end IsSplit

/-! ### Addresses on a page -/

theorem splitParameters_none (scheme front : List Char) {last : List Char} (noSlash : '/' ∉ last)
    (noParameters : ';' ∉ last) : splitParameters scheme (front ++ '/' :: last) = (front ++ '/' :: last, []) := by
  have segment : ((front ++ '/' :: last).reverse.takeWhile (· ≠ '/')).reverse = last := by
    have others : ∀ c ∈ last.reverse, decide (c ≠ '/') = true := by
      intro c member
      exact decide_eq_true fun same => noSlash (same ▸ List.mem_reverse.mp member)
    rw [List.reverse_append, List.reverse_cons, List.append_assoc, List.takeWhile_append_of_pos others]
    simp
  have kept : splitOnce ';' last = (last, []) := by
    have whole := splitOnce_append noParameters []
    rwa [marked, List.isEmpty_nil, if_pos rfl, List.append_nil] at whole
  unfold splitParameters
  split
  next =>
    dsimp only
    have whole : front ++ '/' :: last = (front ++ ['/']) ++ last := by simp
    rw [segment, kept, whole, List.length_append, Nat.add_sub_cancel, List.take_left]
  next => rfl

/-- An address with a scheme and an authority, and with a path alone that has no parameters, means the same on every
page. -/
theorem IsSplit.join_text {parts : UrlParts} (is : IsSplit parts) (scheme : parts.scheme ≠ [])
    (authority : parts.authority ≠ []) {front last : List Char} (path : parts.path = front ++ '/' :: last)
    (noSlash : '/' ∉ last) (noParameters : ';' ∉ last) {page : List Char} {base : UrlParts}
    (read : split [] page = .ok base) : join page parts.text = .ok parts.text := by
  have some : parts.text ≠ [] := by
    rw [is.text_eq scheme authority]
    simp
  have whole := is.split_text scheme authority base.scheme
  have alone : splitParameters parts.scheme parts.path = (parts.path, []) := by
    rw [path]
    exact splitParameters_none parts.scheme front noSlash noParameters
  unfold join
  by_cases nowhere : page.isEmpty = true
  · rw [if_pos nowhere]
    rfl
  rw [if_neg nowhere, if_neg (by simpa using some), read]
  dsimp only [bind, Except.bind]
  rw [whole]
  dsimp only
  rw [alone]
  split
  next => rfl
  next =>
    have named : (!parts.authority.isEmpty) = true := by simpa using authority
    rw [if_pos named]
    rfl

/-! ### Addresses that end in a path -/

/-- What is left of an address up to a path that begins like its own is split into what it was put together from. -/
theorem IsSplit.upTo {parts : UrlParts} (is : IsSplit parts) {path : List Char}
    (chars : ∀ c ∈ path, c ∈ '/' :: parts.path) (slash : ∀ c rest, path = c :: rest → c = '/') :
    IsSplit (parts.root path) := by
  refine ⟨is.scheme, is.authority, is.checked, ?_, fun _ => slash, List.not_mem_nil, ?_⟩
  · intro c member
    rcases List.mem_cons.mp (chars c member) with rfl | inside
    · decide
    · exact is.path c inside
  · intro c member
    simp only [UrlParts.root, List.append_nil, List.mem_append] at member
    rcases member with inside | inside
    · exact is.counts c (by simp [inside])
    · rcases List.mem_cons.mp (chars c inside) with rfl | own
      · decide
      · exact is.counts c (by simp [own])

theorem IsSplit.folder {parts : UrlParts} (is : IsSplit parts) (authority : parts.authority ≠ [])
    {before place : List Char} (path : parts.path = before ++ '/' :: place) : IsSplit (parts.root (before ++ ['/'])) := by
  apply is.upTo
  · intro c member
    rcases List.mem_append.mp member with inside | slash
    · rw [path]
      exact List.mem_cons_of_mem _ (List.mem_append_left _ inside)
    · rw [List.mem_singleton.mp slash]
      exact List.mem_cons_self
  · intro c rest same
    cases before with
    | nil => exact (List.cons.inj same).1.symm
    | cons first more =>
      rw [← (List.cons.inj same).1]
      exact is.root authority first _ path

theorem IsSplit.root_text {parts : UrlParts} {path : List Char} (is : IsSplit (parts.root path))
    (scheme : parts.scheme ≠ []) (authority : parts.authority ≠ []) :
    (parts.root path).text = parts.scheme ++ ':' :: '/' :: '/' :: (parts.authority ++ path) := by
  rw [is.text_eq scheme authority]
  simp [UrlParts.root, marked]

end UrlParts

namespace Text

theorem endsWith_iff {cs ending : List Char} : endsWith cs ending = true ↔ ending <:+ cs := by
  rw [endsWith, List.isPrefixOf_iff_prefix, List.reverse_prefix]

end Text

namespace Site

open UrlParts (IsSplit)

/-! ### The root of a site -/

/-- Two texts name the address that one means on the page of the other, the empty ones included. -/
theorem scriptAddress_text (script page : String) :
    scriptAddress (.str script) (.str page) = UrlParts.join page.toList script.toList := by
  unfold scriptAddress UrlParts.join
  by_cases nowhere : page = ""
  · subst nowhere
    rfl
  by_cases none : script = ""
  · subst none
    simp [Json.isTruthy, nowhere, addressOf]
    rfl
  · simp [Json.isTruthy, nowhere, none]

/-- A site has a root where the path of the script's address ends with the place of the script. -/
theorem rootOf_some {parts : UrlParts} {before : List Char} (path : parts.path = before ++ Fault.scriptName.toList) :
    rootOf parts = some (parts.root (before ++ ['/'])).text := by
  have ends : Text.endsWith parts.path Fault.scriptName.toList = true := by
    rw [Text.endsWith_iff, path]
    exact List.suffix_append _ _
  unfold rootOf
  dsimp only
  rw [if_pos ends, path, List.length_append, Nat.add_sub_cancel, List.take_left]
  rfl

theorem rootOf_none {parts : UrlParts} (other : ¬ Fault.scriptName.toList <:+ parts.path) : rootOf parts = none := by
  unfold rootOf
  dsimp only
  rw [if_neg (fun ends => other (Text.endsWith_iff.mp ends))]

theorem discover_eq {script page : String} {identity : Json} (someone : identity.isTruthy = true)
    {address : List Char} (joined : UrlParts.join page.toList script.toList = .ok address) {parts : UrlParts}
    (read : UrlParts.split [] address = .ok parts) :
    discover (.str script) (.str page) identity =
      match rootOf parts with
      | none => .error (.unknownScript (.str script))
      | some root => .ok (some ⟨String.ofList root, String.ofList root ++ serviceFolder, identity⟩) := by
  unfold discover
  rw [someone, scriptAddress_text, joined, if_neg (by decide : ¬ (!true) = true)]
  dsimp only [bind, Except.bind]
  rw [read]
  dsimp only
  cases rootOf parts with
  | none => rfl
  | some root => rfl

end Site

end ChatWidget
