import ChatWidget.Net.RequestUrl
import ChatWidget.Proofs.Op
import ChatWidget.Proofs.Text.Percent
import ChatWidget.Proofs.Text.Pieces
/-!
Addresses below an address that ends in a slash. What is put behind such an address is put behind its path, and nothing
else of the address changes, as long as it holds none of the marks that end a path and no segment of it is a step.
-/
namespace ChatWidget.RequestUrl

/-! ### Cutting at marks -/

theorem cutAt_joined (marks cs : List Char) : (cutAt marks cs).1 ++ (cutAt marks cs).2 = cs :=
  List.takeWhile_append_dropWhile

theorem cutAt_before {marks cs : List Char} : ∀ c ∈ (cutAt marks cs).1, c ∉ marks := by
  intro c member
  simpa using List.mem_takeWhile_imp member

theorem cutAt_after {marks cs rest : List Char} {c : Char} (after : (cutAt marks cs).2 = c :: rest) : c ∈ marks := by
  have first := List.head?_dropWhile_not (! marks.contains ·) cs
  unfold cutAt at after
  dsimp only at after
  rw [after] at first
  simpa using first

theorem cutAt_past {marks cs : List Char} (none : ∀ c ∈ cs, c ∉ marks) (more : List Char) :
    cutAt marks (cs ++ more) = (cs ++ (cutAt marks more).1, (cutAt marks more).2) := by
  have kept : ∀ c ∈ cs, (! marks.contains c) = true := by
    intro c member
    simpa using none c member
  unfold cutAt
  rw [List.takeWhile_append_of_pos kept, List.dropWhile_append_of_pos kept]

theorem cutAt_append {marks before : List Char} (none : ∀ c ∈ before, c ∉ marks) {after : List Char}
    (mark : ∀ c rest, after = c :: rest → c ∈ marks) : cutAt marks (before ++ after) = (before, after) := by
  rw [cutAt_past none]
  cases after with
  | nil => simp [cutAt]
  | cons c rest =>
    have stop := mark c rest rfl
    simp [cutAt, stop]

/-! ### The parts of a written address, one after another -/

/-- May the characters stand in a scheme after the first one? -/
def isSchemeChar (c : Char) : Bool := Text.isLetter c || Text.isDigit c || c = '+' || c = '.' || c = '-'

def schemeCut (cs : List Char) : List Char × List Char :=
  match (cutAt [':'] cs).2, (cutAt [':'] cs).1 with
  | _ :: rest, first :: more =>
    if Text.isLetter first && more.all isSchemeChar then ((cutAt [':'] cs).1, rest) else ([], cs)
  | _ :: rest, [] => ([], rest)
  | [], _ => ([], cs)

def authorityCut : List Char → List Char × List Char
  | '/' :: '/' :: rest => cutAt ['/', '?', '#'] rest
  | cs => ([], cs)

/-- The query and the fragment, given what comes after the path. -/
def lastParts (cs : List Char) : Option (List Char) × Option (List Char) :=
  let (query, cs) := match cs with
    | '?' :: rest => (some (cutAt ['#'] rest).1, (cutAt ['#'] rest).2)
    | cs => (none, cs)
  (query, match cs with
    | '#' :: rest => some rest
    | _ => none)

theorem Written.ofText_eq (cs : List Char) :
    Written.ofText cs =
      let (scheme, cs) := schemeCut cs
      let (authority, cs) := authorityCut cs
      let (path, cs) := cutAt ['?', '#'] cs
      ⟨scheme, authority, path, (lastParts cs).1, (lastParts cs).2⟩ := rfl

/-! ### Plain addresses -/

/-- Is a text an address with a scheme and an authority, and with at most a path after them? -/
structure IsPlain (cs : List Char) (written : Written) : Prop where
  text : cs = written.scheme ++ ':' :: '/' :: '/' :: (written.authority ++ written.path)
  scheme : ∃ first more, written.scheme = first :: more ∧ (Text.isLetter first && more.all isSchemeChar) = true
  noColon : ∀ c ∈ written.scheme, c ∉ [':']
  authority : ∀ c ∈ written.authority, c ∉ ['/', '?', '#']
  path : ∀ c ∈ written.path, c ∉ ['?', '#']
  root : ∀ c rest, written.path = c :: rest → c = '/'
  query : written.query = none
  fragment : written.fragment = none

theorem schemeCut_some {cs : List Char} (some : (schemeCut cs).1 ≠ []) :
    cs = (schemeCut cs).1 ++ ':' :: (schemeCut cs).2 ∧ (∀ c ∈ (schemeCut cs).1, c ∉ [':']) ∧
      ∃ first more, (schemeCut cs).1 = first :: more ∧ (Text.isLetter first && more.all isSchemeChar) = true := by
  have joined := cutAt_joined [':'] cs
  have before := @cutAt_before [':'] cs
  unfold schemeCut at some ⊢
  split at some
  next mark rest first more after start =>
    split at some
    next scheme =>
      have colon := List.mem_singleton.mp (cutAt_after after)
      rw [if_pos scheme]
      rw [after, colon] at joined
      exact ⟨joined.symm, before, first, more, start, scheme⟩
    next => exact absurd rfl some
  next => exact absurd rfl some
  next => exact absurd rfl some

theorem schemeCut_plain {scheme rest : List Char} (noColon : ∀ c ∈ scheme, c ∉ [':']) {first : Char} {more : List Char}
    (start : scheme = first :: more) (good : (Text.isLetter first && more.all isSchemeChar) = true) :
    schemeCut (scheme ++ ':' :: rest) = (scheme, rest) := by
  have cut : cutAt [':'] (scheme ++ ':' :: rest) = (scheme, ':' :: rest) := by
    apply cutAt_append noColon
    intro c later same
    rw [(List.cons.inj same).1]
    exact List.mem_singleton_self _
  unfold schemeCut
  rw [cut, start]
  dsimp only
  rw [if_pos good]

theorem authorityCut_some {cs : List Char} (some : (authorityCut cs).1 ≠ []) :
    ∃ rest, cs = '/' :: '/' :: rest ∧ authorityCut cs = cutAt ['/', '?', '#'] rest := by
  unfold authorityCut at some ⊢
  split at some
  next rest => exact ⟨rest, rfl, rfl⟩
  next => exact absurd rfl some

theorem lastParts_none {cs : List Char} (mark : ∀ c rest, cs = c :: rest → c ∈ ['?', '#'])
    (query : (lastParts cs).1 = none) (fragment : (lastParts cs).2 = none) : cs = [] := by
  cases cs with
  | nil => rfl
  | cons c rest =>
    have known := mark c rest rfl
    simp only [List.mem_cons, List.not_mem_nil, or_false] at known
    rcases known with rfl | rfl
    · cases query
    · cases fragment

theorem isPlain_ofText {cs : List Char} (scheme : (Written.ofText cs).scheme ≠ [])
    (authority : (Written.ofText cs).authority ≠ []) (query : (Written.ofText cs).query = none)
    (fragment : (Written.ofText cs).fragment = none) : IsPlain cs (Written.ofText cs) := by
  rw [Written.ofText_eq] at *
  dsimp only at *
  obtain ⟨start, noColon, good⟩ := schemeCut_some scheme
  obtain ⟨rest, slashes, cut⟩ := authorityCut_some authority
  rw [cut] at query fragment ⊢
  have ended := lastParts_none (fun c more same => cutAt_after same) query fragment
  have whole := cutAt_joined ['?', '#'] (cutAt ['/', '?', '#'] rest).2
  rw [ended, List.append_nil] at whole
  refine ⟨?_, good, noColon, cutAt_before, cutAt_before, ?_, query, fragment⟩
  · dsimp only
    rw [whole, cutAt_joined, ← slashes]
    exact start
  · intro c more same
    dsimp only at same
    have mark := cutAt_after (whole.symm.trans same)
    have noMark := @cutAt_before ['?', '#'] (cutAt ['/', '?', '#'] rest).2 c (by rw [same]; simp)
    simp only [List.mem_cons, List.not_mem_nil, or_false] at mark noMark
    exact mark.resolve_right noMark

theorem IsPlain.ofText {cs : List Char} {written : Written} (plain : IsPlain cs written) :
    Written.ofText cs = written := by
  obtain ⟨scheme, authority, path, query, fragment⟩ := written
  obtain ⟨rfl, ⟨first, more, start, good⟩, noColon, inAuthority, inPath, root, rfl, rfl⟩ := plain
  dsimp only at *
  have ends : cutAt ['/', '?', '#'] (authority ++ path) = (authority, path) := by
    apply cutAt_append inAuthority
    intro c rest same
    rw [root c rest same]
    simp
  have whole : cutAt ['?', '#'] path = (path, []) := by
    have cut : cutAt ['?', '#'] (path ++ []) = (path, []) := cutAt_append inPath nofun
    rw [List.append_nil] at cut
    exact cut
  rw [Written.ofText_eq, schemeCut_plain noColon start good]
  dsimp only
  rw [authorityCut, ends]
  dsimp only
  rw [whole]
  rfl

theorem IsPlain.append {cs : List Char} {written : Written} (plain : IsPlain cs written) (some : written.path ≠ [])
    {more : List Char} (inPath : ∀ c ∈ more, c ∉ ['?', '#']) :
    IsPlain (cs ++ more) { written with path := written.path ++ more } := by
  refine ⟨?_, plain.scheme, plain.noColon, plain.authority, ?_, ?_, plain.query, plain.fragment⟩
  · rw [plain.text]
    simp
  · intro c member
    rcases List.mem_append.mp member with old | new
    · exact plain.path c old
    · exact inPath c new
  · intro c rest same
    obtain ⟨first, others, start⟩ := List.exists_cons_of_ne_nil some
    dsimp only at same
    rw [start] at same
    rw [← (List.cons.inj same).1]
    exact plain.root first others start

/-! ### Steps in a path -/

/-- What a segment of a path makes of the segments before it. -/
def stepped (done : List (List Char)) (segment : List Char) : List (List Char) :=
  if segment = ['.'] then done
  else if segment = ['.', '.'] then if done = [[]] then done else done.dropLast
  else done ++ [segment]

theorem resolvePath_eq (path : List Char) :
    resolvePath path =
      if !(Text.splitAt '/' path).contains ['.'] && !(Text.splitAt '/' path).contains ['.', '.'] then path
      else Text.joinWith ['/'] ((Text.splitAt '/' path).foldl stepped []) := rfl

/-- Is no segment a step? -/
def HasNoSteps (segments : List (List Char)) : Prop := ∀ segment ∈ segments, segment ≠ ['.'] ∧ segment ≠ ['.', '.']

theorem HasNoSteps.foldl {segments : List (List Char)} (noSteps : HasNoSteps segments) (done : List (List Char)) :
    segments.foldl stepped done = done ++ segments := by
  induction segments generalizing done with
  | nil => exact (List.append_nil done).symm
  | cons segment segments ih =>
    obtain ⟨stay, up⟩ := noSteps segment List.mem_cons_self
    rw [List.foldl_cons, ih fun other member => noSteps other (List.mem_cons_of_mem _ member), stepped, if_neg stay,
      if_neg up, List.append_assoc]
    rfl

theorem foldl_stepped_front (segments rest : List (List Char)) :
    ∃ others, segments.foldl stepped ([] :: rest) = [] :: others := by
  induction segments generalizing rest with
  | nil => exact ⟨rest, rfl⟩
  | cons segment segments ih =>
    have kept : ∃ others, stepped ([] :: rest) segment = [] :: others := by
      unfold stepped
      split
      · exact ⟨rest, rfl⟩
      · split
        · split
          · exact ⟨rest, rfl⟩
          next more =>
            obtain ⟨next, others, rfl⟩ := List.exists_cons_of_ne_nil fun none => more (congrArg ([] :: ·) none)
            exact ⟨_, rfl⟩
        · exact ⟨rest ++ [segment], rfl⟩
    obtain ⟨others, same⟩ := kept
    rw [List.foldl_cons, same]
    exact ih others

/-- What is put behind a slash stays as it is, if no segment of it is a step. -/
theorem resolvePath_append {before more : List Char} (root : ∀ c rest, before = c :: rest → c = '/')
    (noSteps : HasNoSteps (Text.splitAt '/' more)) :
    resolvePath (before ++ '/' :: more) = resolvePath (before ++ ['/']) ++ more := by
  have slash : before ++ ['/'] = before ++ '/' :: [] := rfl
  have front : ∃ others, Text.splitAt '/' before = [] :: others := by
    cases before with
    | nil => exact ⟨[], rfl⟩
    | cons c rest =>
      rw [root c rest rfl]
      exact ⟨_, Text.splitAt_separator '/' rest⟩
  have empty : Text.splitAt '/' ([] : List Char) = [[]] := rfl
  have noStay : ['.'] ∉ Text.splitAt '/' more := fun member => (noSteps _ member).1 rfl
  have noUp : ['.', '.'] ∉ Text.splitAt '/' more := fun member => (noSteps _ member).2 rfl
  rw [slash, resolvePath_eq, resolvePath_eq, Text.splitAt_append, Text.splitAt_append, empty]
  simp only [List.contains_eq_mem, List.mem_append, noStay, noUp, or_false, List.mem_singleton, reduceCtorEq]
  split
  · simp
  · obtain ⟨others, start⟩ := front
    have first : stepped [] [] = [[]] := rfl
    obtain ⟨done, folded⟩ := foldl_stepped_front others []
    have nothing : HasNoSteps [[]] := by simp [HasNoSteps]
    rw [List.foldl_append, List.foldl_append, start, List.foldl_cons, first, folded, noSteps.foldl, nothing.foldl,
      Text.joinWith_append _ (List.cons_ne_nil _ _) (Text.splitAt_ne_nil _ _),
      Text.joinWith_append _ (List.cons_ne_nil _ _) (List.cons_ne_nil _ _), Text.joinWith_splitAt]
    simp [Text.joinWith]

/-! ### Reading -/

/-- Does the authority of an address name anything, a user, a host or a port? -/
def Written.isNamed (written : Written) (host : List Char) (port : Option Int) : Bool :=
  !(Text.percentEncode inUserInfo (splitAuthority written.authority).1).isEmpty || !host.isEmpty || port.isSome

/-- What an address comes to, part by part. -/
theorem ofWritten_ok_iff {written : Written} {url : RequestUrl} :
    ofWritten written = .ok url ↔ ∃ host port,
      Host.normal (splitAuthority written.authority).2.1 = .ok host ∧
      normalPort written.scheme (splitAuthority written.authority).2.2 = .ok port ∧
      checkPath written.path (!written.scheme.isEmpty) (written.isNamed host port) = .ok () ∧
      url = {
        scheme := Text.lower written.scheme
        userInfo := Text.percentEncode inUserInfo (splitAuthority written.authority).1
        host
        port
        path := Text.percentEncode inPath
          (if !written.scheme.isEmpty || written.isNamed host port then resolvePath written.path else written.path)
        query := written.query.map (Text.percentEncode inQuery)
        fragment := written.fragment.map (Text.percentEncode inFragment) } := by
  unfold ofWritten
  dsimp only
  constructor
  · intro read
    obtain ⟨host, hosted, read⟩ := bind_ok read
    obtain ⟨port, ported, read⟩ := bind_ok read
    obtain ⟨_, checked, read⟩ := bind_ok read
    exact ⟨host, port, hosted, ported, checked, (Except.ok.inj read).symm⟩
  · rintro ⟨host, port, hosted, ported, checked, rfl⟩
    unfold Written.isNamed at checked
    simp only [bind, Except.bind, hosted, ported, checked]
    rfl

/-- What an address that names a host says of its written parts. -/
theorem ofWritten_ok {written : Written} {base : RequestUrl} (read : ofWritten written = .ok base) :
    base.scheme = Text.lower written.scheme ∧ base.query = written.query.map (Text.percentEncode inQuery) ∧
      base.fragment = written.fragment.map (Text.percentEncode inFragment) ∧
      (base.host ≠ [] → written.authority ≠ [] ∧
        base.path = Text.percentEncode inPath (resolvePath written.path) ∧
        ∀ path, path.head? = some '/' → ofWritten { written with path := path } =
          .ok { base with path := Text.percentEncode inPath (resolvePath path) }) := by
  obtain ⟨host, port, hosted, ported, -, rfl⟩ := ofWritten_ok_iff.mp read
  refine ⟨rfl, rfl, rfl, fun some => ?_⟩
  dsimp only at some
  have named : written.isNamed host port = true := by simp [Written.isNamed, some]
  rw [named, Bool.or_true, if_pos rfl]
  refine ⟨?_, rfl, ?_⟩
  · intro none
    rw [none] at hosted
    cases hosted
    exact some rfl
  · intro path root
    have fine : checkPath path (!written.scheme.isEmpty) true = .ok () := by simp [checkPath, root]
    have again : Written.isNamed { written with path := path } host port = true := named
    refine ofWritten_ok_iff.mpr ⟨host, port, hosted, ported, ?_, ?_⟩
    · rw [again]
      exact fine
    · rw [again, Bool.or_true, if_pos rfl]

theorem parse_ok {text : List Char} {base : RequestUrl} (read : parse text = .ok base) :
    text.find? isControl = none ∧ ofWritten (Written.ofText text) = .ok base := by
  unfold parse at read
  split at read
  next => cases read
  next =>
    split at read
    next => cases read
    next none => exact ⟨none, read⟩

/-- Is a text the address of a folder on the web: one with a host, that ends in a slash, and has nothing after its
path? -/
structure IsFolder (text : List Char) (base : RequestUrl) : Prop where
  read : parse text = .ok base
  web : base.scheme = "http".toList ∨ base.scheme = "https".toList
  host : base.host ≠ []
  query : base.query = none
  fragment : base.fragment = none
  slash : text.getLast? = some '/'

def isBelowChar (c : Char) : Bool := Text.isSegmentChar c || c = '/'

theorem isBelowChar_good {c : Char} (below : isBelowChar c = true) :
    inPath c = true ∧ isControl c = false ∧ c ∉ ['?', '#'] := by
  have good : (inPath c && !isControl c && !(['?', '#'].contains c)) = true := by
    rcases Bool.or_eq_true_iff.mp below with segment | slash
    · exact Text.isSegmentChar_ascii (p := fun c => inPath c && !isControl c && !(['?', '#'].contains c))
        (by decide +kernel) segment
    · rw [of_decide_eq_true slash]
      decide
  simp only [Bool.and_eq_true, Bool.not_eq_true', List.contains_eq_mem, decide_eq_false_iff_not] at good
  exact ⟨good.1.1, good.1.2, good.2⟩

theorem percentEncode_kept {keep : Char → Bool} (before : List Char) {cs : List Char} (kept : ∀ c ∈ cs, keep c = true) :
    Text.percentEncode keep (before ++ cs) = Text.percentEncode keep before ++ cs := by
  have same : Text.percentEncode keep cs = cs := by
    unfold Text.percentEncode
    induction cs with
    | nil => rfl
    | cons c cs ih =>
      rw [List.flatMap_cons, kept c List.mem_cons_self, if_pos rfl,
        ih fun d member => kept d (List.mem_cons_of_mem _ member)]
      rfl
  unfold Text.percentEncode at same ⊢
  rw [List.flatMap_append, same]

namespace IsFolder

variable {text more : List Char} {base : RequestUrl}

theorem plain (folder : IsFolder text base) :
    IsPlain text (Written.ofText text) ∧ ∃ before, (Written.ofText text).path = before ++ ['/'] := by
  obtain ⟨scheme, query, fragment, named⟩ := ofWritten_ok (parse_ok folder.read).2
  obtain ⟨authority, -, -⟩ := named folder.host
  have plain : IsPlain text (Written.ofText text) := by
    refine isPlain_ofText ?_ authority ?_ ?_
    · intro none
      rw [none] at scheme
      rcases folder.web with web | web
      · rw [web] at scheme
        cases scheme
      · rw [web] at scheme
        cases scheme
    · rw [folder.query] at query
      exact Option.map_eq_none_iff.mp query.symm
    · rw [folder.fragment] at fragment
      exact Option.map_eq_none_iff.mp fragment.symm
  refine ⟨plain, ?_⟩
  have last := folder.slash
  have parts : text = (Written.ofText text).scheme ++ [':', '/', '/'] ++ (Written.ofText text).authority ++
      (Written.ofText text).path := by
    rw [List.append_assoc, List.append_assoc]
    exact plain.text
  rw [parts] at last
  by_cases none : (Written.ofText text).path = []
  · rw [none, List.append_nil, List.getLast?_append_of_ne_nil _ authority] at last
    exact absurd (plain.authority _ (List.mem_of_getLast? last)) (by simp)
  · rw [List.getLast?_append_of_ne_nil _ none] at last
    exact List.getLast?_eq_some_iff.mp last

/-- What is put behind the address of a folder is put behind its path. -/
theorem parse_append (folder : IsFolder text base) (below : ∀ c ∈ more, isBelowChar c = true)
    (noSteps : HasNoSteps (Text.splitAt '/' more)) :
    parse (text ++ more) =
      if maximalLength < (text ++ more).length then .error (.invalidUrl "URL too long")
      else .ok { base with path := base.path ++ more } := by
  obtain ⟨plain, before, ends⟩ := folder.plain
  have nonempty : (Written.ofText text).path ≠ [] := by
    rw [ends]
    simp
  have longer := plain.append nonempty fun c member => (isBelowChar_good (below c member)).2.2
  obtain ⟨-, -, -, named⟩ := ofWritten_ok (parse_ok folder.read).2
  obtain ⟨-, path, others⟩ := named folder.host
  have controls : (text ++ more).find? isControl = none := by
    rw [List.find?_append, (parse_ok folder.read).1, Option.none_or, List.find?_eq_none]
    intro c member
    rw [(isBelowChar_good (below c member)).2.1]
    exact Bool.false_ne_true
  unfold parse
  split
  next => rfl
  next =>
    rw [controls, longer.ofText]
    dsimp only
    have root : ∀ c rest, before = c :: rest → c = '/' := by
      rintro c rest rfl
      exact plain.root c _ ends
    have start : ((Written.ofText text).path ++ more).head? = some '/' := by
      obtain ⟨c, rest, path⟩ := List.exists_cons_of_ne_nil nonempty
      rw [path, plain.root c rest path]
      rfl
    have resolved :
        Text.percentEncode inPath (resolvePath ((Written.ofText text).path ++ more)) = base.path ++ more := by
      rw [path, ends, List.append_assoc, List.singleton_append, resolvePath_append root noSteps]
      exact percentEncode_kept _ fun c member => (isBelowChar_good (below c member)).1
    rw [others _ start, resolved]

end IsFolder

end ChatWidget.RequestUrl
