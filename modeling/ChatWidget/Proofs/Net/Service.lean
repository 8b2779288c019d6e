import ChatWidget.Discovery
import ChatWidget.Proofs.Net.Address
/-!
The address of a service. It is put together from that of the script, without what stands after the path there, so it
has no query and no fragment, and it ends in a slash.
-/
namespace ChatWidget

def HasNoMarks (cs : List Char) : Prop := ∀ c ∈ cs, c ∉ ['?', '#']

namespace RequestUrl

theorem mem_schemeCut {c : Char} {cs : List Char} (member : c ∈ (schemeCut cs).2) : c ∈ cs := by
  have joined := cutAt_joined [':'] cs
  unfold schemeCut at member
  split at member
  next mark rest first more after start =>
    have inside : c ∈ (cutAt [':'] cs).2 ∨ c ∈ cs := by
      split at member
      next =>
        rw [after]
        exact .inl (List.mem_cons_of_mem _ member)
      next => exact .inr member
    rcases inside with inside | inside
    · rw [← joined]
      exact List.mem_append_right _ inside
    · exact inside
  next mark rest after start =>
    rw [← joined, after]
    exact List.mem_append_right _ (List.mem_cons_of_mem _ member)
  next => exact member

theorem mem_authorityCut {c : Char} {cs : List Char} (member : c ∈ (authorityCut cs).2) : c ∈ cs := by
  unfold authorityCut at member
  split at member
  next rest =>
    have inside : c ∈ rest := (List.dropWhile_sublist _).mem member
    exact List.mem_cons_of_mem _ (List.mem_cons_of_mem _ inside)
  next => exact member

theorem Written.ofText_noMarks {cs : List Char} (noMarks : HasNoMarks cs) :
    (Written.ofText cs).query = none ∧ (Written.ofText cs).fragment = none := by
  have ended : (cutAt ['?', '#'] (authorityCut (schemeCut cs).2).2).2 = [] := by
    unfold cutAt
    rw [List.dropWhile_eq_nil_iff]
    intro c member
    simpa using noMarks c (mem_schemeCut (mem_authorityCut member))
  rw [Written.ofText_eq]
  dsimp only
  rw [ended]
  exact ⟨rfl, rfl⟩

end RequestUrl

namespace UrlParts

/-- What is left of an address up to its path. -/
def root (parts : UrlParts) (path : List Char) : UrlParts := { parts with path, query := [], fragment := [] }

theorem smallLetter_noMark {c : Char} (good : isSchemeChar c = true) : smallLetter c ∉ ['?', '#'] := by
  unfold smallLetter
  split
  next big =>
    have small : c.toNat + 0x20 < 0x80 ∧ 0x60 < c.toNat + 0x20 := by
      simp only [Bool.and_eq_true, decide_eq_true_eq] at big
      omega
    have each : ∀ n < 0x80, 0x60 < n → Char.ofNat n ∉ ['?', '#'] := by decide
    exact each _ small.1 small.2
  next =>
    intro mark
    simp only [List.mem_cons, List.not_mem_nil, or_false] at mark
    rcases mark with rfl | rfl
    · exact absurd good (by decide)
    · exact absurd good (by decide)

theorem splitScheme_noMarks (cs : List Char) : HasNoMarks (splitScheme [] cs).1 := by
  unfold splitScheme
  dsimp only
  split
  next rest first more after start =>
    split
    next good =>
      intro c member
      obtain ⟨d, inside, rfl⟩ := List.mem_map.mp member
      exact smallLetter_noMark (List.all_eq_true.mp (Bool.and_eq_true_iff.mp good).2 d inside)
    next => exact nofun
  next => exact nofun

theorem mem_splitOnce {mark c : Char} {cs : List Char} (member : c ∈ (splitOnce mark cs).1) : c ∈ cs ∧ c ≠ mark :=
  ⟨(List.takeWhile_sublist _).mem member, by simpa using List.mem_takeWhile_imp member⟩

theorem split_noMarks {address : List Char} {parts : UrlParts} (read : split [] address = .ok parts) :
    HasNoMarks parts.scheme ∧ HasNoMarks parts.authority ∧ HasNoMarks parts.path := by
  unfold split at read
  dsimp only at read
  obtain ⟨_, -, read⟩ := bind_ok read
  cases read
  refine ⟨splitScheme_noMarks _, ?_, ?_⟩
  · dsimp only
    split
    next rest =>
      intro c member
      have inside : c ≠ '/' ∧ c ≠ '?' ∧ c ≠ '#' := by simpa [and_assoc] using List.mem_takeWhile_imp member
      simp [inside]
    next => exact nofun
  · intro c member
    obtain ⟨before, noQuery⟩ := mem_splitOnce member
    obtain ⟨-, noFragment⟩ := mem_splitOnce before
    simp [noQuery, noFragment]

theorem root_text_noMarks {parts : UrlParts} {path : List Char} (scheme : HasNoMarks parts.scheme)
    (authority : HasNoMarks parts.authority) (inPath : HasNoMarks path) : HasNoMarks (parts.root path).text := by
  intro c member
  have known : c ∈ parts.scheme ∨ c ∈ parts.authority ∨ c ∈ path ∨ c = ':' ∨ c = '/' := by
    unfold root text at member
    simp only [List.isEmpty_nil, if_true, List.append_nil] at member
    split_ifs at member
    all_goals grind
  rcases known with inside | inside | inside | rfl | rfl
  · exact scheme c inside
  · exact authority c inside
  · exact inPath c inside
  · decide
  · decide

end UrlParts

namespace Site

/-- A site that is found lies below the root of an address that can be read. -/
theorem discover_found {script page identity : Json} {site : Site}
    (found : discover script page identity = .ok (some site)) :
    identity.isTruthy = true ∧ ∃ address parts root, scriptAddress script page = .ok address ∧
      UrlParts.split [] address = .ok parts ∧ rootOf parts = some root ∧
      site = ⟨String.ofList root, String.ofList root ++ serviceFolder, identity⟩ := by
  unfold discover at found
  split at found
  next => cases found
  next truthy =>
    obtain ⟨address, addressed, found⟩ := bind_ok found
    obtain ⟨parts, read, found⟩ := bind_ok found
    split at found
    next => cases found
    next root below =>
      cases found
      exact ⟨by simpa using truthy, address, parts, root, addressed, read, below, rfl⟩

theorem rootOf_noMarks {address root : List Char} {parts : UrlParts} (read : UrlParts.split [] address = .ok parts)
    (below : rootOf parts = some root) : HasNoMarks root := by
  obtain ⟨scheme, authority, path⟩ := UrlParts.split_noMarks read
  unfold rootOf at below
  dsimp only at below
  split at below
  next =>
    cases below
    apply UrlParts.root_text_noMarks scheme authority
    intro c member
    rcases List.mem_append.mp member with inside | slash
    · exact path c (List.mem_of_mem_take inside)
    · rw [List.mem_singleton.mp slash]
      decide
  next => cases below

theorem discover_service {script page identity : Json} {site : Site}
    (found : discover script page identity = .ok (some site)) : site.service = site.root ++ serviceFolder := by
  obtain ⟨-, _, _, _, -, -, -, rfl⟩ := discover_found found
  rfl

/-- A site is for whom it was found, and its service is below a root without a query and a fragment. -/
theorem discover_ok {script page identity : Json} {site : Site}
    (found : discover script page identity = .ok (some site)) :
    identity.isTruthy = true ∧ site.identity = identity ∧ HasNoMarks site.service.toList ∧
      site.service.toList.getLast? = some '/' := by
  obtain ⟨truthy, address, parts, root, -, read, below, rfl⟩ := discover_found found
  refine ⟨truthy, rfl, ?_, ?_⟩
  · dsimp only
    rw [String.toList_append, String.toList_ofList]
    intro c member
    rcases List.mem_append.mp member with inside | folder
    · exact rootOf_noMarks read below c inside
    · have each : serviceFolder.toList.all (fun c => !(['?', '#'].contains c)) = true := by decide
      simpa using List.all_eq_true.mp each c folder
  · dsimp only
    rw [String.toList_append, List.getLast?_append_of_ne_nil _ (by decide)]
    decide

/-- The service of a site that was found is a folder, if it is on the web at all. -/
theorem isFolder_service {script page identity : Json} {site : Site}
    (found : discover script page identity = .ok (some site)) {base : RequestUrl}
    (read : RequestUrl.parse site.service.toList = .ok base)
    (web : base.scheme = "http".toList ∨ base.scheme = "https".toList) (host : base.host ≠ []) :
    RequestUrl.IsFolder site.service.toList base := by
  obtain ⟨-, -, noMarks, slash⟩ := discover_ok found
  obtain ⟨-, query, fragment, -⟩ := RequestUrl.ofWritten_ok (RequestUrl.parse_ok read).2
  obtain ⟨noQuery, noFragment⟩ := RequestUrl.Written.ofText_noMarks noMarks
  rw [noQuery] at query
  rw [noFragment] at fragment
  exact ⟨read, web, host, query, fragment, slash⟩

end Site

end ChatWidget
