import ChatWidget.Proofs.Net.Jar
import Mathlib.Data.List.Induction
import Mathlib.Data.Option.Basic
/-!
Filing things under keys, on any number of levels. A key has its place in the order in which keys came in, and keeps
it. So to take out everything that has been filed, and to file it once more over what was there before or over less
of it, comes to the same order.
-/
namespace ChatWidget

namespace Entries

/-- Names with more of them, of which new ones come at the end. -/
def joined (names more : List String) : List String :=
  more.foldl (fun names name => if name ∈ names then names else names ++ [name]) names

theorem joined_concat (names more : List String) (name : String) :
    joined names (more ++ [name]) =
      if name ∈ joined names more then joined names more else joined names more ++ [name] := by
  unfold joined
  rw [List.foldl_append]
  rfl

theorem mem_joined {names more : List String} {name : String} :
    name ∈ joined names more ↔ name ∈ names ∨ name ∈ more := by
  induction more using List.reverseRecOn with
  | nil => simp [joined]
  | append_singleton more last ih =>
    rw [joined_concat]
    split
    next known =>
      rw [ih, List.mem_append, List.mem_singleton]
      refine ⟨fun either => either.imp_right .inl, ?_⟩
      rintro (there | there | rfl)
      · exact .inl there
      · exact .inr there
      · exact ih.mp known
    next => rw [List.mem_append, ih, List.mem_append, or_assoc]

theorem joined_known {names more : List String} (known : ∀ name ∈ more, name ∈ names) :
    joined names more = names := by
  induction more with
  | nil => rfl
  | cons name more ih =>
    unfold joined at ih ⊢
    rw [List.foldl_cons, if_pos (known name List.mem_cons_self)]
    exact ih fun other member => known other (List.mem_cons_of_mem _ member)

theorem joined_joined {names fewer : List String} (known : ∀ name ∈ fewer, name ∈ names) (more : List String) :
    joined names (joined fewer more) = joined names more := by
  induction more using List.reverseRecOn with
  | nil => exact joined_known known
  | append_singleton more name ih =>
    rw [joined_concat, joined_concat]
    split
    next there =>
      have again : name ∈ joined names more :=
        mem_joined.mpr ((mem_joined.mp there).imp_left (known name))
      rw [if_pos again]
      exact ih
    next => rw [joined_concat, ih]

end Entries

/-- A way of filing things: into what is there, if anything is, and out of it again in order. -/
structure Filing (X β : Type) where
  file : Option β → X → β
  items : β → List X
  /-- Is everything where it belongs? -/
  IsProper : β → Prop
  /-- Is the one what is left of the other after something has been taken out? -/
  IsLess : Option β → Option β → Prop

namespace Filing

variable {X β : Type}

def fileAll (filing : Filing X β) (there : Option β) (xs : List X) : Option β :=
  xs.foldl (fun there x => some (filing.file there x)) there

def itemsOf (filing : Filing X β) : Option β → List X
  | none => []
  | some there => filing.items there

/-- Does filing come to the same, however often things are taken out and filed again? -/
structure IsLawful (filing : Filing X β) : Prop where
  filed : ∀ there x, x ∈ filing.items (filing.file there x)
  others : ∀ there x, ∀ y ∈ filing.items (filing.file there x), y = x ∨ y ∈ filing.itemsOf there
  again : ∀ {less there}, filing.IsLess less there → (∀ one ∈ less, filing.IsProper one) →
    (∀ one ∈ there, filing.IsProper one) → ∀ xs,
      filing.fileAll there (filing.itemsOf (filing.fileAll less xs)) = filing.fileAll there xs

/-- File things under their keys. -/
def under (filing : Filing X β) (key : X → String) : Filing X (Entries β) where
  file there x := (there.getD []).put (key x) (filing.file ((there.getD []).get? (key x)) x)
  items entries := entries.flatMap fun field => filing.items field.2
  IsProper entries := entries.HasDistinctNames ∧
    ∀ field ∈ entries, filing.IsProper field.2 ∧ ∀ x ∈ filing.items field.2, key x = field.1
  IsLess less there := (∀ name ∈ (less.getD []).names, name ∈ (there.getD []).names) ∧
    ∀ name, filing.IsLess ((less.getD []).get? name) ((there.getD []).get? name)

variable {filing : Filing X β} {key : X → String}

theorem mem_fileAll {there : Option β} (lawful : filing.IsLawful) {xs : List X} {x : X}
    (member : x ∈ filing.itemsOf (filing.fileAll there xs)) : x ∈ xs ∨ x ∈ filing.itemsOf there := by
  induction xs using List.reverseRecOn with
  | nil => exact .inr member
  | append_singleton xs last ih =>
    unfold fileAll at member ih
    rw [List.foldl_append] at member
    cases lawful.others _ last x member with
    | inl same => exact .inl (same ▸ List.mem_append_right _ (List.mem_singleton_self _))
    | inr before => exact (ih before).imp_left (List.mem_append_left _)

theorem fileAll_ne_nil (filed : ∀ there x, x ∈ filing.items (filing.file there x)) (there : Option β) {xs : List X}
    (some : xs ≠ []) :
    filing.itemsOf (filing.fileAll there xs) ≠ [] := by
  induction xs using List.reverseRecOn with
  | nil => exact absurd rfl some
  | append_singleton xs last ih =>
    unfold fileAll
    rw [List.foldl_append]
    exact List.ne_nil_of_mem (filed _ last)

/-! ### One more level -/

/-- File things under their keys in what there is, which may be nothing. -/
def fill (filing : Filing X β) (key : X → String) (entries : Entries β) (xs : List X) : Entries β :=
  xs.foldl (fun entries x => entries.put (key x) (filing.file (entries.get? (key x)) x)) entries

theorem fileAll_some (entries : Entries β) (xs : List X) :
    (filing.under key).fileAll (some entries) xs = some (filing.fill key entries xs) := by
  induction xs generalizing entries with
  | nil => rfl
  | cons x xs ih => exact ih _

theorem fileAll_getD (there : Option (Entries β)) (xs : List X) :
    ((filing.under key).fileAll there xs).getD [] = filing.fill key (there.getD []) xs := by
  cases there with
  | some entries =>
    rw [fileAll_some]
    rfl
  | none =>
    cases xs with
    | nil => rfl
    | cons x xs =>
      change ((filing.under key).fileAll (some _) xs).getD [] = _
      rw [fileAll_some]
      rfl

theorem itemsOf_getD (there : Option (Entries β)) :
    (filing.under key).itemsOf there = (filing.under key).items (there.getD []) := by
  cases there with
  | none => rfl
  | some entries => rfl

theorem fill_names (entries : Entries β) (xs : List X) :
    (filing.fill key entries xs).names = Entries.joined entries.names (xs.map key) := by
  induction xs generalizing entries with
  | nil => rfl
  | cons x xs ih =>
    unfold fill at ih ⊢
    rw [List.foldl_cons, ih, Entries.names_put]
    rfl

theorem fill_distinct {entries : Entries β} (distinct : entries.HasDistinctNames) (xs : List X) :
    (filing.fill key entries xs).HasDistinctNames := by
  induction xs generalizing entries with
  | nil => exact distinct
  | cons x xs ih => exact ih (distinct.put _ _)

theorem get?_fill (entries : Entries β) (xs : List X) (name : String) :
    (filing.fill key entries xs).get? name = filing.fileAll (entries.get? name) (xs.filter (key · = name)) := by
  induction xs generalizing entries with
  | nil => rfl
  | cons x xs ih =>
    unfold fill at ih ⊢
    rw [List.foldl_cons, ih]
    by_cases here : key x = name
    · subst here
      rw [Entries.get?_put_self, List.filter_cons_of_pos (by simp)]
      rfl
    · rw [Entries.get?_put_of_ne _ _ (Ne.symm here), List.filter_cons_of_neg (by simpa using here)]

theorem items_filter {entries : Entries β} (distinct : entries.HasDistinctNames)
    (belong : ∀ field ∈ entries, ∀ x ∈ filing.items field.2, key x = field.1) (name : String) :
    ((filing.under key).items entries).filter (key · = name) = filing.itemsOf (entries.get? name) := by
  induction entries with
  | nil => rfl
  | cons field rest ih =>
    obtain ⟨called, b⟩ := field
    obtain ⟨new, others⟩ := List.nodup_cons.mp distinct
    have later := ih others fun field member => belong field (List.mem_cons_of_mem _ member)
    change (filing.items b ++ (filing.under key).items rest).filter (key · = name) = _
    rw [List.filter_append, later]
    by_cases here : called = name
    · subst here
      have absent : Entries.get? rest called = none := by
        cases found : Entries.get? rest called with
        | none => rfl
        | some other => exact absurd (List.mem_map_of_mem (Entries.get?_mem found)) new
      have all : (filing.items b).filter (key · = called) = filing.items b :=
        List.filter_eq_self.mpr fun x member => by simpa using belong _ List.mem_cons_self x member
      rw [absent, all]
      simp [Entries.get?, itemsOf]
    · have none : (filing.items b).filter (key · = name) = [] := by
        rw [List.filter_eq_nil_iff]
        intro x member
        rw [belong _ List.mem_cons_self x member]
        simpa using here
      rw [none]
      simp [Entries.get?, here]

/-- The keys of all things that are filed are the names, if something is filed under each name that is new. -/
theorem joined_items {entries : Entries β} {names : List String}
    (belong : ∀ field ∈ entries, ∀ x ∈ filing.items field.2, key x = field.1)
    (used : ∀ field ∈ entries, field.1 ∉ names → filing.items field.2 ≠ []) :
    Entries.joined names (((filing.under key).items entries).map key) = Entries.joined names entries.names := by
  induction entries generalizing names with
  | nil => rfl
  | cons field rest ih =>
    obtain ⟨name, b⟩ := field
    have own : ∀ other ∈ (filing.items b).map key, other = name := by
      intro other member
      obtain ⟨x, there, rfl⟩ := List.mem_map.mp member
      exact belong _ List.mem_cons_self x there
    have first : Entries.joined names ((filing.items b).map key) = Entries.joined names [name] := by
      by_cases known : name ∈ names
      · rw [Entries.joined_known fun other member => own other member ▸ known,
          Entries.joined_known fun other member => List.mem_singleton.mp member ▸ known]
      · obtain ⟨x, xs, whole⟩ := List.exists_cons_of_ne_nil (used _ List.mem_cons_self known)
        rw [whole, List.map_cons] at own ⊢
        have same := own _ List.mem_cons_self
        rw [same] at own ⊢
        unfold Entries.joined
        rw [List.foldl_cons, List.foldl_cons, if_neg known]
        apply Entries.joined_known
        intro other member
        rw [own other (List.mem_cons_of_mem _ member)]
        exact List.mem_append_right _ (List.mem_singleton_self _)
    have later : Entries.joined (Entries.joined names [name]) (((filing.under key).items rest).map key) =
        Entries.joined (Entries.joined names [name]) (Entries.names rest) := by
      apply ih fun field member => belong field (List.mem_cons_of_mem _ member)
      intro field member new
      exact used field (List.mem_cons_of_mem _ member) fun known => new (Entries.mem_joined.mpr (.inl known))
    unfold Entries.joined at first later ⊢
    change List.foldl _ _ ((filing.items b ++ (filing.under key).items rest).map key) = _
    rw [List.map_append, List.foldl_append, first, later]
    rfl

theorem fill_belongs (lawful : filing.IsLawful) {entries : Entries β} (proper : (filing.under key).IsProper entries)
    (xs : List X) : ∀ field ∈ filing.fill key entries xs, ∀ x ∈ filing.items field.2, key x = field.1 := by
  rintro ⟨name, b⟩ member x there
  have found := (fill_distinct proper.1 xs).get?_of_mem member
  rw [get?_fill] at found
  have there : x ∈ filing.itemsOf (filing.fileAll (entries.get? name) (xs.filter (key · = name))) := found ▸ there
  rcases mem_fileAll lawful there with new | old
  · simpa using (List.mem_filter.mp new).2
  · cases before : entries.get? name with
    | none =>
      rw [before] at old
      cases old
    | some b =>
      rw [before] at old
      exact (proper.2 _ (Entries.get?_mem before)).2 x old

theorem fill_ne_nil (lawful : filing.IsLawful) {entries : Entries β} (distinct : entries.HasDistinctNames)
    {xs : List X} {name : String} {b : β} (member : (name, b) ∈ filing.fill key entries xs)
    (new : name ∉ entries.names) : filing.items b ≠ [] := by
  have found := (fill_distinct distinct xs).get?_of_mem member
  rw [get?_fill] at found
  have some : xs.filter (key · = name) ≠ [] := by
    have named : name ∈ (filing.fill key entries xs).names := List.mem_map_of_mem (f := Prod.fst) member
    rw [fill_names, Entries.mem_joined] at named
    obtain ⟨x, inside, rfl⟩ := List.mem_map.mp (named.resolve_left new)
    exact List.ne_nil_of_mem (List.mem_filter.mpr ⟨inside, by simp⟩)
  have filled := fileAll_ne_nil lawful.filed (entries.get? name) some
  rw [found] at filled
  exact filled

/-- What is taken out of entries that have been filled, and filed once more, comes to the same. -/
theorem fill_again (lawful : filing.IsLawful) {less there : Entries β}
    (within : (filing.under key).IsLess (some less) (some there)) (properLess : (filing.under key).IsProper less)
    (proper : (filing.under key).IsProper there) (xs : List X) :
    filing.fill key there ((filing.under key).items (filing.fill key less xs)) = filing.fill key there xs := by
  have known : ∀ name ∈ less.names, name ∈ there.names := within.1
  have belong := fill_belongs lawful properLess xs
  have used : ∀ field ∈ filing.fill key less xs, field.1 ∉ there.names → filing.items field.2 ≠ [] :=
    fun field member new => fill_ne_nil lawful properLess.1 member fun old => new (known _ old)
  -- The names come out in the order of the keys, and under each name it is a matter of the level below.
  apply (fill_distinct proper.1 _).ext
  · rw [fill_names, joined_items belong used, fill_names, fill_names, Entries.joined_joined known]
  · intro name
    rw [get?_fill, items_filter (fill_distinct properLess.1 xs) belong, get?_fill, get?_fill]
    apply lawful.again (within.2 name)
    · exact fun one found => (properLess.2 _ (Entries.get?_mem found)).1
    · exact fun one found => (proper.2 _ (Entries.get?_mem found)).1

theorem IsLawful.under (lawful : filing.IsLawful) (key : X → String) : (filing.under key).IsLawful := by
  have filed : ∀ there x, x ∈ (filing.under key).items ((filing.under key).file there x) := by
    intro there x
    exact List.mem_flatMap.mpr ⟨_, Entries.get?_mem (Entries.get?_put_self _ _ _), lawful.filed _ x⟩
  refine ⟨filed, ?_, ?_⟩
  · intro there x y member
    rw [itemsOf_getD]
    obtain ⟨field, inside, member⟩ := List.mem_flatMap.mp member
    cases Entries.mem_put inside with
    | inl before => exact .inr (List.mem_flatMap.mpr ⟨field, before, member⟩)
    | inr new =>
      rw [new] at member
      refine (lawful.others _ x y member).imp_right ?_
      intro old
      cases found : (there.getD []).get? (key x) with
      | none =>
        rw [found] at old
        cases old
      | some b =>
        rw [found] at old
        exact List.mem_flatMap.mpr ⟨_, Entries.get?_mem found, old⟩
  · intro less there within properLess proper xs
    have same : ∀ {some : Option (Entries β)}, (∀ one ∈ some, (filing.under key).IsProper one) →
        (filing.under key).IsProper (some.getD []) := by
      intro some proper
      cases some with
      | none => exact ⟨List.nodup_nil, by simp⟩
      | some entries => exact proper entries rfl
    have again : filing.fill key (there.getD []) ((filing.under key).items (filing.fill key (less.getD []) xs)) =
        filing.fill key (there.getD []) xs := fill_again lawful within (same properLess) (same proper) xs
    rw [itemsOf_getD, fileAll_getD]
    cases there with
    | some entries =>
      rw [fileAll_some, fileAll_some]
      exact congrArg some again
    | none =>
      -- Nothing is there, not even empty entries; whether this changes depends on whether anything is taken out.
      cases xs with
      | nil =>
        have nothing : less.getD [] = [] := by
          cases left : less.getD [] with
          | nil => rfl
          | cons field rest =>
            have known := within.1 field.1 (by rw [left]; exact List.mem_cons_self)
            cases known
        change (filing.under key).fileAll none ((filing.under key).items (less.getD [])) = none
        rw [nothing]
        rfl
      | cons x xs =>
        have filled := fileAll_ne_nil filed less (List.cons_ne_nil x xs)
        rw [itemsOf_getD, fileAll_getD] at filled
        obtain ⟨y, ys, whole⟩ := List.exists_cons_of_ne_nil filled
        rw [whole] at again ⊢
        change (filing.under key).fileAll (some _) ys = (filing.under key).fileAll (some _) xs
        rw [fileAll_some, fileAll_some]
        exact congrArg some again

end Filing

namespace CookieJar

/-! ### Jars as files -/

/-- A place for a single cookie, which the next one there replaces. -/
def cell : Filing Cookie Cookie where
  file _ cookie := cookie
  items cookie := [cookie]
  IsProper _ := True
  IsLess less there := less = none ∨ less = there

theorem cell_lawful : cell.IsLawful where
  filed _ _ := List.mem_singleton_self _
  others _ _ _ member := .inl (List.mem_singleton.mp member)
  again := by
    intro less there within _ _ cookies
    induction cookies using List.reverseRecOn with
    | nil =>
      rcases within with rfl | rfl
      · rfl
      · cases less with
        | none => rfl
        | some cookie => rfl
    | append_singleton cookies cookie _ =>
      unfold Filing.fileAll
      rw [List.foldl_append, List.foldl_append]
      rfl

def filing : Filing Cookie (Entries (Entries (Entries Cookie))) :=
  ((cell.under (·.name)).under (·.path)).under (·.domain)

theorem filing_lawful : filing.IsLawful := ((cell_lawful.under _).under _).under _

theorem insertAll_domains (jar : CookieJar) (cookies : List Cookie) :
    some (jar.insertAll cookies).domains = filing.fileAll (some jar.domains) cookies := by
  induction cookies generalizing jar with
  | nil => rfl
  | cons cookie cookies ih => exact ih (jar.insert cookie)

theorem toList_eq (jar : CookieJar) : jar.toList = filing.items jar.domains := by
  unfold toList
  simp only [List.map_eq_flatMap]
  rfl

theorem IsFiled.isProper {jar : CookieJar} (filed : jar.IsFiled) : filing.IsProper jar.domains := by
  refine ⟨filed.domains, ?_⟩
  rintro ⟨domain, paths⟩ inDomains
  have atDomain := filed.domains.get?_of_mem inDomains
  have distinct := filed.paths domain
  rw [atDomain, Option.getD_some] at distinct
  have names : ∀ {path names}, (path, names) ∈ paths → names.HasDistinctNames ∧
      ∀ field ∈ names, field.2.place = ⟨domain, path, field.1⟩ := by
    intro path names inPaths
    have distinct := filed.names domain path
    rw [filed.at_of_mem inDomains inPaths] at distinct
    exact ⟨distinct, fun field inNames => filed.own ⟨domain, path, field.1⟩ field.2
      (filed.find_of_mem inDomains inPaths inNames)⟩
  have own : ∀ {path names}, (path, names) ∈ paths → ∀ cookie ∈ ((cell.under (·.name)).items names),
      ∃ name, cookie.place = ⟨domain, path, name⟩ := by
    intro path entries inPaths cookie member
    obtain ⟨⟨name, same⟩, inNames, equal⟩ := List.mem_flatMap.mp member
    rw [List.mem_singleton.mp equal]
    exact ⟨name, (names inPaths).2 _ inNames⟩
  refine ⟨⟨distinct, ?_⟩, ?_⟩
  · rintro ⟨path, entries⟩ inPaths
    refine ⟨⟨(names inPaths).1, ?_⟩, ?_⟩
    · rintro ⟨name, cookie⟩ inNames
      refine ⟨trivial, fun same equal => ?_⟩
      rw [List.mem_singleton.mp equal]
      exact congrArg Place.name ((names inPaths).2 _ inNames)
    · intro cookie member
      obtain ⟨name, place⟩ := own inPaths cookie member
      exact congrArg Place.path place
  · intro cookie member
    obtain ⟨⟨path, entries⟩, inPaths, member⟩ := List.mem_flatMap.mp member
    obtain ⟨name, place⟩ := own inPaths cookie member
    exact congrArg Place.domain place

theorem isLess_iff {less jar : CookieJar} : filing.IsLess (some less.domains) (some jar.domains) ↔
    (∀ domain ∈ less.domains.names, domain ∈ jar.domains.names) ∧
      (∀ domain, ∀ path ∈ ((less.domains.get? domain).getD []).names,
        path ∈ ((jar.domains.get? domain).getD []).names) ∧
      (∀ domain path, ∀ name ∈ (less.at_ domain path).names, name ∈ (jar.at_ domain path).names) ∧
      ∀ place, less.find place = none ∨ less.find place = jar.find place := by
  constructor
  · rintro ⟨domains, each⟩
    exact ⟨domains, fun domain => (each domain).1, fun domain path => ((each domain).2 path).1,
      fun place => ((each place.domain).2 place.path).2 place.name⟩
  · rintro ⟨domains, paths, names, cookies⟩
    exact ⟨domains, fun domain => ⟨paths domain, fun path => ⟨names domain path, fun name =>
      cookies ⟨domain, path, name⟩⟩⟩⟩

theorem isLess_erase {less jar : CookieJar} (within : filing.IsLess (some less.domains) (some jar.domains))
    (gone : Place) :
    filing.IsLess (some (less.erase gone.domain gone.path gone.name).domains) (some jar.domains) := by
  obtain ⟨domains, paths, names, cookies⟩ := isLess_iff.mp within
  have found : ∀ place, (less.erase gone.domain gone.path gone.name).find place = none ∨
      (less.erase gone.domain gone.path gone.name).find place = jar.find place := by
    intro place
    rw [find_erase]
    split
    · exact .inl rfl
    · exact cookies place
  by_cases present : (less.get? gone.domain gone.path gone.name).isSome
  · -- Nothing that is written over is new, so no name comes in on any level.
    have same : less.erase gone.domain gone.path gone.name =
        less.setAt gone.domain gone.path ((less.at_ gone.domain gone.path).erase gone.name) := if_pos present
    have inPaths : gone.path ∈ ((less.domains.get? gone.domain).getD []).names := by
      cases there : ((less.domains.get? gone.domain).getD []).get? gone.path with
      | some entries => exact List.mem_map_of_mem (Entries.get?_mem there)
      | none => simp [get?, at_, there] at present
    have inDomains : gone.domain ∈ less.domains.names := by
      cases there : less.domains.get? gone.domain with
      | some entries => exact List.mem_map_of_mem (Entries.get?_mem there)
      | none =>
        rw [there] at inPaths
        cases inPaths
    rw [same] at found ⊢
    refine isLess_iff.mpr ⟨?_, ?_, ?_, found⟩
    · unfold setAt
      rw [Entries.names_put, if_pos inDomains]
      exact domains
    · intro domain
      unfold setAt
      by_cases here : domain = gone.domain
      · rw [here, Entries.get?_put_self, Option.getD_some, Entries.names_put, if_pos inPaths]
        exact paths gone.domain
      · rw [Entries.get?_put_of_ne _ _ here]
        exact paths domain
    · intro domain path name member
      rw [at_setAt] at member
      split at member
      next here =>
        obtain ⟨rfl, rfl⟩ := here
        obtain ⟨field, inside, rfl⟩ := List.mem_map.mp member
        exact names _ _ _ (List.mem_map_of_mem (List.mem_of_mem_filter inside))
      next => exact names domain path name member
  · rw [erase, if_neg present]
    exact within

theorem isLess_clear (jar : CookieJar) (places : List Place) :
    filing.IsLess (some (jar.clear places).domains) (some jar.domains) := by
  induction places using List.reverseRecOn with
  | nil =>
    exact isLess_iff.mpr ⟨fun _ known => known, fun _ _ known => known, fun _ _ _ known => known, fun _ => .inr rfl⟩
  | append_singleton places gone ih =>
    unfold clear at ih ⊢
    rw [List.foldl_append]
    exact isLess_erase ih gone

/-- To put into a jar what it comes to after a response comes to the same as to put the cookies of the response into
it; nothing is taken out. -/
theorem merge_again {jar : CookieJar} (filed : jar.IsFiled) (places : List Place) (cookies : List Cookie) :
    jar.merge ((jar.clear places).insertAll cookies) = jar.insertAll cookies := by
  have proper : ∀ {other : CookieJar}, other.IsFiled → ∀ one ∈ some other.domains, filing.IsProper one := by
    intro other filed one same
    cases same
    exact filed.isProper
  have again := filing_lawful.again (jar.isLess_clear places) (proper (filed.clear places)) (proper filed) cookies
  rw [← insertAll_domains, ← insertAll_domains] at again
  have items : filing.itemsOf (some ((jar.clear places).insertAll cookies).domains) =
      ((jar.clear places).insertAll cookies).toList := (toList_eq _).symm
  rw [items, ← insertAll_domains] at again
  exact congrArg CookieJar.mk (Option.some.inj again)

/-- A jar into which cookies have been put is the same as its copy. -/
theorem copy_insertAll (cookies : List Cookie) :
    (({} : CookieJar).insertAll cookies).copy = ({} : CookieJar).insertAll cookies :=
  merge_again isFiled_empty [] cookies

end CookieJar

end ChatWidget
