import ChatWidget.Net.Cookie
import ChatWidget.Proofs.Entries
import Mathlib.Data.List.Induction
/-!
Looking cookies up in a jar. Every operation on a jar is described by what is found at each place
afterwards; for that a jar has to be filed, which it stays.
-/
namespace ChatWidget

@[ext]
structure Place where
  domain : String
  path : String
  name : String
deriving DecidableEq

namespace Cookie

def place (cookie : Cookie) : Place := ⟨cookie.domain, cookie.path, cookie.name⟩

def lastAt? (place : Place) (cookies : List Cookie) : Option Cookie :=
  cookies.reverse.find? (·.place = place)

theorem lastAt?_append (place : Place) (cookies : List Cookie) (cookie : Cookie) :
    lastAt? place (cookies ++ [cookie]) =
      if cookie.place = place then some cookie else lastAt? place cookies := by
  unfold lastAt?
  rw [List.reverse_append, List.reverse_singleton, List.singleton_append, List.find?_cons]
  by_cases here : cookie.place = place
  · simp [here]
  · simp [here]

end Cookie

namespace CookieJar

open Entries (HasDistinctNames)

variable {jar : CookieJar}

def find (jar : CookieJar) (place : Place) : Option Cookie := jar.get? place.domain place.path place.name

/-- Is every cookie at its own place, and no place there twice? -/
structure IsFiled (jar : CookieJar) : Prop where
  domains : jar.domains.HasDistinctNames
  paths : ∀ domain, ((jar.domains.get? domain).getD []).HasDistinctNames
  names : ∀ domain path, (jar.at_ domain path).HasDistinctNames
  own : ∀ place cookie, jar.find place = some cookie → cookie.place = place

theorem isFiled_empty : ({} : CookieJar).IsFiled :=
  ⟨List.nodup_nil, fun _ => List.nodup_nil, fun _ _ => List.nodup_nil, nofun⟩

theorem IsFiled.at_of_mem (filed : jar.IsFiled) {domain path : String} {paths : Entries (Entries Cookie)}
    {names : Entries Cookie} (inDomains : (domain, paths) ∈ jar.domains) (inPaths : (path, names) ∈ paths) :
    jar.at_ domain path = names := by
  have atDomain := filed.domains.get?_of_mem inDomains
  have distinct := filed.paths domain
  rw [atDomain, Option.getD_some] at distinct
  rw [at_, atDomain, Option.getD_some, distinct.get?_of_mem inPaths]
  rfl

theorem IsFiled.find_of_mem (filed : jar.IsFiled) {domain path name : String} {paths : Entries (Entries Cookie)}
    {names : Entries Cookie} {cookie : Cookie} (inDomains : (domain, paths) ∈ jar.domains)
    (inPaths : (path, names) ∈ paths) (inNames : (name, cookie) ∈ names) :
    jar.find ⟨domain, path, name⟩ = some cookie := by
  have atPath := filed.at_of_mem inDomains inPaths
  have distinct := filed.names domain path
  rw [atPath] at distinct
  rw [find, get?, atPath]
  exact distinct.get?_of_mem inNames

theorem mem_toList (filed : jar.IsFiled) (cookie : Cookie) :
    cookie ∈ jar.toList ↔ jar.find cookie.place = some cookie := by
  unfold toList
  constructor
  · intro member
    obtain ⟨⟨domain, paths⟩, inDomains, member⟩ := List.mem_flatMap.mp member
    obtain ⟨⟨path, names⟩, inPaths, member⟩ := List.mem_flatMap.mp member
    obtain ⟨⟨name, same⟩, inNames, equal⟩ := List.mem_map.mp member
    change same = cookie at equal
    subst equal
    have found := filed.find_of_mem inDomains inPaths inNames
    rw [filed.own _ _ found]
    exact found
  · intro found
    unfold find get? at_ at found
    cases atDomain : jar.domains.get? cookie.place.domain with
    | none =>
      rw [atDomain] at found
      cases found
    | some paths =>
      rw [atDomain] at found
      cases atPath : paths.get? cookie.place.path with
      | none =>
        rw [Option.getD_some, atPath] at found
        cases found
      | some names =>
        rw [Option.getD_some, atPath] at found
        apply List.mem_flatMap.mpr
        refine ⟨_, Entries.get?_mem atDomain, ?_⟩
        apply List.mem_flatMap.mpr
        exact ⟨_, Entries.get?_mem atPath, List.mem_map.mpr ⟨_, Entries.get?_mem found, rfl⟩⟩

theorem lastAt?_toList (filed : jar.IsFiled) (place : Place) :
    Cookie.lastAt? place jar.toList = jar.find place := by
  unfold Cookie.lastAt?
  cases last : jar.toList.reverse.find? (·.place = place) with
  | some cookie =>
    have here : cookie.place = place := by simpa using List.find?_some last
    have member := List.mem_reverse.mp (List.mem_of_find?_eq_some last)
    rw [← here, (mem_toList filed cookie).mp member]
  | none =>
    cases found : jar.find place with
    | none => rfl
    | some cookie =>
      have here := filed.own place cookie found
      have member : cookie ∈ jar.toList := (mem_toList filed cookie).mpr (by rw [here, found])
      have absent := List.find?_eq_none.mp last cookie (List.mem_reverse.mpr member)
      simp [here] at absent

/-! ### Writing -/

theorem at_setAt (jar : CookieJar) (domain path : String) (cookies : Entries Cookie)
    (domain' path' : String) :
    (jar.setAt domain path cookies).at_ domain' path' =
      if domain' = domain ∧ path' = path then cookies else jar.at_ domain' path' := by
  unfold setAt at_
  dsimp only
  by_cases sameDomain : domain' = domain
  · subst sameDomain
    rw [Entries.get?_put_self, Option.getD_some]
    by_cases samePath : path' = path
    · subst samePath
      rw [Entries.get?_put_self, if_pos ⟨rfl, rfl⟩]
      rfl
    · rw [Entries.get?_put_of_ne _ _ samePath, if_neg fun both => samePath both.2]
  · rw [Entries.get?_put_of_ne _ _ sameDomain, if_neg fun both => sameDomain both.1]

theorem find_setAt (jar : CookieJar) (domain path : String) (cookies : Entries Cookie) (place : Place) :
    (jar.setAt domain path cookies).find place =
      if place.domain = domain ∧ place.path = path then cookies.get? place.name else jar.find place := by
  unfold find get?
  rw [at_setAt]
  split
  · rfl
  · rfl

theorem IsFiled.setAt (filed : jar.IsFiled) {domain path : String} {cookies : Entries Cookie}
    (distinct : cookies.HasDistinctNames)
    (own : ∀ name cookie, cookies.get? name = some cookie → cookie.place = ⟨domain, path, name⟩) :
    (jar.setAt domain path cookies).IsFiled where
  domains := filed.domains.put _ _
  paths other := by
    unfold CookieJar.setAt
    dsimp only
    by_cases same : other = domain
    · rw [same, Entries.get?_put_self]
      exact (filed.paths domain).put _ _
    · rw [Entries.get?_put_of_ne _ _ same]
      exact filed.paths other
  names other path' := by
    rw [at_setAt]
    split
    · exact distinct
    · exact filed.names other path'
  own place cookie found := by
    rw [find_setAt] at found
    split at found
    case isTrue here =>
      obtain ⟨rfl, rfl⟩ := here
      exact own place.name cookie found
    case isFalse => exact filed.own place cookie found

theorem find_insert (jar : CookieJar) (cookie : Cookie) (place : Place) :
    (jar.insert cookie).find place = if cookie.place = place then some cookie else jar.find place := by
  unfold insert
  rw [find_setAt]
  by_cases here : cookie.place = place
  · subst here
    rw [if_pos ⟨rfl, rfl⟩, if_pos rfl]
    exact Entries.get?_put_self _ _ _
  · rw [if_neg here]
    split
    case isFalse => rfl
    case isTrue near =>
      have other : place.name ≠ cookie.name := by
        intro same
        exact here (Place.ext near.1.symm near.2.symm same.symm)
      rw [Entries.get?_put_of_ne _ _ other, ← near.1, ← near.2]
      rfl

theorem IsFiled.insert (filed : jar.IsFiled) (cookie : Cookie) : (jar.insert cookie).IsFiled := by
  apply filed.setAt ((filed.names _ _).put _ _)
  intro name other found
  by_cases same : name = cookie.name
  · rw [same, Entries.get?_put_self] at found
    cases found
    rw [same]
    rfl
  · rw [Entries.get?_put_of_ne _ _ same] at found
    exact filed.own ⟨cookie.domain, cookie.path, name⟩ other found

theorem find_erase (jar : CookieJar) (gone place : Place) :
    (jar.erase gone.domain gone.path gone.name).find place =
      if gone = place then none else jar.find place := by
  unfold erase
  split
  case isFalse absent =>
    by_cases here : gone = place
    · subst here
      rw [if_pos rfl]
      simpa [find] using absent
    · rw [if_neg here]
  case isTrue =>
    rw [find_setAt]
    by_cases here : gone = place
    · subst here
      rw [if_pos ⟨rfl, rfl⟩, if_pos rfl]
      exact Entries.get?_erase_self _ _
    · rw [if_neg here]
      split
      case isFalse => rfl
      case isTrue near =>
        have other : place.name ≠ gone.name := by
          intro same
          exact here (Place.ext near.1.symm near.2.symm same.symm)
        rw [Entries.get?_erase_of_ne _ other, ← near.1, ← near.2]
        rfl

theorem IsFiled.erase (filed : jar.IsFiled) (gone : Place) :
    (jar.erase gone.domain gone.path gone.name).IsFiled := by
  unfold CookieJar.erase
  split
  case isFalse => exact filed
  case isTrue =>
    apply filed.setAt ((filed.names _ _).erase _)
    intro name other found
    by_cases same : name = gone.name
    · rw [same, Entries.get?_erase_self] at found
      cases found
    · rw [Entries.get?_erase_of_ne _ same] at found
      exact filed.own ⟨gone.domain, gone.path, name⟩ other found

theorem insertAll_append (jar : CookieJar) (cookies : List Cookie) (cookie : Cookie) :
    jar.insertAll (cookies ++ [cookie]) = (jar.insertAll cookies).insert cookie := by
  unfold insertAll
  rw [List.foldl_append]
  rfl

theorem find_insertAll (jar : CookieJar) (cookies : List Cookie) (place : Place) :
    (jar.insertAll cookies).find place = (Cookie.lastAt? place cookies).or (jar.find place) := by
  induction cookies using List.reverseRecOn with
  | nil => rfl
  | append_singleton cookies cookie ih =>
    rw [insertAll_append, find_insert, Cookie.lastAt?_append]
    split
    · rfl
    · exact ih

theorem IsFiled.insertAll (filed : jar.IsFiled) (cookies : List Cookie) :
    (jar.insertAll cookies).IsFiled := by
  induction cookies using List.reverseRecOn with
  | nil => exact filed
  | append_singleton cookies cookie ih =>
    rw [insertAll_append]
    exact ih.insert cookie

/-- The cookies of the other jar stand above those of this one. -/
theorem find_merge {other : CookieJar} (filed : other.IsFiled) (jar : CookieJar) (place : Place) :
    (jar.merge other).find place = (other.find place).or (jar.find place) := by
  unfold merge
  rw [find_insertAll, lastAt?_toList filed]

theorem IsFiled.merge (filed : jar.IsFiled) (other : CookieJar) : (jar.merge other).IsFiled :=
  filed.insertAll other.toList

theorem find_copy (filed : jar.IsFiled) (place : Place) : jar.copy.find place = jar.find place := by
  have found := find_merge filed {} place
  rw [show ({} : CookieJar).find place = none from rfl, Option.or_none] at found
  exact found

theorem isFiled_copy (jar : CookieJar) : jar.copy.IsFiled := isFiled_empty.insertAll jar.toList

/-! ### Taking the cookies of a response -/

def kept (orders : List CookieOrder) : List Cookie :=
  orders.filterMap fun
    | .keep cookie => some cookie
    | _ => none

def cleared (orders : List CookieOrder) : List Place :=
  orders.filterMap fun
    | .discard domain path name => some ⟨domain, path, name⟩
    | _ => none

def clear (jar : CookieJar) (places : List Place) : CookieJar :=
  places.foldl (fun jar gone => jar.erase gone.domain gone.path gone.name) jar

theorem find_clear (jar : CookieJar) (places : List Place) (place : Place) :
    (jar.clear places).find place = if place ∈ places then none else jar.find place := by
  unfold clear
  induction places generalizing jar with
  | nil => rfl
  | cons gone places ih =>
    rw [List.foldl_cons, ih, find_erase]
    by_cases later : place ∈ places
    · rw [if_pos later, if_pos (List.mem_cons_of_mem _ later)]
    · rw [if_neg later]
      by_cases here : gone = place
      · rw [if_pos here, if_pos (here ▸ List.mem_cons_self)]
      · rw [if_neg here, if_neg fun member => (List.mem_cons.mp member).elim (here ·.symm) later]

theorem IsFiled.clear (filed : jar.IsFiled) (places : List Place) : (jar.clear places).IsFiled := by
  unfold CookieJar.clear
  induction places generalizing jar with
  | nil => exact filed
  | cons gone places ih => exact ih (filed.erase gone)

theorem take_eq {now : Int} {scope : CookieScope} {headers : List String} {orders : List CookieOrder}
    (ordered : CookieOrder.ofHeaders now scope headers = .ok orders) (jar : CookieJar) :
    jar.take now scope headers = (jar.clear (cleared orders)).insertAll (kept orders) := by
  have without : ∀ jar : CookieJar, orders.foldl (fun jar order => match order with
      | .discard domain path name => jar.erase domain path name
      | _ => jar) jar = jar.clear (cleared orders) := by
    clear ordered
    induction orders with
    | nil => exact fun _ => rfl
    | cons order orders ih =>
      intro jar
      rw [List.foldl_cons, ih]
      cases order with
      | keep cookie => rfl
      | discard domain path name => rfl
      | ignore => rfl
  unfold take
  rw [ordered]
  exact congrArg (·.insertAll (kept orders)) (without jar)

end CookieJar

end ChatWidget
