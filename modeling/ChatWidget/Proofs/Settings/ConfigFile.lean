import ChatWidget.Settings.Sources
/-!
Which configuration file counts. The paths are tried in their order, each where it comes first. A path
without a file is passed over, and so is, with one warning, a file that is of no use; the first other file
decides what is found, and those behind it are not looked at. All of this holds for any way to read the
files.
-/
namespace ChatWidget.ConfigFile

def candidates (disk : String → Option String) (paths : List String) : List ConfigFile :=
  paths.map fun path => ⟨path, disk path⟩

section
variable (read : Reader) (disk : String → Option String)

/-- There is a file of no use at a path: it has no document that can be read, or the value of its document
counts as present and is no mapping. -/
inductive IsUseless (path : String) : ConfigWarning → Prop where
  | unreadable {text : String} : disk path = some text → document read text = .malformed →
      IsUseless path (.unreadable path)
  | notMapping {text : String} {value : Yaml} : disk path = some text →
      document read text = .value value → value.isTruthy → (∀ entries, value ≠ .map entries) →
      IsUseless path (.notMapping path)

/-- There is a file at a path that decides what is found: the entries of a mapping, no entries where the
value does not count as present, or the fault at which reading it breaks off. -/
inductive Decides (path : String) : Except Fault (List (Yaml × Yaml)) → Prop where
  | mapping {text : String} {entries : List (Yaml × Yaml)} : disk path = some text →
      document read text = .value (.map entries) → Decides path (.ok entries)
  | absent {text : String} {value : Yaml} : disk path = some text →
      document read text = .value value → value.isTruthy = false → Decides path (.ok [])
  | broken {text : String} {fault : Fault} : disk path = some text →
      document read text = .broken fault → Decides path (.error fault)

/-- At none of the paths is a file that decides; each file of no use gives one warning. -/
inductive ArePassed : List String → List ConfigWarning → Prop where
  | nil : ArePassed [] []
  | missing {path : String} {rest : List String} {warnings : List ConfigWarning} :
      disk path = none → ArePassed rest warnings → ArePassed (path :: rest) warnings
  | useless {path : String} {rest : List String} {warning : ConfigWarning}
      {warnings : List ConfigWarning} : IsUseless read disk path warning →
      ArePassed rest warnings → ArePassed (path :: rest) (warning :: warnings)

end

variable {read : Reader} {disk other : String → Option String}

/-! ### One file -/

theorem IsUseless.use_eq {path : String} {warning : ConfigWarning}
    (useless : IsUseless read disk path warning) :
    ∃ text, disk path = some text ∧ use read path text = .useless warning := by
  cases useless with
  | @unreadable text there malformed => exact ⟨text, there, by simp only [use, malformed]⟩
  | @notMapping text value there reads present noMapping =>
    refine ⟨text, there, ?_⟩
    simp only [use, reads]
    cases value with
    | map entries => exact absurd rfl (noMapping entries)
    | _ => simp only [present, if_true]

theorem Decides.use_eq {path : String} {found : Except Fault (List (Yaml × Yaml))}
    (decides : Decides read disk path found) :
    ∃ text, disk path = some text ∧
      use read path text = match found with
        | .ok entries => .holds entries
        | .error fault => .broken fault := by
  cases decides with
  | @mapping text entries there reads => exact ⟨text, there, by simp only [use, reads]⟩
  | @broken text fault there reads => exact ⟨text, there, by simp only [use, reads]⟩
  | @absent text value there reads absent =>
    refine ⟨text, there, ?_⟩
    simp only [use, reads]
    cases value with
    | map entries =>
      have none : entries = [] := by simpa [Yaml.isTruthy] using absent
      simp only [none]
    | _ => simp only [absent, Bool.false_eq_true, if_false]

/-- At a path there is no file, a file of no use, or one that decides. -/
theorem missing_or_useless_or_decides (read : Reader) (disk : String → Option String) (path : String) :
    disk path = none ∨ (∃ warning, IsUseless read disk path warning) ∨
      ∃ found, Decides read disk path found := by
  cases there : disk path with
  | none => exact .inl rfl
  | some text =>
    cases reads : document read text with
    | malformed => exact .inr (.inl ⟨_, .unreadable there reads⟩)
    | broken fault => exact .inr (.inr ⟨_, .broken there reads⟩)
    | value value =>
      by_cases mapping : ∃ entries, value = .map entries
      · obtain ⟨entries, rfl⟩ := mapping
        exact .inr (.inr ⟨_, .mapping there reads⟩)
      · cases present : value.isTruthy with
        | false => exact .inr (.inr ⟨_, .absent there reads present⟩)
        | true =>
          exact .inr (.inl ⟨_, .notMapping there reads present fun entries is => mapping ⟨entries, is⟩⟩)

theorem IsUseless.congr {path : String} {warning : ConfigWarning}
    (useless : IsUseless read disk path warning) (same : other path = disk path) :
    IsUseless read other path warning := by
  cases useless with
  | unreadable there reads => exact .unreadable (same.trans there) reads
  | notMapping there reads present noMapping =>
    exact .notMapping (same.trans there) reads present noMapping

theorem Decides.congr {path : String} {found : Except Fault (List (Yaml × Yaml))}
    (decides : Decides read disk path found) (same : other path = disk path) :
    Decides read other path found := by
  cases decides with
  | mapping there reads => exact .mapping (same.trans there) reads
  | absent there reads absent => exact .absent (same.trans there) reads absent
  | broken there reads => exact .broken (same.trans there) reads

theorem ArePassed.congr {paths : List String} {warnings : List ConfigWarning}
    (passed : ArePassed read disk paths warnings) (same : ∀ path ∈ paths, other path = disk path) :
    ArePassed read other paths warnings := by
  induction passed with
  | nil => exact .nil
  | missing gone _ ih =>
    exact .missing ((same _ List.mem_cons_self).trans gone) (ih fun path inside => same path (.tail _ inside))
  | useless useless _ ih =>
    exact .useless (useless.congr (same _ List.mem_cons_self)) (ih fun path inside => same path (.tail _ inside))

/-! ### Many files -/

theorem exists_first (read : Reader) (disk : String → Option String) (paths : List String) :
    ∃ before after found warnings, paths = before ++ after ∧ ArePassed read disk before warnings ∧
      (after = [] ∧ found = .ok [] ∨
        ∃ path later, after = path :: later ∧ Decides read disk path found) := by
  induction paths with
  | nil => exact ⟨[], [], .ok [], [], rfl, .nil, .inl ⟨rfl, rfl⟩⟩
  | cons path rest ih =>
    obtain ⟨before, after, found, warnings, split, passed, ends⟩ := ih
    rcases missing_or_useless_or_decides read disk path with gone | ⟨warning, useless⟩ | ⟨decided, decides⟩
    · exact ⟨path :: before, after, found, warnings, by rw [split]; rfl, .missing gone passed, ends⟩
    · exact ⟨path :: before, after, found, warning :: warnings, by rw [split]; rfl,
        .useless useless passed, ends⟩
    · exact ⟨[], path :: rest, decided, [], rfl, .nil, .inr ⟨path, rest, rfl, decides⟩⟩

/-- The paths that are new, each where it comes first. -/
def fresh (tried paths : List String) : List String :=
  (paths.filter fun path => !tried.contains path).eraseDups

theorem fresh_nil (paths : List String) : fresh [] paths = paths.eraseDups :=
  congrArg List.eraseDups (List.filter_eq_self.mpr fun _ _ => rfl)

/-- A path that has been tried is not tried again. -/
theorem fresh_tried {tried : List String} {path : String} (again : tried.contains path = true)
    (rest : List String) : fresh tried (path :: rest) = fresh tried rest := by
  simp only [fresh, List.filter_cons, again, Bool.not_true, Bool.false_eq_true, if_false]

theorem fresh_new {tried : List String} {path : String} (new : tried.contains path = false)
    (rest : List String) : fresh tried (path :: rest) = path :: fresh (path :: tried) rest := by
  have same : ((rest.filter fun path => !tried.contains path).filter fun b => !b == path) =
      rest.filter fun b => !(path :: tried).contains b := by
    rw [List.filter_filter]
    exact List.filter_congr fun b _ => by rw [List.contains_cons, Bool.not_or]
  simp only [fresh, List.filter_cons, new, Bool.not_false, if_true, List.eraseDups_cons, same]

/-- Where the new paths are passed over up to a file that decides, its decision is found, with the
warnings about those before it. -/
theorem search_eq {before after : List String} {found : Except Fault (List (Yaml × Yaml))}
    {warnings : List ConfigWarning} (passed : ArePassed read disk before warnings)
    (ends : after = [] ∧ found = .ok [] ∨
      ∃ path later, after = path :: later ∧ Decides read disk path found)
    (tried paths : List String) (split : fresh tried paths = before ++ after) :
    search read tried (candidates disk paths) = (found, warnings) := by
  induction paths generalizing tried before warnings with
  | nil =>
    obtain ⟨rfl, rfl⟩ := List.append_eq_nil_iff.mp (split.symm.trans rfl)
    cases passed
    rcases ends with ⟨_, rfl⟩ | ⟨path, later, empty, _⟩
    · rfl
    · exact absurd empty (by simp)
  | cons path rest ih =>
    cases again : tried.contains path with
    | true =>
      rw [fresh_tried again] at split
      rw [← ih passed tried split]
      simp only [candidates, List.map_cons, search, again, if_true]
    | false =>
      rw [fresh_new again] at split
      simp only [candidates, List.map_cons, search, again, Bool.false_eq_true, if_false]
      cases passed with
      | nil =>
        rcases ends with ⟨rfl, _⟩ | ⟨first, later, rfl, decides⟩
        · exact absurd split (by simp)
        · obtain ⟨rfl, _⟩ := List.cons.inj split
          obtain ⟨text, there, used⟩ := decides.use_eq
          cases found <;> simp only [there, used]
      | missing gone passed =>
        obtain ⟨rfl, onward⟩ := List.cons.inj split
        simp only [gone]
        exact ih passed _ onward
      | useless useless passed =>
        obtain ⟨rfl, onward⟩ := List.cons.inj split
        obtain ⟨text, there, used⟩ := useless.use_eq
        simp only [there, used]
        rw [← candidates, ih passed _ onward]

end ConfigFile

/-- Of the paths, each where it comes first, those up to the first file that decides are passed over, with
one warning about each file there; what that file decides, or nothing where none does, is all that the
settings have from files, whatever the files behind it are. -/
theorem SettingsSources.loadWith_first_file (read : ConfigFile.Reader) (disk : String → Option String)
    (paths : List String) (sources : SettingsSources) :
    ∃ before after found warnings,
      paths.eraseDups = before ++ after ∧ ConfigFile.ArePassed read disk before warnings ∧
      (after = [] ∧ found = .ok [] ∨
        ∃ path later, after = path :: later ∧ ConfigFile.Decides read disk path found) ∧
      ∀ other : String → Option String, (∀ path ∈ before ++ after.take 1, other path = disk path) →
        ConfigFile.search read [] (ConfigFile.candidates other paths) = (found, warnings) ∧
        { sources with files := ConfigFile.candidates other paths }.loadWith read =
          (found.mapError .fault >>= sources.settings, warnings) := by
  obtain ⟨before, after, found, warnings, split, passed, ends⟩ :=
    ConfigFile.exists_first read disk paths.eraseDups
  refine ⟨before, after, found, warnings, split, passed, ends, fun other same => ?_⟩
  have passedThere := passed.congr fun path inside => same path (List.mem_append_left _ inside)
  have endsThere : after = [] ∧ found = .ok [] ∨
      ∃ path later, after = path :: later ∧ ConfigFile.Decides read other path found := by
    rcases ends with nothing | ⟨path, later, rfl, decides⟩
    · exact .inl nothing
    · exact .inr ⟨path, later, rfl, decides.congr (same path (by simp))⟩
  have searched :=
    ConfigFile.search_eq passedThere endsThere [] paths ((ConfigFile.fresh_nil paths).trans split)
  refine ⟨searched, ?_⟩
  simp only [SettingsSources.loadWith, searched]
  rfl

/-- A file with an empty list decides that nothing is found: there is no warning about it, and the mapping
in the next file is not looked at. -/
theorem ConfigFile.search_empty_list :
    Yaml.read "[]".toList = .value (.seq []) ∧
    Yaml.read "style: dark\n".toList = .value (.map [(.str "style", .str "dark")]) ∧
    ConfigFile.search Yaml.read [] [⟨"explicit.yaml", some "[]"⟩, ⟨"config.yaml", some "style: dark\n"⟩] =
      (.ok [], []) := by
  refine ⟨rfl, rfl, rfl⟩

end ChatWidget
