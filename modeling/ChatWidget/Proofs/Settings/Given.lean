import ChatWidget.Settings.Sources
import ChatWidget.Proofs.Entries
import ChatWidget.Proofs.Op
/-!
What the caller gives stands before all other sources of a setting, and every setting is taken by itself. So when an
identity is given besides what makes settings, it makes the same settings for this identity, as it is without the blanks
around it.
-/
namespace ChatWidget

namespace Settings

/-! ### One setting after the other -/

def withIdentity (settings : Settings) (identity : Option String) : Settings := { settings with identity := identity }

theorem take_withIdentity {name : String} (other : name ≠ "identity") (settings : Settings) (identity : Option String)
    (value : Yaml) :
    take (settings.withIdentity identity) name value =
      (take settings name value).map (withIdentity · identity) := by
  unfold take
  split
  case h_3 => exact absurd rfl other
  case h_12 => rfl
  all_goals
    rw [map_mapped]
    rfl

theorem take_identity (settings : Settings) (text : String) :
    take settings "identity" (.str text) = .ok (settings.withIdentity (cleanIdentity (some text))) := rfl

theorem withIdentity_of_take {before next : Settings} {value : Yaml}
    (accepted : take before "identity" value = .ok next) (someone : Option String) :
    next.withIdentity someone = before.withIdentity someone := by
  change (Field.optionalText value).map _ = _ at accepted
  cases read : Field.optionalText value with
  | error cause =>
    rw [read] at accepted
    cases accepted
  | ok identity =>
    rw [read] at accepted
    cases accepted
    rfl

/-- From settings on, the values under some names are taken one after the other, and none is refused. -/
inductive TakesAll (values : Entries Yaml) : Settings → List String → Settings → Prop where
  | nil {settings : Settings} : TakesAll values settings [] settings
  | missing {before after : Settings} {name : String} {names : List String} : values.get? name = none →
      TakesAll values before names after → TakesAll values before (name :: names) after
  | taken {before next after : Settings} {name : String} {names : List String} {value : Yaml} :
      values.get? name = some value → take before name value = .ok next →
      TakesAll values next names after → TakesAll values before (name :: names) after

/-- Taking one setting more, or noting why it is refused. -/
def takeNext (values : Entries Yaml) : Settings × List FieldError → String → Settings × List FieldError :=
  fun (settings, errors) name =>
    match values.get? name with
    | none => (settings, errors)
    | some value => match take settings name value with
      | .ok settings => (settings, errors)
      | .error cause => (settings, errors ++ [⟨name, cause⟩])

theorem takesAll_of_foldl {values : Entries Yaml} {names : List String} {before after : Settings}
    {errors : List FieldError} (taken : names.foldl (takeNext values) (before, errors) = (after, [])) :
    errors = [] ∧ TakesAll values before names after := by
  induction names generalizing before errors with
  | nil =>
    cases taken
    exact ⟨rfl, .nil⟩
  | cons name names ih =>
    rw [List.foldl_cons, takeNext] at taken
    split at taken
    next absent =>
      obtain ⟨none, rest⟩ := ih taken
      exact ⟨none, .missing absent rest⟩
    next value found =>
      split at taken
      next next accepted =>
        obtain ⟨none, rest⟩ := ih taken
        exact ⟨none, .taken found accepted rest⟩
      next cause refused =>
        obtain ⟨none, -⟩ := ih taken
        exact absurd none (by simp)

theorem TakesAll.foldl {values : Entries Yaml} {names : List String} {before after : Settings}
    (taken : TakesAll values before names after) :
    names.foldl (takeNext values) (before, []) = (after, []) := by
  induction taken with
  | nil => rfl
  | missing absent _ ih =>
    rw [List.foldl_cons, takeNext, absent]
    exact ih
  | taken found accepted _ ih =>
    rw [List.foldl_cons, takeNext, found]
    dsimp only
    rw [accepted]
    exact ih

theorem ofValues_eq (values : Entries Yaml) :
    ofValues values = match names.foldl (takeNext values) ({}, []) with
      | (settings, errors) => if errors.isEmpty then .ok settings else .error errors := by
  unfold ofValues takeNext
  rfl

/-- Values make settings when they are taken one after the other from the defaults on. -/
theorem ofValues_ok_iff {values : Entries Yaml} {settings : Settings} :
    ofValues values = .ok settings ↔ TakesAll values {} names settings := by
  rw [ofValues_eq]
  constructor
  · intro made
    rcases folded : names.foldl (takeNext values) ({}, []) with ⟨taken, errors⟩
    rw [folded] at made
    dsimp only at made
    split at made
    next none =>
      cases made
      rw [List.isEmpty_iff.mp none] at folded
      exact (takesAll_of_foldl folded).2
    next => cases made
  · intro taken
    rw [taken.foldl]
    rfl

theorem TakesAll.absent {values : Entries Yaml} {names : List String}
    (nothing : ∀ name ∈ names, values.get? name = none) (settings : Settings) :
    TakesAll values settings names settings := by
  induction names with
  | nil => exact .nil
  | cons name names ih =>
    obtain ⟨here, later⟩ := List.forall_mem_cons.mp nothing
    exact .missing here (ih later)

/-- With an identity put among the values the same settings are taken, for this identity where it is taken at all. -/
theorem TakesAll.put_identity {values : Entries Yaml} {names : List String} {before after : Settings}
    (taken : TakesAll values before names after) (text : String) (first : Option String) :
    ∃ last, TakesAll (values.put "identity" (.str text)) (before.withIdentity first) names (after.withIdentity last) ∧
      (last = cleanIdentity (some text) ∨ last = first ∧ "identity" ∉ names) := by
  have given : (values.put "identity" (.str text)).get? "identity" = some (.str text) :=
    Entries.get?_put_self values "identity" (.str text)
  have others : ∀ {name}, name ≠ "identity" → (values.put "identity" (.str text)).get? name = values.get? name :=
    fun other => Entries.get?_put_of_ne values (.str text) other
  -- the two runs differ in whom the settings are for so far, until the identity is taken in both
  induction taken generalizing first with
  | nil => exact ⟨first, .nil, .inr ⟨rfl, List.not_mem_nil⟩⟩
  | @missing before after name names absent _ ih =>
    by_cases here : name = "identity"
    · subst here
      obtain ⟨last, rest, clean⟩ := ih (cleanIdentity (some text))
      exact ⟨last, .taken given (take_identity _ text) rest, .inl (clean.elim id And.left)⟩
    · obtain ⟨last, rest, clean⟩ := ih first
      refine ⟨last, .missing ((others here).trans absent) rest, clean.imp_right fun ⟨same, later⟩ => ⟨same, ?_⟩⟩
      exact List.not_mem_cons_of_ne_of_not_mem (Ne.symm here) later
  | @taken before next after name names value found accepted _ ih =>
    by_cases here : name = "identity"
    · subst here
      obtain ⟨last, rest, clean⟩ := ih (cleanIdentity (some text))
      rw [withIdentity_of_take accepted] at rest
      exact ⟨last, .taken given (take_identity _ text) rest, .inl (clean.elim id And.left)⟩
    · have accepted' : take (before.withIdentity first) name value = .ok (next.withIdentity first) := by
        rw [take_withIdentity here, accepted]
        rfl
      obtain ⟨last, rest, clean⟩ := ih first
      refine ⟨last, .taken ((others here).trans found) accepted' rest, clean.imp_right fun ⟨same, later⟩ => ⟨same, ?_⟩⟩
      exact List.not_mem_cons_of_ne_of_not_mem (Ne.symm here) later

theorem ofValues_put_identity {values : Entries Yaml} {settings : Settings} (made : ofValues values = .ok settings)
    (text : String) :
    ofValues (values.put "identity" (.str text)) = .ok (settings.withIdentity (cleanIdentity (some text))) := by
  obtain ⟨last, taken, clean⟩ := (ofValues_ok_iff.mp made).put_identity text none
  have nobody : withIdentity {} none = {} := by rw [withIdentity]
  rw [nobody] at taken
  rcases clean with rfl | ⟨-, absent⟩
  · exact ofValues_ok_iff.mpr taken
  · exact absurd (by decide) absent

end Settings

namespace SettingsSources

theorem loadWith_nothing (read : ConfigFile.Reader) : ({} : SettingsSources).loadWith read = (.ok {}, []) := by
  have made : Settings.ofValues [] = .ok {} := Settings.ofValues_ok_iff.mpr (.absent (fun _ _ => rfl) _)
  have loaded : ({} : SettingsSources).loadWith read = ((Settings.ofValues []).mapError .refused, []) := rfl
  rw [loaded, made]
  rfl

def givingIdentity (sources : SettingsSources) (text : String) : SettingsSources :=
  { sources with given := sources.given ++ [("identity", .str text)] }

theorem values_givingIdentity (sources : SettingsSources) (text : String) (file : Entries Yaml) :
    (sources.givingIdentity text).values file = (sources.values file).put "identity" (.str text) := by
  simp [values, givingIdentity, Entries.putAll, Yaml.ofJson]

theorem settings_givingIdentity {sources : SettingsSources} {entries : List (Yaml × Yaml)} {settings : Settings}
    (made : sources.settings entries = .ok settings) (text : String) :
    (sources.givingIdentity text).settings entries =
      .ok (settings.withIdentity (Settings.cleanIdentity (some text))) := by
  unfold SettingsSources.settings at made ⊢
  cases named : ConfigFile.named? entries with
  | none =>
    rw [named] at made
    cases made
  | some file =>
    rw [named] at made
    dsimp only at made ⊢
    rw [values_givingIdentity]
    cases valued : Settings.ofValues (sources.values file) with
    | error refused =>
      rw [valued] at made
      cases made
    | ok first =>
      rw [valued] at made
      cases made
      rw [Settings.ofValues_put_identity valued]
      rfl

/-- Sources that make settings make the same settings for an identity that the caller gives besides, with the same
warnings. -/
theorem loadWith_givingIdentity {read : ConfigFile.Reader} {sources : SettingsSources} {settings : Settings}
    {warnings : List ConfigWarning} (loaded : sources.loadWith read = (.ok settings, warnings)) (text : String) :
    (sources.givingIdentity text).loadWith read =
      (.ok (settings.withIdentity (Settings.cleanIdentity (some text))), warnings) := by
  have files : (sources.givingIdentity text).files = sources.files := rfl
  unfold loadWith at loaded ⊢
  rw [files]
  rcases searched : ConfigFile.search read [] sources.files with ⟨found, warned⟩
  rw [searched] at loaded
  obtain ⟨made, rfl⟩ := Prod.mk.inj loaded
  obtain ⟨entries, there, made⟩ := bind_ok made
  dsimp only
  rw [there]
  exact congrArg (·, warned) (settings_givingIdentity made text)

end SettingsSources

end ChatWidget
