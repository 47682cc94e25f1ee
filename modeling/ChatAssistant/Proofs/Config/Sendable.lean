import ChatAssistant.Proofs.Config.Update
import ChatAssistant.Proofs.Number.Order

/-!
# Every configuration can be sent

Whatever is set, in whatever order, the gateway gets a temperature and a limit of tokens within their
bounds, and a model by its identifier.  A temperature is a finite value by its type, so that it is never
"no number".
-/

namespace ChatAssistant

open ChatAssistant.Number ChatAssistant.Settings

namespace Catalogue

/-- A text that names a model by its identifier: it is no alias, so that resolving it changes nothing, and
it is not blank. -/
structure Identifies (model : String) : Prop where
  lookup : lookup model = none
  resolve : resolve model = model
  given : Text.isBlankText model = false

theorem identifies_of_lookup {model : String} (hlookup : lookup model = none)
    (hgiven : Text.isBlankText model = false) : Identifies model :=
  ⟨hlookup, by rw [resolve, hlookup, Option.getD_none], hgiven⟩

theorem lookup_of_mem_entries :
    ∀ entry ∈ entries, lookup entry.2 = none ∧ Text.isBlankText entry.2 = false := by
  decide

-- What an alias names is no alias itself.
theorem identifies_of_lookup_eq_some {name identifier : String}
    (h : lookup name = some identifier) : Identifies identifier := by
  obtain ⟨entry, hfind, rfl⟩ := Option.map_eq_some_iff.mp h
  obtain ⟨hlookup, hgiven⟩ := lookup_of_mem_entries entry (List.mem_of_find?_eq_some hfind)
  exact identifies_of_lookup hlookup hgiven

theorem identifies_resolve {text : String} (hgiven : Text.isBlankText text = false) :
    Identifies (resolve text) := by
  cases hlookup : lookup text with
  | none =>
    rw [resolve, hlookup, Option.getD_none]
    exact identifies_of_lookup hlookup hgiven
  | some identifier =>
    rw [resolve, hlookup, Option.getD_some]
    exact identifies_of_lookup_eq_some hlookup

theorem identifies_of_defaultFor {provider : Provider} {identifier : String}
    (h : defaultFor provider = some identifier) : Identifies identifier := by
  cases provider with
  | openAI | anthropic => exact identifies_of_lookup_eq_some h
  | selfHosted => cases h

end Catalogue

namespace Config

/-- What the gateway is promised about the parameters of a request. -/
structure Sendable (c : Config) : Prop where
  tokens : 100 ≤ c.maxTokens ∧ c.maxTokens ≤ 32000
  temperature : 0 ≤ c.temperature.value ∧ c.temperature.value ≤ 2
  model : Catalogue.Identifies c.model

theorem sendable_default : default.Sendable where
  tokens := by decide
  temperature := by decide +kernel
  model := by
    change Catalogue.Identifies (Catalogue.resolve "gpt-4")
    exact Catalogue.identifies_resolve (by decide)

/-! ## Single parameters -/

theorem clampTokens_bounds (n : Nat) : 100 ≤ clampTokens n ∧ clampTokens n ≤ 32000 := by
  unfold clampTokens minTokens maxTokenLimit
  omega

theorem value_minTemperature : minTemperature.value = 0 := by decide +kernel

theorem value_maxTemperature : maxTemperature.value = 2 := by decide +kernel

-- What is no number leaves the old temperature, which was within its bounds.
theorem clampTemperature_bounds (t : Extended single) {old : Finite single}
    (hold : 0 ≤ old.value ∧ old.value ≤ 2) :
    0 ≤ (clampTemperature t old).value ∧ (clampTemperature t old).value ≤ 2 := by
  unfold clampTemperature
  cases hclamp : t.clamp? minTemperature maxTemperature with
  | none => exact hold
  | some x =>
    have hbounds := Extended.clamp?_bounds
      (by rw [value_minTemperature, value_maxTemperature]; decide) hclamp
    rwa [value_minTemperature, value_maxTemperature] at hbounds

theorem temperatureFrom_bounds (source : Source) {old : Finite single}
    (hold : 0 ≤ old.value ∧ old.value ≤ 2) :
    0 ≤ (temperatureFrom source old).value ∧ (temperatureFrom source old).value ≤ 2 := by
  unfold temperatureFrom
  split
  · exact clampTemperature_bounds _ hold
  · exact hold

theorem maxTokensFrom_bounds (source : Source) {old : Nat} (hold : 100 ≤ old ∧ old ≤ 32000) :
    100 ≤ maxTokensFrom source old ∧ maxTokensFrom source old ≤ 32000 := by
  unfold maxTokensFrom
  split
  · exact clampTokens_bounds _
  · exact hold

-- A setting is trimmed before it is taken, so that it is blank only where it is empty.
theorem identifies_modelFrom (source : Source) {old : String} (hold : Catalogue.Identifies old) :
    Catalogue.Identifies (modelFrom source old) := by
  unfold modelFrom
  split
  · next model hmodel =>
    by_cases hempty : model.isEmpty = true
    · rwa [if_pos hempty]
    · rw [if_neg hempty]
      obtain ⟨text, -, rfl⟩ := Option.map_eq_some_iff.mp hmodel
      exact Catalogue.identifies_resolve
        (Bool.eq_false_iff.mpr fun hblank => hempty (Text.isEmpty_trim_of_isBlankText hblank))
  · exact hold

/-! ## Updates -/

theorem Sendable.setProvider {c : Config} (h : c.Sendable) (provider : Provider) :
    (c.setProvider provider).Sendable where
  tokens := h.tokens
  temperature := h.temperature
  model := by
    unfold Config.setProvider
    cases hdefault : Catalogue.defaultFor provider with
    | none => exact h.model
    | some identifier => exact Catalogue.identifies_of_defaultFor hdefault

theorem Sendable.setModel {c : Config} (h : c.Sendable) (aliasOrId : String) :
    (c.setModel aliasOrId).Sendable := by
  unfold Config.setModel
  by_cases hblank : Text.isBlankText aliasOrId = true
  · rwa [if_pos hblank]
  · rw [if_neg hblank]
    exact ⟨h.tokens, h.temperature,
      Catalogue.identifies_resolve (Bool.eq_false_iff.mpr hblank)⟩

theorem Sendable.refresh {c : Config} (h : c.Sendable) (change : Change) (source : Source) :
    (c.refresh change source).Sendable where
  tokens := by
    dsimp only [Config.refresh]
    split
    · exact maxTokensFrom_bounds source h.tokens
    · exact h.tokens
  temperature := by
    dsimp only [Config.refresh]
    split
    · exact temperatureFrom_bounds source h.temperature
    · exact h.temperature
  model := by
    dsimp only [Config.refresh]
    split
    · exact identifies_modelFrom source h.model
    · exact h.model

theorem Sendable.apply {c : Config} (h : c.Sendable) (update : Update) :
    (update.apply c).Sendable := by
  cases update with
  | apiKey | showTokenUsage | endpoint => exact ⟨h.tokens, h.temperature, h.model⟩
  | provider provider => exact h.setProvider provider
  | model aliasOrId => exact h.setModel aliasOrId
  | temperature t => exact ⟨h.tokens, clampTemperature_bounds t h.temperature, h.model⟩
  | maxTokens n => exact ⟨clampTokens_bounds n, h.temperature, h.model⟩
  | refresh change source => exact h.refresh change source

theorem Sendable.applyAll {c : Config} (h : c.Sendable) (updates : List Update) :
    (Update.applyAll updates c).Sendable := by
  induction updates generalizing c with
  | nil => exact h
  | cons update updates ih => exact ih (h.apply update)

theorem Reached.sendable {c : Config} (h : c.Reached) : c.Sendable := by
  induction h with
  | default => exact sendable_default
  | ofSource source => exact sendable_default.refresh .everything source
  | update update _ ih => exact ih.apply update

/-- Whatever updates follow on the default configuration, or on one that settings give, the result can be
sent. -/
theorem sendable_of_updates (updates : List Update) :
    (Update.applyAll updates default).Sendable ∧
      ∀ source, (Update.applyAll updates (ofSource source)).Sendable :=
  ⟨sendable_default.applyAll updates,
    fun source => (sendable_default.refresh .everything source).applyAll updates⟩

end Config

end ChatAssistant
