import ChatAssistant.Config.Refresh
import ChatAssistant.Settings.Store

/-!
# Parameters by key

Each key has one parameter of the configuration.  What a change of settings does to a parameter is
told by whether it affects the key, by the value under the key and by the old parameter.
-/

namespace ChatAssistant

open ChatAssistant.Number ChatAssistant.Settings

/-- The kind of parameter that a key sets. -/
abbrev Settings.Key.Parameter : Key → Type
  | .apiKey => String
  | .provider => Provider
  | .model => String
  | .temperature => Finite single
  | .maxTokens => Nat
  | .showTokenUsage => Bool
  | .endpoint => String

theorem Settings.Key.name_injective {key other : Key} (h : key.name = other.name) : key = other := by
  revert h
  cases key <;> cases other <;> decide

namespace Config

/-- The parameter of a key. -/
def parameter (c : Config) : (key : Key) → key.Parameter
  | .apiKey => c.apiKey
  | .provider => c.provider
  | .model => c.model
  | .temperature => c.temperature
  | .maxTokens => c.maxTokens
  | .showTokenUsage => c.showTokenUsage
  | .endpoint => c.endpoint

/-- The parameter of a key after its setting has been read; `old` is the one before. -/
def read (source : Source) : (key : Key) → key.Parameter → key.Parameter
  | .apiKey, old => apiKeyFrom source old
  | .provider, old => providerFrom source old
  | .model, old => modelFrom source old
  | .temperature, old => temperatureFrom source old
  | .maxTokens, old => maxTokensFrom source old
  | .showTokenUsage, old => showTokenUsageFrom source old
  | .endpoint, _ => endpointFrom source

theorem ext_parameter {c d : Config} (h : ∀ key, c.parameter key = d.parameter key) : c = d := by
  have hapiKey := h .apiKey
  have hprovider := h .provider
  have hmodel := h .model
  have htemperature := h .temperature
  have hmaxTokens := h .maxTokens
  have hshowTokenUsage := h .showTokenUsage
  have hendpoint := h .endpoint
  obtain ⟨⟩ := c
  obtain ⟨⟩ := d
  simp only [parameter] at hapiKey hprovider hmodel htemperature hmaxTokens hshowTokenUsage hendpoint
  simp only [Config.mk.injEq]
  exact ⟨hapiKey, hprovider, hmodel, htemperature, hmaxTokens, hshowTokenUsage, hendpoint⟩

theorem parameter_refresh (change : Change) (source : Source) (c : Config) (key : Key) :
    (c.refresh change source).parameter key =
      if change.affects key.name then read source key (c.parameter key) else c.parameter key := by
  cases key <;> rfl

-- Reading looks at nothing but the value under the key.
theorem read_eq_of_value_eq {source other : Source} {key : Key}
    (h : source key.name = other key.name) : read source key = read other key := by
  funext old
  cases key <;>
    simp only [read, apiKeyFrom, providerFrom, modelFrom, temperatureFrom, maxTokensFrom,
      showTokenUsageFrom, endpointFrom, text?, h]

theorem read_value (source : Source) (key : Key) :
    read (fun _ => source key.name) key = read source key :=
  read_eq_of_value_eq rfl

-- A setting either fixes its parameter or leaves it as it is.
theorem read_fixes_or_keeps (source : Source) (key : Key) :
    (∃ new, ∀ old, read source key old = new) ∨ ∀ old, read source key old = old := by
  -- For each key, the kinds of values that fix the parameter are told apart from the others.
  cases key <;> simp only [read]
  case apiKey =>
    unfold apiKeyFrom
    rcases source Key.apiKey.name with _ | value
    · exact .inl ⟨_, fun _ => rfl⟩
    · cases value with
      | null | string | number => exact .inl ⟨_, fun _ => rfl⟩
      | bool | array | object => exact .inr fun _ => rfl
  case provider =>
    unfold providerFrom
    rcases (text? source .provider).map Provider.parse with _ | parsed
    · exact .inr fun _ => rfl
    · cases parsed with
      | ok provider => exact .inl ⟨provider, fun _ => rfl⟩
      | error => exact .inr fun _ => rfl
  case model =>
    unfold modelFrom
    rcases text? source .model with _ | model
    · exact .inr fun _ => rfl
    · by_cases hempty : model.isEmpty = true
      · exact .inr fun _ => if_pos hempty
      · exact .inl ⟨_, fun _ => if_neg hempty⟩
  case temperature =>
    unfold temperatureFrom clampTemperature
    rcases (source Key.temperature.name).bind Json.Value.toDouble? with _ | t
    · exact .inr fun _ => rfl
    · cases hclamp : (t.convert single).clamp? minTemperature maxTemperature with
      | none => exact .inr fun _ => by simp only [hclamp, Option.getD_none]
      | some clamped => exact .inl ⟨clamped, fun _ => by simp only [hclamp, Option.getD_some]⟩
  case maxTokens =>
    unfold maxTokensFrom
    rcases (source Key.maxTokens.name).bind count? with _ | n
    · exact .inr fun _ => rfl
    · exact .inl ⟨_, fun _ => rfl⟩
  case showTokenUsage =>
    unfold showTokenUsageFrom
    rcases (source Key.showTokenUsage.name).bind Json.Value.toBool? with _ | enabled
    · exact .inr fun _ => rfl
    · exact .inl ⟨enabled, fun _ => rfl⟩
  case endpoint => exact .inl ⟨_, fun _ => rfl⟩

-- Reading a setting once more changes nothing.
theorem read_read (source : Source) (key : Key) (old : key.Parameter) :
    read source key (read source key old) = read source key old := by
  rcases read_fixes_or_keeps source key with ⟨new, hfixes⟩ | hkeeps
  · rw [hfixes, hfixes]
  · rw [hkeeps]

end Config

namespace Settings.Change

theorem rest?_self (text : List Char) : rest? text text = some [] := by
  induction text with
  | nil => rfl
  | cons c text ih => rw [rest?, if_pos rfl, ih]

theorem covers_self (key : String) : covers key key = true := by
  rw [covers, rest?_self]

theorem affects_of_mem {change : Change} {key : String} (h : key ∈ change.keys) :
    change.affects key = true :=
  List.any_eq_true.mpr ⟨key, h, covers_self key⟩

theorem affects_ofList_of_mem {keys : List String} {key : String} (h : key ∈ keys) :
    (ofList keys).affects key = true :=
  affects_of_mem (KeySet.mem_ofList.mpr h)

-- No key leads to another one.
theorem affects_ofList_name {key other : Key} :
    (ofList [key.name]).affects other.name = true ↔ other = key := by
  cases key <;> cases other <;> decide

theorem affects_everything (key : Key) : everything.affects key.name = true :=
  affects_ofList_of_mem (List.mem_map_of_mem (by cases key <;> decide))

end Settings.Change

namespace Config

theorem parameter_refresh_everything (source : Source) (c : Config) (key : Key) :
    (c.refresh .everything source).parameter key = read source key (c.parameter key) := by
  rw [parameter_refresh, if_pos (Change.affects_everything key)]

-- A configuration that reading all settings leaves as it is.
theorem refresh_everything_eq_self {source : Source} {c : Config} :
    c.refresh .everything source = c ↔
      ∀ key, read source key (c.parameter key) = c.parameter key := by
  constructor
  · intro h key
    rw [← parameter_refresh_everything, h]
  · intro h
    apply ext_parameter
    intro key
    rw [parameter_refresh_everything, h]

end Config

end ChatAssistant
