import ChatAssistant.CommandLine.Startup
import ChatAssistant.Proofs.Config.Sendable
import ChatAssistant.Proofs.Text.Blank
import ChatAssistant.Proofs.Yaml.Numerals

/-!
# Which source decides a parameter

Each parameter of the configuration at the start is the first one that a source gives, in an order that is
the parameter's own.  Options give it before settings, and settings before defaults; a source that names
nothing usable gives nothing.
-/

namespace ChatAssistant.CommandLine

open ChatAssistant.Number ChatAssistant.Settings

/-! ## What a source gives -/

/-- A text that is not blank. -/
def given? (text : String) : Option String := if Text.isBlankText text then none else some text

/-- The text of a setting without the blanks around it. -/
def textSetting? (source : Source) (key : Key) : Option String :=
  match source key.name with
  | some (.string text) => given? (Text.trim text)
  | _ => none

/-- The key of the settings, which may be a number. -/
def keySetting? (source : Source) : Option String :=
  match source Key.apiKey.name with
  | some (.string text) => given? (Text.trim text)
  | some (.number n) => given? n.toText
  | _ => none

/-- The provider that the settings name. -/
def providerSetting? (source : Source) : Option Provider :=
  match source Key.provider.name with
  | some (.string text) => (Provider.parse text).toOption
  | _ => none

/-- The temperature between zero and two that is nearest to a number. -/
def boundedTemperature? : Extended single → Option (Finite single)
  | .finite x =>
    some (if x.value < 0 then Config.minTemperature else if 2 < x.value then Config.maxTemperature else x)
  | .infinite negative => some (if negative then Config.minTemperature else Config.maxTemperature)
  | .nan => none

def temperatureSetting? (source : Source) : Option (Finite single) :=
  match source Key.temperature.name with
  | some (.number n) => boundedTemperature? (n.toDouble.convert single)
  | _ => none

/-- A limit of tokens between the bounds. -/
def boundedTokens (n : Nat) : Nat := min 32000 (max 100 n)

def tokensSetting? (source : Source) : Option Nat := ((source Key.maxTokens.name).bind count?).map boundedTokens

def usageSetting? (source : Source) : Option Bool :=
  match source Key.showTokenUsage.name with
  | some (.bool enabled) => some enabled
  | _ => none

/-- The configuration by the first source that gives each parameter. -/
def byPrecedence (args : Arguments) (key : Option String) (source : Source) : Config where
  apiKey := ((keySetting? source).or key).getD ""
  provider := (args.provider.or (providerSetting? source)).getD .openAI
  model :=
    (((args.model.bind given?).map Catalogue.resolve).or
      ((args.provider.bind Catalogue.defaultFor).or
        ((textSetting? source .model).map Catalogue.resolve))).getD "openai/gpt-4"
  temperature :=
    ((args.temperature.bind boundedTemperature?).or (temperatureSetting? source)).getD (Config.singleOf 7 10)
  maxTokens := ((args.maxTokens.map boundedTokens).or (tokensSetting? source)).getD 2000
  showTokenUsage := (usageSetting? source).getD true
  endpoint := (textSetting? source .endpoint).getD Config.defaultEndpoint

/-! ## Settings -/

theorem given?_trim (text : String) :
    given? (Text.trim text) = if (Text.trim text).isEmpty then none else some (Text.trim text) := by
  rw [given?, Text.isEmpty_trim]

theorem text?_eq (source : Source) (key : Key) :
    text? source key = match source key.name with
      | some (.string text) => some (Text.trim text)
      | _ => none := by
  unfold text?
  cases source key.name with
  | none => rfl
  | some value => cases value <;> rfl

theorem clamp?_eq (t : Extended single) :
    t.clamp? Config.minTemperature Config.maxTemperature = boundedTemperature? t := by
  cases t with
  | nan => rfl
  | infinite negative => cases negative <;> rfl
  | finite x =>
    rw [Extended.clamp?, boundedTemperature?]
    simp only [Finite.lt_iff, Config.value_minTemperature, Config.value_maxTemperature]

-- The text of a number has a digit in it.
theorem given?_toText (n : Json.Number) : given? n.toText = some n.toText := by
  have hvisible : Text.Visible n.write := by
    have hdigits : ∀ (sign : List Char) {cs : List Char}, Yaml.StartsWithDigit cs → Text.Visible (sign ++ cs) := by
      intro sign cs hcs
      cases cs with
      | nil => exact hcs.elim
      | cons d rest => exact (Text.visible_cons (Text.isBlank_of_isDigit hcs.1) rest).append_left
    cases n with
    | int i =>
      have hspelled := Yaml.startsWithDigit_digits (Json.isDigits_toDigits i.natAbs)
      rw [Json.Number.write, Json.writeInt]
      split
      · exact hdigits ['-'] hspelled
      · exact hdigits [] hspelled
    | float x =>
      obtain ⟨sign, cs, hwrite, -, hcs⟩ := Yaml.exists_write Json.numberLayout x
      rw [Json.Number.write, hwrite]
      exact hdigits sign hcs
  rw [given?, if_neg]
  rw [Bool.not_eq_true, Text.isBlankText_eq_false_iff, Json.Number.toText, String.toList_ofList]
  exact hvisible

theorem providerFrom_eq (source : Source) (old : Provider) :
    Config.providerFrom source old = (providerSetting? source).getD old := by
  rw [Config.providerFrom, text?_eq, providerSetting?]
  cases source Key.provider.name with
  | none => rfl
  | some value =>
    cases value with
    | string text =>
      have hparse : Provider.parse (Text.trim text) = Provider.parse text := by
        rw [Provider.parse, Text.trim_trim, Provider.parse]
      simp only [Option.map_some, hparse]
      cases Provider.parse text <;> rfl
    | null | bool | number | array | object => rfl

theorem modelFrom_eq (source : Source) (old : String) :
    Config.modelFrom source old = ((textSetting? source .model).map Catalogue.resolve).getD old := by
  rw [Config.modelFrom, text?_eq, textSetting?]
  cases source Key.model.name with
  | none => rfl
  | some value =>
    cases value with
    | string text =>
      simp only [given?_trim]
      split <;> rfl
    | null | bool | number | array | object => rfl

theorem temperatureFrom_eq (source : Source) (old : Finite single) :
    Config.temperatureFrom source old = (temperatureSetting? source).getD old := by
  rw [Config.temperatureFrom, temperatureSetting?]
  cases source Key.temperature.name with
  | none => rfl
  | some value =>
    cases value with
    | number n => exact congrArg (Option.getD · old) (clamp?_eq _)
    | null | bool | string | array | object => rfl

theorem maxTokensFrom_eq (source : Source) (old : Nat) :
    Config.maxTokensFrom source old = (tokensSetting? source).getD old := by
  rw [Config.maxTokensFrom, tokensSetting?]
  cases (source Key.maxTokens.name).bind count? <;> rfl

theorem showTokenUsageFrom_eq (source : Source) (old : Bool) :
    Config.showTokenUsageFrom source old = (usageSetting? source).getD old := by
  rw [Config.showTokenUsageFrom, usageSetting?]
  cases source Key.showTokenUsage.name with
  | none => rfl
  | some value => cases value <;> rfl

theorem endpointFrom_eq (source : Source) :
    Config.endpointFrom source = (textSetting? source .endpoint).getD Config.defaultEndpoint := by
  rw [Config.endpointFrom, text?_eq, textSetting?]
  cases source Key.endpoint.name with
  | none => rfl
  | some value =>
    cases value with
    | string text =>
      simp only [given?_trim]
      split <;> rfl
    | null | bool | number | array | object => rfl

/-- What settings give on their own. -/
theorem ofSource_eq (source : Source) :
    Config.ofSource source =
      { apiKey := Config.apiKeyFrom source ""
        provider := (providerSetting? source).getD .openAI
        model := ((textSetting? source .model).map Catalogue.resolve).getD "openai/gpt-4"
        temperature := (temperatureSetting? source).getD (Config.singleOf 7 10)
        maxTokens := (tokensSetting? source).getD 2000
        showTokenUsage := (usageSetting? source).getD true
        endpoint := (textSetting? source .endpoint).getD Config.defaultEndpoint } := by
  rw [← providerFrom_eq, ← modelFrom_eq, ← temperatureFrom_eq, ← maxTokensFrom_eq, ← showTokenUsageFrom_eq,
    ← endpointFrom_eq]
  rfl

/-! ## The key -/

theorem apiKeyFrom_eq (source : Source) : Config.apiKeyFrom source "" = (keySetting? source).getD "" := by
  rw [Config.apiKeyFrom, keySetting?]
  cases source Key.apiKey.name with
  | none => rfl
  | some value =>
    cases value with
    | string text =>
      simp only [given?_trim]
      split
      · next hempty => exact String.isEmpty_iff.mp hempty
      · rfl
    | number n => simp only [given?_toText, Option.getD_some]
    | null | bool | array | object => rfl

theorem isBlankText_of_given? {text key : String} (h : given? text = some key) : Text.isBlankText key = false := by
  unfold given? at h
  split at h
  · cases h
  · next hgiven =>
    cases h
    exact Bool.eq_false_iff.mpr hgiven

theorem isBlankText_of_keySetting? {source : Source} {key : String} (h : keySetting? source = some key) :
    Text.isBlankText key = false := by
  unfold keySetting? at h
  split at h
  · exact isBlankText_of_given? h
  · exact isBlankText_of_given? h
  · cases h

-- The environment is asked where the settings have no key, or a blank one.
theorem withKey_ofSource (key : Option String) (source : Source) :
    withKey key (Config.ofSource source) =
      { Config.ofSource source with apiKey := ((keySetting? source).or key).getD "" } := by
  have hkey : (Config.ofSource source).apiKey = (keySetting? source).getD "" := apiKeyFrom_eq source
  cases hsetting : keySetting? source with
  | some held =>
    rw [hsetting, Option.getD_some] at hkey
    have hgiven : (Config.ofSource source).hasApiKey = true := by
      rw [Config.hasApiKey, hkey, isBlankText_of_keySetting? hsetting, Bool.not_false]
    rw [withKey, if_pos hgiven, Option.some_or, Option.getD_some, ← hkey]
  | none =>
    rw [hsetting, Option.getD_none] at hkey
    have hnone : ¬(Config.ofSource source).hasApiKey = true := by
      rw [Config.hasApiKey, hkey]
      decide
    rw [withKey, if_neg hnone, Option.none_or]
    cases key with
    | none => rw [Option.elim_none, Option.getD_none, ← hkey]
    | some key => rfl

/-! ## Options -/

theorem withOptions_eq (args : Arguments) (c : Config) :
    withOptions args c =
      { c with
        provider := args.provider.getD c.provider
        model := ((args.model.bind given?).map Catalogue.resolve).getD
          ((args.provider.bind Catalogue.defaultFor).getD c.model)
        temperature := (args.temperature.bind boundedTemperature?).getD c.temperature
        maxTokens := (args.maxTokens.map boundedTokens).getD c.maxTokens } := by
  have hprovider : args.provider.elim c c.setProvider =
      { c with
        provider := args.provider.getD c.provider
        model := (args.provider.bind Catalogue.defaultFor).getD c.model } := by
    cases args.provider <;> rfl
  have hmodel : ∀ c : Config, args.model.elim c c.setModel =
      { c with model := ((args.model.bind given?).map Catalogue.resolve).getD c.model } := by
    intro c
    cases args.model with
    | none => rfl
    | some model =>
      rw [Option.elim_some, Config.setModel, Option.bind_some, given?]
      split <;> rfl
  have htemperature : ∀ c : Config, args.temperature.elim c c.setTemperature =
      { c with temperature := (args.temperature.bind boundedTemperature?).getD c.temperature } := by
    intro c
    cases args.temperature with
    | none => rfl
    | some t => rw [Option.elim_some, Config.setTemperature, Config.clampTemperature, clamp?_eq, Option.bind_some]
  have htokens : ∀ c : Config, args.maxTokens.elim c c.setMaxTokens =
      { c with maxTokens := (args.maxTokens.map boundedTokens).getD c.maxTokens } := by
    intro c
    cases args.maxTokens <;> rfl
  rw [withOptions, hprovider, hmodel, htemperature, htokens]

/-- The configuration of a run takes each parameter from the first source that gives it. -/
theorem startConfig_eq_byPrecedence (args : Arguments) (key : Option String) (source : Source) :
    startConfig args key source = byPrecedence args key source := by
  rw [startConfig, withKey_ofSource, withOptions_eq, ofSource_eq]
  simp only [byPrecedence, Option.getD_or]

end ChatAssistant.CommandLine
