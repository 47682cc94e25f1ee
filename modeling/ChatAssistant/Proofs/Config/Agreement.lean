import ChatAssistant.Proofs.Config.Parameter
import ChatAssistant.Proofs.Config.Update

/-!
# Configurations that differ in one parameter

Parameters do not influence each other: whatever updates follow, two configurations that differ in one
parameter go on to differ in that one at most.
-/

namespace ChatAssistant.Config

open ChatAssistant.Number ChatAssistant.Settings

theorem parameter_setApiKey {k : Key} (hk : k ≠ .apiKey) (key : String) (c : Config) :
    (c.setApiKey key).parameter k = c.parameter k := by
  cases k
  case apiKey => exact absurd rfl hk
  all_goals rfl

theorem parameter_setShowTokenUsage {k : Key} (hk : k ≠ .showTokenUsage) (enabled : Bool)
    (c : Config) : (c.setShowTokenUsage enabled).parameter k = c.parameter k := by
  cases k
  case showTokenUsage => exact absurd rfl hk
  all_goals rfl

namespace Update

-- An update either fixes a parameter or leaves it as it is.
theorem fixes_or_keeps (update : Update) (key : Key) :
    (∃ new, ∀ c, (update.apply c).parameter key = new) ∨
      ∀ c, (update.apply c).parameter key = c.parameter key := by
  cases update with
  | apiKey | showTokenUsage | maxTokens | endpoint =>
    cases key
    all_goals first
      | exact .inr fun _ => rfl
      | exact .inl ⟨_, fun _ => rfl⟩
  | provider provider =>
    cases key
    case provider => exact .inl ⟨provider, fun _ => rfl⟩
    case model =>
      cases hdefault : Catalogue.defaultFor provider with
      | none => exact .inr fun c => congrArg (Option.getD · c.model) hdefault
      | some model => exact .inl ⟨model, fun c => congrArg (Option.getD · c.model) hdefault⟩
    all_goals exact .inr fun _ => rfl
  | model aliasOrId =>
    by_cases hblank : Text.isBlankText aliasOrId = true
    · have hkeeps : ∀ c, (model aliasOrId).apply c = c := fun c => if_pos hblank
      exact .inr fun c => by rw [hkeeps]
    · have hfixes : ∀ c, (model aliasOrId).apply c =
          { c with model := Catalogue.resolve aliasOrId } := fun c => if_neg hblank
      simp only [hfixes]
      cases key
      case model => exact .inl ⟨_, fun _ => rfl⟩
      all_goals exact .inr fun _ => rfl
  | temperature t =>
    cases key
    case temperature =>
      cases hclamp : t.clamp? minTemperature maxTemperature with
      | none => exact .inr fun c => congrArg (Option.getD · c.temperature) hclamp
      | some clamped =>
        exact .inl ⟨clamped, fun c => congrArg (Option.getD · c.temperature) hclamp⟩
    all_goals exact .inr fun _ => rfl
  | refresh change source =>
    simp only [apply, parameter_refresh]
    by_cases haffects : change.affects key.name = true
    · simp only [if_pos haffects]
      rcases read_fixes_or_keeps source key with ⟨new, hfixes⟩ | hkeeps
      · exact .inl ⟨new, fun c => hfixes _⟩
      · exact .inr fun c => hkeeps _
    · exact .inr fun c => if_neg haffects

end Update

/-- Two configurations that agree in all parameters but that of the key, and are alike in that one. -/
structure AlikeBut (key : Key) (like : key.Parameter → key.Parameter → Prop) (c other : Config) :
    Prop where
  same : ∀ k, k ≠ key → c.parameter k = other.parameter k
  like : like (c.parameter key) (other.parameter key)

namespace AlikeBut

variable {key : Key} {like : key.Parameter → key.Parameter → Prop} {c other : Config}

theorem refl (hlike : ∀ p, like p p) (c : Config) : AlikeBut key like c c :=
  ⟨fun _ _ => rfl, hlike _⟩

-- Configurations that take the place of two others and keep all but the parameter in question.
theorem replace (h : AlikeBut key like c other) {c' other' : Config}
    (hc : ∀ k, k ≠ key → c'.parameter k = c.parameter k)
    (hother : ∀ k, k ≠ key → other'.parameter k = other.parameter k)
    (hlike : like (c'.parameter key) (other'.parameter key)) : AlikeBut key like c' other' where
  same k hk := by rw [hc k hk, hother k hk, h.same k hk]
  like := hlike

theorem apply (h : AlikeBut key like c other) (hlike : ∀ p, like p p) (update : Update) :
    AlikeBut key like (update.apply c) (update.apply other) where
  same k hk := by
    rcases update.fixes_or_keeps k with ⟨new, hfixes⟩ | hkeeps
    · rw [hfixes, hfixes]
    · rw [hkeeps, hkeeps, h.same k hk]
  like := by
    rcases update.fixes_or_keeps key with ⟨new, hfixes⟩ | hkeeps
    · rw [hfixes, hfixes]
      exact hlike new
    · rw [hkeeps, hkeeps]
      exact h.like

-- Settings that agree but for one key are read into configurations that agree but for its parameter.
theorem refresh (h : AlikeBut key like c other) (change : Change) {source settings : Source}
    (hsame : ∀ name, name ≠ key.name → source name = settings name)
    (hread : ∀ p q, like p q → like (read source key p) (read settings key q)) :
    AlikeBut key like (c.refresh change source) (other.refresh change settings) where
  same k hk := by
    have hvalue := hsame k.name fun hname => hk (Key.name_injective hname)
    rw [parameter_refresh, parameter_refresh, h.same k hk, read_eq_of_value_eq hvalue]
  like := by
    rw [parameter_refresh, parameter_refresh]
    split
    · exact hread _ _ h.like
    · exact h.like

end AlikeBut

theorem refreshLog_congr {source other : Source} (change : Change)
    (hkey : apiKeyReport source = apiKeyReport other)
    (hprovider : source Key.provider.name = other Key.provider.name) :
    refreshLog change source = refreshLog change other := by
  simp only [refreshLog, providerReport, text?, hkey, hprovider]

/-- Where a configuration comes from. -/
inductive Origin
  | given (c : Config)
  | settings (source : Source)

namespace Origin

def config : Origin → Config
  | given c => c
  | settings source => ofSource source

/-- What is reported before there is a client. -/
def log : Origin → List Log.Event
  | given _ => []
  | settings source => refreshLog .everything source

end Origin

end ChatAssistant.Config
