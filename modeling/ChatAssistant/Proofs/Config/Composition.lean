import ChatAssistant.Proofs.Config.Parameter

/-!
# Changes one after another

Changes of settings may arrive in any order, more than once or all in one.  Each parameter is read if some
change affects its key, and reading it again changes nothing, so that the configuration is the same.
-/

namespace ChatAssistant

open ChatAssistant.Settings

namespace Settings.Change

/-- The change of all the keys of some changes. -/
def union (changes : List Change) : Change := ofList (changes.flatMap Change.keys)

theorem affects_union (changes : List Change) (asked : String) :
    (union changes).affects asked = changes.any (·.affects asked) := by
  rw [Bool.eq_iff_iff, affects, List.any_eq_true, List.any_eq_true]
  constructor
  · rintro ⟨key, hkey, hcovers⟩
    obtain ⟨change, hchange, hmem⟩ := List.mem_flatMap.mp (KeySet.mem_ofList.mp hkey)
    exact ⟨change, hchange, List.any_eq_true.mpr ⟨key, hmem, hcovers⟩⟩
  · rintro ⟨change, hchange, haffects⟩
    obtain ⟨key, hmem, hcovers⟩ := List.any_eq_true.mp haffects
    exact ⟨key, KeySet.mem_ofList.mpr (List.mem_flatMap.mpr ⟨change, hchange, hmem⟩), hcovers⟩

end Settings.Change

namespace Config

/-- Reads the settings that changes affect, one change after another. -/
def refreshAll (changes : List Change) (source : Source) (c : Config) : Config :=
  changes.foldl (fun c change => c.refresh change source) c

-- A parameter is read once or not at all, however many changes affect it.
theorem parameter_refreshAll (changes : List Change) (source : Source) (c : Config) (key : Key) :
    (c.refreshAll changes source).parameter key =
      if changes.any (·.affects key.name) then read source key (c.parameter key)
      else c.parameter key := by
  induction changes generalizing c with
  | nil => rfl
  | cons change changes ih =>
    rw [refreshAll, List.foldl_cons, ← refreshAll, ih, parameter_refresh, List.any_cons]
    by_cases haffects : change.affects key.name = true
    · simp only [haffects, if_true, Bool.true_or, read_read, ite_self]
    · simp only [haffects, if_false, Bool.false_or, Bool.false_eq_true]

theorem parameter_refreshAll_of_affects {changes : List Change} {key : Key}
    (h : ∃ change ∈ changes, change.affects key.name = true) (source : Source) (c : Config) :
    (c.refreshAll changes source).parameter key = read source key (c.parameter key) := by
  rw [parameter_refreshAll, if_pos (List.any_eq_true.mpr h)]

theorem parameter_refreshAll_of_not_affects {changes : List Change} {key : Key}
    (h : ∀ change ∈ changes, change.affects key.name = false) (source : Source) (c : Config) :
    (c.refreshAll changes source).parameter key = c.parameter key := by
  rw [parameter_refreshAll, if_neg]
  rw [List.any_eq_true]
  rintro ⟨change, hchange, haffects⟩
  rw [h change hchange] at haffects
  cases haffects

-- Only the keys that are affected by some change matter.
theorem refreshAll_congr (changes others : List Change) (source : Source) (c : Config)
    (h : ∀ key : Key, (changes.any fun change => change.affects key.name) =
      others.any fun change => change.affects key.name) :
    c.refreshAll changes source = c.refreshAll others source := by
  apply ext_parameter
  intro key
  rw [parameter_refreshAll, parameter_refreshAll, h]

theorem refreshAll_of_mem_iff {order changes : List Change}
    (h : ∀ change, change ∈ order ↔ change ∈ changes) (source : Source) (c : Config) :
    c.refreshAll order source = c.refresh (.union changes) source := by
  calc c.refreshAll order source
      = c.refreshAll [.union changes] source := by
        apply refreshAll_congr
        intro key
        rw [List.any_cons, List.any_nil, Bool.or_false, Change.affects_union, Bool.eq_iff_iff,
          List.any_eq_true, List.any_eq_true]
        exact exists_congr fun change => and_congr_left' (h change)
    _ = c.refresh (.union changes) source := rfl

/-- Changes that are read one after another, in any order and with any repetitions, have the effect of the
one change of all their keys.  It leaves the parameters of other keys as they were, and what it makes of a
parameter is told by the value under its key and by the old parameter.  So a change may be read again, and
two changes may be read either way round. -/
theorem refreshAll_eq_refresh_union (source : Source) (c : Config) (changes : List Change) :
    (∀ order : List Change, (∀ change, change ∈ order ↔ change ∈ changes) →
      c.refreshAll order source = c.refresh (.union changes) source) ∧
    (∀ key : Key, (∀ change ∈ changes, change.affects key.name = false) →
      (c.refresh (.union changes) source).parameter key = c.parameter key) ∧
    (∀ key : Key, (∃ change ∈ changes, change.affects key.name = true) →
      ∀ (others : List Change) (other : Source) (d : Config),
        (∃ change ∈ others, change.affects key.name = true) → other key.name = source key.name →
        d.parameter key = c.parameter key →
          (d.refresh (.union others) other).parameter key =
            (c.refresh (.union changes) source).parameter key) ∧
    (∀ key other : Key, other ≠ key →
      (c.refresh (.ofList [key.name]) source).parameter other = c.parameter other) ∧
    (∀ change, (c.refresh change source).refresh change source = c.refresh change source) ∧
    ∀ change other, (c.refresh change source).refresh other source =
      (c.refresh other source).refresh change source := by
  have hunion : ∀ (list : List Change) (source : Source) (c : Config),
      c.refresh (.union list) source = c.refreshAll list source := fun list source c =>
    (refreshAll_of_mem_iff (fun _ => Iff.rfl) source c).symm
  refine ⟨fun order horder => refreshAll_of_mem_iff horder source c, ?_, ?_, ?_, ?_, ?_⟩
  · intro key hnone
    rw [hunion, parameter_refreshAll_of_not_affects hnone]
  · intro key hsome others other d hothers hvalue hold
    rw [hunion, hunion, parameter_refreshAll_of_affects hsome,
      parameter_refreshAll_of_affects hothers, hold, read_eq_of_value_eq hvalue]
  · intro key other hne
    rw [parameter_refresh, if_neg fun haffects => hne (Change.affects_ofList_name.mp haffects)]
  · intro change
    exact refreshAll_congr [change, change] [change] source c fun key => by simp
  · intro change other
    exact refreshAll_congr [change, other] [other, change] source c fun key => by
      simp [Bool.or_comm]

/-- Settings of which some are no value for their keys. -/
def mixedSettings : Source
  | "ai.provider" => some (.string " Anthropic ")
  | "ai.model" => some (.string "gemini-pro")
  | "ai.temperature" => some (.string "hot")
  | "ai.maxTokens" => some (.number (.int 50))
  | _ => none

/-- A change of the provider, named twice, and of a key that nothing is read from. -/
def providerChange : Change := .ofList ["ai.provider", "ai.providers", "ai.provider"]

def tokensChange : Change := .ofList ["ai.maxTokens", "ai.temperature"]

theorem refreshAll_eq_refresh_union_repeated :
    (∀ change, change ∈ [tokensChange, providerChange, tokensChange] ↔
      change ∈ [providerChange, tokensChange]) ∧
    default.refreshAll [tokensChange, providerChange, tokensChange] mixedSettings =
      default.refresh (.union [providerChange, tokensChange]) mixedSettings ∧
    (∀ change ∈ [providerChange, tokensChange], change.affects Key.model.name = false) ∧
    (default.refresh (.union [providerChange, tokensChange]) mixedSettings).parameter .model =
      "openai/gpt-4" ∧
    (∃ change ∈ [providerChange, tokensChange], change.affects Key.maxTokens.name = true) ∧
    (default.refresh (.union [.ofList ["ai"]]) mixedSettings).parameter .maxTokens =
      (default.refresh (.union [providerChange, tokensChange]) mixedSettings).parameter
        .maxTokens := by
  obtain ⟨horder, hframe, hvalue, -⟩ :=
    refreshAll_eq_refresh_union mixedSettings default [providerChange, tokensChange]
  have hmem : ∀ change, change ∈ [tokensChange, providerChange, tokensChange] ↔
      change ∈ [providerChange, tokensChange] := by
    intro change
    simp only [List.mem_cons, List.not_mem_nil, or_false]
    exact ⟨by grind, by grind⟩
  have hmodel : ∀ change ∈ [providerChange, tokensChange],
      change.affects Key.model.name = false := by decide
  have htokens : ∃ change ∈ [providerChange, tokensChange],
      change.affects Key.maxTokens.name = true := by decide
  exact ⟨hmem, horder _ hmem, hmodel, hframe .model hmodel, htokens,
    hvalue .maxTokens htokens [.ofList ["ai"]] mixedSettings default (by decide) rfl rfl⟩

end Config

end ChatAssistant
