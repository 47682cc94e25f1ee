import ChatAssistant.Proofs.Text.Words
import ChatAssistant.Settings.Change

/-!
# Sections of settings

A key is a path of components with dots between them.  A change of a path is a change of what starts with
the same components, so that a section takes all that is below it along and nothing beside it.
-/

namespace ChatAssistant.Settings

open ChatAssistant.Text

/-! ## Paths -/

/-- The components of a key, between its dots; a key has one more than it has dots. -/
def components (key : String) : List (List Char) := key.toList.splitOn '.'

theorem splitOn_injective (separator : Char) : Function.Injective (List.splitOn separator) :=
  Function.LeftInverse.injective fun _ => List.intercalate_splitOn separator

/-- The pieces of a text start with those of another one exactly where the text is that one, or goes on
behind it with a separator. -/
theorem splitOn_prefix_iff (separator : Char) {cs ds : List Char} :
    cs.splitOn separator <+: ds.splitOn separator ↔ ds = cs ∨ ∃ below, ds = cs ++ separator :: below := by
  constructor
  · rintro ⟨more, hmore⟩
    by_cases hnil : more = []
    · rw [hnil, List.append_nil] at hmore
      exact .inl (splitOn_injective separator hmore).symm
    · -- The pieces that are left over make up what is below.
      have hpieces : ∀ piece ∈ more, separator ∉ piece := fun piece hpiece =>
        not_mem_of_mem_splitOn (hmore ▸ List.mem_append_right _ hpiece)
      refine .inr ⟨[separator].intercalate more, splitOn_injective separator ?_⟩
      rw [splitOn_append_cons, List.splitOn_intercalate separator hpieces hnil, hmore]
  · rintro (rfl | ⟨below, rfl⟩)
    · exact List.prefix_rfl
    · rw [splitOn_append_cons]
      exact List.prefix_append _ _

theorem components_prefix_iff {key asked : String} :
    components key <+: components asked ↔ asked = key ∨ ∃ below, asked = key ++ "." ++ below := by
  rw [components, components, splitOn_prefix_iff, ← String.ext_iff]
  refine or_congr_right ⟨?_, ?_⟩
  · rintro ⟨below, hbelow⟩
    refine ⟨String.ofList below, ?_⟩
    rw [String.ext_iff, hbelow]
    simp
  · rintro ⟨below, hbelow⟩
    refine ⟨below.toList, ?_⟩
    rw [hbelow]
    simp

namespace Change

/-! ## What a change affects -/

theorem rest?_eq_some_iff {front text rest : List Char} :
    rest? front text = some rest ↔ text = front ++ rest := by
  induction front generalizing text with
  | nil => simp [rest?]
  | cons c front ih =>
    cases text with
    | nil => simp [rest?]
    | cons d text =>
      rw [rest?]
      by_cases hc : c = d
      · subst hc
        simp [ih]
      · simp [hc, Ne.symm hc]

theorem covers_iff {changed asked : String} :
    covers changed asked = true ↔ components changed <+: components asked := by
  rw [components, components, splitOn_prefix_iff, covers]
  constructor
  · intro h
    split at h
    · next hrest => exact .inl ((rest?_eq_some_iff.mp hrest).trans (List.append_nil _))
    · next c below hrest =>
      rw [beq_iff_eq] at h
      exact .inr ⟨below, h ▸ rest?_eq_some_iff.mp hrest⟩
    · cases h
  · rintro (hself | ⟨below, hbelow⟩)
    · rw [rest?_eq_some_iff.mpr (hself.trans (List.append_nil _).symm)]
    · rw [rest?_eq_some_iff.mpr hbelow]
      rfl

theorem affects_iff {change : Change} {asked : String} :
    change.affects asked = true ↔ ∃ changed ∈ change.keys, components changed <+: components asked := by
  simp only [affects, List.any_eq_true, covers_iff]

theorem affects_ofList_singleton_iff {changed asked : String} :
    (ofList [changed]).affects asked = true ↔ components changed <+: components asked := by
  rw [affects_iff]
  simp [ofList, KeySet.mem_ofList]

/-- A change affects a key exactly where the components of some changed key are the first components of the
key.  So a change of more keys affects no less, a change of one key affects that key and what is below it and
nothing else, and what is affected by a change of something affected is affected too. -/
theorem affects_iff_components_prefix (change : Change) (asked : String) :
    (change.affects asked = true ↔
      ∃ changed ∈ change.keys, components changed <+: components asked) ∧
    (∀ other : Change, change.keys ⊆ other.keys →
      change.affects asked = true → other.affects asked = true) ∧
    (∀ changed, (ofList [changed]).affects asked = true ↔
      asked = changed ∨ ∃ below, asked = changed ++ "." ++ below) ∧
    ∀ middle, change.affects middle = true → (ofList [middle]).affects asked = true →
      change.affects asked = true := by
  refine ⟨affects_iff, fun other hkeys h => ?_, fun changed => ?_, fun middle hmiddle hasked => ?_⟩
  · obtain ⟨changed, hmem, hcomponents⟩ := affects_iff.mp h
    exact affects_iff.mpr ⟨changed, hkeys hmem, hcomponents⟩
  · rw [affects_ofList_singleton_iff, components_prefix_iff]
  · obtain ⟨changed, hmem, hcomponents⟩ := affects_iff.mp hmiddle
    exact affects_iff.mpr
      ⟨changed, hmem, hcomponents.trans (affects_ofList_singleton_iff.mp hasked)⟩

/-- Sections within sections, an empty component and a key that only starts with the same letters. -/
theorem affects_iff_components_prefix_nested :
    (ofList ["ai"]).keys ⊆ (ofList ["ai", "b."]).keys ∧
      (ofList ["ai"]).affects "ai.model" = true ∧
      (ofList ["ai.model"]).affects "ai.model..name" = true ∧
      (ofList ["ai", "b."]).affects "ai.model" = true ∧
      (ofList ["ai"]).affects "ai.model..name" = true ∧
      ¬(ofList ["ai"]).affects "ais.model" = true := by
  have hkeys : (ofList ["ai"]).keys ⊆ (ofList ["ai", "b."]).keys := by decide
  have hmodel : (ofList ["ai"]).affects "ai.model" = true := by decide
  have hname : (ofList ["ai.model"]).affects "ai.model..name" = true := by decide
  obtain ⟨-, hmore, -⟩ := affects_iff_components_prefix (ofList ["ai"]) "ai.model"
  obtain ⟨-, -, -, hbelow⟩ := affects_iff_components_prefix (ofList ["ai"]) "ai.model..name"
  exact ⟨hkeys, hmodel, hname, hmore _ hkeys hmodel, hbelow "ai.model" hmodel hname, by decide⟩

end Change

end ChatAssistant.Settings
