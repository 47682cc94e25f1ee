import ChatAssistant.Proofs.Config.Parameter
import ChatAssistant.Proofs.Json.Denotation

/-!
# The limit of tokens as it is set

A setting that is an integer sets the limit of tokens to the integer within the bounds, in whatever notation
it is written and however large it is.  A negative integer is no limit and changes nothing.
-/

namespace ChatAssistant

open ChatAssistant.Number ChatAssistant.Settings

namespace Number

theorem le_roundHalfUp_iff {a b n : Nat} (hb : 0 < b) : n ≤ roundHalfUp a b ↔ (n : ℚ) - 1 / 2 ≤ a / b := by
  have hb' : (0 : ℚ) < b := Nat.cast_pos.mpr hb
  rw [roundHalfUp, Nat.le_div_iff_mul_le (by omega), le_div_iff₀ hb']
  have hcast : n * (2 * b) ≤ 2 * a + b ↔ (n : ℚ) * (2 * b) ≤ 2 * a + b := by exact_mod_cast Iff.rfl
  rw [hcast]
  constructor <;> intro h <;> linarith

theorem Finite.le_roundMagnitude_iff {x : Finite double} {n : Nat} :
    n ≤ x.roundMagnitude ↔ (n : ℚ) - 1 / 2 ≤ x.size := by
  rw [← Finite.ratio_div]
  exact le_roundHalfUp_iff x.snd_ratio_pos

end Number

namespace Config

-- Within the bounds the nearest integer is the one that is approximated; past them any will do.
theorem clampTokens_roundMagnitude {x : Finite double} {n : Nat} (h : Close 46 x.size n) :
    clampTokens x.roundMagnitude = clampTokens n := by
  have hbounds := abs_le.mp h
  by_cases hlarge : maxTokenLimit ≤ n
  · have hn : (32000 : ℚ) ≤ n := by exact_mod_cast hlarge
    have hround : maxTokenLimit ≤ x.roundMagnitude := by
      rw [Finite.le_roundMagnitude_iff]
      have hlimit : ((maxTokenLimit : Nat) : ℚ) = 32000 := by norm_num [maxTokenLimit]
      rw [hlimit]
      linarith [hbounds.1]
    unfold clampTokens
    omega
  · have hn : (n : ℚ) < 32000 := by exact_mod_cast not_le.mp hlarge
    have hround : x.roundMagnitude = n := by
      refine le_antisymm ?_ (Finite.le_roundMagnitude_iff.mpr (by linarith [hbounds.1]))
      rw [← Nat.lt_succ_iff, ← not_le, Finite.le_roundMagnitude_iff, not_le]
      push_cast
      linarith [hbounds.2]
    rw [hround]

end Config

namespace Settings

variable {x : Finite double} {n : Int}

theorem count?_int {n : Nat} : count? (.number (.int n)) = some n := by
  simp [count?, Json.Number.toCount?]

-- As a double a negative integer is negative still, if it is not too large for one.
theorem count?_int_of_neg (h : n < 0) : count? (.number (.int n)) = none := by
  rw [count?, Json.Number.toCount?, if_neg (by omega)]
  dsimp only
  rw [Json.Number.toDouble, Extended.ofRatio, decide_eq_true h, Finite.ofRatio?_withSign]
  cases hround : Finite.ofRatio? double false n.natAbs 1 with
  | none => rfl
  | some y =>
    have hzero := Finite.isZero_eq_false_of_close (Json.close_ofNat? (Int.natAbs_pos.mpr h.ne) hround)
      (Nat.cast_pos.mpr (Int.natAbs_pos.mpr h.ne))
    have hsame : ({ y with negative := true } : Finite double).isZero = y.isZero := rfl
    simp [hsame, hzero]

theorem count?_float (h : (x.negative && !x.isZero) = false) :
    count? (.number (.float x)) = some x.roundMagnitude := by
  simp only [count?, Json.Number.toCount?, Json.Number.toDouble, h, Bool.false_eq_true, if_false]

theorem count?_float_of_below (h : (x.negative && !x.isZero) = true) : count? (.number (.float x)) = none := by
  simp only [count?, Json.Number.toCount?, Json.Number.toDouble, h, if_true]

/-- An integer that is not negative counts as itself, as far as the bounds can tell. -/
theorem count?_of_denotes {m : Json.Number} {n : Nat} (h : m.Denotes n) :
    ∃ count, count? (.number m) = some count ∧ Config.clampTokens count = Config.clampTokens n := by
  rcases Json.Number.Denotes.cases (n := n) (by exact_mod_cast h) with rfl | ⟨x, rfl, hx⟩
  · exact ⟨n, count?_int, rfl⟩
  · have hsign : (x.negative && !x.isZero) = false := by
      by_cases hzero : n = 0
      · subst hzero
        rw [Json.Approximates.isZero_of_eq_zero hx, Bool.not_true, Bool.and_false]
      · rw [hx.negative (by exact_mod_cast hzero), decide_eq_false (by omega), Bool.false_and]
    have hclose : Close 46 x.size n := by
      have hclose := hx.close
      rwa [Int.cast_natCast, abs_of_nonneg (Nat.cast_nonneg n)] at hclose
    exact ⟨_, count?_float hsign, Config.clampTokens_roundMagnitude hclose⟩

/-- A negative integer is no count. -/
theorem count?_of_denotes_neg {m : Json.Number} (h : m.Denotes n) (hneg : n < 0) : count? (.number m) = none := by
  rcases h.cases with rfl | ⟨x, rfl, hx⟩
  · exact count?_int_of_neg hneg
  · refine count?_float_of_below ?_
    rw [hx.negative hneg.ne, hx.isZero_eq_false hneg.ne, decide_eq_true hneg]
    rfl

end Settings

namespace Config

variable {source : Source} {m : Json.Number} {n : Int}

theorem maxTokensFrom_of_denotes (hstored : source Key.maxTokens.name = some (.number m)) (hm : m.Denotes n)
    (hn : 0 ≤ n) (old : Nat) : maxTokensFrom source old = clampTokens n.toNat := by
  obtain ⟨n, rfl⟩ := Int.eq_ofNat_of_zero_le hn
  obtain ⟨count, hcount, hclamp⟩ := count?_of_denotes (n := n) (by exact_mod_cast hm)
  rw [maxTokensFrom, hstored, Option.bind_some, hcount]
  exact hclamp

theorem maxTokensFrom_of_denotes_neg (hstored : source Key.maxTokens.name = some (.number m)) (hm : m.Denotes n)
    (hn : n < 0) (old : Nat) : maxTokensFrom source old = old := by
  rw [maxTokensFrom, hstored, Option.bind_some, count?_of_denotes_neg hm hn]

/-- A change of the setting of the limit, to a number that stands for `n`. -/
structure LimitSet (change : Change) (source : Source) (n : Int) : Prop where
  affects : change.affects Key.maxTokens.name = true
  stored : ∃ m, source Key.maxTokens.name = some (.number m) ∧ m.Denotes n

theorem LimitSet.maxTokens {change : Change} (h : LimitSet change source n) (c : Config) :
    (c.refresh change source).maxTokens = if n < 0 then c.maxTokens else clampTokens n.toNat := by
  obtain ⟨m, hstored, hm⟩ := h.stored
  have hread : (c.refresh change source).maxTokens = maxTokensFrom source c.maxTokens := if_pos h.affects
  rw [hread]
  split
  · next hneg => exact maxTokensFrom_of_denotes_neg hstored hm hneg _
  · next hnonneg => exact maxTokensFrom_of_denotes hstored hm (not_lt.mp hnonneg) _

theorem clampTokens_mono {m n : Nat} (h : m ≤ n) : clampTokens m ≤ clampTokens n := by
  unfold clampTokens
  omega

/-- An integer setting that is not negative sets the limit to the integer within the bounds, just as setting
the limit itself does, so that a larger one sets no smaller limit.  A negative integer changes nothing. -/
theorem integer_setting_limits_tokens {change : Change} {source : Source} {n : Int} (h : LimitSet change source n)
    (c : Config) :
    (0 ≤ n →
      ((c.refresh change source).maxTokens : Int) = min 32000 (max 100 n) ∧
      (c.refresh change source).maxTokens = (c.setMaxTokens n.toNat).maxTokens ∧
      ∀ later next larger, LimitSet later next larger → n ≤ larger → ∀ other : Config,
        (c.refresh change source).maxTokens ≤ (other.refresh later next).maxTokens) ∧
    (n < 0 → (c.refresh change source).maxTokens = c.maxTokens) := by
  constructor
  · intro hn
    have hset : (c.refresh change source).maxTokens = clampTokens n.toNat := by
      rw [h.maxTokens c, if_neg (not_lt.mpr hn)]
    refine ⟨?_, hset, ?_⟩
    · rw [hset]
      unfold clampTokens minTokens maxTokenLimit
      omega
    · intro later next larger hlater hle other
      rw [hset, hlater.maxTokens other, if_neg (not_lt.mpr (hn.trans hle))]
      exact clampTokens_mono (by omega)
  · intro hneg
    rw [h.maxTokens c, if_pos hneg]

/-- Settings that hold the limit of tokens alone. -/
def limitAlone (m : Json.Number) : Source := fun key =>
  if key = Key.maxTokens.name then some (.number m) else none

theorem limitSet_limitAlone (hm : m.Denotes n) : LimitSet (.ofList [Key.maxTokens.name]) (limitAlone m) n :=
  ⟨Change.affects_ofList_name.mpr rfl, m, if_pos rfl, hm⟩

/-- The number that is read from `1e30`. -/
def nonillion : Json.Number := .float ⟨false, 7105427357601002, 47⟩

theorem denotes_nonillion : nonillion.Denotes (10 ^ 30 : Int) := by
  have hdecimal : Json.decimalOf ⟨false, ['1'], [], false, ['3', '0']⟩ = ⟨1, 30⟩ := rfl
  refine .read (s := "1e30") (t := ⟨false, ['1'], [], false, ['3', '0']⟩) (by rfl) (by rfl) (by decide) ?_
  rw [Json.amount, hdecimal, if_neg (by decide), Decimal.size]
  norm_num

theorem nonillion_limits_tokens :
    LimitSet (.ofList [Key.maxTokens.name]) (limitAlone nonillion) (10 ^ 30) ∧
      ((default.refresh (.ofList [Key.maxTokens.name]) (limitAlone nonillion)).maxTokens : Int) =
        min 32000 (max 100 (10 ^ 30)) :=
  have hset := limitSet_limitAlone denotes_nonillion
  ⟨hset, ((integer_setting_limits_tokens hset default).1 (by norm_num)).1⟩

-- The old limit stays, where the nearest bound would be a hundred.
theorem negative_setting_keeps_limit :
    LimitSet (.ofList [Key.maxTokens.name]) (limitAlone (.int (-5))) (-5) ∧
      (default.refresh (.ofList [Key.maxTokens.name]) (limitAlone (.int (-5)))).maxTokens = 2000 ∧
      ((default.refresh (.ofList [Key.maxTokens.name]) (limitAlone (.int (-5)))).maxTokens : Int) ≠
        min 32000 (max 100 (-5)) :=
  ⟨limitSet_limitAlone (.held (by norm_num [Json.Number.value])), by decide +kernel, by decide +kernel⟩

end Config

end ChatAssistant
