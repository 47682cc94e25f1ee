import ChatAssistant.Proofs.Config.Parameter
import ChatAssistant.Proofs.Number.Order

/-!
# Settings that are equal

The store takes two values for equal that differ in the sign of a zero.  Two parameters can tell them
apart: the temperature, which is the zero that was read, and the key, which is its text.
-/

namespace ChatAssistant.Settings

open ChatAssistant.Number

/-- The sign of a value that is a double and zero: whether it is negative. -/
def zeroSign? : Option Json.Value → Option Bool
  | some (.number (.float x)) => if x.isZero then some x.negative else none
  | _ => none

/-- An array or an object.  No setting is read from it. -/
def isNested : Option Json.Value → Bool
  | some (.array _) => true
  | some (.object _) => true
  | _ => false

/-- What values that the store takes for equal have in common, as far as settings are read. -/
def Alike (v w : Option Json.Value) : Prop :=
  v = w ∨ (isNested v = true ∧ isNested w = true) ∨
    ((zeroSign? v).isSome = true ∧ (zeroSign? w).isSome = true)

theorem eq_or_isZero_of_same {f : Format} {x y : Finite f} (h : x.same y = true) :
    x = y ∨ (x.isZero = true ∧ y.isZero = true) := by
  unfold Finite.same at h
  split at h
  · next hx => exact .inr ⟨hx, h⟩
  · obtain ⟨⟩ := x
    obtain ⟨⟩ := y
    simp only [Bool.and_eq_true, beq_iff_eq] at h
    obtain ⟨⟨rfl, rfl⟩, rfl⟩ := h
    exact .inl rfl

theorem alike_of_same_number {m n : Json.Number} (h : m.same n = true) :
    Alike (some (.number m)) (some (.number n)) := by
  cases m with
  | int a =>
    cases n with
    | int b =>
      simp only [Json.Number.same, beq_iff_eq] at h
      exact .inl (by rw [h])
    | float => simp [Json.Number.same] at h
  | float x =>
    cases n with
    | int => simp [Json.Number.same] at h
    | float y =>
      rcases eq_or_isZero_of_same h with rfl | ⟨hx, hy⟩
      · exact .inl rfl
      · exact .inr (.inr (by simp only [zeroSign?, hx, hy, if_true, Option.isSome_some, and_self]))

-- Values that the store takes for equal are alike.
theorem alike_of_not_differ {v w : Option Json.Value} (h : Store.differ v w = false) :
    Alike v w := by
  rcases v with _ | v <;> rcases w with _ | w
  · exact .inl rfl
  · simp [Store.differ] at h
  · simp [Store.differ] at h
  · simp only [Store.differ, Bool.not_eq_false'] at h
    -- Values of two kinds differ, and so do values that are equal in neither way.
    cases v <;> cases w <;> simp only [Json.Value.same, Bool.false_eq_true, beq_iff_eq] at h
    case null.null => exact .inl rfl
    case bool.bool => exact .inl (by rw [h])
    case number.number => exact alike_of_same_number h
    case string.string => exact .inl (by rw [h])
    case array.array => exact .inr (.inl ⟨rfl, rfl⟩)
    case object.object => exact .inr (.inl ⟨rfl, rfl⟩)

theorem not_isNested_of_zeroSign? {v : Option Json.Value} (h : (zeroSign? v).isSome = true) :
    isNested v = false := by
  unfold zeroSign? at h
  split at h
  · rfl
  · simp at h

theorem Alike.refl (v : Option Json.Value) : Alike v v := .inl rfl

theorem Alike.symm {v w : Option Json.Value} (h : Alike v w) : Alike w v :=
  h.imp Eq.symm (Or.imp And.symm And.symm)

theorem Alike.trans {u v w : Option Json.Value} (huv : Alike u v) (hvw : Alike v w) :
    Alike u w := by
  rcases huv with rfl | ⟨hu, hv⟩ | ⟨hu, hv⟩
  · exact hvw
  · rcases hvw with rfl | ⟨-, hw⟩ | ⟨hv', -⟩
    · exact .inr (.inl ⟨hu, hv⟩)
    · exact .inr (.inl ⟨hu, hw⟩)
    · simp [not_isNested_of_zeroSign? hv'] at hv
  · rcases hvw with rfl | ⟨hv', -⟩ | ⟨-, hw⟩
    · exact .inr (.inr ⟨hu, hv⟩)
    · simp [not_isNested_of_zeroSign? hv] at hv'
    · exact .inr (.inr ⟨hu, hw⟩)

-- Alike values have signs that agree, or are zeros of the two signs.
theorem Alike.zeroSign?_cases {v w : Option Json.Value} (h : Alike v w) :
    zeroSign? v = zeroSign? w ∨
      ∃ negative, zeroSign? v = some negative ∧ zeroSign? w = some !negative := by
  rcases h with rfl | ⟨hv, hw⟩ | ⟨hv, hw⟩
  · exact .inl rfl
  · have hnone : ∀ u, isNested u = true → zeroSign? u = none := fun u hu =>
      Option.not_isSome_iff_eq_none.mp fun hsign => by
        rw [not_isNested_of_zeroSign? hsign] at hu
        cases hu
    exact .inl ((hnone v hv).trans (hnone w hw).symm)
  · obtain ⟨a, ha⟩ := Option.isSome_iff_exists.mp hv
    obtain ⟨b, hb⟩ := Option.isSome_iff_exists.mp hw
    by_cases hab : b = a
    · exact .inl (by rw [ha, hb, hab])
    · exact .inr ⟨a, ha, by rw [hb, Bool.eq_not.mpr hab]⟩

/-! ## What is read from alike values -/

theorem exists_zero_of_zeroSign? {v : Option Json.Value} {negative : Bool}
    (h : zeroSign? v = some negative) :
    ∃ x : Finite double, v = some (.number (.float x)) ∧ x.isZero = true ∧ x.negative = negative := by
  unfold zeroSign? at h
  split at h
  · next x =>
    split at h
    · next hx => exact ⟨x, rfl, hx, by simpa using h⟩
    · simp at h
  · simp at h

/-- The text of a zero. -/
def zeroText (negative : Bool) : String := if negative then "-0.0" else "0.0"

theorem read_apiKey_of_zero {v : Option Json.Value} {negative : Bool}
    (h : zeroSign? v = some negative) (old : String) :
    Config.read (fun _ => v) .apiKey old = zeroText negative := by
  obtain ⟨x, rfl, hx, rfl⟩ := exists_zero_of_zeroSign? h
  simp only [Config.read, Config.apiKeyFrom, Json.Number.toText, Json.Number.write, Layout.write,
    hx, if_true, zeroText]
  cases x.negative <;> rfl

theorem convert_of_isZero {f : Format} (g : Format) {x : Finite f} (h : x.isZero = true) :
    (Extended.finite x).convert g = .finite (Finite.zero g x.negative) := by
  have hfst := Finite.fst_ratio_eq_zero.mpr h
  simp only [Extended.convert, Extended.ofRatio, hfst, Finite.ofRatio?, if_true]

theorem read_temperature_of_zero {v : Option Json.Value} {negative : Bool}
    (h : zeroSign? v = some negative) (old : Finite single) :
    Config.read (fun _ => v) .temperature old = Finite.zero single negative := by
  obtain ⟨x, rfl, hx, rfl⟩ := exists_zero_of_zeroSign? h
  simp only [Config.read, Config.temperatureFrom, Option.bind_some, Json.Value.toDouble?,
    Json.Number.toDouble, Config.clampTemperature, convert_of_isZero single hx]
  cases x.negative <;> rfl

-- A zero is no limit of tokens but the least one, whatever its sign.
theorem count?_of_zero {v : Json.Value} (h : (zeroSign? (some v)).isSome = true) :
    count? v = some 0 := by
  obtain ⟨negative, hnegative⟩ := Option.isSome_iff_exists.mp h
  obtain ⟨x, hv, hx, -⟩ := exists_zero_of_zeroSign? hnegative
  cases hv
  have hfst := Finite.fst_ratio_eq_zero.mpr hx
  have hround : x.roundMagnitude = 0 := by
    simp only [Finite.roundMagnitude, roundHalfUp, hfst]
    rw [Nat.div_eq_zero_iff]
    omega
  simp only [count?, Json.Number.toCount?, Json.Number.toDouble, hx, Bool.not_true, Bool.and_false,
    Bool.false_eq_true, if_false, hround]

theorem read_eq_of_isNested {v w : Option Json.Value} (hv : isNested v = true)
    (hw : isNested w = true) (key : Key) :
    Config.read (fun _ => v) key = Config.read (fun _ => w) key := by
  have hnested : ∀ u, isNested u = true →
      (∃ items, u = some (.array items)) ∨ ∃ members, u = some (.object members) := by
    intro u hu
    unfold isNested at hu
    split at hu
    · exact .inl ⟨_, rfl⟩
    · exact .inr ⟨_, rfl⟩
    · cases hu
  funext old
  rcases hnested v hv with ⟨_, rfl⟩ | ⟨_, rfl⟩ <;> rcases hnested w hw with ⟨_, rfl⟩ | ⟨_, rfl⟩ <;>
    cases key <;> rfl

theorem read_eq_of_zeros {v w : Option Json.Value} (hv : (zeroSign? v).isSome = true)
    (hw : (zeroSign? w).isSome = true) {key : Key} (hapiKey : key ≠ .apiKey)
    (htemperature : key ≠ .temperature) :
    Config.read (fun _ => v) key = Config.read (fun _ => w) key := by
  obtain ⟨_, hsign⟩ := Option.isSome_iff_exists.mp hv
  obtain ⟨x, rfl, -, -⟩ := exists_zero_of_zeroSign? hsign
  obtain ⟨_, hsign⟩ := Option.isSome_iff_exists.mp hw
  obtain ⟨y, rfl, -, -⟩ := exists_zero_of_zeroSign? hsign
  funext old
  cases key with
  | apiKey => exact absurd rfl hapiKey
  | temperature => exact absurd rfl htemperature
  | provider | model | showTokenUsage | endpoint => rfl
  | maxTokens =>
    simp only [Config.read, Config.maxTokensFrom, Option.bind_some, count?_of_zero hv,
      count?_of_zero hw]

-- Alike values are read alike, unless both are zeros under the key or the temperature.
theorem Alike.read_eq {v w : Option Json.Value} (h : Alike v w) {key : Key}
    (hzero : key = .apiKey ∨ key = .temperature → zeroSign? v = zeroSign? w) :
    Config.read (fun _ => v) key = Config.read (fun _ => w) key := by
  rcases h with rfl | ⟨hv, hw⟩ | ⟨hv, hw⟩
  · rfl
  · exact read_eq_of_isNested hv hw key
  · by_cases hapiKey : key = .apiKey
    · subst hapiKey
      obtain ⟨negative, hsign⟩ := Option.isSome_iff_exists.mp hv
      funext old
      rw [read_apiKey_of_zero hsign, read_apiKey_of_zero ((hzero (.inl rfl)).symm.trans hsign)]
    · by_cases htemperature : key = .temperature
      · subst htemperature
        obtain ⟨negative, hsign⟩ := Option.isSome_iff_exists.mp hv
        funext old
        rw [read_temperature_of_zero hsign,
          read_temperature_of_zero ((hzero (.inr rfl)).symm.trans hsign)]
      · exact read_eq_of_zeros hv hw hapiKey htemperature

end ChatAssistant.Settings
