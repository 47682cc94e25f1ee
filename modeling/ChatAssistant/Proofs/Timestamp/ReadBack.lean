import ChatAssistant.Proofs.Json.Layouts
import ChatAssistant.Proofs.Text.Blank
import ChatAssistant.Proofs.Timestamp.Calendar

/-!
# Timestamps that are read back

The text of an instant is in universal time and has a fixed shape, while a text that is read may have an offset,
blanks and any number of digits.  What such a text says has bounds, and within them the text of an instant is
read as the instant itself.
-/

namespace ChatAssistant.Timestamp

open ChatAssistant.Json ChatAssistant.Number

/-! ## Numbers with zeros in front -/

theorem isDigits_padded (width n : Nat) : IsDigits (padded width n) :=
  (isDigits_toDigits n).zeros_append _

theorem natOfDigits_padded (width n : Nat) : natOfDigits (padded width n) = n := by
  unfold padded
  dsimp only
  rw [natOfDigits_append, natOfDigits_zeros, natOfDigits_toDigits, Nat.zero_mul, Nat.zero_add]

theorem length_padded {width n : Nat} (hwidth : 0 < width) (h : n < 10 ^ width) :
    (padded width n).length = width := by
  have hdigits := (Nat.length_toDigits_le_iff (by decide) hwidth).mpr h
  unfold padded
  dsimp only
  rw [List.length_append, List.length_replicate]
  omega

/-! ## Digits -/

/-- What follows a number: it does not go on with a digit. -/
def IsEnd (rest : List Char) : Prop := ∀ c, rest.head? = some c → c.isDigit = false

theorem isEnd_cons {c : Char} (h : c.isDigit = false) (rest : List Char) : IsEnd (c :: rest) := by
  rintro _ ⟨⟩
  exact h

theorem digits?_append {most : Nat} {ds rest : List Char} (h : IsDigits ds) (hlength : ds.length ≤ most)
    (hrest : IsEnd rest) : digits? most (ds ++ rest) = some (natOfDigits ds, rest) := by
  have hend : IsEnd (rest.take (most - ds.length)) := by
    intro c hc
    rw [List.head?_take] at hc
    split at hc
    · cases hc
    · exact hrest c hc
  have htake : ((ds ++ rest).take most).takeWhile Char.isDigit = ds := by
    rw [List.take_append, List.take_of_length_le hlength]
    exact (takeWhile_isDigit_append h.2 hend).1
  have hne : ds.isEmpty = false := by simpa using h.1
  unfold digits?
  dsimp only
  rw [htake, hne, List.drop_left]
  rfl

theorem digits?_padded {width most n : Nat} (hwidth : 0 < width) (h : n < 10 ^ width) (hmost : width ≤ most)
    {rest : List Char} (hrest : IsEnd rest) : digits? most (padded width n ++ rest) = some (n, rest) := by
  have hlength := length_padded hwidth h
  rw [digits?_append (isDigits_padded width n) (hlength.trans_le hmost) hrest, natOfDigits_padded]

/-! ## Parts of a text -/

theorem dropBlanks_cons {c : Char} (h : Text.isBlank c = false) (rest : List Char) :
    dropBlanks (c :: rest) = c :: rest :=
  List.dropWhile_cons_of_neg (by simp [h])

theorem dropBlanks_append {ds : List Char} (h : IsDigits ds) (rest : List Char) :
    dropBlanks (ds ++ rest) = ds ++ rest := by
  obtain ⟨c, more, rfl⟩ := List.exists_cons_of_ne_nil h.1
  exact dropBlanks_cons (Text.isBlank_of_isDigit (h.2 c List.mem_cons_self)) _

theorem sign?_cons {c : Char} (h : Text.isBlank c = false) (rest : List Char) :
    sign? c (c :: rest) = some rest := by
  unfold sign?
  rw [dropBlanks_cons h]
  exact if_pos rfl

theorem field?_padded {low high n : Nat} (hlow : low ≤ n) (hhigh : n ≤ high) (h : high < 100)
    {rest : List Char} (hrest : IsEnd rest) : field? low high (padded 2 n ++ rest) = some (n, rest) := by
  unfold field?
  rw [dropBlanks_append (isDigits_padded 2 n),
    digits?_padded (by decide) (hhigh.trans_lt h) (Nat.le_refl 2) hrest]
  exact if_pos ⟨hlow, hhigh⟩

/-! ### Years -/

theorem year?_padded {n : Nat} (h : isYear n = true) (hn : n < 10000) {rest : List Char} (hrest : IsEnd rest) :
    year? (padded 4 n ++ rest) = some ((n : Int), rest) := by
  have hdigits := isDigits_padded 4 n
  have hread : digits? 4 (padded 4 n ++ rest) = some (n, rest) :=
    digits?_padded (by decide) hn (Nat.le_refl 4) hrest
  unfold year?
  dsimp only
  rw [dropBlanks_append hdigits]
  obtain ⟨c, more, hcs⟩ := List.exists_cons_of_ne_nil hdigits.1
  have hc : c.isDigit = true := hdigits.2 c (hcs ▸ List.mem_cons_self)
  rw [hcs, List.cons_append] at hread ⊢
  -- A digit is no sign.
  split
  · next hminus =>
    cases hminus
    exact absurd hc (by decide)
  · next hplus =>
    cases hplus
    exact absurd hc (by decide)
  · rw [hread]
    exact if_pos h

theorem year?_signed {c : Char} {n : Nat} {year : Int}
    (h : c = '-' ∧ year = -n ∨ c = '+' ∧ year = n) (hyear : isYear year = true) {rest : List Char}
    (hrest : IsEnd rest) : year? (c :: padded 4 n ++ rest) = some (year, rest) := by
  have hread : digits? (padded 4 n ++ rest).length (padded 4 n ++ rest) = some (n, rest) := by
    rw [digits?_append (isDigits_padded 4 n) (by simp) hrest, natOfDigits_padded]
  unfold year?
  dsimp only
  rcases h with ⟨rfl, rfl⟩ | ⟨rfl, rfl⟩ <;>
  · rw [List.cons_append, dropBlanks_cons rfl]
    simp only [hread]
    exact if_pos hyear

theorem year?_writeYear {year : Int} (h : isYear year = true) {rest : List Char} (hrest : IsEnd rest) :
    year? (writeYear year ++ rest) = some (year, rest) := by
  unfold writeYear
  split
  · next hplain =>
    obtain ⟨n, rfl⟩ := Int.eq_ofNat_of_zero_le hplain.1
    rw [Int.toNat_natCast]
    exact year?_padded h (by omega) hrest
  · refine year?_signed ?_ h hrest
    by_cases hneg : year < 0
    · exact .inl ⟨if_pos hneg, by omega⟩
    · exact .inr ⟨if_neg hneg, by omega⟩

/-! ### Parts of a second -/

theorem fraction?_point {width n : Nat} (hwidth : 0 < width) (hnine : width ≤ 9) (h : n < 10 ^ width)
    {rest : List Char} (hrest : IsEnd rest) :
    fraction? ('.' :: padded width n ++ rest) = some (n * 10 ^ (9 - width), rest) := by
  have hdigits := isDigits_padded width n
  have hlength := length_padded hwidth h
  have hne : (padded width n).isEmpty = false := by simpa using hdigits.1
  rw [List.cons_append]
  simp only [fraction?]
  rw [(takeWhile_isDigit_append hdigits.2 hrest).1, hne, List.take_of_length_le (hlength.trans_le hnine),
    natOfDigits_padded, List.drop_left, hlength]
  rfl

theorem fraction?_writeFraction {nanos : Nat} (h : nanos < 1000000000) :
    fraction? (writeFraction nanos ++ ['Z']) = some (nanos, ['Z']) := by
  have hend : IsEnd ['Z'] := isEnd_cons rfl []
  unfold writeFraction
  split
  · next hzero =>
    rw [hzero]
    rfl
  split
  · next hmillis =>
    rw [fraction?_point (by decide) (by decide) (by omega) hend]
    congr 2
    omega
  split
  · next hmicros =>
    rw [fraction?_point (by decide) (by decide) (by omega) hend]
    congr 2
    omega
  · rw [fraction?_point (by decide) (by decide) h hend, Nat.sub_self, Nat.pow_zero, Nat.mul_one]

theorem fraction?_lt {cs rest : List Char} {nanos : Nat} (h : fraction? cs = some (nanos, rest)) :
    nanos < 1000000000 := by
  unfold fraction? at h
  split at h
  · next more =>
    dsimp only at h
    split at h
    · cases h
    · have hdigits : ∀ c ∈ (more.takeWhile Char.isDigit).take 9, c.isDigit = true :=
        fun c hc => List.mem_takeWhile_imp (List.mem_of_mem_take hc)
      have hlength : ((more.takeWhile Char.isDigit).take 9).length ≤ 9 := List.length_take_le _ _
      have hlt := natOfDigits_lt_pow hdigits
      cases h
      generalize (more.takeWhile Char.isDigit).take 9 = kept at *
      calc natOfDigits kept * 10 ^ (9 - kept.length)
          < 10 ^ kept.length * 10 ^ (9 - kept.length) := Nat.mul_lt_mul_of_pos_right hlt (by positivity)
        _ = 10 ^ 9 := by rw [← Nat.pow_add, Nat.add_sub_cancel' hlength]
  · cases h
    decide

/-! ## Instants -/

/-- The year, month and day on which an instant lies. -/
def date (t : Timestamp) : Int × Nat × Nat := dateOfDays (t.seconds / 86400)

theorem isDate_date (t : Timestamp) : IsDate t.date.1 t.date.2.1 t.date.2.2 := isDate_dateOfDays _

theorem daysOfDate_date (t : Timestamp) : daysOfDate t.date.1 t.date.2.1 t.date.2.2 = t.seconds / 86400 :=
  daysOfDate_dateOfDays _

/-- The second of its day on which an instant lies. -/
def secondOfDay (t : Timestamp) : Nat := (t.seconds % 86400).toNat

theorem secondOfDay_lt (t : Timestamp) : t.secondOfDay < 86400 := by
  unfold secondOfDay
  omega

theorem days_mul_add_secondOfDay (t : Timestamp) : t.seconds / 86400 * 86400 + t.secondOfDay = t.seconds := by
  unfold secondOfDay
  omega

/-- An instant that a text can say: its date has a year that dates may have, and a leap second ends its minute. -/
structure Readable (t : Timestamp) : Prop where
  nanos_lt : t.nanos < 2000000000
  leap : t.isLeap = true → t.secondOfDay % 60 = 59
  year : isYear t.date.1 = true

theorem readable_of_parse? {s : String} {t : Timestamp} (h : parse? s = some t) : t.Readable := by
  obtain ⟨⟨year, cs⟩, -, h⟩ := Option.bind_eq_some_iff.mp h
  obtain ⟨cs, -, h⟩ := Option.bind_eq_some_iff.mp h
  obtain ⟨⟨month, cs⟩, -, h⟩ := Option.bind_eq_some_iff.mp h
  obtain ⟨cs, -, h⟩ := Option.bind_eq_some_iff.mp h
  obtain ⟨⟨day, cs⟩, -, h⟩ := Option.bind_eq_some_iff.mp h
  obtain ⟨cs, -, h⟩ := Option.bind_eq_some_iff.mp h
  obtain ⟨⟨hour, cs⟩, -, h⟩ := Option.bind_eq_some_iff.mp h
  obtain ⟨cs, -, h⟩ := Option.bind_eq_some_iff.mp h
  obtain ⟨⟨minute, cs⟩, -, h⟩ := Option.bind_eq_some_iff.mp h
  obtain ⟨cs, -, h⟩ := Option.bind_eq_some_iff.mp h
  obtain ⟨⟨second, cs⟩, -, h⟩ := Option.bind_eq_some_iff.mp h
  obtain ⟨⟨nanos, cs⟩, hfraction, h⟩ := Option.bind_eq_some_iff.mp h
  obtain ⟨⟨offset, cs⟩, -, h⟩ := Option.bind_eq_some_iff.mp h
  have hnanos := fraction?_lt hfraction
  simp only [Option.ite_none_right_eq_some, Option.some.injEq] at h
  obtain ⟨-, hyear, rfl⟩ := h
  refine ⟨?_, fun hleap => ?_, hyear⟩
  · dsimp only
    split <;> omega
  · -- The part of a second is that of a leap second only if the text says so.
    have hsixty : second = 60 := by
      by_contra hother
      simp only [isLeap, hother, if_false, decide_eq_true_eq] at hleap
      omega
    unfold secondOfDay
    simp only [hsixty, if_true]
    omega

/-! ### Written instants -/

/-- The second of its minute that is written: the sixtieth for a leap second. -/
def writtenSecond (t : Timestamp) : Nat := if t.isLeap then t.secondOfDay % 60 + 1 else t.secondOfDay % 60

/-- The part of a second that is written. -/
def writtenNanos (t : Timestamp) : Nat := if t.isLeap then t.nanos - 1000000000 else t.nanos

theorem toList_toText (t : Timestamp) :
    t.toText.toList =
      writeYear t.date.1 ++
        '-' :: (padded 2 t.date.2.1 ++
          '-' :: (padded 2 t.date.2.2 ++
            'T' :: (padded 2 (t.secondOfDay / 3600) ++
              ':' :: (padded 2 (t.secondOfDay / 60 % 60) ++
                ':' :: (padded 2 t.writtenSecond ++ (writeFraction t.writtenNanos ++ ['Z'])))))) := by
  unfold toText
  dsimp only
  rw [String.toList_ofList, clock]
  simp only [List.append_assoc, List.cons_append]
  rfl

theorem writtenSecond_le (t : Timestamp) : t.writtenSecond ≤ 60 := by
  have hlast : t.secondOfDay % 60 < 60 := Nat.mod_lt _ (by decide)
  unfold writtenSecond
  split <;> omega

theorem Readable.writtenSecond_eq_sixty_iff {t : Timestamp} (h : t.Readable) :
    t.writtenSecond = 60 ↔ t.isLeap = true := by
  have hlast : t.secondOfDay % 60 < 60 := Nat.mod_lt _ (by decide)
  unfold writtenSecond
  split
  · next hleap => simp [h.leap hleap, hleap]
  · next hplain => simp [hlast.ne, hplain]

-- The sixtieth second stands for the second before it.
theorem Readable.second_eq {t : Timestamp} (h : t.Readable) :
    (if t.writtenSecond = 60 then 59 else t.writtenSecond) = t.secondOfDay % 60 := by
  simp only [h.writtenSecond_eq_sixty_iff]
  split
  · next hleap => rw [h.leap hleap]
  · next hplain => exact if_neg hplain

theorem Readable.writtenNanos_lt {t : Timestamp} (h : t.Readable) : t.writtenNanos < 1000000000 := by
  have hnanos := h.nanos_lt
  unfold writtenNanos isLeap
  split
  · omega
  · next hplain => simpa using hplain

theorem Readable.nanos_eq {t : Timestamp} (h : t.Readable) :
    (if t.writtenSecond = 60 then t.writtenNanos + 1000000000 else t.writtenNanos) = t.nanos := by
  simp only [h.writtenSecond_eq_sixty_iff]
  unfold writtenNanos
  split
  · next hleap => exact Nat.sub_add_cancel (of_decide_eq_true hleap)
  · rfl

theorem isEnd_writeFraction (nanos : Nat) : IsEnd (writeFraction nanos ++ ['Z']) := by
  unfold writeFraction
  split_ifs <;> exact isEnd_cons rfl _

/-- What a text can say is read from the text that is written for it. -/
theorem parse?_toText {t : Timestamp} (h : t.Readable) : parse? t.toText = some t := by
  obtain ⟨hmonth, hlastMonth, hday, hlastDay⟩ := t.isDate_date
  have hsecond := t.secondOfDay_lt
  -- Each part is read up to the sign behind it: the date, the time, the part of a second and the offset.
  unfold parse?
  rw [toList_toText]
  refine Option.bind_eq_some_iff.mpr ⟨_, year?_writeYear h.year (isEnd_cons rfl _), ?_⟩
  refine Option.bind_eq_some_iff.mpr ⟨_, sign?_cons rfl _, ?_⟩
  refine Option.bind_eq_some_iff.mpr
    ⟨_, field?_padded hmonth hlastMonth (by decide) (isEnd_cons rfl _), ?_⟩
  refine Option.bind_eq_some_iff.mpr ⟨_, sign?_cons rfl _, ?_⟩
  refine Option.bind_eq_some_iff.mpr
    ⟨_, field?_padded hday (hlastDay.trans (daysInMonth_le _ _)) (by decide) (isEnd_cons rfl _), ?_⟩
  refine Option.bind_eq_some_iff.mpr ⟨_, rfl, ?_⟩
  refine Option.bind_eq_some_iff.mpr
    ⟨_, field?_padded (Nat.zero_le _) (by omega) (by decide) (isEnd_cons rfl _), ?_⟩
  refine Option.bind_eq_some_iff.mpr ⟨_, sign?_cons rfl _, ?_⟩
  refine Option.bind_eq_some_iff.mpr
    ⟨_, field?_padded (Nat.zero_le _) (by omega) (by decide) (isEnd_cons rfl _), ?_⟩
  refine Option.bind_eq_some_iff.mpr ⟨_, sign?_cons rfl _, ?_⟩
  refine Option.bind_eq_some_iff.mpr
    ⟨_, field?_padded (Nat.zero_le _) t.writtenSecond_le (by decide) (isEnd_writeFraction _), ?_⟩
  refine Option.bind_eq_some_iff.mpr ⟨_, fraction?_writeFraction h.writtenNanos_lt, ?_⟩
  refine Option.bind_eq_some_iff.mpr ⟨(0, []), rfl, ?_⟩
  have hdate : ((dropBlanks []).isEmpty && decide (t.date.2.2 ≤ daysInMonth t.date.1 t.date.2.1)) = true :=
    decide_eq_true hlastDay
  have hseconds : daysOfDate t.date.1 t.date.2.1 t.date.2.2 * 86400 +
      ((t.secondOfDay / 3600 : Nat) * 3600 + (t.secondOfDay / 60 % 60 : Nat) * 60 +
        (if t.writtenSecond = 60 then 59 else t.writtenSecond : Nat)) - 0 * 60 = t.seconds := by
    have hdays := t.days_mul_add_secondOfDay
    rw [daysOfDate_date, h.second_eq]
    omega
  dsimp only
  rw [if_pos hdate, hseconds, h.nanos_eq]
  exact if_pos h.year

end ChatAssistant.Timestamp
