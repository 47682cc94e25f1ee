import ChatAssistant.Proofs.Number.ReadBack
import ChatAssistant.Proofs.Yaml.RoundTrip

/-!
# Numbers that are read back

The text of an integer is read as the integer, and that of a double as the double.
-/

namespace ChatAssistant.Yaml

open ChatAssistant.Number

/-! ## Words -/

-- No word of a scalar is made of figures.
theorem contains_eq_false_of_figures {s : String} (h : ∀ c ∈ s.toList, isFigure c = true) {words : List String}
    (hwords : words.all (fun word => word.toList.any fun c => !isFigure c) = true) : words.contains s = false := by
  rw [List.contains_eq_mem, decide_eq_false_iff_not]
  intro hmem
  obtain ⟨c, hc, hfigure⟩ := List.any_eq_true.mp (List.all_eq_true.mp hwords s hmem)
  rw [h c hc] at hfigure
  cases hfigure

theorem plainValue?_of_figures {s : String} (hne : s.toList ≠ []) (h : ∀ c ∈ s.toList, isFigure c = true) :
    plainValue? s = match integerValue? s.toList with
      | some result => result
      | none =>
        if isZeroPadded s.toList then some (.string s)
        else
          match double? s.toList with
          | some x => some (doubleValue x)
          | none => some (.string s) := by
  have hsome : s.isEmpty = false := by
    rw [String.isEmpty_eq_false_iff]
    rintro rfl
    exact hne rfl
  have hbool : boolWord? s = none := by
    rw [boolWord?, contains_eq_false_of_figures h (by decide), if_neg (by decide),
      contains_eq_false_of_figures h (by decide), if_neg (by decide)]
  rw [plainValue?, hsome, isNullWord, contains_eq_false_of_figures h (by decide), if_neg (by decide), hbool]
  cases integerValue? s.toList <;> rfl

/-! ## Integers -/

theorem hexDigit?_of_isDigit {c : Char} (h : c.isDigit = true) : hexDigit? c = some (digitValue c) := by
  rw [hexDigit?, if_pos h]
  rfl

theorem natOfRadix?_digits {ds : List Char} (h : Json.IsDigits ds) :
    natOfRadix? 10 ds = some (natOfDigits ds) := by
  have hfold : ∀ (rest : List Char) (n : Nat), (∀ c ∈ rest, c.isDigit = true) →
      rest.foldlM (fun n c => do
        let d ← hexDigit? c
        if d < 10 then some (n * 10 + d) else none) n =
        some (rest.foldl (fun n c => n * 10 + digitValue c) n) := by
    intro rest
    induction rest with
    | nil => exact fun n _ => rfl
    | cons c rest ih =>
      intro n hrest
      rw [List.forall_mem_cons] at hrest
      simp only [List.foldlM_cons, hexDigit?_of_isDigit hrest.1, Json.digitValue_lt_ten hrest.1, Option.bind_eq_bind,
        Option.bind_some, if_true, List.foldl_cons]
      exact ih _ hrest.2
  rw [natOfRadix?, if_neg (by simpa using h.1), hfold ds 0 h.2, natOfDigits]

theorem isZeroPadded_of_isDigit {d : Char} {rest : List Char} (hdigit : d.isDigit = true) (hzero : d ≠ '0') :
    isZeroPadded (d :: rest) = false := by
  have hminus : d ≠ '-' := by rintro rfl; cases hdigit
  have hplus : d ≠ '+' := by rintro rfl; cases hdigit
  simp [isZeroPadded, hminus, hplus, hzero]

theorem magnitude?_toDigits (n : Nat) : magnitude? (Nat.toDigits 10 n) = some n := by
  by_cases hn : n = 0
  · subst hn
    rfl
  · have hled := Json.isLed_toDigits hn
    have hread := natOfRadix?_digits hled.digits
    rw [Json.natOfDigits_toDigits] at hread
    cases hds : Nat.toDigits 10 n with
    | nil => exact absurd hds hled.digits.1
    | cons d rest =>
      have hhead := hled.head
      rw [hds, List.head?_cons, ne_eq, Option.some.injEq] at hhead
      rw [hds] at hread
      have hdigit : d.isDigit = true := hled.digits.2 d (hds ▸ List.mem_cons_self)
      rw [magnitude?]
      · rw [isZeroPadded_of_isDigit hdigit hhead, if_neg (by decide), hread]
      all_goals
        intro more hcons
        exact hhead (List.cons.inj hcons).1

theorem integer?_writeNumber (n : Int) : integer? (writeNumber (.int n)) = some n := by
  rw [writeNumber]
  split
  · simp only [integer?, magnitude?_toDigits, Option.bind_eq_bind, Option.bind_some, Option.pure_def,
      Option.map_some, Option.some.injEq]
    omega
  · have hsign : ∀ c ∈ Nat.toDigits 10 n.natAbs, c ≠ '-' ∧ c ≠ '+' := by
      intro c hc
      have hdigit := (Json.isDigits_toDigits n.natAbs).2 c hc
      constructor <;> rintro rfl <;> cases hdigit
    rw [integer?, magnitude?_toDigits, Option.map_some]
    · congr 1
      exact Int.natAbs_of_nonneg (by omega)
    all_goals
      intro more hcons
      have := hsign _ (hcons ▸ List.mem_cons_self)
      simp at this

theorem toList_writeNumber (n : Json.Number) : (String.ofList (writeNumber n)).toList = writeNumber n :=
  String.toList_ofList

theorem isLegible_int {n : Int} (h : fitsNumber n = true) : IsLegible (.int n) := by
  obtain ⟨hplain, hfigures⟩ := writeNumber_figures (.int n)
  have hlist := toList_writeNumber (.int n)
  rw [IsLegible, plainValue?_of_figures (hlist.symm ▸ hplain.ne_nil) (hlist.symm ▸ hfigures), hlist,
    integerValue?, integer?_writeNumber]
  dsimp only
  rw [if_pos h]

/-! ## Doubles -/

-- A point or the mark of an exponent is in no integer.
theorem natOfRadix?_of_mem {cs : List Char} {c : Char} (hc : c ∈ cs) (hdigit : c.isDigit = false) :
    natOfRadix? 10 cs = none := by
  have hstep : ∀ n, (do
      let d ← hexDigit? c
      if d < 10 then some (n * 10 + d) else none : Option Nat) = none := by
    intro n
    cases hd : hexDigit? c with
    | none => rfl
    | some d =>
      have := hexDigit?_of_not_isDigit hdigit hd
      simp [show ¬d < 10 by omega]
  have hfold : ∀ (rest : List Char) (n : Nat), c ∈ rest → rest.foldlM (fun n c => do
      let d ← hexDigit? c
      if d < 10 then some (n * 10 + d) else none) n = none := by
    intro rest
    induction rest with
    | nil => exact fun _ hnil => absurd hnil List.not_mem_nil
    | cons e rest ih =>
      intro n hmem
      rw [List.foldlM_cons]
      rcases List.mem_cons.mp hmem with rfl | hmem
      · rw [hstep]
        rfl
      · rw [Option.bind_eq_bind, Option.bind_eq_none_iff]
        exact fun m _ => ih m hmem
  rw [natOfRadix?]
  split
  · rfl
  · exact hfold cs 0 hc

theorem exists_mark (x : Finite double) : '.' ∈ writeNumber (.float x) ∨ 'e' ∈ writeNumber (.float x) := by
  have hplaced : ∀ ds k, '.' ∈ numberLayout.placed ds k := by
    intro ds k
    rw [Layout.placed]
    split
    · rw [if_pos (show numberLayout.pointZero = true from rfl)]
      simp
    · split <;> simp
  have hscientific : ∀ ds k, 'e' ∈ numberLayout.scientific ds k := by
    intro ds k
    unfold Layout.scientific
    simp
  rw [writeNumber, Layout.write]
  dsimp only
  by_cases hzero : x.isZero = true
  · rw [if_pos hzero, String.toList_ofList, if_pos (show numberLayout.pointZero = true from rfl)]
    exact .inl (List.mem_append_right _ (by decide))
  · rw [if_neg hzero, String.toList_ofList]
    by_cases hpositional : numberLayout.positional
        ((Nat.toDigits 10 x.shortest.digits).length + x.shortest.exponent) = true
    · rw [if_pos hpositional]
      exact .inl (List.mem_append_right _ (hplaced _ _))
    · rw [if_neg hpositional]
      exact .inr (List.mem_append_right _ (hscientific _ _))

/-- The text of a double: a sign or none, a digit, and further figures that are not all digits. -/
structure DoubleText (sign : List Char) (d : Char) (rest : List Char) : Prop where
  figures : ∀ c ∈ sign ++ d :: rest, isFigure c = true
  sign : sign = [] ∨ sign = ['-']
  first : d.isDigit = true
  mark : ∃ c ∈ rest, c.isDigit = false

theorem exists_doubleText (x : Finite double) :
    ∃ sign d rest, writeNumber (.float x) = sign ++ d :: rest ∧ DoubleText sign d rest := by
  have hfigures := (writeNumber_figures (.float x)).2
  have hmark := exists_mark x
  obtain ⟨sign, cs, hn, hsign, hcs⟩ := exists_writeNumber (.float x)
  rw [hn] at hfigures hmark
  cases cs with
  | nil => exact hcs.elim
  | cons d rest =>
    refine ⟨sign, d, rest, hn, hfigures, hsign, hcs.1, ?_⟩
    have hrest : ∀ c, c ∈ sign ++ d :: rest → c.isDigit = false → c ≠ '-' → c ∈ rest := by
      intro c hc hdigit hminus
      rcases List.mem_append.mp hc with hc | hc
      · rcases hsign with rfl | rfl
        · cases hc
        · exact absurd (List.mem_singleton.mp hc) hminus
      · rcases List.mem_cons.mp hc with rfl | hc
        · rw [hcs.1] at hdigit
          cases hdigit
        · exact hc
    rcases hmark with hmark | hmark
    · exact ⟨'.', hrest _ hmark rfl (by decide), rfl⟩
    · exact ⟨'e', hrest _ hmark rfl (by decide), rfl⟩

namespace DoubleText

variable {sign rest : List Char} {d : Char}

theorem first_ne (h : DoubleText sign d rest) : d ≠ '-' ∧ d ≠ '+' := by
  constructor <;> rintro rfl <;> cases h.first

theorem magnitude?_eq (h : DoubleText sign d rest) : magnitude? (d :: rest) = none := by
  obtain ⟨c, hc, hdigit⟩ := h.mark
  have hradix : ∀ mark more, isFigure mark = false → d :: rest ≠ '0' :: mark :: more := by
    intro mark more hmark heq
    have := h.figures mark (by rw [heq]; simp)
    rw [hmark] at this
    cases this
  rw [magnitude?, natOfRadix?_of_mem (List.mem_cons_of_mem d hc) hdigit, ite_self]
  · exact fun more => hradix 'x' more rfl
  · exact fun more => hradix 'o' more rfl
  · exact fun more => hradix 'b' more rfl

theorem integer?_eq (h : DoubleText sign d rest) : integer? (sign ++ d :: rest) = none := by
  obtain ⟨hminus, hplus⟩ := h.first_ne
  rcases h.sign with rfl | rfl
  · simp [integer?, hminus, hplus, h.magnitude?_eq]
  · simp [integer?, h.magnitude?_eq]

theorem isZeroPadded_eq (h : DoubleText sign d rest) : isZeroPadded (sign ++ d :: rest) = false := by
  obtain ⟨hminus, hplus⟩ := h.first_ne
  obtain ⟨c, hc, hdigit⟩ := h.mark
  have hall : rest.all Char.isDigit = false := List.all_eq_false.mpr ⟨c, hc, by rw [hdigit]; decide⟩
  by_cases hzero : d = '0'
  · subst hzero
    rcases h.sign with rfl | rfl <;> simp [isZeroPadded, hall]
  · rcases h.sign with rfl | rfl <;> simp [isZeroPadded, hminus, hplus, hzero]

theorem double?_eq (h : DoubleText sign d rest) {x : Finite double}
    (hread : Extended.ofText? double (String.ofList (sign ++ d :: rest)) = some (.finite x)) :
    double? (sign ++ d :: rest) = some (.finite x) := by
  have hword : ∀ words : List String,
      words.all (fun word => word.toList.any fun c => !isFigure c) = true →
        words.contains (String.ofList (sign ++ d :: rest)) = false := fun words hwords =>
    contains_eq_false_of_figures (by rw [String.toList_ofList]; exact h.figures) hwords
  have hplus : ∀ more, sign ++ d :: rest ≠ '+' :: more := by
    intro more heq
    rcases h.sign with rfl | rfl
    · exact h.first_ne.2 (List.cons.inj heq).1
    · exact absurd (List.cons.inj heq).1 (by decide)
  generalize sign ++ d :: rest = cs at hread hword hplus ⊢
  simp only [double?]
  split
  · next hnone =>
    split at hnone
    · exact absurd rfl (hplus _)
    · exact absurd rfl (hplus _)
    · cases hnone
    · cases hnone
  · next body hbody =>
    have hsame : body = cs := by
      split at hbody
      · cases hbody
      · cases hbody
      · exact absurd rfl (hplus _)
      · exact (Option.some.inj hbody).symm
    rw [hsame, hword _ (by decide), if_neg (by decide), hword _ (by decide), if_neg (by decide),
      hword _ (by decide), if_neg (by decide), hread]

end DoubleText

theorem isLegible_float {x : Finite double} (hx : x.Canonical) : IsLegible (.float x) := by
  obtain ⟨hplain, hfigures⟩ := writeNumber_figures (.float x)
  have hlist := toList_writeNumber (.float x)
  have htext : String.ofList (writeNumber (.float x)) = numberLayout.write x := by
    rw [writeNumber, String.ofList_toList]
  have hread := ofText?_write numberLayout hx
  obtain ⟨sign, d, rest, hn, hdouble⟩ := exists_doubleText x
  rw [← htext, hn] at hread
  rw [IsLegible, plainValue?_of_figures (hlist.symm ▸ hplain.ne_nil) (hlist.symm ▸ hfigures), hlist,
    integerValue?, hn, hdouble.integer?_eq, hdouble.isZeroPadded_eq, hdouble.double?_eq hread]
  rfl

end ChatAssistant.Yaml
