import ChatAssistant.Gateway.Answer
import ChatAssistant.Json.Printer
import ChatAssistant.Proofs.Json.Document
import ChatAssistant.Proofs.Json.Layouts
import ChatAssistant.Proofs.Json.Valued
import ChatAssistant.Proofs.Text.Blank

/-!
# Refusals

The failure that a status and a body stand for, said without the reader.  Three statuses speak for
themselves.  Under any other status the body may say something in its `error` member, and where it says
nothing the status line stands in.
-/

namespace ChatAssistant

open ChatAssistant.Text

/-! ## Written values are visible -/

section

open ChatAssistant.Number

theorem visible_toDigits (n : Nat) : Visible (Nat.toDigits 10 n) := by
  obtain ⟨hne, hdigits⟩ := Json.isDigits_toDigits n
  exact ⟨_, List.head_mem hne, isBlank_of_isDigit (hdigits _ (List.head_mem hne))⟩

theorem visible_placed (layout : Layout) {digits : List Char} (h : Visible digits) (k : Int) :
    Visible (layout.placed digits k) := by
  unfold Layout.placed
  dsimp only
  split
  · exact h.append_right.append_right
  · split
    · exact (visible_cons rfl _).append_left
    · exact (visible_cons rfl _).append_right

theorem visible_scientific (layout : Layout) (digits : List Char) (k : Int) :
    Visible (layout.scientific digits k) :=
  (visible_toDigits _).append_left

theorem visible_layout {f : Format} (layout : Layout) (x : Finite f) :
    Visible (layout.write x).toList := by
  unfold Layout.write
  dsimp only
  split
  · rw [String.toList_ofList]
    exact (visible_cons rfl _).append_left
  · rw [String.toList_ofList]
    refine Visible.append_left ?_
    split
    · exact visible_placed layout (visible_toDigits _) _
    · exact visible_scientific layout _ _

end

namespace Json

theorem visible_writeInt (n : Int) : Visible (writeInt n) := by
  unfold writeInt
  split
  · exact visible_cons rfl _
  · exact visible_toDigits _

theorem Value.visible_write (value : Value) : Visible value.write := by
  cases value with
  | null => exact ⟨'n', by decide, rfl⟩
  | bool b => cases b <;> exact ⟨'e', by decide, rfl⟩
  | number n =>
    cases n with
    | int n => exact visible_writeInt n
    | float x => exact visible_layout numberLayout x
  | string | array | object => exact visible_cons rfl _

theorem Value.isBlankText_toText (value : Value) : isBlankText value.toText = false := by
  rw [isBlankText_eq_false_iff, toText, String.toList_ofList]
  exact value.visible_write

end Json

namespace Gateway

open ChatAssistant.Json

/-! ## What a body says -/

/-- The string that speaks for an error: the error itself, or what it has as its one `message`. -/
inductive IsErrorText : Raw → List Piece → Prop
  | text {pieces : List Piece} : IsErrorText (.string pieces) pieces
  | message {members : List (List Piece × Raw)} {pieces : List Piece} :
      Raw.valuesUnder "message" members = [.string pieces] → IsErrorText (.object members) pieces

/-- What an error says: the string that speaks for it, unless it is blank; without such a string the
compact text of its value, unless that is `null`. -/
inductive ErrorSays (error : Raw) : String → Prop
  | text {pieces : List Piece} {said : String} : error.Valued (depthLimit - 1) →
      IsErrorText error pieces → text? pieces = some said → isBlankText said = false →
        ErrorSays error said
  | value {value : Value} : error.HasValue (depthLimit - 1) value → value ≠ .null →
      (∀ pieces, ¬ IsErrorText error pieces) → ErrorSays error value.toText

/-- What the body of a refusal says in its one `error` field. -/
def BodySays (body said : String) : Prop :=
  ∃ raw error : Raw, Writes body.toList raw.tokens ∧ raw.IsRecord ["error"] [some error] ∧
    ErrorSays error said

/-- The code and its phrase, which some codes do not have. -/
def statusText (status : Nat) : String :=
  "OpenRouter API error: " ++ toString status ++ (reason? status).elim "" (" " ++ ·)

/-- The failure that a status and a body stand for. -/
inductive StandsFor : Nat → String → Failure → Prop
  | unauthorized {body : String} : StandsFor 401 body .unauthorized
  | insufficientQuota {body : String} : StandsFor 402 body .insufficientQuota
  | rateLimited {body : String} : StandsFor 429 body .rateLimited
  | told {status : Nat} {body said : String} : status ∉ [401, 402, 429] → BodySays body said →
      StandsFor status body (.refused status said)
  | untold {status : Nat} {body : String} : status ∉ [401, 402, 429] →
      (∀ said, ¬ BodySays body said) → StandsFor status body (.refused status (statusText status))

/-! ## The reader of errors -/

theorem hasValue_string_iff {depth : Nat} {raw : Raw} {said : String} :
    raw.HasValue depth (.string said) ↔ ∃ pieces, raw = .string pieces ∧ text? pieces = some said := by
  unfold Raw.HasValue
  cases raw with
  | string pieces => simp [Raw.toValue?]
  | null | bool | number => simp [Raw.toValue?]
  | array | object => cases depth <;> simp [Raw.toValue?]

/-- The one entry of a name, where it is a text, is the one member of that name. -/
theorem filter_eq_singleton_iff {depth : Nat} {members : List (List Piece × Raw)}
    {entries : List (String × Value)} (h : Raw.memberValues? depth members = some entries)
    {name said : String} :
    (∃ key, entries.filter (fun entry => entry.1 == name) = [(key, .string said)]) ↔
      ∃ pieces, Raw.valuesUnder name members = [.string pieces] ∧ text? pieces = some said := by
  have hrel : List.Forall₂ (Raw.HasValue depth) (Raw.valuesUnder name members)
      ((entries.filter fun entry => entry.1 == name).map Prod.snd) :=
    Raw.hasValue_valuesUnder h name
  constructor
  · rintro ⟨key, hfilter⟩
    rw [hfilter, List.map_singleton] at hrel
    obtain ⟨raw, rest, hvalue, hrest, hraws⟩ := List.forall₂_cons_right_iff.mp hrel
    rw [List.forall₂_nil_right_iff] at hrest
    obtain ⟨pieces, rfl, hsaid⟩ := hasValue_string_iff.mp hvalue
    exact ⟨pieces, by rw [hraws, hrest], hsaid⟩
  · rintro ⟨pieces, hraws, hsaid⟩
    rw [hraws] at hrel
    obtain ⟨value, rest, hvalue, hrest, hvalues⟩ := List.forall₂_cons_left_iff.mp hrel
    rw [List.forall₂_nil_left_iff] at hrest
    rw [hrest] at hvalues
    obtain ⟨⟨key, value⟩, hfilter, rfl⟩ := List.map_eq_singleton_iff.mp hvalues
    rw [Raw.HasValue, Raw.toValue?, hsaid] at hvalue
    cases hvalue
    exact ⟨key, hfilter⟩

theorem hasValue_object_iff {depth : Nat} {raw : Raw} {table : List (String × Value)} :
    raw.HasValue (depth + 1) (.object table) ↔ ∃ members entries, raw = .object members ∧
      Raw.memberValues? depth members = some entries ∧ Table.ofList entries = table := by
  unfold Raw.HasValue
  cases raw with
  | object members => simp [Raw.toValue?]
  | null | bool | number | string | array => simp [Raw.toValue?]

/-- The string that speaks for an error which has a value is a text. -/
theorem IsErrorText.exists_text {error : Raw} {pieces : List Piece} (h : IsErrorText error pieces)
    {depth : Nat} (hvalued : error.Valued depth) : ∃ said, text? pieces = some said := by
  cases h with
  | text =>
    cases hvalued with
    | string hpieces => exact Option.isSome_iff_exists.mp hpieces
  | @message members _ hraws =>
    obtain ⟨⟨key, raw⟩, hmember, rfl⟩ : ∃ member ∈ members, member.2 = .string pieces := by
      have hmem : Raw.string pieces ∈ Raw.valuesUnder "message" members := by simp [hraws]
      obtain ⟨member, hmember, hraw⟩ := List.mem_map.mp hmem
      exact ⟨member, List.mem_of_mem_filter hmember, hraw⟩
    cases hvalued with
    | object _ hvalues =>
      cases hvalues _ hmember with
      | string hpieces => exact Option.isSome_iff_exists.mp hpieces

theorem errorText?_of_isErrorText {error : Raw} {pieces : List Piece}
    (hvalued : error.Valued (depthLimit - 1)) (h : IsErrorText error pieces) :
    errorText? error = text? pieces := by
  obtain ⟨value, hvalue⟩ := Option.isSome_iff_exists.mp ((Raw.isSome_toValue?_iff error _).mpr hvalued)
  obtain ⟨said, hsaid⟩ := h.exists_text hvalued
  cases h with
  | text => simp [errorText?, Raw.toValue?, hsaid]
  | @message members _ hraws =>
    rw [depthLimit, Raw.toValue?] at hvalue
    obtain ⟨entries, hentries, -⟩ := Option.map_eq_some_iff.mp hvalue
    obtain ⟨key, hfilter⟩ := (filter_eq_singleton_iff hentries).mpr ⟨pieces, hraws, hsaid⟩
    simp [errorText?, namedValues?, depthLimit, Raw.toValue?, hentries, hfilter, hsaid]

theorem errorText?_of_not_isErrorText {error : Raw} {value : Value}
    (hvalue : error.HasValue (depthLimit - 1) value) (hne : value ≠ .null)
    (h : ∀ pieces, ¬ IsErrorText error pieces) : errorText? error = some value.toText := by
  rw [errorText?, hvalue, Option.bind_eq_bind, Option.bind_some]
  dsimp only
  split
  · next table key said hfilter =>
    -- A value with one text as its `message` comes from an object with that one member.
    obtain ⟨members, entries, rfl, hentries, -⟩ := hasValue_object_iff.mp hvalue
    change Raw.memberValues? (depthLimit - 2) members = some entries at hentries
    rw [namedValues?, hentries, Option.getD_some] at hfilter
    obtain ⟨pieces, hraws, -⟩ := (filter_eq_singleton_iff hentries).mp ⟨key, hfilter⟩
    exact absurd (.message hraws) (h pieces)
  · next said =>
    obtain ⟨pieces, rfl, -⟩ := hasValue_string_iff.mp hvalue
    exact absurd .text (h pieces)
  · exact absurd rfl hne
  · rfl

/-- What is found in an error, unless it is blank, is what the error says. -/
theorem errorText?_eq_some_iff {error : Raw} {said : String} :
    errorText? error = some said ∧ isBlankText said = false ↔ ErrorSays error said := by
  constructor
  · rintro ⟨hsaid, hblank⟩
    obtain ⟨value, hvalue, -⟩ := Option.bind_eq_some_iff.mp hsaid
    have hvalued := (Raw.isSome_toValue?_iff _ _).mp (Option.isSome_of_eq_some hvalue)
    by_cases htext : ∃ pieces, IsErrorText error pieces
    · obtain ⟨pieces, hpieces⟩ := htext
      rw [errorText?_of_isErrorText hvalued hpieces] at hsaid
      exact .text hvalued hpieces hsaid hblank
    · -- Only `null` says nothing here: the text of any other value is not blank.
      have hnot := not_exists.mp htext
      have hne : value ≠ .null := by
        rintro rfl
        rw [errorText?, hvalue] at hsaid
        cases hsaid
      rw [errorText?_of_not_isErrorText hvalue hne hnot] at hsaid
      cases hsaid
      exact .value hvalue hne hnot
  · intro h
    cases h with
    | text hvalued hpieces hsaid hblank =>
      exact ⟨(errorText?_of_isErrorText hvalued hpieces).trans hsaid, hblank⟩
    | value hvalue hne hnot =>
      exact ⟨errorText?_of_not_isErrorText hvalue hne hnot, Value.isBlankText_toText _⟩

theorem errorMessage?_eq_some_iff {body said : String} :
    errorMessage? body = some said ↔ BodySays body said := by
  simp only [errorMessage?, Option.bind_eq_bind, Option.bind_eq_some_iff, Raw.parse?_eq_some_iff]
  constructor
  · rintro ⟨raw, hwrites, fields, hfields, h⟩
    split at h
    · next error =>
      obtain ⟨text, htext, h⟩ := Option.bind_eq_some_iff.mp h
      split at h
      · cases h
      · next hblank =>
        cases h
        exact ⟨raw, error, hwrites, (Raw.fields?_eq_some_iff (by decide)).mp hfields,
          errorText?_eq_some_iff.mp ⟨htext, Bool.eq_false_of_not_eq_true hblank⟩⟩
    · cases h
  · rintro ⟨raw, error, hwrites, hfields, hsays⟩
    obtain ⟨htext, hblank⟩ := errorText?_eq_some_iff.mpr hsays
    refine ⟨raw, hwrites, _, (Raw.fields?_eq_some_iff (by decide)).mpr hfields, ?_⟩
    simp [htext, hblank]

/-! ## The status line -/

/-- Every phrase ends in a character that is no blank. -/
theorem any_getLast?_reason {status : Nat} {reason : String} (h : reason? status = some reason) :
    reason.toList.getLast?.any (!isBlank ·) = true := by
  have hall : ∀ entry ∈ reasons, entry.2.toList.getLast?.any (!isBlank ·) = true := by
    decide +kernel
  obtain ⟨entry, hentry, rfl⟩ := Option.map_eq_some_iff.mp h
  exact hall entry (List.mem_of_find?_eq_some hentry)

theorem any_getLast?_toDigits (n : Nat) : (Nat.toDigits 10 n).getLast?.any (!isBlank ·) = true := by
  obtain ⟨hne, hdigits⟩ := isDigits_toDigits n
  rw [List.getLast?_eq_some_getLast hne, Option.any_some,
    isBlank_of_isDigit (hdigits _ (List.getLast_mem hne))]
  rfl

theorem trimEnd_phrase {phrase : Option String}
    (h : ∀ reason, phrase = some reason → reason.toList.getLast?.any (!isBlank ·) = true)
    (head : String) (status : Nat) :
    trimEnd (String.join [head, toString status, " ", phrase.getD ""]) =
      head ++ toString status ++ phrase.elim "" (" " ++ ·) := by
  have hjoin : ∀ last : String, (String.join [head, toString status, " ", last]).toList =
      head.toList ++ Nat.toDigits 10 status ++ [' '] ++ last.toList := fun last => by
    simp [String.join]
  rw [trimEnd, hjoin, ← String.toList_inj, String.toList_ofList]
  cases phrase with
  | none =>
    -- The blank before the missing phrase is the only one at the end.
    rw [Option.getD_none, String.toList_empty, List.append_nil, dropEndBlanks_append_blank rfl,
      dropEndBlanks_append (any_getLast?_toDigits status)]
    simp
  | some reason =>
    rw [Option.getD_some, dropEndBlanks_append (h reason rfl)]
    simp

theorem statusLine_eq (status : Nat) : statusLine status = statusText status :=
  trimEnd_phrase (fun _ => any_getLast?_reason) _ status

theorem isBlankText_statusText (status : Nat) : isBlankText (statusText status) = false := by
  unfold statusText
  generalize reason? status = phrase
  rw [isBlankText_eq_false_iff, String.toList_append, String.toList_append]
  exact Visible.append_right (Visible.append_right ⟨'O', by decide, rfl⟩)

/-! ## Failures -/

theorem BodySays.isBlankText_eq {body said : String} (h : BodySays body said) :
    isBlankText said = false := by
  obtain ⟨_, _, -, -, hsays⟩ := h
  exact (errorText?_eq_some_iff.mpr hsays).2

theorem standsFor_classify (status : Nat) (body : String) :
    StandsFor status body (classify status body) := by
  unfold classify
  split
  · next h => exact h ▸ .unauthorized
  · split
    · next h => exact h ▸ .insufficientQuota
    · split
      · next h => exact h ▸ .rateLimited
      · have hother : status ∉ [401, 402, 429] := by simp [*]
        cases hmessage : errorMessage? body with
        | none =>
          rw [Option.getD_none, statusLine_eq]
          refine .untold hother fun said hsays => ?_
          rw [errorMessage?_eq_some_iff.mpr hsays] at hmessage
          cases hmessage
        | some said => exact .told hother (errorMessage?_eq_some_iff.mp hmessage)

/-- A status and a body stand for one failure. -/
theorem StandsFor.unique {status : Nat} {body : String} {failure other : Failure}
    (h : StandsFor status body failure) (hother : StandsFor status body other) :
    failure = other := by
  cases h with
  | unauthorized | insufficientQuota | rateLimited =>
    cases hother with
    | told hnot | untold hnot => simp at hnot
    | _ => rfl
  | told hnot hsays =>
    cases hother with
    | told _ hsaid =>
      rw [Option.some.inj ((errorMessage?_eq_some_iff.mpr hsays).symm.trans
        (errorMessage?_eq_some_iff.mpr hsaid))]
    | untold _ hnothing => exact absurd hsays (hnothing _)
    | _ => simp at hnot
  | untold hnot hnothing =>
    cases hother with
    | told _ hsaid => exact absurd hsaid (hnothing _)
    | untold => rfl
    | _ => simp at hnot

theorem StandsFor.status_eq {status : Nat} {body : String} {failure : Failure}
    (h : StandsFor status body failure) : failure.status = some status := by
  cases h <;> rfl

theorem StandsFor.isBlankText_message {status : Nat} {body : String} {failure : Failure}
    (h : StandsFor status body failure) : isBlankText failure.message = false := by
  cases h with
  | unauthorized | insufficientQuota | rateLimited => rfl
  | told _ hsays => exact hsays.isBlankText_eq
  | untold => exact isBlankText_statusText status

/-- A refusal becomes the one failure that its status and its body stand for, whose status is that of
the answer and whose message is not blank. -/
theorem classify_is_exact (status : Nat) (body : String) :
    (∀ failure, classify status body = failure ↔ StandsFor status body failure) ∧
    (classify status body).status = some status ∧
    isBlankText (classify status body).message = false := by
  have hstands := standsFor_classify status body
  exact ⟨fun failure => ⟨fun h => h ▸ hstands, hstands.unique⟩, hstands.status_eq,
    hstands.isBlankText_message⟩

end Gateway

end ChatAssistant
