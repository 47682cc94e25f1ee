import ChatAssistant.Gateway.Answer
import ChatAssistant.Proofs.Json.Document
import ChatAssistant.Proofs.Json.Valued

/-!
# Well-formed answers

Which texts are answers of the gateway, and what they say.  A text that is one is read as what it says;
any other text is refused.
-/

namespace ChatAssistant.Gateway

open ChatAssistant.Json ChatAssistant.Conversation

/-! ## The form of an answer -/

/-- The text of a message: absent, `null` or a string. -/
inductive ContentSays : Option Raw → Option String → Prop
  | absent : ContentSays none none
  | null : ContentSays (some .null) none
  | text {pieces : List Piece} {text : String} :
      text? pieces = some text → ContentSays (some (.string pieces)) (some text)

/-- A count of tokens: an absent one is zero. -/
inductive CountSays : Option Raw → Nat → Prop
  | absent : CountSays none 0
  | count {raw : Raw} {n : Nat} : raw.IsCount n → CountSays (some raw) n

/-- Counts of tokens: of members with one name the last one counts. -/
inductive IsUsage : Raw → Usage → Prop
  | object {members : List (List Piece × Raw)} {counts : Usage} :
      CountSays (Raw.valuesUnder "prompt_tokens" members).getLast? counts.promptTokens →
      CountSays (Raw.valuesUnder "completion_tokens" members).getLast? counts.completionTokens →
      CountSays (Raw.valuesUnder "total_tokens" members).getLast? counts.totalTokens →
        IsUsage (.object members) counts
  | array {items : List Raw} {counts : Usage} : items.length ≤ 3 →
      CountSays items[0]? counts.promptTokens → CountSays items[1]? counts.completionTokens →
      CountSays items[2]? counts.totalTokens → IsUsage (.array items) counts

section

variable (isRole : Raw → Prop)

inductive IsMessage (raw : Raw) (text : Option String) : Prop
  | intro {role content : Option Raw} :
      raw.IsRecord ["role", "content"] [role, content] →
      (∀ named, role = some named → named ≠ .null → isRole named) → ContentSays content text →
        IsMessage raw text

inductive IsChoice (raw : Raw) (text : Option String) : Prop
  | intro {message : Raw} :
      raw.IsRecord ["message"] [some message] → IsMessage isRole message text → IsChoice raw text

/-- An answer and the completion in it: every choice is well formed, the first one has a text, and the
counts of tokens are a value of any kind. -/
inductive IsAnswer (raw : Raw) (completion : Completion) : Prop
  | intro {items : List Raw} {usage : Option Raw} {others : List (Option String)} :
      raw.IsRecord ["choices", "usage"] [some (.array items), usage] →
      List.Forall₂ (IsChoice isRole) items (some completion.content :: others) →
      completion.content ≠ "" → (∀ value, usage = some value → value.Valued (depthLimit - 1)) →
      (∀ counts, completion.usage = some counts ↔
        ∃ value, usage = some value ∧ IsUsage value counts) →
        IsAnswer raw completion

end

/-- A role: its name, alone or over `null` as the one member of an object. -/
inductive SaysRole : Raw → Prop
  | text {pieces : List Piece} {role : Role} :
      text? pieces = some role.name → SaysRole (.string pieces)
  | member {key : List Piece} {role : Role} :
      text? key = some role.name → SaysRole (.object [(key, .null)])

/-! ## Choices -/

theorem isSome_role?_iff {raw : Raw} : (Wire.role? raw).isSome = true ↔ SaysRole raw := by
  constructor
  · intro h
    obtain ⟨role, hrole⟩ := Option.isSome_iff_exists.mp h
    obtain ⟨name, hname, hrole⟩ := Option.bind_eq_some_iff.mp hrole
    rw [← Role.name_of_ofName? hrole] at hname
    match raw, hname with
    | .string pieces, hname => exact .text hname
    | .object [(key, .null)], hname => exact .member hname
  · intro h
    cases h with
    | @text _ role hname | @member _ role hname =>
      simp [Wire.role?, Raw.variant?, hname, Role.ofName?_name]

theorem isSome_optional?_role_iff {role : Option Raw} :
    (Raw.optional? Wire.role? role).isSome = true ↔
      ∀ named, role = some named → named ≠ .null → SaysRole named := by
  unfold Raw.optional?
  split
  · simp
  · simp
  · next named hnull =>
    rw [Option.isSome_map, isSome_role?_iff]
    constructor
    · intro h other hother _
      cases hother
      exact h
    · exact fun h => h named rfl hnull

theorem optional?_toText?_eq_some_iff {content : Option Raw} {text : Option String} :
    Raw.optional? Raw.toText? content = some text ↔ ContentSays content text := by
  constructor
  · intro h
    match content, h with
    | none, h => cases h; exact .absent
    | some .null, h => cases h; exact .null
    | some (.string pieces), h =>
      obtain ⟨said, hsaid, rfl⟩ := Option.map_eq_some_iff.mp h
      exact .text hsaid
  · intro h
    cases h with
    | absent => rfl
    | null => rfl
    | text hpieces => simp [Raw.optional?, Raw.toText?, hpieces]

theorem choiceContent?_eq_some_iff {raw : Raw} {text : Option String} :
    choiceContent? raw = some text ↔ IsChoice SaysRole raw text := by
  simp only [choiceContent?, Option.bind_eq_bind, Option.bind_eq_some_iff]
  constructor
  · rintro ⟨fields, hfields, h⟩
    split at h
    · next message =>
      obtain ⟨parts, hparts, h⟩ := Option.bind_eq_some_iff.mp h
      split at h
      · next role content =>
        obtain ⟨said, hrole, hcontent⟩ := Option.bind_eq_some_iff.mp h
        have hrole := isSome_optional?_role_iff.mp (Option.isSome_of_eq_some hrole)
        exact .intro ((Raw.fields?_eq_some_iff (by decide)).mp hfields)
          (.intro ((Raw.fields?_eq_some_iff (by decide)).mp hparts) hrole
            (optional?_toText?_eq_some_iff.mp hcontent))
      · cases h
    · cases h
  · rintro ⟨hmessage, hparts, hrole, hcontent⟩
    next message role content =>
    obtain ⟨said, hsaid⟩ := Option.isSome_iff_exists.mp (isSome_optional?_role_iff.mpr hrole)
    refine ⟨_, (Raw.fields?_eq_some_iff (by decide)).mpr hmessage, ?_⟩
    simp [(Raw.fields?_eq_some_iff (by decide)).mpr hparts, hsaid,
      optional?_toText?_eq_some_iff.mpr hcontent]

theorem mapM_eq_some_iff {α β : Type} {read : α → Option β} {as : List α} {bs : List β} :
    as.mapM read = some bs ↔ List.Forall₂ (fun a b => read a = some b) as bs := by
  induction as generalizing bs with
  | nil => simp [eq_comm]
  | cons a as ih =>
    simp only [List.mapM_cons, Option.bind_eq_bind, Option.bind_eq_some_iff,
      List.forall₂_cons_left_iff, ih]
    constructor
    · rintro ⟨b, hb, bs, hbs, h⟩
      cases h
      exact ⟨b, bs, hb, hbs, rfl⟩
    · rintro ⟨b, bs, hb, hbs, rfl⟩
      exact ⟨b, hb, bs, hbs, rfl⟩

theorem items?_choiceContent?_eq_some_iff {choices : Raw} {contents : List (Option String)} :
    choices.items? choiceContent? = some contents ↔
      ∃ items, choices = .array items ∧ List.Forall₂ (IsChoice SaysRole) items contents := by
  cases choices with
  | array items =>
    simp only [Raw.items?, mapM_eq_some_iff, choiceContent?_eq_some_iff, Raw.array.injEq]
    exact ⟨fun h => ⟨items, rfl, h⟩, fun ⟨_, hitems, h⟩ => hitems ▸ h⟩
  | null | bool | number | string | object =>
    constructor
    · intro h; cases h
    · rintro ⟨items, h, -⟩; cases h

/-! ## Counts of tokens -/

theorem countValue?_of_hasValue {depth : Nat} {raw : Raw} {value : Value}
    (h : raw.HasValue depth value) : countValue? (some value) = raw.count? := by
  unfold Raw.HasValue at h
  cases raw with
  | null | bool => rw [Raw.toValue?] at h; cases h; rfl
  | number t =>
    rw [Raw.toValue?] at h
    obtain ⟨number, hnumber, rfl⟩ := Option.map_eq_some_iff.mp h
    rw [Raw.count?, hnumber]
    rfl
  | string pieces =>
    rw [Raw.toValue?] at h
    obtain ⟨said, -, rfl⟩ := Option.map_eq_some_iff.mp h
    rfl
  | array | object =>
    cases depth with
    | zero => rw [Raw.toValue?] at h; cases h
    | succ depth =>
      rw [Raw.toValue?] at h
      obtain ⟨parts, -, rfl⟩ := Option.map_eq_some_iff.mp h
      rfl

theorem countValue?_eq_some_iff {depth : Nat} {raw : Option Raw} {value : Option Value} {n : Nat}
    (h : Option.Rel (Raw.HasValue depth) raw value) :
    countValue? value = some n ↔ CountSays raw n := by
  cases h with
  | none =>
    constructor
    · intro h; cases h; exact .absent
    · intro h; cases h; rfl
  | some hvalue =>
    rw [countValue?_of_hasValue hvalue, Raw.count?_eq_some_iff]
    exact ⟨.count, fun h => by cases h with | count hn => exact hn⟩

theorem usage_eq_some_iff {prompt completion total : Option Nat} {counts : Usage} :
    (do let p ← prompt; let c ← completion; let t ← total; some (Usage.mk p c t)) = some counts ↔
      prompt = some counts.promptTokens ∧ completion = some counts.completionTokens ∧
        total = some counts.totalTokens := by
  obtain ⟨p, c, t⟩ := counts
  cases prompt <;> cases completion <;> cases total <;> simp

theorem usageValue?_array_eq_some_iff {depth : Nat} {items : List Raw} {values : List Value}
    {counts : Usage} (h : List.Forall₂ (Raw.HasValue depth) items values) :
    usageValue? (.array values) = some counts ↔ IsUsage (.array items) counts := by
  have hrel := fun i => Raw.rel_getElem? h i
  have hlength : items.length = values.length := h.length_eq
  rw [usageValue?]
  split
  · next hmany =>
    refine iff_of_false (by simp) fun h => ?_
    cases h
    omega
  · next hfew =>
    rw [usage_eq_some_iff, countValue?_eq_some_iff (hrel 0), countValue?_eq_some_iff (hrel 1),
      countValue?_eq_some_iff (hrel 2)]
    constructor
    · rintro ⟨hprompt, hcompletion, htotal⟩
      exact .array (by omega) hprompt hcompletion htotal
    · rintro (_ | ⟨-, hprompt, hcompletion, htotal⟩)
      exact ⟨hprompt, hcompletion, htotal⟩

theorem usageValue?_object_eq_some_iff {depth : Nat} {members : List (List Piece × Raw)}
    {entries : List (String × Value)} {counts : Usage}
    (h : Raw.memberValues? depth members = some entries) :
    usageValue? (.object (Table.ofList entries)) = some counts ↔
      IsUsage (.object members) counts := by
  have hrel : ∀ name, Option.Rel (Raw.HasValue depth) (Raw.valuesUnder name members).getLast?
      (Table.get? name (Table.ofList entries)) := fun name => by
    rw [Table.get?_ofList]
    exact Raw.rel_getLast? (Raw.hasValue_valuesUnder h name)
  rw [usageValue?, usage_eq_some_iff, countValue?_eq_some_iff (hrel "prompt_tokens"),
    countValue?_eq_some_iff (hrel "completion_tokens"),
    countValue?_eq_some_iff (hrel "total_tokens")]
  constructor
  · rintro ⟨hprompt, hcompletion, htotal⟩
    exact .object hprompt hcompletion htotal
  · rintro ⟨hprompt, hcompletion, htotal⟩
    exact ⟨hprompt, hcompletion, htotal⟩

theorem usageValue?_eq_some_iff {depth : Nat} {raw : Raw} {value : Value} {counts : Usage}
    (h : raw.HasValue depth value) :
    usageValue? value = some counts ↔ IsUsage raw counts := by
  unfold Raw.HasValue at h
  cases raw with
  | null | bool =>
    rw [Raw.toValue?] at h
    cases h
    constructor <;> intro h <;> cases h
  | number | string =>
    rw [Raw.toValue?] at h
    obtain ⟨said, -, rfl⟩ := Option.map_eq_some_iff.mp h
    constructor <;> intro h <;> cases h
  | array items =>
    cases depth with
    | zero => rw [Raw.toValue?] at h; cases h
    | succ depth =>
      rw [Raw.toValue?] at h
      obtain ⟨values, hvalues, rfl⟩ := Option.map_eq_some_iff.mp h
      exact usageValue?_array_eq_some_iff (Raw.hasValue_items hvalues)
  | object members =>
    cases depth with
    | zero => rw [Raw.toValue?] at h; cases h
    | succ depth =>
      rw [Raw.toValue?] at h
      obtain ⟨entries, hentries, rfl⟩ := Option.map_eq_some_iff.mp h
      exact usageValue?_object_eq_some_iff hentries

theorem usageField?_eq_some_iff {field : Option Raw} {usage : Option Usage} :
    usageField? field = some usage ↔
      (∀ value, field = some value → value.Valued (depthLimit - 1)) ∧
        ∀ counts, usage = some counts ↔ ∃ value, field = some value ∧ IsUsage value counts := by
  cases field with
  | none =>
    simp only [usageField?, Option.some.injEq, reduceCtorEq, false_implies, implies_true, true_and,
      false_and, exists_false, iff_false]
    exact ⟨fun h => h ▸ fun _ => by simp, fun h => (Option.eq_none_iff_forall_ne_some.mpr h).symm⟩
  | some raw =>
    rw [usageField?, Option.map_eq_some_iff]
    simp only [Option.some.injEq, forall_eq', exists_eq_left']
    rw [← Raw.isSome_toValue?_iff, Option.isSome_iff_exists]
    constructor
    · rintro ⟨value, hvalue, rfl⟩
      exact ⟨⟨value, hvalue⟩, fun counts => usageValue?_eq_some_iff hvalue⟩
    · rintro ⟨⟨value, hvalue⟩, hcounts⟩
      refine ⟨value, hvalue, Option.ext fun counts => ?_⟩
      rw [hcounts, usageValue?_eq_some_iff hvalue]

/-! ## Answers -/

theorem completion?_eq_some_iff {body : String} {completion : Completion} :
    completion? body = some completion ↔
      ∃ raw : Raw, Writes body.toList raw.tokens ∧ IsAnswer SaysRole raw completion := by
  simp only [completion?, Option.bind_eq_bind, Option.bind_eq_some_iff, Raw.parse?_eq_some_iff]
  refine exists_congr fun raw => and_congr_right fun _ => ?_
  constructor
  · rintro ⟨fields, hfields, h⟩
    split at h
    · next choices field =>
      obtain ⟨contents, hcontents, hrest⟩ := Option.bind_eq_some_iff.mp h
      obtain ⟨usage, husage, hfirst⟩ := Option.bind_eq_some_iff.mp hrest
      obtain ⟨items, rfl, hitems⟩ := items?_choiceContent?_eq_some_iff.mp hcontents
      obtain ⟨hvalued, hcounts⟩ := usageField?_eq_some_iff.mp husage
      split at hfirst
      · next content others =>
        split at hfirst
        · cases hfirst
        · next hempty =>
          cases hfirst
          exact .intro ((Raw.fields?_eq_some_iff (by decide)).mp hfields) hitems
            (by simpa using hempty) hvalued hcounts
      · cases hfirst
    · cases h
  · rintro ⟨hfields, hitems, hne, hvalued, hcounts⟩
    refine ⟨_, (Raw.fields?_eq_some_iff (by decide)).mpr hfields, ?_⟩
    have hcontents := items?_choiceContent?_eq_some_iff.mpr ⟨_, rfl, hitems⟩
    have husage := usageField?_eq_some_iff.mpr ⟨hvalued, hcounts⟩
    simp [hcontents, husage, hne]

theorem readCompletion_eq_ok_iff {body : String} {completion : Completion} :
    readCompletion body = .ok completion ↔ completion? body = some completion := by
  unfold readCompletion
  split
  · next h => simp [h]
  · next h => simp [h]

theorem readCompletion_eq_error_iff {body : String} :
    readCompletion body = .error .malformedResponse ↔ completion? body = none := by
  unfold readCompletion
  split
  · next h => simp [h]
  · next h => simp [h]

/-- A text is read as a completion exactly where it is a well-formed answer with that completion, and
any other text is refused. -/
theorem readCompletion_accepts_answers (body : String) :
    (∀ completion, readCompletion body = .ok completion ↔
      ∃ raw : Raw, Writes body.toList raw.tokens ∧ IsAnswer SaysRole raw completion) ∧
    (readCompletion body = .error .malformedResponse ↔
      ¬ ∃ (completion : Completion) (raw : Raw),
        Writes body.toList raw.tokens ∧ IsAnswer SaysRole raw completion) := by
  refine ⟨fun completion => readCompletion_eq_ok_iff.trans completion?_eq_some_iff, ?_⟩
  rw [readCompletion_eq_error_iff, Option.eq_none_iff_forall_ne_some, not_exists]
  exact forall_congr' fun completion => not_congr completion?_eq_some_iff

-- Records may be arrays all the way down, and a bad count costs no reply.
example : readCompletion "[[[[null,\"x\"]]],[-1]]" = .ok ⟨"x", none⟩ := by decide +kernel

/-! ## Roles that are no strings -/

/-- A role by its name alone. -/
inductive NamesRole : Raw → Prop
  | text {pieces : List Piece} {role : Role} :
      text? pieces = some role.name → NamesRole (.string pieces)

/-- A message with a role over `null`. -/
def userOverNull : Raw :=
  .object [("role".toList.map .char, .object [("user".toList.map .char, .null)]),
    ("content".toList.map .char, .string ("x".toList.map .char))]

theorem not_isMessage_userOverNull {text : Option String} :
    ¬ IsMessage NamesRole userOverNull text := by
  rintro ⟨hfields, hrole, -⟩
  cases (Raw.fields?_eq_some_iff (by decide)).mpr hfields
  cases hrole _ rfl (by rintro ⟨⟩)

/-- Not every role in an accepted answer is a string. -/
theorem accepts_role_over_null :
    ¬ ∀ (body : String) (completion : Completion), readCompletion body = .ok completion ↔
      ∃ raw : Raw, Writes body.toList raw.tokens ∧ IsAnswer NamesRole raw completion := by
  intro h
  have haccepted : readCompletion
    "\x7b\"choices\":[\x7b\"message\":\x7b\"role\":\x7b\"user\":null\x7d,\"content\":\"x\"\x7d\x7d]\x7d" =
      .ok ⟨"x", none⟩ := by decide +kernel
  obtain ⟨raw, hwrites, hfields, hchoices, -, -, -⟩ := (h _ _).mp haccepted
  have hraw := Raw.parse?_eq_some_iff.mpr hwrites
  cases hraw
  cases (Raw.fields?_eq_some_iff (by decide)).mpr hfields
  cases hchoices with
  | cons hchoice =>
    obtain ⟨hparts, hmessage⟩ := hchoice
    cases (Raw.fields?_eq_some_iff (by decide)).mpr hparts
    exact not_isMessage_userOverNull hmessage

end ChatAssistant.Gateway
