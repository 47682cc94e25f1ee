import ChatAssistant.Proofs.Command.InForce
import ChatAssistant.Proofs.Json.Verbatim
import ChatAssistant.Proofs.Text.Blank

/-!
# Keys as they are typed

`/set` takes a text that is a number of JSON as a number, and a number that is set as the key is taken by its
text.  For an integer of sixty-four bits that is the text which was typed.  Every other number is a double,
and its text is the shortest one of the double, however it was typed.
-/

namespace ChatAssistant

open ChatAssistant.Conversation ChatAssistant.Settings

namespace Text

theorem isBlank_of_isSpace {c : Char} (h : Json.isSpace c = true) : isBlank c = true := by
  simp only [Json.isSpace, Bool.or_eq_true, beq_iff_eq] at h
  rcases h with ((rfl | rfl) | rfl) | rfl <;> rfl

end Text

namespace Session

/-- A text without blanks that JSON takes neither for a word nor for a string. -/
structure KeyText (text : String) : Prop where
  unbroken : ∀ c ∈ text.toList, Text.isBlank c = false
  unquoted : text.toList.head? ≠ some '"'
  no_word : text ≠ "true" ∧ text ≠ "false" ∧ text ≠ "null"

/-- The key that a text becomes when it is set. -/
def typedKey (text : String) : String :=
  match Json.Value.parse? text with
  | some (.number (.float x)) => (Json.Number.float x).toText
  | _ => text

variable {text : String}

theorem unbroken_of_any (h : text.toList.any Text.isBlank = false) : ∀ c ∈ text.toList, Text.isBlank c = false :=
  fun c hc => Bool.eq_false_iff.mpr (List.any_eq_false.mp h c hc)

theorem KeyText.spelled (h : KeyText text) {raw : Json.Raw} {token : Json.Token}
    (hraw : Json.Raw.parse? text = some raw) (htokens : raw.tokens = [token]) : token.Spelled text.toList := by
  have hwrites := Json.Raw.parse?_eq_some_iff.mp hraw
  rw [htokens] at hwrites
  refine hwrites.spelled fun c hc => Bool.eq_false_iff.mpr fun hspace => ?_
  have hblank := h.unbroken c hc
  rw [Text.isBlank_of_isSpace hspace] at hblank
  cases hblank

-- What is nested is kept as the text.
theorem valueOfText_of_map {α : Type} {build : α → Json.Value} {parts : Option α}
    (hparse : Json.Value.parse? text = parts.map build)
    (hbuild : ∀ a, (∃ items, build a = .array items) ∨ ∃ members, build a = .object members) :
    valueOfText text = .string text ∧ typedKey text = text := by
  unfold valueOfText typedKey
  rw [hparse]
  cases parts with
  | none => exact ⟨rfl, rfl⟩
  | some a =>
    rw [Option.map_some]
    rcases hbuild a with ⟨items, ha⟩ | ⟨members, ha⟩ <;> rw [ha] <;> exact ⟨rfl, rfl⟩

theorem KeyText.number (h : KeyText text) {t : Number.DecimalText} {m : Json.Number}
    (hraw : Json.Raw.parse? text = some (.number t)) (hread : Json.Number.ofText? t = some m) :
    valueOfText text = .number m ∧ typedKey text = m.toText := by
  have hparse : Json.Value.parse? text = some (.number m) := by
    rw [Json.Value.parse?, hraw, Option.bind_some, Json.Raw.toValue?, hread, Option.map_some]
  refine ⟨by rw [valueOfText, hparse], ?_⟩
  rw [typedKey, hparse]
  cases m with
  | float x => rfl
  | int i =>
    cases h.spelled hraw rfl with
    | number hspelled =>
      rw [Json.Number.toText, Json.Number.write, hspelled.writeInt_eq hread, String.ofList_toList]

/-- The text is kept as it is, or taken as a number that has the key's text. -/
theorem KeyText.value_cases (h : KeyText text) :
    valueOfText text = .string text ∧ typedKey text = text ∨
      ∃ m, valueOfText text = .number m ∧ typedKey text = m.toText := by
  cases hraw : Json.Raw.parse? text with
  | none =>
    have hparse : Json.Value.parse? text = none := by rw [Json.Value.parse?, hraw, Option.bind_none]
    refine .inl ⟨by rw [valueOfText, hparse], by rw [typedKey, hparse]⟩
  | some raw =>
    have hparse : Json.Value.parse? text = raw.toValue? Json.depthLimit := by
      rw [Json.Value.parse?, hraw, Option.bind_some]
    cases raw with
    | null =>
      have hspelled := h.spelled hraw rfl
      generalize hcs : text.toList = cs at hspelled
      cases hspelled
      exact absurd (String.toList_inj.mp hcs) h.no_word.2.2
    | bool b =>
      have hspelled := h.spelled hraw rfl
      generalize hcs : text.toList = cs at hspelled
      cases hspelled with
      | trueWord => exact absurd (String.toList_inj.mp hcs) h.no_word.1
      | falseWord => exact absurd (String.toList_inj.mp hcs) h.no_word.2.1
    | string pieces =>
      have hspelled := h.spelled hraw rfl
      generalize hcs : text.toList = cs at hspelled
      cases hspelled
      exact absurd (by rw [hcs]; rfl) h.unquoted
    | number t =>
      cases hread : Json.Number.ofText? t with
      | some m => exact .inr ⟨m, h.number hraw hread⟩
      | none =>
        rw [Json.Raw.toValue?, hread, Option.map_none] at hparse
        exact .inl ⟨by rw [valueOfText, hparse], by rw [typedKey, hparse]⟩
    | array items =>
      rw [Json.depthLimit, Json.Raw.toValue?] at hparse
      exact .inl (valueOfText_of_map hparse fun a => .inl ⟨a, rfl⟩)
    | object members =>
      rw [Json.depthLimit, Json.Raw.toValue?] at hparse
      exact .inl (valueOfText_of_map hparse fun a => .inr ⟨_, rfl⟩)

theorem KeyText.apiKeyFrom_eq (h : KeyText text) {source : Source}
    (hstored : source Key.apiKey.name = some (valueOfText text)) (old : String) :
    Config.apiKeyFrom source old = typedKey text := by
  rw [Config.apiKeyFrom, hstored]
  rcases h.value_cases with ⟨hvalue, hkey⟩ | ⟨m, hvalue, hkey⟩
  · rw [hvalue, hkey]
    exact Text.trim_of_unbroken h.unbroken
  · rw [hvalue, hkey]

/-! ## `/set` -/

variable {s : Session} {trace : List Turn}

-- A value under a key that had none is published, and read once the watcher is idle.
theorem set_absent_in_force {published : List Change} {r : Receiver} (hwatches : s.Watches published r) {key : Key}
    (habsent : s.store.get? key.name = none) {color : Bool} {word : String} {rest : List String}
    (hupdated : (s.run color Command.set.name (key.name :: word :: rest)).output =
      .ok (some ("Updated " ++ key.name))) :
    (s.run color Command.set.name (key.name :: word :: rest)).session.settle.1.Idle ∧
      (s.run color Command.set.name (key.name :: word :: rest)).session.settle.1.InForce key ∧
      (s.run color Command.set.name (key.name :: word :: rest)).session.settle.1.store.get? key.name =
        some (setting word rest) := by
  obtain ⟨saved, hsession⟩ := run_set_updated hupdated
  have hset : s.store.set key.name (setting word rest) =
      ({ s.store with values := Table.insert key.name (setting word rest) s.store.values },
        Change.ofList [key.name]) := by
    rw [Store.set, habsent]
    rfl
  rw [hset] at hsession
  rw [hsession]
  have hbefore : Watches { s with
      store := { s.store with values := Table.insert key.name (setting word rest) s.store.values }, files := saved }
      published r := ⟨hwatches.carries, hwatches.watcher, hwatches.position⟩
  have hafter := hbefore.publish (Change.ofList [key.name])
  have haffects : (Change.ofList [key.name]).affects key.name = true := Change.affects_ofList_name.mpr rfl
  refine ⟨hafter.idle_settle, hafter.inForce_settle (.inr ?_), ?_⟩
  · obtain ⟨change, hmem, hchanges⟩ := awaits_published haffects
    rw [List.drop_append_of_le_length hwatches.position]
    exact ⟨change, List.mem_append_right _ hmem, hchanges⟩
  · rw [hafter.settle_eq]
    change Store.get? (Session.publish _ _).1.store key.name = _
    rw [store_publish]
    exact Table.get?_insert_self ..

/-- Where no key is stored yet, a key that is typed is the text that was typed, unless that is read as a double.
Then the key is the text of the double. -/
theorem typed_key_in_force {client : Client} {store : Store} {files : FileTree}
    (hrun : Run (Session.start client store files) trace s) (habsent : s.store.get? Key.apiKey.name = none)
    (htext : KeyText text) {color : Bool}
    (hupdated : (s.run color Command.set.name [Key.apiKey.name, text]).output =
      .ok (some ("Updated " ++ Key.apiKey.name))) :
    (s.run color Command.set.name [Key.apiKey.name, text]).session.settle.1.Idle ∧
      ((∀ x, Json.Value.parse? text ≠ some (.number (.float x))) →
        (s.run color Command.set.name [Key.apiKey.name, text]).session.settle.1.config.apiKey = text) ∧
      ∀ x, Json.Value.parse? text = some (.number (.float x)) →
        (s.run color Command.set.name [Key.apiKey.name, text]).session.settle.1.config.apiKey =
          (Json.Number.float x).toText := by
  obtain ⟨published, r, hfollows⟩ := hrun.follows
  obtain ⟨hidle, hforce, hstored⟩ := set_absent_in_force hfollows.watches habsent hupdated
  have hsetting : setting text [] = valueOfText text := by
    rw [setting, String.intercalate_singleton]
  rw [hsetting] at hstored
  have hkey : (s.run color Command.set.name [Key.apiKey.name, text]).session.settle.1.config.apiKey =
      typedKey text := by
    have hread := inForce_iff.mp hforce
    rw [← htext.apiKeyFrom_eq hstored]
    exact hread.symm
  refine ⟨hidle, fun hnone => ?_, fun x hx => ?_⟩
  · rw [hkey, typedKey]
    split
    · next hx => exact absurd hx (hnone _)
    · rfl
  · rw [hkey, typedKey, hx]

theorem typed_key_in_force_digits :
    KeyText "12345" ∧
      (unset.run false Command.set.name [Key.apiKey.name, "12345"]).session.settle.1.config.apiKey =
        "12345" := by
  have htext : KeyText "12345" := ⟨unbroken_of_any (by decide +kernel), by decide +kernel, by decide⟩
  have hparse : ∀ x, Json.Value.parse? "12345" ≠ some (.number (.float x)) := by
    have hvalue : Json.Value.parse? "12345" = some (.number (.int 12345)) := by rfl
    rw [hvalue]
    exact fun _ => nofun
  exact ⟨htext, (typed_key_in_force Run.nil (by rfl) htext (by decide +kernel)).2.1 hparse⟩

/-- A key that is typed need not be the text that was typed. -/
theorem typed_key_rewritten :
    ¬ ∀ (trace : List Turn) (s : Session) (text : String), Run unset trace s →
        s.store.get? Key.apiKey.name = none → KeyText text →
        (s.run false Command.set.name [Key.apiKey.name, text]).output = .ok (some ("Updated " ++ Key.apiKey.name)) →
        (s.run false Command.set.name [Key.apiKey.name, text]).session.settle.1.config.apiKey = text := by
  intro h
  have htext : KeyText "1e5" := ⟨unbroken_of_any (by decide +kernel), by decide +kernel, by decide⟩
  have hkey := h [] unset "1e5" Run.nil (by rfl) htext (by decide +kernel)
  have hrewritten :
      (unset.run false Command.set.name [Key.apiKey.name, "1e5"]).session.settle.1.config.apiKey = "100000.0" := by
    decide +kernel
  rw [hrewritten] at hkey
  exact absurd hkey (by decide)

end Session

end ChatAssistant
