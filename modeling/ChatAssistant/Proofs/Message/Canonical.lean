import ChatAssistant.Message.Wire
import ChatAssistant.Proofs.Gateway.RequestBody
import ChatAssistant.Proofs.Timestamp.ReadBack

/-!
# Canonical texts of the wire types

A value of a wire type has many texts: a record may be an array, its members may stand in any order among others,
and an instant may have any offset.  One of these texts is written, and reading and writing lead every other one to
it.
-/

namespace ChatAssistant.Wire

open ChatAssistant.Json

variable {α : Type}

/-- A text is read as a value. -/
def Reads (read : Raw → Option α) (text : String) (value : α) : Prop :=
  (Raw.parse? text).bind read = some value

/-- The text that is written for a value. -/
def written (write : α → List Char) (value : α) : String := String.ofList (write value)

/-- What is written is the canonical text of a value: it is one of the texts that are read as the value, and every
other one of them is brought to it.  Only the values of a kind have texts, and each of them has one. -/
structure Canonical (Kind : α → Prop) (read : Raw → Option α) (write : α → List Char) : Prop where
  kind_iff : ∀ value, Kind value ↔ ∃ text, Reads read text value
  read_back : ∀ text value, Reads read text value → Reads read (written write value) value
  stable : ∀ text other, normalize read write text = .ok other → normalize read write other = .ok other
  faithful : ∀ text other value said, Reads read text value → Reads read other said →
    (normalize read write text = normalize read write other ↔ value = said)

theorem normalize_eq_ok_iff {read : Raw → Option α} {write : α → List Char} {text other : String} :
    normalize read write text = .ok other ↔ ∃ value, Reads read text value ∧ written write value = other := by
  unfold normalize Reads
  cases (Raw.parse? text).bind read with
  | none => simp
  | some value => simp [written]

theorem Reads.normalize_eq {read : Raw → Option α} {text : String} {value : α} (h : Reads read text value)
    (write : α → List Char) : normalize read write text = .ok (written write value) :=
  normalize_eq_ok_iff.mpr ⟨value, h, rfl⟩

theorem canonical_of_reads {Kind : α → Prop} {read : Raw → Option α} {write : α → List Char}
    (hkind : ∀ raw value, read raw = some value → Kind value)
    (hwritten : ∀ value, Kind value → Reads read (written write value) value) : Canonical Kind read write := by
  have hreads : ∀ {text : String} {value : α}, Reads read text value → Kind value := by
    intro text value h
    obtain ⟨raw, -, hread⟩ := Option.bind_eq_some_iff.mp h
    exact hkind raw value hread
  refine ⟨fun value => ⟨fun h => ⟨_, hwritten value h⟩, fun ⟨_, h⟩ => hreads h⟩,
    fun text value h => hwritten value (hreads h), fun text other h => ?_, fun text other value said h hsaid => ?_⟩
  · obtain ⟨value, hvalue, rfl⟩ := normalize_eq_ok_iff.mp h
    exact (hwritten value (hreads hvalue)).normalize_eq write
  · rw [h.normalize_eq write, hsaid.normalize_eq write]
    refine ⟨fun hequal => ?_, fun hequal => hequal ▸ rfl⟩
    -- Texts that are equal are read as one value.
    have hback := hwritten value (hreads h)
    rw [Except.ok.inj hequal] at hback
    exact Option.some.inj (hback.symm.trans (hwritten said (hreads hsaid)))

theorem reads_written {read : Raw → Option α} {write : α → List Char} {value : α} {document : Raw}
    (htext : document.IsText (write value)) (hread : read document = some value) :
    Reads read (written write value) value :=
  Option.bind_eq_some_iff.mpr ⟨document, Raw.parse?_of_isText htext, hread⟩

/-! ## Names -/

theorem provider?_ofText_name (provider : Provider) : provider? (.ofText provider.name) = some provider :=
  Option.bind_eq_some_iff.mpr ⟨provider.name, text?_piecesOf provider.name, Provider.ofName?_name provider⟩

/-! ## Counts -/

/-- The counts fit in sixty-four bits. -/
structure Counted (usage : Usage) : Prop where
  prompt_lt : usage.promptTokens < 2 ^ 64
  completion_lt : usage.completionTokens < 2 ^ 64
  total_lt : usage.totalTokens < 2 ^ 64

theorem lt_of_count? {field : Option Raw} {n : Nat} (h : count? field = some n) : n < 2 ^ 64 := by
  cases field with
  | none =>
    cases h
    decide
  | some raw =>
    obtain ⟨-, -, -, hlt⟩ := Raw.count?_eq_some_iff.mp h
    exact hlt

theorem counted_of_usage? {raw : Raw} {usage : Usage} (h : usage? raw = some usage) : Counted usage := by
  obtain ⟨fields, -, h⟩ := Option.bind_eq_some_iff.mp h
  split at h
  · obtain ⟨prompt, hprompt, h⟩ := Option.bind_eq_some_iff.mp h
    obtain ⟨completion, hcompletion, h⟩ := Option.bind_eq_some_iff.mp h
    obtain ⟨total, htotal, h⟩ := Option.bind_eq_some_iff.mp h
    cases h
    exact ⟨lt_of_count? hprompt, lt_of_count? hcompletion, lt_of_count? htotal⟩
  · cases h

/-- A report of counts as a document. -/
def usageDocument (usage : Usage) : Raw :=
  .ofMembers
    [("prompt_tokens", .number (countText usage.promptTokens)),
     ("completion_tokens", .number (countText usage.completionTokens)),
     ("total_tokens", .number (countText usage.totalTokens))]

theorem isText_writeUsage (usage : Usage) : (usageDocument usage).IsText (writeUsage usage) :=
  Raw.isText_writeObject
    (.cons ⟨rfl, (Token.Spelled.number (numberSpelled_writeInt _)).writes⟩
      (.cons ⟨rfl, (Token.Spelled.number (numberSpelled_writeInt _)).writes⟩
        (.cons ⟨rfl, (Token.Spelled.number (numberSpelled_writeInt _)).writes⟩ .nil)))

theorem usage?_usageDocument {usage : Usage} (h : Counted usage) : usage? (usageDocument usage) = some usage := by
  have hcount : ∀ {n : Nat}, n < 2 ^ 64 → count? (some (.number (countText n))) = some n :=
    fun hlt => count?_countText (Nat.le_pred_of_lt hlt)
  refine Option.bind_eq_some_iff.mpr ⟨_, Raw.fields?_ofMembers _ rfl (by decide), ?_⟩
  simp [hcount h.prompt_lt, hcount h.completion_lt, hcount h.total_lt]

/-! ## Messages with their instants -/

theorem readable_of_datedMessage? {raw : Raw} {m : DatedMessage} (h : datedMessage? raw = some m) :
    m.timestamp.Readable := by
  obtain ⟨fields, -, h⟩ := Option.bind_eq_some_iff.mp h
  split at h
  · obtain ⟨role, -, h⟩ := Option.bind_eq_some_iff.mp h
    obtain ⟨content, -, h⟩ := Option.bind_eq_some_iff.mp h
    obtain ⟨timestamp, htimestamp, h⟩ := Option.bind_eq_some_iff.mp h
    obtain ⟨text, -, hparse⟩ := Option.bind_eq_some_iff.mp htimestamp
    cases h
    exact Timestamp.readable_of_parse? hparse
  · cases h

/-- A message with its instant as a document. -/
def datedDocument (m : DatedMessage) : Raw :=
  .ofMembers
    [("role", .ofText m.role.name), ("content", .ofText m.content), ("timestamp", .ofText m.timestamp.toText)]

theorem isText_writeDatedMessage (m : DatedMessage) : (datedDocument m).IsText (writeDatedMessage m) :=
  Raw.isText_writeObject
    (.cons ⟨rfl, Raw.isText_writeString m.role.name⟩
      (.cons ⟨rfl, Raw.isText_writeString m.content⟩
        (.cons ⟨rfl, Raw.isText_writeString m.timestamp.toText⟩ .nil)))

theorem datedMessage?_datedDocument {m : DatedMessage} (h : m.timestamp.Readable) :
    datedMessage? (datedDocument m) = some m := by
  refine Option.bind_eq_some_iff.mpr ⟨_, Raw.fields?_ofMembers _ rfl (by decide), ?_⟩
  simp [Gateway.role?_ofText_name, Raw.toText?_ofText, Timestamp.parse?_toText h]

/-! ## Wire types -/

/-- Every wire type has canonical texts.  All roles, providers and messages without an instant have a text; counts
have one if they fit in sixty-four bits, and a message with an instant has one if a text can say the instant. -/
theorem canonical_wire_types :
    Canonical (fun _ => True) role? writeRole ∧ Canonical (fun _ => True) provider? writeProvider ∧
      Canonical (fun _ => True) message? writeMessage ∧ Canonical Counted usage? writeUsage ∧
        Canonical (fun m => m.timestamp.Readable) datedMessage? writeDatedMessage := by
  refine ⟨?role, ?provider, ?message, ?usage, ?dated⟩
  case role =>
    exact canonical_of_reads (fun _ _ _ => trivial) fun role _ =>
      reads_written (Raw.isText_writeString role.name) (Gateway.role?_ofText_name role)
  case provider =>
    exact canonical_of_reads (fun _ _ _ => trivial) fun provider _ =>
      reads_written (Raw.isText_writeString provider.name) (provider?_ofText_name provider)
  case message =>
    exact canonical_of_reads (fun _ _ _ => trivial) fun m _ =>
      reads_written (Gateway.isText_writeMessage m) (Gateway.message?_messageDocument m)
  case usage =>
    exact canonical_of_reads (fun _ _ => counted_of_usage?) fun usage h =>
      reads_written (isText_writeUsage usage) (usage?_usageDocument h)
  case dated =>
    exact canonical_of_reads (fun _ _ => readable_of_datedMessage?) fun m h =>
      reads_written (isText_writeDatedMessage m) (datedMessage?_datedDocument h)

/-- A message as an array, with the role as an object and an escaped text; its leap second ends a year by its own
clock and starts one in universal time. -/
def shiftedText : String :=
  "[\x7b\"user\":null\x7d,\"\\u00e9\\/\",\"1999-12-31 23:59:60.1230-00:01\"]"

/-- The message that it says. -/
def leapMessage : DatedMessage := ⟨.user, "é/", ⟨946684859, 1123000000⟩⟩

theorem canonical_wire_types_leap_second :
    Reads datedMessage? shiftedText leapMessage ∧
      written writeDatedMessage leapMessage =
        "\x7b\"role\":\"user\",\"content\":\"é/\",\"timestamp\":\"2000-01-01T00:00:60.123Z\"\x7d" ∧
      Reads datedMessage? (written writeDatedMessage leapMessage) leapMessage ∧
      normalize datedMessage? writeDatedMessage (written writeDatedMessage leapMessage) =
        .ok (written writeDatedMessage leapMessage) := by
  obtain ⟨-, -, -, -, hdated⟩ := canonical_wire_types
  have hread : Reads datedMessage? shiftedText leapMessage := rfl
  exact ⟨hread, rfl, hdated.read_back _ _ hread, hdated.stable _ _ (hread.normalize_eq _)⟩

end ChatAssistant.Wire
