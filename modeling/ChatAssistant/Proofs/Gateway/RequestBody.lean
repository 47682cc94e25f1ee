import ChatAssistant.Gateway.Exchange
import ChatAssistant.Proofs.Config.Sendable
import ChatAssistant.Proofs.Gateway.Completion
import ChatAssistant.Proofs.Json.Figures
import ChatAssistant.Proofs.Json.Written

/-!
# The body of a request

What the gateway is sent is read back as what was asked: the model, the messages and the limit of tokens.
The text of a message cannot change anything else in the document, since it is read back as one string.
-/

namespace ChatAssistant.Gateway

open ChatAssistant.Json ChatAssistant.Conversation ChatAssistant.Number

/-! ## Messages -/

/-- A message as a document. -/
def messageDocument (m : Message) : Raw :=
  .object [(piecesOf "role", .ofText m.role.name), (piecesOf "content", .ofText m.content)]

/-- A message as a value. -/
def messageValue (m : Message) : Value :=
  .object [("content", .string m.content), ("role", .string m.role.name)]

theorem isText_writeMessage (m : Message) : (messageDocument m).IsText (Wire.writeMessage m) :=
  Raw.isText_writeObject
    (.cons ⟨rfl, Raw.isText_writeString m.role.name⟩
      (.cons ⟨rfl, Raw.isText_writeString m.content⟩ .nil))

theorem role?_ofText_name (role : Role) : Wire.role? (.ofText role.name) = some role :=
  Option.bind_eq_some_iff.mpr ⟨role.name, text?_piecesOf role.name, Role.ofName?_name role⟩

theorem message?_messageDocument (m : Message) : Wire.message? (messageDocument m) = some m := by
  have hfields : (messageDocument m).fields? ["role", "content"] =
      some [some (.ofText m.role.name), some (.ofText m.content)] :=
    Raw.fields?_ofMembers [("role", .ofText m.role.name), ("content", .ofText m.content)] rfl (by decide)
  simp [Wire.message?, hfields, role?_ofText_name, Raw.toText?_ofText]

theorem table_of_message {α : Type} (role content : α) :
    Table.ofList [("role", role), ("content", content)] =
      [("content", content), ("role", role)] := by
  simp only [Table.ofList, List.foldl_cons, List.foldl_nil, Table.insert, String.reduceLT, if_true]

theorem toValue?_messageDocument (depth : Nat) (m : Message) :
    (messageDocument m).toValue? (depth + 1) = some (messageValue m) := by
  simp [messageDocument, messageValue, Raw.ofText, Raw.toValue?, Raw.memberValues?, text?_piecesOf,
    table_of_message]

theorem itemValues?_messageDocument (depth : Nat) (messages : List Message) :
    Raw.itemValues? (depth + 1) (messages.map messageDocument) = some (messages.map messageValue) := by
  induction messages with
  | nil => rfl
  | cons m messages ih => simp [Raw.itemValues?, toValue?_messageDocument, ih]

theorem messageValue_injective : Function.Injective messageValue := by
  rintro ⟨role, content⟩ ⟨other, text⟩ h
  simp only [messageValue, Value.object.injEq, List.cons.injEq, Prod.mk.injEq, Value.string.injEq,
    true_and, and_true] at h
  obtain ⟨hcontent, hname⟩ := h
  have hrole := congrArg Role.ofName? hname
  rw [Role.ofName?_name, Role.ofName?_name] at hrole
  rw [hcontent, Option.some.inj hrole]

/-! ## Bodies -/

/-- A request as a document, with the text of its temperature. -/
def requestDocument (request : Request) (temperature : DecimalText) : Raw :=
  .object
    [(piecesOf "model", .ofText request.config.model),
     (piecesOf "messages", .array (request.messages.map messageDocument)),
     (piecesOf "temperature", .number temperature),
     (piecesOf "max_tokens", .number (countText request.config.maxTokens))]

/-- A request as a value, with the number that its temperature is read as. -/
def requestValue (request : Request) (temperature : Json.Number) : Value :=
  .object
    [("max_tokens", .number (.int request.config.maxTokens)),
     ("messages", .array (request.messages.map messageValue)),
     ("model", .string request.config.model),
     ("temperature", .number temperature)]

theorem isText_requestBody {request : Request} {temperature : DecimalText}
    (h : NumberSpelled temperature (temperatureLayout.write request.config.temperature).toList) :
    (requestDocument request temperature).IsText (requestBody request) := by
  have hmessages : List.Forall₂ Raw.IsText (request.messages.map Wire.writeMessage)
      (request.messages.map messageDocument) := by
    rw [List.forall₂_map_left_iff, List.forall₂_map_right_iff, List.forall₂_same]
    exact fun m _ => isText_writeMessage m
  exact Raw.isText_writeObject
    (.cons ⟨rfl, Raw.isText_writeString request.config.model⟩
      (.cons ⟨rfl, Raw.isText_writeArray hmessages⟩
        (.cons ⟨rfl, (Token.Spelled.number h).writes⟩
          (.cons ⟨rfl, (Token.Spelled.number (numberSpelled_writeInt _)).writes⟩ .nil))))

theorem table_of_request {α : Type} (model messages temperature tokens : α) :
    Table.ofList [("model", model), ("messages", messages), ("temperature", temperature),
      ("max_tokens", tokens)] =
      [("max_tokens", tokens), ("messages", messages), ("model", model),
        ("temperature", temperature)] := by
  simp only [Table.ofList, List.foldl_cons, List.foldl_nil, Table.insert, String.reduceLT,
    String.reduceEq, if_true, if_false]

theorem toValue?_requestDocument {request : Request} {temperature : DecimalText}
    {number : Json.Number} (htokens : request.config.maxTokens ≤ maxCount)
    (h : Json.Number.ofText? temperature = some number) :
    (requestDocument request temperature).toValue? depthLimit = some (requestValue request number) := by
  simp [requestDocument, requestValue, depthLimit, Raw.ofText, Raw.toValue?, Raw.memberValues?,
    text?_piecesOf, itemValues?_messageDocument, h, ofText?_countText htokens, table_of_request]

theorem exists_temperatureText {c : Config} (h : c.Sendable) :
    ∃ t, NumberSpelled t (temperatureLayout.write c.temperature).toList ∧ Small t := by
  refine exists_numberSpelled_write (Finite.within_of_value_le h.temperature) fun k hk hscientific => ?_
  simp only [temperatureLayout, Bool.and_eq_false_iff, decide_eq_false_iff_not] at hscientific
  omega

/-- A document says what is asked: it is an object with these four members and no other. -/
inductive Says (request : Request) : Raw → Prop
  | intro {members : List (List Piece × Raw)} {model messages tokens : Raw} {temperature : DecimalText} :
      members.map (fun member => text? member.1) =
        [some "model", some "messages", some "temperature", some "max_tokens"] →
      members.map Prod.snd = [model, messages, .number temperature, tokens] →
      model.toText? = some request.config.model →
      messages.items? Wire.message? = some request.messages →
      (Json.Number.ofText? temperature).isSome = true →
      tokens.count? = some request.config.maxTokens →
        Says request (.object members)

theorem items?_messageDocument (messages : List Message) :
    (Raw.array (messages.map messageDocument)).items? Wire.message? = some messages := by
  rw [Raw.items?]
  induction messages with
  | nil => rfl
  | cons m messages ih => simp [message?_messageDocument, ih]

theorem says_requestDocument {request : Request} {temperature : DecimalText}
    (htokens : request.config.maxTokens ≤ maxCount) (h : Small temperature) :
    Says request (requestDocument request temperature) := by
  refine .intro ?_ rfl (Raw.toText?_ofText _) (items?_messageDocument _) h.isSome_ofText?
    (count?_countText htokens)
  simp only [List.map_cons, List.map_nil, text?_piecesOf]

theorem maxTokens_le_maxCount {c : Config} (h : c.Sendable) : c.maxTokens ≤ maxCount :=
  h.tokens.2.trans (by decide)

theorem exists_parse?_requestBody {c : Config} (h : c.Reached) (messages : List Message)
    (referer : Option String) :
    ∃ document temperature,
      Raw.parse? (httpRequest referer ⟨c, messages⟩).body = some document ∧
        Says ⟨c, messages⟩ document ∧
          document.toValue? depthLimit = some (requestValue ⟨c, messages⟩ temperature) := by
  obtain ⟨t, hspelled, hsmall⟩ := exists_temperatureText h.sendable
  obtain ⟨number, hnumber⟩ := Option.isSome_iff_exists.mp hsmall.isSome_ofText?
  have htokens := maxTokens_le_maxCount h.sendable
  exact ⟨requestDocument ⟨c, messages⟩ t, number, Raw.parse?_of_isText (isText_requestBody hspelled),
    says_requestDocument htokens hsmall, toValue?_requestDocument htokens hnumber⟩

theorem eq_of_requestValue_eq {request other : Request} {temperature otherTemperature : Json.Number}
    (h : requestValue request temperature = requestValue other otherTemperature) :
    request.messages = other.messages ∧ request.config.model = other.config.model ∧
      request.config.maxTokens = other.config.maxTokens := by
  simp only [requestValue, Value.object.injEq, List.cons.injEq, Prod.mk.injEq, Value.number.injEq,
    Json.Number.int.injEq, Value.array.injEq, Value.string.injEq, true_and, and_true] at h
  obtain ⟨htokens, hmessages, hmodel, -⟩ := h
  exact ⟨List.map_injective_iff.mpr messageValue_injective hmessages, hmodel, by omega⟩

/-- The body of a request is read back as the request: an object with four members, in which the
messages are those that are sent, whatever their texts are.  So the body tells which messages, which
model and which limit of tokens are sent. -/
theorem requestBody_read_back {c other : Config} (h : c.Reached) (hother : other.Reached)
    (messages others : List Message) (referer page : Option String) :
    (∃ document temperature,
      Raw.parse? (httpRequest referer ⟨c, messages⟩).body = some document ∧
        Says ⟨c, messages⟩ document ∧
          Value.parse? (httpRequest referer ⟨c, messages⟩).body =
            some (requestValue ⟨c, messages⟩ temperature)) ∧
      ((httpRequest page ⟨other, others⟩).body = (httpRequest referer ⟨c, messages⟩).body →
        others = messages ∧ other.model = c.model ∧ other.maxTokens = c.maxTokens) := by
  obtain ⟨document, temperature, hparse, hsays, hvalue⟩ := exists_parse?_requestBody h messages referer
  obtain ⟨_, _, hparse', -, hvalue'⟩ := exists_parse?_requestBody hother others page
  refine ⟨⟨document, temperature, hparse, hsays, ?_⟩, fun hbody => ?_⟩
  · rw [Value.parse?, hparse, Option.bind_some, hvalue]
  · rw [hbody, hparse] at hparse'
    cases hparse'
    exact eq_of_requestValue_eq (Option.some.inj (hvalue'.symm.trans hvalue))

/-- A message that tries to end its own string and to name another model. -/
def quotingMessage : Message :=
  ⟨.user, "\"\x7d],\"model\":\"other\",\\\n\x01😀"⟩

theorem requestBody_read_back_quoting :
    (∃ document temperature,
      Raw.parse? (httpRequest none ⟨.default, [quotingMessage]⟩).body = some document ∧
        Says ⟨.default, [quotingMessage]⟩ document ∧
          Value.parse? (httpRequest none ⟨.default, [quotingMessage]⟩).body =
            some (requestValue ⟨.default, [quotingMessage]⟩ temperature)) ∧
      (httpRequest none ⟨.default, []⟩).body ≠
        (httpRequest none ⟨.default, [quotingMessage]⟩).body := by
  obtain ⟨hread, hsame⟩ := requestBody_read_back .default .default [quotingMessage] [] none none
  exact ⟨hread, fun hbody => absurd (hsame hbody).1 (List.cons_ne_nil _ _).symm⟩

end ChatAssistant.Gateway
