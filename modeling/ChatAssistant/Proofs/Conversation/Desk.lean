import ChatAssistant.Conversation.Client
import ChatAssistant.Proofs.Config.Update

/-!
# A client at work

Calls overlap: one begins while others are in flight, and they are answered in any order.  A desk is a
client with its calls in flight and its receivers, and the moves are all that may happen to it.
-/

namespace ChatAssistant.Conversation

/-- What a one-shot call asks. -/
inductive Question
  | file (content instruction : String)
  | action (action : CodeAction) (content : String)
  | prompt (text : String)

def Question.ask (c : Client) : Question → Step Call
  | file content instruction => c.beginFile content instruction
  | action a content => c.beginAction a content
  | prompt text => c.beginComplete text

/-- The messages of a one-shot call. -/
def Question.messages : Question → List Message
  | file content instruction =>
    [⟨.system, Prompt.codePersona⟩, ⟨.user, Prompt.file content instruction⟩]
  | action a content =>
    [⟨.system, Prompt.codePersona⟩, ⟨.user, Prompt.file content a.instruction⟩]
  | prompt text => [⟨.user, text⟩]

/-- What the outcome of a request is for. -/
inductive Purpose
  | chat (generation : Nat)
  | question
  deriving DecidableEq

/-- A call in flight. -/
structure Pending where
  label : Nat
  purpose : Purpose
  request : Request

structure Desk where
  client : Client
  /-- The labels of all calls that have begun. -/
  begun : List Nat
  pending : List Pending
  receivers : List Receiver

inductive Move
  /-- A chat begins.  Without a key it ends at once. -/
  | chat (label : Nat) (message : String) (context : Option String)
  | ask (label : Nat) (question : Question)
  /-- A call in flight ends. -/
  | answer (label : Nat) (outcome : Outcome)
  | clear
  | configure (update : Config.Update)
  | subscribe
  | receive (listener : Nat)

/-- What a move hands out. -/
structure Result where
  requests : List Request := []
  reply : Option String := none
  delivery : Option (Delivery Message) := none
  deriving DecidableEq

namespace Desk

/-- A new client on which no call has begun. -/
def ofConfig (config : Config) : Desk := ⟨Client.ofConfig config, [], [], []⟩

/-- A call under this label has begun: it has its text, or it is in flight. -/
def await (d : Desk) (label : Nat) (purpose : Purpose) : Call → Desk × Result
  | .answered text => ({ d with begun := label :: d.begun }, { reply := some text })
  | .waiting request =>
    ({ d with
        begun := label :: d.begun
        pending := d.pending ++ [⟨label, purpose, request⟩] },
      { requests := [request] })

/-- The end of a call. -/
def finish (d : Desk) (call : Pending) (outcome : Outcome) : Step String :=
  match call.purpose with
  | .chat generation => d.client.finishChat generation call.request outcome
  | .question => d.client.finish call.request outcome

/-- The desk after a move, and what the move hands out, if it can be made. -/
def move? (d : Desk) : Move → Option (Desk × Result)
  | .chat label message context =>
    if label ∈ d.begun then none
    else
      let step := d.client.beginChat message context
      -- A text that is there already is recorded before anything else can happen.
      let client :=
        match step.value.call with
        | .answered text => (step.client.record step.value.generation text).client
        | .waiting _ => step.client
      some ({ d with client }.await label (.chat step.value.generation) step.value.call)
  | .ask label question =>
    if label ∈ d.begun then none
    else
      let step := question.ask d.client
      some ({ d with client := step.client }.await label .question step.value)
  | .answer label outcome =>
    (d.pending.find? (·.label == label)).map fun call =>
      let step := d.finish call outcome
      ({ d with client := step.client, pending := d.pending.filter (·.label != label) },
        { reply := some step.value })
  | .clear => some ({ d with client := d.client.clear.client }, {})
  | .configure update =>
    some ({ d with client := { d.client with config := update.apply d.client.config } }, {})
  | .subscribe => some ({ d with receivers := d.receivers ++ [d.client.replies.subscribe] }, {})
  | .receive listener =>
    (d.receivers[listener]?).bind fun receiver =>
      (d.client.replies.receive? receiver).map fun (delivery, receiver) =>
        ({ d with receivers := d.receivers.set listener receiver }, { delivery := some delivery })

/-- The log of a move. -/
def log (d : Desk) : Move → List Log.Event
  | .chat _ message context =>
    let step := d.client.beginChat message context
    match step.value.call with
    | .answered text => step.log ++ (step.client.record step.value.generation text).log
    | .waiting _ => step.log
  | .ask _ question => (question.ask d.client).log
  | .answer label outcome =>
    match d.pending.find? (·.label == label) with
    | some call => (d.finish call outcome).log
    | none => []
  | .clear => d.client.clear.log
  | .configure update => update.log
  | .subscribe | .receive _ => []

end Desk

/-- The text that a user gets for an outcome. -/
def textOf : Outcome → String
  | .ok completion => completion.content
  | .error failure => failure.userMessage

/-! ## Single steps of the client -/

namespace Client

variable {c : Client}

theorem ask_of_key (h : c.config.hasApiKey = true) (messages : List Message) :
    c.ask messages = ⟨c, .waiting ⟨c.config, messages⟩,
      [.requestSent c.config.model c.config.provider messages.length]⟩ :=
  if_pos h

theorem ask_of_no_key (h : ¬ c.config.hasApiKey = true) (messages : List Message) :
    c.ask messages = ⟨c, .answered Prompt.missingCredential, []⟩ :=
  if_neg h

-- A chat begins: its message is in the history already when the request is made.
theorem beginChat_of_key (h : c.config.hasApiKey = true) (message : String)
    (context : Option String) :
    c.beginChat message context =
      ⟨{ c with history := c.history.push ⟨.user, message⟩ },
        ⟨c.history.generation,
          .waiting ⟨c.config, chatMessages (c.history.push ⟨.user, message⟩) context⟩⟩,
        [.requestSent c.config.model c.config.provider
          (chatMessages (c.history.push ⟨.user, message⟩) context).length]⟩ := by
  simp only [beginChat, ask, h, if_true]
  rfl

theorem beginChat_of_no_key (h : ¬ c.config.hasApiKey = true) (message : String)
    (context : Option String) :
    c.beginChat message context =
      ⟨{ c with history := c.history.push ⟨.user, message⟩ },
        ⟨c.history.generation, .answered Prompt.missingCredential⟩, []⟩ := by
  simp only [beginChat, ask, if_neg h]
  rfl

theorem record_current (text : String) :
    (c.record c.history.generation text).client =
      { c with
        history := c.history.push ⟨.assistant, text⟩
        replies := c.replies.send ⟨.assistant, text⟩ } := by
  simp only [record, History.pushIfCurrent, if_true]

theorem record_late {generation : Nat} (h : generation ≠ c.history.generation) (text : String) :
    (c.record generation text).client = c := by
  simp only [record, History.pushIfCurrent, if_neg h]

theorem value_record (generation : Nat) (text : String) : (c.record generation text).value = text := by
  simp only [record]
  split <;> rfl

end Client

theorem Question.ask_eq (question : Question) (c : Client) :
    question.ask c = c.ask question.messages := by
  cases question <;> rfl

/-! ## Single moves -/

/-- The label of the call that begins with the move, if one does. -/
def Move.begins? : Move → Option Nat
  | chat label _ _ => some label
  | ask label _ => some label
  | _ => none

namespace Desk

variable {d e : Desk} {m : Move} {result : Result}

-- What a move can do, the changes of the client aside.
theorem move?_cases (h : d.move? m = some (e, result)) :
    (∃ label client purpose call, m.begins? = some label ∧ label ∉ d.begun ∧
      { d with client }.await label purpose call = (e, result)) ∨
    (∃ label outcome call client, m = .answer label outcome ∧
      d.pending.find? (·.label == label) = some call ∧
      e = { d with client, pending := d.pending.filter (·.label != label) }) ∨
    ((m = .clear ∨ ∃ update, m = .configure update) ∧ ∃ client, e = { d with client }) ∨
    (m = .subscribe ∧ e = { d with receivers := d.receivers ++ [d.client.replies.subscribe] }) ∨
    (∃ listener receiver delivery next, m = .receive listener ∧
      d.receivers[listener]? = some receiver ∧
      d.client.replies.receive? receiver = some (delivery, next) ∧
      e = { d with receivers := d.receivers.set listener next } ∧
      result.delivery = some delivery) := by
  cases m with
  | chat label message context =>
    simp only [move?] at h
    split at h
    · cases h
    · next hfresh => exact .inl ⟨label, _, _, _, rfl, hfresh, Option.some.inj h⟩
  | ask label question =>
    simp only [move?] at h
    split at h
    · cases h
    · next hfresh => exact .inl ⟨label, _, _, _, rfl, hfresh, Option.some.inj h⟩
  | answer label outcome =>
    obtain ⟨call, hfind, heq⟩ := Option.map_eq_some_iff.mp h
    cases heq
    exact .inr (.inl ⟨label, outcome, call, _, rfl, hfind, rfl⟩)
  | clear =>
    cases h
    exact .inr (.inr (.inl ⟨.inl rfl, _, rfl⟩))
  | configure update =>
    cases h
    exact .inr (.inr (.inl ⟨.inr ⟨update, rfl⟩, _, rfl⟩))
  | subscribe =>
    cases h
    exact .inr (.inr (.inr (.inl ⟨rfl, rfl⟩)))
  | receive listener =>
    obtain ⟨receiver, hreceiver, hreceive⟩ := Option.bind_eq_some_iff.mp h
    obtain ⟨⟨delivery, next⟩, hnext, heq⟩ := Option.map_eq_some_iff.mp hreceive
    cases heq
    exact .inr (.inr (.inr (.inr
      ⟨listener, receiver, delivery, next, rfl, hreceiver, hnext, rfl, rfl⟩)))

theorem begun_await (d : Desk) (label : Nat) (purpose : Purpose) (call : Call) :
    (d.await label purpose call).1.begun = label :: d.begun := by
  cases call <;> rfl

-- The labels of calls are fresh when the calls begin, and remembered.
theorem begun_of_move? (h : d.move? m = some (e, result)) :
    e.begun = m.begins?.toList ++ d.begun ∧ ∀ label, m.begins? = some label → label ∉ d.begun := by
  rcases move?_cases h with ⟨label, client, purpose, call, hbegins, hfresh, heq⟩ |
    ⟨_, _, _, _, rfl, -, rfl⟩ | ⟨rfl | ⟨_, rfl⟩, _, rfl⟩ | ⟨rfl, rfl⟩ |
    ⟨_, _, _, _, rfl, -, -, rfl, -⟩
  · have hbegun := begun_await { d with client } label purpose call
    rw [heq] at hbegun
    rw [hbegins]
    exact ⟨hbegun, fun _ hlabel => by cases hlabel; exact hfresh⟩
  all_goals exact ⟨rfl, fun _ hlabel => by cases hlabel⟩

theorem pending_await (d : Desk) (label : Nat) (purpose : Purpose) (call : Call) :
    ∀ other ∈ (d.await label purpose call).1.pending, other ∈ d.pending ∨
      (other.label = label ∧ (d.await label purpose call).2.reply = none) := by
  intro other hother
  cases call with
  | answered text => exact .inl hother
  | waiting request =>
    rcases List.mem_append.mp hother with hother | hother
    · exact .inl hother
    · rw [List.mem_singleton.mp hother]
      exact .inr ⟨rfl, rfl⟩

-- A call comes into flight only where it begins and has no reply yet.
theorem pending_of_move? (h : d.move? m = some (e, result)) :
    ∀ call ∈ e.pending, call ∈ d.pending ∨ (m.begins? = some call.label ∧ result.reply = none) := by
  intro call hcall
  rcases move?_cases h with ⟨label, client, purpose, begun, hbegins, -, heq⟩ |
    ⟨_, _, _, _, -, -, rfl⟩ | ⟨-, _, rfl⟩ | ⟨-, rfl⟩ | ⟨_, _, _, _, -, -, -, rfl, -⟩
  · have hpending := pending_await { d with client } label purpose begun call
    rw [heq] at hpending
    exact (hpending hcall).imp_right fun hnew => ⟨by rw [hbegins, hnew.1], hnew.2⟩
  · exact .inl (List.mem_filter.mp hcall).1
  all_goals exact .inl hcall

-- What is answered was in flight, and is not any more.
theorem pending_of_answer {label : Nat} {outcome : Outcome}
    (h : d.move? (.answer label outcome) = some (e, result)) :
    (∃ call ∈ d.pending, call.label = label) ∧ ∀ call ∈ e.pending, call.label ≠ label := by
  obtain ⟨ended, hfind, heq⟩ := Option.map_eq_some_iff.mp h
  cases heq
  constructor
  · exact ⟨ended, List.mem_of_find?_eq_some hfind, by simpa using List.find?_some hfind⟩
  · intro call hcall
    simpa using (List.mem_filter.mp hcall).2

theorem value_finish (d : Desk) (call : Pending) (outcome : Outcome) :
    (d.finish call outcome).value = textOf outcome := by
  unfold finish
  cases call.purpose with
  | question => cases outcome <;> rfl
  | chat generation =>
    cases outcome with
    | error failure => rfl
    | ok completion => exact Client.value_record generation completion.content

theorem move?_answer {label : Nat} {call : Pending}
    (hfind : d.pending.find? (·.label == label) = some call) (outcome : Outcome) :
    d.move? (.answer label outcome) =
      some ({ d with
        client := (d.finish call outcome).client
        pending := d.pending.filter (·.label != label) },
        { reply := some (d.finish call outcome).value }) := by
  rw [move?, hfind]
  rfl

theorem receivers_await (d : Desk) (label : Nat) (purpose : Purpose) (call : Call) :
    (d.await label purpose call).1.receivers = d.receivers := by
  cases call <;> rfl

end Desk

/-- A move that was made. -/
structure Turn where
  before : Desk
  move : Move
  result : Result
  after : Desk

/-- Moves that are made in turn. -/
inductive Run : Desk → List Turn → Desk → Prop
  | nil (d : Desk) : Run d [] d
  | cons {d e f : Desk} {m : Move} {result : Result} {trace : List Turn} :
      d.move? m = some (e, result) → Run e trace f → Run d (⟨d, m, result, e⟩ :: trace) f

/-- The log of a move that was made. -/
def Turn.log (t : Turn) : List Log.Event := t.before.log t.move

def moves (trace : List Turn) : List Move := trace.map Turn.move

@[simp] theorem moves_cons (turn : Turn) (trace : List Turn) :
    moves (turn :: trace) = turn.move :: moves trace := rfl

theorem exists_turn_of_moves (list : List Move) {turns : List Turn} {rest : List Move} {m : Move}
    (h : moves turns = list ++ m :: rest) :
    ∃ earlier turn later, turns = earlier ++ turn :: later ∧ moves earlier = list ∧ turn.move = m ∧
      moves later = rest ∧ turns[list.length]? = some turn := by
  obtain ⟨earlier, tail, rfl, hearlier, htail⟩ := List.map_eq_append_iff.mp h
  obtain ⟨turn, later, rfl, hturn, hlater⟩ := List.map_eq_cons_iff.mp htail
  refine ⟨earlier, turn, later, rfl, hearlier, hturn, hlater, ?_⟩
  rw [← hearlier, List.length_map, List.getElem?_append_right (Nat.le_refl _), Nat.sub_self]
  rfl

/-- The trace of these moves and the desk after them, if all of them can be made. -/
def Desk.run? (d : Desk) : List Move → Option (List Turn × Desk)
  | [] => some ([], d)
  | m :: moves =>
    match d.move? m with
    | none => none
    | some (e, result) => (e.run? moves).map fun (trace, f) => (⟨d, m, result, e⟩ :: trace, f)

/-- The trace of a plan and the desk after it.  A step of a plan finds its move at the desk as it is
then. -/
def Desk.follow? (d : Desk) : List (Desk → Option Move) → Option (List Turn × Desk)
  | [] => some ([], d)
  | step :: plan =>
    (step d).bind fun m =>
      (d.move? m).bind fun (e, result) =>
        (e.follow? plan).map fun (trace, f) => (⟨d, m, result, e⟩ :: trace, f)

theorem Desk.run?_eq_follow? (d : Desk) (list : List Move) :
    d.run? list = d.follow? (list.map fun m _ => some m) := by
  induction list generalizing d with
  | nil => rfl
  | cons m list ih =>
    rw [run?, List.map_cons, follow?, Option.bind_some]
    cases d.move? m with
    | none => rfl
    | some moved => exact congrArg (Option.map _) (ih moved.1)

namespace Run

variable {d e f : Desk} {trace later : List Turn}

theorem append_iff : Run d (trace ++ later) f ↔ ∃ e, Run d trace e ∧ Run e later f := by
  induction trace generalizing d with
  | nil =>
    constructor
    · intro h
      exact ⟨d, .nil d, h⟩
    · rintro ⟨_, ⟨⟩, h⟩
      exact h
  | cons turn trace ih =>
    constructor
    · rintro (_ | ⟨hm, hrest⟩)
      obtain ⟨e, htrace, hlater⟩ := ih.mp hrest
      exact ⟨e, .cons hm htrace, hlater⟩
    · rintro ⟨e, _ | ⟨hm, htrace⟩, hlater⟩
      exact .cons hm (ih.mpr ⟨e, htrace, hlater⟩)

-- Each turn of a run was made where the turns before it lead.
theorem split {turn : Turn} (h : Run d (trace ++ turn :: later) f) :
    Run d trace turn.before ∧ turn.before.move? turn.move = some (turn.after, turn.result) ∧
      Run turn.after later f := by
  obtain ⟨e, htrace, hrest⟩ := append_iff.mp h
  cases hrest with
  | cons hm hlater => exact ⟨htrace, hm, hlater⟩

theorem exists_of_mem (h : Run d trace f) {turn : Turn} (hturn : turn ∈ trace) :
    ∃ earlier, Run d earlier turn.before ∧
      turn.before.move? turn.move = some (turn.after, turn.result) := by
  obtain ⟨earlier, later, rfl⟩ := List.append_of_mem hturn
  exact ⟨earlier, h.split.1, h.split.2.1⟩

theorem of_run? {list : List Move} (h : d.run? list = some (trace, e)) :
    Run d trace e ∧ moves trace = list := by
  induction list generalizing d trace with
  | nil =>
    cases h
    exact ⟨.nil _, rfl⟩
  | cons m list ih =>
    unfold Desk.run? at h
    split at h
    · cases h
    · next next result hm =>
      obtain ⟨⟨rest, _⟩, hrest, heq⟩ := Option.map_eq_some_iff.mp h
      cases heq
      obtain ⟨hrun, hmoves⟩ := ih hrest
      exact ⟨.cons hm hrun, by rw [moves_cons, hmoves]⟩

theorem of_follow? {plan : List (Desk → Option Move)}
    (h : d.follow? plan = some (trace, e)) : Run d trace e := by
  induction plan generalizing d trace with
  | nil =>
    cases h
    exact .nil _
  | cons step plan ih =>
    obtain ⟨m, hstep, h⟩ := Option.bind_eq_some_iff.mp h
    obtain ⟨⟨next, result⟩, hm, h⟩ := Option.bind_eq_some_iff.mp h
    obtain ⟨⟨rest, _⟩, hrest, heq⟩ := Option.map_eq_some_iff.mp h
    cases heq
    exact .cons hm (ih hrest)

theorem exists_of_run? (d : Desk) (list : List Move) (P : List Turn × Desk → Prop)
    [DecidablePred P] (h : (d.run? list).any (fun r => P r) = true) :
    ∃ trace e, Run d trace e ∧ moves trace = list ∧ P (trace, e) := by
  obtain ⟨⟨trace, e⟩, hrun, hP⟩ := (Option.any_eq_true _ _).mp h
  exact ⟨trace, e, (of_run? hrun).1, (of_run? hrun).2, of_decide_eq_true hP⟩

end Run

/-! ## Calls in one go -/

theorem find?_new {pending : List Pending} (call : Pending)
    (h : ∀ other ∈ pending, other.label ≠ call.label) :
    (pending ++ [call]).find? (·.label == call.label) = some call := by
  have hnone : pending.find? (·.label == call.label) = none :=
    List.find?_eq_none.mpr fun other hother => by simpa using h other hother
  rw [List.find?_append, hnone, Option.none_or]
  exact List.find?_cons_of_pos (beq_self_eq_true call.label)

variable {d : Desk} {label : Nat}

-- The call that began last can be answered.
theorem exists_answer_new {pending : List Pending} {call : Pending}
    (hpending : d.pending = pending ++ [call]) (hnew : ∀ other ∈ pending, other.label ≠ call.label)
    (outcome : Outcome) :
    ∃ e, d.move? (.answer call.label outcome) =
        some (e, { reply := some (d.finish call outcome).value }) ∧
      e.client = (d.finish call outcome).client := by
  have hfind := find?_new call hnew
  rw [← hpending] at hfind
  exact ⟨_, Desk.move?_answer hfind outcome, rfl⟩

/-- A chat during which nothing else happens is a run of at most two moves. -/
theorem exists_run_chat (hfresh : label ∉ d.begun) (hpending : ∀ call ∈ d.pending, call.label ≠ label)
    (respond : Request → Outcome) (message : String) (context : Option String) :
    ∃ trace e, Run d trace e ∧ e.client = (d.client.chat respond message context).client ∧
      trace.getLast?.bind (·.result.reply) =
        some (d.client.chat respond message context).value := by
  have hchat : d.client.chat respond message context =
      Client.completeChat (d.client.beginChat message context) respond := rfl
  rw [hchat]
  -- With a key the chat takes two moves, and without one its text is recorded in the first.
  by_cases hkey : d.client.config.hasApiKey = true
  · have hbegin : ∃ e result, d.move? (.chat label message context) = some (e, result) ∧
        e.client = { d.client with history := d.client.history.push ⟨.user, message⟩ } ∧
        e.pending = d.pending ++ [⟨label, .chat d.client.history.generation, d.client.config,
          Client.chatMessages (d.client.history.push ⟨.user, message⟩) context⟩] := by
      rw [Desk.move?, if_neg hfresh, Client.beginChat_of_key hkey]
      exact ⟨_, _, rfl, rfl, rfl⟩
    obtain ⟨e, result, hbegin, hclient, hafter⟩ := hbegin
    obtain ⟨f, hend, hlast⟩ := exists_answer_new hafter hpending (respond ⟨d.client.config,
      Client.chatMessages (d.client.history.push ⟨.user, message⟩) context⟩)
    rw [Desk.finish, hclient] at hend hlast
    rw [Client.beginChat_of_key hkey]
    exact ⟨_, f, .cons hbegin (.cons hend (.nil f)), hlast, rfl⟩
  · have hbegin : ∃ e, d.move? (.chat label message context) =
          some (e, { reply := some Prompt.missingCredential }) ∧
        e.client = (Client.record { d.client with
          history := d.client.history.push ⟨.user, message⟩ } d.client.history.generation
            Prompt.missingCredential).client := by
      rw [Desk.move?, if_neg hfresh, Client.beginChat_of_no_key hkey]
      exact ⟨_, rfl, rfl⟩
    obtain ⟨e, hbegin, hclient⟩ := hbegin
    rw [Client.beginChat_of_no_key hkey]
    exact ⟨_, e, .cons hbegin (.nil e), hclient, congrArg some (Client.value_record _ _).symm⟩

end ChatAssistant.Conversation
