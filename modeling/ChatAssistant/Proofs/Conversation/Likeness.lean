import ChatAssistant.Proofs.Config.Agreement
import ChatAssistant.Proofs.Conversation.Desk
import Mathlib.Data.List.Forall2

/-!
# Conversations that look alike

Two desks go through moves side by side.  What a likeness says of configurations, updates and outcomes is
kept by every move: the users, the receivers and the gateway see the same of both desks, and so does a
reader of the log who looks at some of the reports only.
-/

namespace ChatAssistant.Conversation

/-- The reports on tokens for an outcome: one if its counts were readable and the configuration asks for it, and
none otherwise. -/
def usageLines (config : Config) : Outcome → List Log.Event
  | .ok ⟨_, some usage⟩ => if config.showTokenUsage then [.tokenUsage usage] else []
  | .ok ⟨_, none⟩ => []
  | .error _ => []

theorem usageLog_eq (config : Config) (completion : Completion) :
    Client.usageLog config completion = usageLines config (.ok completion) := by
  obtain ⟨content, usage⟩ := completion
  cases usage with
  | none => exact ite_self _
  | some usage => rfl

/-- Which configurations, updates and outcomes look alike to those who see some of the reports. -/
structure Likeness where
  config : Config → Config → Prop
  update : Config.Update → Config.Update → Prop
  outcome : Outcome → Outcome → Prop
  shows : Log.Event → Bool
  hasApiKey_eq {c other : Config} : config c other → c.hasApiKey = other.hasApiKey
  provider_eq {c other : Config} : config c other → c.provider = other.provider
  model_eq {c other : Config} : config c other → c.model = other.model
  apply {c other : Config} {u v : Config.Update} :
    update u v → config c other → config (u.apply c) (v.apply other)
  log_eq {u v : Config.Update} : update u v → u.log.filter shows = v.log.filter shows
  content_eq {o p : Outcome} : outcome o p → o.map Completion.content = p.map Completion.content
  usage_eq {c other : Config} {o p : Outcome} : config c other → outcome o p →
    (usageLines c o).filter shows = (usageLines other p).filter shows

namespace Likeness

variable (L : Likeness)

/-! ## What is alike -/

structure Clients (c other : Client) : Prop where
  config : L.config c.config other.config
  history : c.history = other.history
  replies : c.replies = other.replies

structure Requests (r other : Request) : Prop where
  config : L.config r.config other.config
  messages : r.messages = other.messages

inductive Calls : Call → Call → Prop
  | answered (text : String) : Calls (.answered text) (.answered text)
  | waiting {r other : Request} : L.Requests r other → Calls (.waiting r) (.waiting other)

structure InFlight (call other : Pending) : Prop where
  label : call.label = other.label
  purpose : call.purpose = other.purpose
  request : L.Requests call.request other.request

structure Desks (d other : Desk) : Prop where
  client : L.Clients d.client other.client
  begun : d.begun = other.begun
  pending : List.Forall₂ L.InFlight d.pending other.pending
  receivers : d.receivers = other.receivers

structure Results (r other : Result) : Prop where
  requests : List.Forall₂ L.Requests r.requests other.requests
  reply : r.reply = other.reply
  delivery : r.delivery = other.delivery

inductive Moves : Move → Move → Prop
  | chat (label : Nat) (message : String) (context : Option String) :
      Moves (.chat label message context) (.chat label message context)
  | ask (label : Nat) (question : Question) : Moves (.ask label question) (.ask label question)
  | answer (label : Nat) {o p : Outcome} : L.outcome o p → Moves (.answer label o) (.answer label p)
  | clear : Moves .clear .clear
  | configure {u v : Config.Update} : L.update u v → Moves (.configure u) (.configure v)
  | subscribe : Moves .subscribe .subscribe
  | receive (listener : Nat) : Moves (.receive listener) (.receive listener)

/-- Logs that are the same but for the reports that are not shown. -/
def Logs (log other : List Log.Event) : Prop := log.filter L.shows = other.filter L.shows

/-- Steps of a client with values that are related. -/
structure Steps {α : Type} (R : α → α → Prop) (step other : Step α) : Prop where
  client : L.Clients step.client other.client
  value : R step.value other.value
  log : L.Logs step.log other.log

end Likeness

theorem rel_bind {α β γ δ : Type} {R : α → β → Prop} {S : γ → δ → Prop} {a : Option α} {b : Option β}
    (h : Option.Rel R a b) {f : α → Option γ} {g : β → Option δ}
    (hfg : ∀ x y, R x y → Option.Rel S (f x) (g y)) : Option.Rel S (a.bind f) (b.bind g) := by
  cases h with
  | none => exact .none
  | some hxy => exact hfg _ _ hxy

theorem rel_imp {α β : Type} {R S : α → β → Prop} {a : Option α} {b : Option β}
    (h : Option.Rel R a b) (himp : ∀ x y, a = some x → b = some y → R x y → S x y) :
    Option.Rel S a b := by
  cases h with
  | none => exact .none
  | some hxy => exact .some (himp _ _ rfl rfl hxy)

theorem rel_map {α β γ δ : Type} {R : α → β → Prop} {S : γ → δ → Prop} {a : Option α} {b : Option β}
    (h : Option.Rel R a b) {f : α → γ} {g : β → δ} (hfg : ∀ x y, R x y → S (f x) (g y)) :
    Option.Rel S (a.map f) (b.map g) := by
  cases h with
  | none => exact .none
  | some hxy => exact .some (hfg _ _ hxy)

namespace Likeness

variable {L : Likeness}

theorem Logs.refl (log : List Log.Event) : L.Logs log log := rfl

theorem Logs.append {log other more others : List Log.Event} (h : L.Logs log other)
    (hmore : L.Logs more others) : L.Logs (log ++ more) (other ++ others) := by
  unfold Logs at *
  rw [List.filter_append, List.filter_append, h, hmore]

theorem map_eq_of_requests {α : Type} {f : Request → α} {requests others : List Request}
    (h : List.Forall₂ L.Requests requests others)
    (hf : ∀ r request, L.Requests r request → f r = f request) : requests.map f = others.map f := by
  induction h with
  | nil => rfl
  | cons hr _ ih => rw [List.map_cons, List.map_cons, hf _ _ hr, ih]

/-! ## Steps of a client -/

section Clients

variable {c other : Client}

theorem Clients.ask (h : L.Clients c other) (messages : List Message) :
    L.Steps L.Calls (c.ask messages) (other.ask messages) := by
  have hkey := L.hasApiKey_eq h.config
  unfold Client.ask
  rw [hkey]
  split
  · rw [L.provider_eq h.config, L.model_eq h.config]
    exact ⟨h, .waiting ⟨h.config, rfl⟩, .refl _⟩
  · exact ⟨h, .answered _, .refl _⟩

theorem Clients.record (h : L.Clients c other) (generation : Nat) (text : String) :
    L.Steps Eq (c.record generation text) (other.record generation text) := by
  unfold Client.record
  dsimp only
  rw [h.history]
  split
  · exact ⟨⟨h.config, rfl, by rw [h.replies]⟩, rfl, .refl _⟩
  · exact ⟨h, rfl, .refl _⟩

theorem Clients.clear (h : L.Clients c other) : L.Steps Eq c.clear other.clear :=
  ⟨⟨h.config, congrArg History.clear h.history, h.replies⟩, rfl, .refl _⟩

/-- Two outcomes that say the same to a user: a text each, or one failure. -/
theorem outcome_cases {o p : Outcome} (h : L.outcome o p) :
    (∃ completion answer, o = .ok completion ∧ p = .ok answer ∧
      completion.content = answer.content) ∨ ∃ failure, o = .error failure ∧ p = .error failure := by
  have hcontent := L.content_eq h
  cases o with
  | ok completion =>
    cases p with
    | ok answer => exact .inl ⟨completion, answer, rfl, rfl, Except.ok.inj hcontent⟩
    | error failure => cases hcontent
  | error failure =>
    cases p with
    | ok answer => cases hcontent
    | error failure' => cases hcontent; exact .inr ⟨failure, rfl, rfl⟩

theorem logs_usageLog {r request : Config} (hconfig : L.config r request) {completion answer : Completion}
    (h : L.outcome (.ok completion) (.ok answer)) :
    L.Logs (Client.usageLog r completion) (Client.usageLog request answer) := by
  rw [usageLog_eq, usageLog_eq]
  exact L.usage_eq hconfig h

theorem Clients.finish (h : L.Clients c other) {r request : Request} (hrequest : L.Requests r request)
    {o p : Outcome} (ho : L.outcome o p) : L.Steps Eq (c.finish r o) (other.finish request p) := by
  rcases outcome_cases ho with ⟨completion, answer, rfl, rfl, hcontent⟩ | ⟨failure, rfl, rfl⟩
  · exact ⟨h, hcontent, logs_usageLog hrequest.config ho⟩
  · exact ⟨h, rfl, .refl _⟩

theorem Clients.finishChat (h : L.Clients c other) (generation : Nat) {r request : Request}
    (hrequest : L.Requests r request) {o p : Outcome} (ho : L.outcome o p) :
    L.Steps Eq (c.finishChat generation r o) (other.finishChat generation request p) := by
  rcases outcome_cases ho with ⟨completion, answer, rfl, rfl, hcontent⟩ | ⟨failure, rfl, rfl⟩
  · obtain ⟨hclient, hvalue, hlog⟩ := h.record generation completion.content
    rw [hcontent] at hclient hvalue hlog
    simp only [Client.finishChat, hcontent]
    exact ⟨hclient, hvalue, Logs.append (logs_usageLog hrequest.config ho) hlog⟩
  · exact ⟨h, rfl, .refl _⟩

/-- Chats of one generation whose calls are alike. -/
structure Chats (L : Likeness) (chat other : Client.Chat) : Prop where
  generation : chat.generation = other.generation
  call : L.Calls chat.call other.call

theorem Clients.beginChat (h : L.Clients c other) (message : String) (context : Option String) :
    L.Steps L.Chats (c.beginChat message context) (other.beginChat message context) := by
  obtain ⟨config, history, replies⟩ := c
  obtain ⟨config', history', replies'⟩ := other
  obtain ⟨hconfig, hhistory, hreplies⟩ := h
  dsimp only at hconfig hhistory hreplies
  subst hhistory hreplies
  have hpushed : L.Clients ⟨config, history.push ⟨.user, message⟩, replies⟩
      ⟨config', history.push ⟨.user, message⟩, replies⟩ := ⟨hconfig, rfl, rfl⟩
  obtain ⟨hclient, hcall, hlog⟩ := hpushed.ask
    (Client.chatMessages (history.push ⟨.user, message⟩) context)
  exact ⟨hclient, ⟨rfl, hcall⟩, hlog⟩

end Clients

/-! ## Moves -/

theorem Moves.refl (hupdate : ∀ u, L.update u u) (houtcome : ∀ o, L.outcome o o) (m : Move) :
    L.Moves m m := by
  cases m with
  | chat label message context => exact .chat label message context
  | ask label question => exact .ask label question
  | answer label outcome => exact .answer label (houtcome outcome)
  | clear => exact .clear
  | configure update => exact .configure (hupdate update)
  | subscribe => exact .subscribe
  | receive listener => exact .receive listener

section Desks

variable {d e : Desk} {m n : Move}

theorem Desks.await (h : L.Desks d e) (label : Nat) (purpose : Purpose) {call other : Call}
    (hcall : L.Calls call other) :
    L.Desks (d.await label purpose call).1 (e.await label purpose other).1 ∧
      L.Results (d.await label purpose call).2 (e.await label purpose other).2 := by
  have hbegun : label :: d.begun = label :: e.begun := by rw [h.begun]
  cases hcall with
  | answered text => exact ⟨⟨h.client, hbegun, h.pending, h.receivers⟩, .nil, rfl, rfl⟩
  | waiting hrequest =>
    exact ⟨⟨h.client, hbegun, List.rel_append h.pending (.cons ⟨rfl, rfl, hrequest⟩ .nil), h.receivers⟩,
      .cons hrequest .nil, rfl, rfl⟩

theorem rel_find? {calls others : List Pending} (h : List.Forall₂ L.InFlight calls others)
    (label : Nat) :
    Option.Rel L.InFlight (calls.find? (·.label == label)) (others.find? (·.label == label)) := by
  induction h with
  | nil => exact .none
  | cons hcall _ ih =>
    rw [List.find?_cons, List.find?_cons, hcall.label]
    split
    · exact .some hcall
    · exact ih

theorem forall₂_filter {calls others : List Pending} (h : List.Forall₂ L.InFlight calls others)
    (label : Nat) :
    List.Forall₂ L.InFlight (calls.filter (·.label != label)) (others.filter (·.label != label)) :=
  List.rel_filter (fun _ _ hcall => by simp only [hcall.label]) h

theorem Desks.finish (h : L.Desks d e) {call other : Pending} (hcall : L.InFlight call other)
    {o p : Outcome} (ho : L.outcome o p) : L.Steps Eq (d.finish call o) (e.finish other p) := by
  unfold Desk.finish
  rw [hcall.purpose]
  cases other.purpose with
  | chat generation => exact h.client.finishChat generation hcall.request ho
  | question => exact h.client.finish hcall.request ho

/-- What a move leads to from two desks. -/
def Moved (L : Likeness) : Option (Desk × Result) → Option (Desk × Result) → Prop :=
  Option.Rel fun r s => L.Desks r.1 s.1 ∧ L.Results r.2 s.2

theorem Results.empty : L.Results {} {} := ⟨.nil, rfl, rfl⟩

/-- Alike desks with other clients that are alike. -/
theorem Desks.withClient (h : L.Desks d e) {client other : Client} (hclient : L.Clients client other) :
    L.Desks { d with client } { e with client := other } :=
  ⟨hclient, h.begun, h.pending, h.receivers⟩

theorem Desks.move_chat (h : L.Desks d e) (label : Nat) (message : String)
    (context : Option String) :
    L.Logs (d.log (.chat label message context)) (e.log (.chat label message context)) ∧
      L.Moved (d.move? (.chat label message context)) (e.move? (.chat label message context)) := by
  obtain ⟨hclient, ⟨hgeneration, hcall⟩, hlog⟩ := h.client.beginChat message context
  have hfresh : label ∈ d.begun ↔ label ∈ e.begun := by rw [h.begun]
  simp only [Desk.log, Desk.move?, hfresh]
  generalize d.client.beginChat message context = step at *
  generalize e.client.beginChat message context = other at *
  obtain ⟨client, ⟨generation, call⟩, log⟩ := step
  obtain ⟨client', ⟨generation', call'⟩, log'⟩ := other
  dsimp only at hclient hgeneration hcall hlog
  subst hgeneration
  cases hcall with
  | answered text =>
    have hrecord := hclient.record generation text
    refine ⟨hlog.append hrecord.log, ?_⟩
    split
    · exact .none
    · exact .some ((h.withClient hrecord.client).await label (.chat generation) (.answered text))
  | waiting hrequest =>
    refine ⟨hlog, ?_⟩
    split
    · exact .none
    · exact .some ((h.withClient hclient).await label (.chat generation) (.waiting hrequest))

theorem Desks.move_ask (h : L.Desks d e) (label : Nat) (question : Question) :
    L.Logs (d.log (.ask label question)) (e.log (.ask label question)) ∧
      L.Moved (d.move? (.ask label question)) (e.move? (.ask label question)) := by
  obtain ⟨hclient, hcall, hlog⟩ := h.client.ask question.messages
  have hfresh : label ∈ d.begun ↔ label ∈ e.begun := by rw [h.begun]
  simp only [Desk.log, Desk.move?, hfresh, Question.ask_eq]
  refine ⟨hlog, ?_⟩
  split
  · exact .none
  · exact .some ((h.withClient hclient).await label .question hcall)

theorem Desks.move_answer (h : L.Desks d e) (label : Nat) {o p : Outcome} (ho : L.outcome o p) :
    L.Logs (d.log (.answer label o)) (e.log (.answer label p)) ∧
      L.Moved (d.move? (.answer label o)) (e.move? (.answer label p)) := by
  have hcall := rel_find? h.pending label
  simp only [Desk.log, Desk.move?]
  revert hcall
  generalize d.pending.find? (·.label == label) = found
  generalize e.pending.find? (·.label == label) = other
  rintro (hcall | _)
  · obtain ⟨hclient, hvalue, hlog⟩ := h.finish hcall ho
    exact ⟨hlog, .some ⟨⟨hclient, h.begun, forall₂_filter h.pending label, h.receivers⟩,
      .nil, congrArg some hvalue, rfl⟩⟩
  · exact ⟨.refl _, .none⟩

theorem Desks.move_receive (h : L.Desks d e) (listener : Nat) :
    L.Moved (d.move? (.receive listener)) (e.move? (.receive listener)) := by
  simp only [Desk.move?, h.receivers, h.client.replies]
  cases e.receivers[listener]? with
  | none => exact .none
  | some receiver =>
    rw [Option.bind_some, Option.bind_some]
    cases e.client.replies.receive? receiver with
    | none => exact .none
    | some got =>
      exact .some ⟨⟨h.client, h.begun, h.pending, rfl⟩, .nil, rfl, rfl⟩

/-- Alike desks stay alike through alike moves, and the moves hand out and report the same. -/
theorem Desks.move (h : L.Desks d e) (hm : L.Moves m n) :
    L.Logs (d.log m) (e.log n) ∧ L.Moved (d.move? m) (e.move? n) := by
  cases hm with
  | chat label message context => exact h.move_chat label message context
  | ask label question => exact h.move_ask label question
  | answer label ho => exact h.move_answer label ho
  | clear =>
    obtain ⟨hclient, -, hlog⟩ := h.client.clear
    exact ⟨hlog, .some ⟨h.withClient hclient, .empty⟩⟩
  | configure hupdate =>
    have hclient := L.apply hupdate h.client.config
    exact ⟨L.log_eq hupdate,
      .some ⟨h.withClient ⟨hclient, h.client.history, h.client.replies⟩, .empty⟩⟩
  | subscribe =>
    refine ⟨.refl _, .some ⟨⟨h.client, h.begun, h.pending, ?_⟩, .empty⟩⟩
    rw [h.receivers, h.client.replies]
  | receive listener => exact ⟨.refl _, h.move_receive listener⟩

/-! ## Runs -/

/-- Moves that were made, with all that is seen of them. -/
structure Turns (L : Likeness) (t u : Turn) : Prop where
  move : L.Moves t.move u.move
  result : L.Results t.result u.result
  log : L.Logs t.log u.log
  after : L.Desks t.after u.after

/-- Steps of two plans that lead to alike moves at alike desks. -/
def Plans (L : Likeness) (step other : Desk → Option Move) : Prop :=
  ∀ d e, L.Desks d e → Option.Rel L.Moves (step d) (other e)

/-- Alike plans are carried out at alike desks to the same end, and look the same on the way. -/
theorem Desks.follow (h : L.Desks d e) {plan other : List (Desk → Option Move)}
    (hplan : List.Forall₂ L.Plans plan other) :
    Option.Rel (fun r s => List.Forall₂ L.Turns r.1 s.1 ∧ L.Desks r.2 s.2)
      (d.follow? plan) (e.follow? other) := by
  induction hplan generalizing d e with
  | nil => exact .some ⟨.nil, h⟩
  | @cons step step' plan other hstep _ ih =>
    refine rel_bind (hstep d e h) fun m n hmoves => ?_
    obtain ⟨hlog, hmoved⟩ := h.move hmoves
    refine rel_bind hmoved fun moved moved' hafter => ?_
    exact rel_map (ih hafter.1) fun rest rest' hrest =>
      ⟨.cons ⟨hmoves, hafter.2, hlog, hafter.1⟩ hrest.1, hrest.2⟩

theorem Desks.run (h : L.Desks d e) {list other : List Move} (hlist : List.Forall₂ L.Moves list other) :
    Option.Rel (fun r s => List.Forall₂ L.Turns r.1 s.1 ∧ L.Desks r.2 s.2)
      (d.run? list) (e.run? other) := by
  rw [Desk.run?_eq_follow?, Desk.run?_eq_follow?]
  refine h.follow ?_
  rw [List.forall₂_map_left_iff, List.forall₂_map_right_iff]
  exact hlist.imp fun m n hm _ _ _ => .some hm

theorem desks_ofConfig {c other : Config} (h : L.config c other) :
    L.Desks (.ofConfig c) (.ofConfig other) :=
  ⟨⟨h, rfl, rfl⟩, rfl, .nil, rfl⟩

end Desks

end Likeness

end ChatAssistant.Conversation
