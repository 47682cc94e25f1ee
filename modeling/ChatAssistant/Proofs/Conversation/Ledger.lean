import ChatAssistant.Proofs.Conversation.Desk
import Mathlib.Data.List.DropRight

/-!
# Accounts of a conversation

A ledger is kept from the moves alone.  It has no generations: it knows which chats have begun since the
last clear, and so which replies belong to the conversation.  Every desk agrees with the ledger of the
moves that led to it.
-/

namespace ChatAssistant.Conversation

namespace Move

def isClear : Move → Bool
  | clear => true
  | _ => false

/-- The reply of the call that ends with the move, if one does. -/
def reply? (config : Config) : Move → Option String
  | chat .. => if config.hasApiKey then none else some Prompt.missingCredential
  | ask .. => if config.hasApiKey then none else some Prompt.missingCredential
  | answer _ outcome => some (textOf outcome)
  | _ => none

end Move

structure Ledger where
  config : Config
  /-- The chats that have begun since the last clear. -/
  current : List Nat
  entries : List Message

namespace Ledger

def ofConfig (config : Config) : Ledger := ⟨config, [], []⟩

/-- What a move adds to the history. -/
def added (l : Ledger) : Move → List Message
  | .chat _ message _ =>
    ⟨.user, message⟩ ::
      if l.config.hasApiKey then [] else [⟨.assistant, Prompt.missingCredential⟩]
  | .answer label (.ok completion) =>
    if label ∈ l.current then [⟨.assistant, completion.content⟩] else []
  | _ => []

/-- What a move adds for the receivers. -/
def replies (l : Ledger) (m : Move) : List Message := (l.added m).filter (·.role = .assistant)

/-- What a move sends to the gateway. -/
def requests (l : Ledger) : Move → List Request
  | .chat _ message context =>
    if l.config.hasApiKey then
      [⟨l.config, Message.mk .system Prompt.chatPersona ::
        (context.toList.map fun code => Message.mk .system (Prompt.context code)) ++
          (l.entries ++ [Message.mk .user message]).rtake History.windowSize⟩]
    else []
  | .ask _ question => if l.config.hasApiKey then [⟨l.config, question.messages⟩] else []
  | _ => []

def next (l : Ledger) (m : Move) : Ledger :=
  match m with
  | .chat label _ _ =>
    { l with current := label :: l.current, entries := l.entries ++ l.added m }
  | .answer _ _ => { l with entries := l.entries ++ l.added m }
  | .clear => { l with current := [], entries := [] }
  | .configure update => { l with config := update.apply l.config }
  | _ => l

def after (l : Ledger) (list : List Move) : Ledger := list.foldl next l

theorem after_append (l : Ledger) (list later : List Move) :
    l.after (list ++ later) = (l.after list).after later :=
  List.foldl_append

-- A move that does not clear the history only adds to it.
theorem entries_next (l : Ledger) {m : Move} (h : m.isClear = false) :
    (l.next m).entries = l.entries ++ l.added m := by
  cases m with
  | chat | answer => rfl
  | clear => cases h
  | ask | configure | subscribe | receive => exact (List.append_nil l.entries).symm

end Ledger

/-- The calls in flight, by the present generation and the labels of the conversation: a chat has this
generation exactly where it belongs to the conversation. -/
structure CallsAgree (generation : Nat) (begun : List Nat) (pending : List Pending)
    (current : List Nat) : Prop where
  current_begun : ∀ label ∈ current, label ∈ begun
  pending_begun : ∀ call ∈ pending, call.label ∈ begun
  le : ∀ call ∈ pending, ∀ g, call.purpose = .chat g → g ≤ generation
  eq_iff : ∀ call ∈ pending, ∀ g, call.purpose = .chat g →
    (g = generation ↔ call.label ∈ current)
  question : ∀ call ∈ pending, call.purpose = .question → call.label ∉ current

namespace CallsAgree

variable {generation label : Nat} {begun current : List Nat} {pending : List Pending}

theorem beginChat (h : CallsAgree generation begun pending current) (hfresh : label ∉ begun) :
    CallsAgree generation (label :: begun) pending (label :: current) where
  current_begun other hother := by
    rcases List.mem_cons.mp hother with rfl | hother
    · exact List.mem_cons_self
    · exact List.mem_cons_of_mem label (h.current_begun other hother)
  pending_begun call hcall := List.mem_cons_of_mem label (h.pending_begun call hcall)
  le := h.le
  eq_iff call hcall g hg := by
    have hne : call.label ≠ label := fun heq => hfresh (heq ▸ h.pending_begun call hcall)
    rw [h.eq_iff call hcall g hg, List.mem_cons, or_iff_right hne]
  question call hcall hq := by
    have hne : call.label ≠ label := fun heq => hfresh (heq ▸ h.pending_begun call hcall)
    rw [List.mem_cons, or_iff_right hne]
    exact h.question call hcall hq

theorem beginQuestion (h : CallsAgree generation begun pending current) (label : Nat) :
    CallsAgree generation (label :: begun) pending current where
  current_begun other hother := List.mem_cons_of_mem label (h.current_begun other hother)
  pending_begun call hcall := List.mem_cons_of_mem label (h.pending_begun call hcall)
  le := h.le
  eq_iff := h.eq_iff
  question := h.question

-- One more call in flight.
theorem await (h : CallsAgree generation begun pending current) {call : Pending}
    (hbegun : call.label ∈ begun) (hle : ∀ g, call.purpose = .chat g → g ≤ generation)
    (heq : ∀ g, call.purpose = .chat g → (g = generation ↔ call.label ∈ current))
    (hquestion : call.purpose = .question → call.label ∉ current) :
    CallsAgree generation begun (pending ++ [call]) current := by
  have hmem : ∀ {P : Pending → Prop}, (∀ other ∈ pending, P other) → P call →
      ∀ other ∈ pending ++ [call], P other := by
    intro P hall hcall other hother
    rcases List.mem_append.mp hother with hother | hother
    · exact hall other hother
    · rwa [List.mem_singleton.mp hother]
  exact ⟨h.current_begun, hmem h.pending_begun hbegun, hmem h.le hle, hmem h.eq_iff heq,
    hmem h.question hquestion⟩

-- Fewer calls in flight.
theorem filter (h : CallsAgree generation begun pending current) (p : Pending → Bool) :
    CallsAgree generation begun (pending.filter p) current where
  current_begun := h.current_begun
  pending_begun call hcall := h.pending_begun call (List.mem_of_mem_filter hcall)
  le call hcall := h.le call (List.mem_of_mem_filter hcall)
  eq_iff call hcall := h.eq_iff call (List.mem_of_mem_filter hcall)
  question call hcall := h.question call (List.mem_of_mem_filter hcall)

-- After a clear no call in flight belongs to the conversation.
theorem clear (h : CallsAgree generation begun pending current) :
    CallsAgree (generation + 1) begun pending [] where
  current_begun _ hlabel := absurd hlabel List.not_mem_nil
  pending_begun := h.pending_begun
  le call hcall g hg := Nat.le_succ_of_le (h.le call hcall g hg)
  eq_iff call hcall g hg := by
    -- Generations only grow, so no call in flight can have the new one.
    have hle := h.le call hcall g hg
    exact iff_of_false (by omega) List.not_mem_nil
  question _ _ _ := List.not_mem_nil

end CallsAgree

/-- A desk agrees with a ledger. -/
structure Agrees (d : Desk) (l : Ledger) : Prop where
  config : d.client.config = l.config
  entries : d.client.history.entries = l.entries
  calls : CallsAgree d.client.history.generation d.begun d.pending l.current

theorem agrees_ofConfig (config : Config) :
    Agrees (Desk.ofConfig config) (Ledger.ofConfig config) where
  config := rfl
  entries := rfl
  calls := by constructor <;> exact fun _ h => absurd h List.not_mem_nil

/-- What a move does, as the ledger has it. -/
structure Accounted (d : Desk) (l : Ledger) (m : Move) (result : Result) (e : Desk) : Prop where
  agrees : Agrees e (l.next m)
  generation : e.client.history.generation = d.client.history.generation + m.isClear.toNat
  replies : e.client.replies = (l.replies m).foldl Channel.send d.client.replies
  reply : result.reply = m.reply? l.config
  requests : result.requests = l.requests m

/-! ## Single moves -/

variable {d e : Desk} {l : Ledger} {result : Result}

theorem Agrees.chat (h : Agrees d l) {label : Nat} {message : String} {context : Option String}
    (hm : d.move? (.chat label message context) = some (e, result)) :
    Accounted d l (.chat label message context) result e := by
  simp only [Desk.move?] at hm
  by_cases hbegun : label ∈ d.begun
  · rw [if_pos hbegun] at hm
    cases hm
  have hconfig := h.config
  have hcalls := h.calls.beginChat hbegun
  rw [if_neg hbegun] at hm
  -- With a key the chat is in flight; without one it has ended already, with two entries.
  by_cases hkey : d.client.config.hasApiKey = true
  · rw [Client.beginChat_of_key hkey] at hm
    cases hm
    rw [hconfig] at hkey
    have hadded : l.added (.chat label message context) = [⟨.user, message⟩] := by
      rw [Ledger.added, if_pos hkey]
    refine ⟨⟨hconfig, ?_, ?_⟩, rfl, ?_, ?_, ?_⟩
    · simp only [Ledger.next, hadded, History.push, h.entries]
    · exact hcalls.await List.mem_cons_self (fun g hg => by cases hg; exact Nat.le_refl _)
        (fun g hg => by cases hg; exact iff_of_true rfl List.mem_cons_self) (fun hg => by cases hg)
    · rw [Ledger.replies, hadded]
      rfl
    · rw [Move.reply?, if_pos hkey]
    · simp only [Ledger.requests, hkey, if_true, hconfig, Client.chatMessages, History.window,
        History.push, h.entries]
      rfl
  · have hrecord := Client.record_current (c := { d.client with
      history := d.client.history.push ⟨.user, message⟩ }) Prompt.missingCredential
    rw [Client.beginChat_of_no_key hkey] at hm
    dsimp only [History.push] at hm hrecord
    rw [hrecord] at hm
    cases hm
    rw [hconfig] at hkey
    have hadded : l.added (.chat label message context) =
        [⟨.user, message⟩, ⟨.assistant, Prompt.missingCredential⟩] := by
      rw [Ledger.added, if_neg hkey]
    refine ⟨⟨hconfig, ?_, hcalls⟩, rfl, ?_, ?_, ?_⟩
    · simp only [Ledger.next, hadded, h.entries, List.append_assoc, List.cons_append,
        List.nil_append]
    · rw [Ledger.replies, hadded]
      rfl
    · rw [Move.reply?, if_neg hkey]
    · rw [Ledger.requests, if_neg hkey]

theorem Agrees.ask (h : Agrees d l) {label : Nat} {question : Question}
    (hm : d.move? (.ask label question) = some (e, result)) :
    Accounted d l (.ask label question) result e := by
  simp only [Desk.move?, Question.ask_eq] at hm
  by_cases hbegun : label ∈ d.begun
  · rw [if_pos hbegun] at hm
    cases hm
  have hconfig := h.config
  have hcalls := h.calls.beginQuestion label
  rw [if_neg hbegun] at hm
  by_cases hkey : d.client.config.hasApiKey = true
  · rw [Client.ask_of_key hkey] at hm
    cases hm
    rw [hconfig] at hkey
    refine ⟨⟨hconfig, h.entries, ?_⟩, rfl, rfl, ?_, ?_⟩
    · exact hcalls.await List.mem_cons_self (fun g hg => by cases hg) (fun g hg => by cases hg)
        (fun _ hcurrent => hbegun (h.calls.current_begun label hcurrent))
    · rw [Move.reply?, if_pos hkey]
    · rw [Ledger.requests, if_pos hkey, ← hconfig]
  · rw [Client.ask_of_no_key hkey] at hm
    cases hm
    rw [hconfig] at hkey
    refine ⟨⟨hconfig, h.entries, hcalls⟩, rfl, rfl, ?_, ?_⟩
    · rw [Move.reply?, if_neg hkey]
    · rw [Ledger.requests, if_neg hkey]

-- A call ends: its text is recorded for a chat of the conversation, and nothing happens otherwise.
theorem Agrees.finish (h : Agrees d l) {call : Pending} (hcall : call ∈ d.pending)
    (outcome : Outcome) :
    (l.added (.answer call.label outcome) = [] ∧ (d.finish call outcome).client = d.client) ∨
      ∃ text, l.added (.answer call.label outcome) = [⟨.assistant, text⟩] ∧
        (d.finish call outcome).client =
          { d.client with
            history := d.client.history.push ⟨.assistant, text⟩
            replies := d.client.replies.send ⟨.assistant, text⟩ } := by
  cases outcome with
  | error failure =>
    refine .inl ⟨rfl, ?_⟩
    unfold Desk.finish
    cases call.purpose <;> rfl
  | ok completion =>
    simp only [Ledger.added]
    -- The label decides in the ledger what the generation decides in the history.
    by_cases hcurrent : call.label ∈ l.current
    · rw [if_pos hcurrent]
      cases hpurpose : call.purpose with
      | question => exact absurd hcurrent (h.calls.question call hcall hpurpose)
      | chat generation =>
        have heq := (h.calls.eq_iff call hcall generation hpurpose).mpr hcurrent
        refine .inr ⟨completion.content, rfl, ?_⟩
        rw [Desk.finish, hpurpose, heq]
        exact Client.record_current completion.content
    · rw [if_neg hcurrent]
      refine .inl ⟨rfl, ?_⟩
      cases hpurpose : call.purpose with
      | question =>
        rw [Desk.finish, hpurpose]
        rfl
      | chat generation =>
        have hne := (h.calls.eq_iff call hcall generation hpurpose).not.mpr hcurrent
        rw [Desk.finish, hpurpose]
        exact Client.record_late hne completion.content

theorem Agrees.answer (h : Agrees d l) {label : Nat} {outcome : Outcome}
    (hm : d.move? (.answer label outcome) = some (e, result)) :
    Accounted d l (.answer label outcome) result e := by
  simp only [Desk.move?] at hm
  obtain ⟨call, hfind, heq⟩ := Option.map_eq_some_iff.mp hm
  have hcall := List.mem_of_find?_eq_some hfind
  have hlabel : call.label = label := by simpa using List.find?_some hfind
  have hcalls := h.calls.filter fun call => call.label != label
  subst hlabel
  cases heq
  have hreply := congrArg some (d.value_finish call outcome)
  rcases h.finish hcall outcome with ⟨hadded, hclient⟩ | ⟨text, hadded, hclient⟩
  · rw [hclient]
    refine ⟨⟨h.config, ?_, hcalls⟩, rfl, ?_, hreply, rfl⟩
    · rw [Ledger.entries_next l rfl, hadded, List.append_nil]
      exact h.entries
    · rw [Ledger.replies, hadded]
      rfl
  · rw [hclient]
    refine ⟨⟨h.config, ?_, hcalls⟩, rfl, ?_, hreply, rfl⟩
    · rw [Ledger.entries_next l rfl, hadded, ← h.entries]
      rfl
    · rw [Ledger.replies, hadded]
      rfl

-- Every move is accounted for.
theorem Agrees.move (h : Agrees d l) {m : Move} (hm : d.move? m = some (e, result)) :
    Accounted d l m result e := by
  cases m with
  | chat => exact h.chat hm
  | ask => exact h.ask hm
  | answer => exact h.answer hm
  | clear =>
    cases hm
    exact ⟨⟨h.config, rfl, h.calls.clear⟩, rfl, rfl, rfl, rfl⟩
  | configure update =>
    cases hm
    exact ⟨⟨congrArg update.apply h.config, h.entries, h.calls⟩, rfl, rfl, rfl, rfl⟩
  | subscribe =>
    cases hm
    exact ⟨⟨h.config, h.entries, h.calls⟩, rfl, rfl, rfl, rfl⟩
  | receive listener =>
    obtain ⟨receiver, -, hreceive⟩ := Option.bind_eq_some_iff.mp hm
    obtain ⟨⟨delivery, next⟩, -, heq⟩ := Option.map_eq_some_iff.mp hreceive
    cases heq
    exact ⟨⟨h.config, h.entries, h.calls⟩, rfl, rfl, rfl, rfl⟩

/-! ## Runs -/

theorem Agrees.run (h : Agrees d l) {trace : List Turn} (hrun : Run d trace e) :
    Agrees e (l.after (moves trace)) := by
  induction hrun generalizing l with
  | nil => exact h
  | cons hm _ ih => exact ih (h.move hm).agrees

-- A desk agrees with the ledger of the moves that led to it.
theorem agrees_of_run {config : Config} {trace : List Turn} (h : Run (Desk.ofConfig config) trace d) :
    Agrees d ((Ledger.ofConfig config).after (moves trace)) :=
  (agrees_ofConfig config).run h

end ChatAssistant.Conversation
