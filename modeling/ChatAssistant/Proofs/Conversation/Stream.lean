import ChatAssistant.Proofs.Channel
import ChatAssistant.Proofs.Conversation.Ledger

/-!
# The stream of replies

What a receiver gets agrees with what is appended to the history after it has subscribed, whatever is
cleared later.
-/

namespace ChatAssistant.Conversation

/-- The replies that a turn appends to the history. -/
def Turn.appended (turn : Turn) : List Message :=
  (turn.after.client.history.entries.drop turn.before.client.history.entries.length).filter
    (·.role = .assistant)

/-- What a receiver gets in a turn. -/
def Turn.heard (listener : Nat) (turn : Turn) : List (Delivery Message) :=
  match turn.move with
  | .receive other => if other = listener then turn.result.delivery.toList else []
  | _ => []

def appended (trace : List Turn) : List Message := trace.flatMap Turn.appended

def heard (listener : Nat) (trace : List Turn) : List (Delivery Message) :=
  trace.flatMap (Turn.heard listener)

/-- The replies to the chats of these moves, as the ledger has them. -/
def Ledger.repliesIn (l : Ledger) : List Move → List Message
  | [] => []
  | m :: list => l.replies m ++ (l.next m).repliesIn list

variable {d e : Desk} {l : Ledger} {m : Move} {result : Result} {trace : List Turn}

/-! ## What is appended -/

theorem Accounted.appended_eq (h : Accounted d l m result e) (hagrees : Agrees d l) :
    Turn.appended ⟨d, m, result, e⟩ = l.replies m := by
  simp only [Turn.appended, h.agrees.entries, hagrees.entries]
  by_cases hclear : m.isClear = true
  · have hm : m = .clear := by
      cases m <;> first | rfl | cases hclear
    rw [hm, Ledger.next, List.drop_nil]
    rfl
  · rw [Ledger.entries_next l (Bool.eq_false_iff.mpr hclear), List.drop_left]
    rfl

theorem appended_eq_repliesIn (h : Agrees d l) (hrun : Run d trace e) :
    appended trace = l.repliesIn (moves trace) := by
  induction hrun generalizing l with
  | nil => rfl
  | cons hm _ ih =>
    have hturn := h.move hm
    rw [appended, List.flatMap_cons, hturn.appended_eq h, moves_cons, Ledger.repliesIn,
      ← ih hturn.agrees]
    rfl

/-! ## A receiver -/

/-- A receiver has these replies before it. -/
structure Listens (d : Desk) (listener : Nat) (unread : List Message) : Prop where
  capacity : d.client.replies.capacity = Client.replyCapacity
  stands : ∃ all receiver, d.client.replies.Carries all ∧ d.receivers[listener]? = some receiver ∧
    receiver.next ≤ all.length ∧ all.drop receiver.next = unread

-- Replies that are appended come before every receiver.
theorem Listens.append {listener : Nat} {unread : List Message} (h : Listens d listener unread)
    {values : List Message} (hreplies : e.client.replies = values.foldl Channel.send d.client.replies)
    (hreceiver : e.receivers[listener]? = d.receivers[listener]?) :
    Listens e listener (unread ++ values) := by
  obtain ⟨all, receiver, hcarries, hget, hposition, rfl⟩ := h.stands
  refine ⟨?_, all ++ values, receiver, ?_, by rw [hreceiver, hget], ?_, ?_⟩
  · rw [hreplies, Channel.capacity_foldl_send, h.capacity]
  · rw [hreplies]
    exact hcarries.foldl_send values
  · rw [List.length_append]
    omega
  · rw [List.drop_append_of_le_length hposition]

-- What a receiver gets next is told by the replies before it.
theorem Listens.receive?_eq {listener : Nat} {unread : List Message}
    (h : Listens d listener unread) {receiver : Receiver}
    (hget : d.receivers[listener]? = some receiver) :
    (d.client.replies.receive? receiver).map Prod.fst = Delivery.first? 64 unread := by
  obtain ⟨all, other, hcarries, hother, hposition, rfl⟩ := h.stands
  rw [hget, Option.some.injEq] at hother
  subst hother
  rw [hcarries.receive?_eq hposition, Option.map_map, h.capacity]
  exact Option.map_id'

theorem receivers_getElem?_of_move? {listener : Nat} {receiver : Receiver}
    (hget : d.receivers[listener]? = some receiver) (hm : d.move? m = some (e, result))
    (hother : m ≠ .receive listener) : e.receivers[listener]? = d.receivers[listener]? := by
  rcases Desk.move?_cases hm with ⟨label, client, purpose, call, -, -, heq⟩ |
    ⟨_, _, _, _, -, -, rfl⟩ | ⟨-, _, rfl⟩ | ⟨-, rfl⟩ | ⟨other, _, _, next, rfl, -, -, rfl, -⟩
  · have hreceivers := Desk.receivers_await { d with client } label purpose call
    rw [heq] at hreceivers
    rw [hreceivers]
  · rfl
  · rfl
  · obtain ⟨hlt, -⟩ := List.getElem?_eq_some_iff.mp hget
    exact List.getElem?_append_left hlt
  · have hne : other ≠ listener := fun heq => hother (heq ▸ rfl)
    exact List.getElem?_set_ne hne

-- A receiver gets what covers the front of the replies before it, and has the rest before it.
theorem Listens.receive {listener : Nat} {unread : List Message} (h : Listens d listener unread)
    (hm : d.move? (.receive listener) = some (e, result)) :
    ∃ delivery, result.delivery = some delivery ∧ Delivery.first? 64 unread = some delivery ∧
      Listens e listener (unread.drop delivery.size) := by
  obtain ⟨receiver, hget, hreceive⟩ := Option.bind_eq_some_iff.mp hm
  obtain ⟨⟨delivery, next⟩, hnext, heq⟩ := Option.map_eq_some_iff.mp hreceive
  obtain ⟨all, other, hcarries, hother, hposition, rfl⟩ := h.stands
  rw [hget, Option.some.injEq] at hother
  subst hother
  rw [hcarries.receive?_eq hposition, h.capacity] at hnext
  obtain ⟨_, hfirst, hpair⟩ := Option.map_eq_some_iff.mp hnext
  cases hpair
  cases heq
  have hsize := Delivery.size_le_of_first? hfirst
  rw [List.length_drop] at hsize
  refine ⟨delivery, rfl, hfirst, h.capacity, all, ⟨receiver.next + delivery.size⟩, hcarries, ?_, ?_, ?_⟩
  · exact List.getElem?_set_self (List.getElem?_eq_some_iff.mp hget).1
  · dsimp only
    omega
  · rw [List.drop_drop]

-- In each turn a receiver gets a piece of the replies before it, and new replies come behind them.
theorem Listens.move (hagrees : Agrees d l) {listener : Nat} {unread : List Message}
    (h : Listens d listener unread) (hm : d.move? m = some (e, result)) :
    ∃ pieces rest, List.Forall₂ Delivery.Covers (Turn.heard listener ⟨d, m, result, e⟩) pieces ∧
      unread ++ Turn.appended ⟨d, m, result, e⟩ = pieces.flatten ++ rest ∧
      Listens e listener rest := by
  have hturn := hagrees.move hm
  rw [hturn.appended_eq hagrees]
  -- Where the receiver gets something nothing is appended, and the other way round.
  by_cases hreceive : m = .receive listener
  · subst hreceive
    obtain ⟨delivery, hdelivery, hfirst, hafter⟩ := h.receive hm
    refine ⟨[unread.take delivery.size], unread.drop delivery.size, ?_, ?_, hafter⟩
    · simp only [Turn.heard, if_true, hdelivery, Option.toList_some]
      exact .cons (Delivery.covers_of_first? hfirst) .nil
    · rw [List.flatten_singleton, List.take_append_drop]
      exact List.append_nil unread
  · obtain ⟨all, receiver, -, hget, -, -⟩ := h.stands
    have hheard : Turn.heard listener ⟨d, m, result, e⟩ = [] := by
      simp only [Turn.heard]
      split
      · next other =>
        exact if_neg fun heq => hreceive (by rw [heq])
      · rfl
    rw [hheard]
    exact ⟨[], unread ++ l.replies m, .nil, rfl,
      h.append hturn.replies (receivers_getElem?_of_move? hget hm hreceive)⟩

theorem Listens.run (hagrees : Agrees d l) {listener : Nat} {unread : List Message}
    (h : Listens d listener unread) (hrun : Run d trace e) :
    ∃ pieces rest, List.Forall₂ Delivery.Covers (heard listener trace) pieces ∧
      unread ++ appended trace = pieces.flatten ++ rest ∧ Listens e listener rest := by
  induction hrun generalizing l unread with
  | nil => exact ⟨[], unread, .nil, List.append_nil unread, h⟩
  | cons hm _ ih =>
    obtain ⟨pieces, middle, hcovers, hsplit, hmiddle⟩ := h.move hagrees hm
    obtain ⟨later, rest, hlater, hrest, hlistens⟩ := ih (hagrees.move hm).agrees hmiddle
    refine ⟨pieces ++ later, rest, ?_, ?_, hlistens⟩
    · rw [heard, List.flatMap_cons]
      exact List.rel_append hcovers hlater
    · rw [appended, List.flatMap_cons, ← List.append_assoc, hsplit, List.append_assoc,
        ← appended, hrest, List.flatten_append, List.append_assoc]

/-! ## A subscription -/

theorem carries_of_run (h : Agrees d l) {all : List Message} (hcarries : d.client.replies.Carries all)
    (hcapacity : d.client.replies.capacity = Client.replyCapacity) (hrun : Run d trace e) :
    e.client.replies.Carries (all ++ appended trace) ∧
      e.client.replies.capacity = Client.replyCapacity := by
  induction hrun generalizing l all with
  | nil => exact ⟨by rwa [appended, List.flatMap_nil, List.append_nil], hcapacity⟩
  | cons hm _ ih =>
    have hturn := h.move hm
    rw [appended, List.flatMap_cons, hturn.appended_eq h, ← List.append_assoc]
    refine ih hturn.agrees ?_ ?_
    · rw [hturn.replies]
      exact hcarries.foldl_send _
    · rw [hturn.replies, Channel.capacity_foldl_send, hcapacity]

-- Who has just subscribed has nothing before it.
theorem listens_of_subscribe {all : List Message} (hcarries : d.client.replies.Carries all)
    (hcapacity : d.client.replies.capacity = Client.replyCapacity)
    (hm : d.move? .subscribe = some (e, result)) : Listens e d.receivers.length [] := by
  cases hm
  refine ⟨hcapacity, all, d.client.replies.subscribe, hcarries, List.getElem?_concat_length, ?_, ?_⟩
  · rw [Channel.subscribe, hcarries.sent_eq]
  · rw [Channel.subscribe, hcarries.sent_eq, List.drop_length]

/-! ## One reply for each chat -/

/-- The move is about the call under this label. -/
def Move.concerns (label : Nat) : Move → Bool
  | chat other _ _ => other = label
  | ask other _ => other = label
  | answer other _ => other = label
  | _ => false

/-- The replies of the call under this label. -/
def appendedFor (label : Nat) (trace : List Turn) : List Message :=
  (trace.filter (·.move.concerns label)).flatMap Turn.appended

theorem appendedFor_cons (label : Nat) (turn : Turn) (trace : List Turn) :
    appendedFor label (turn :: trace) =
      (if turn.move.concerns label then turn.appended else []) ++ appendedFor label trace := by
  simp only [appendedFor, List.filter_cons]
  split <;> rfl

/-- The call under this label has ended. -/
def Ended (d : Desk) (label : Nat) : Prop :=
  label ∈ d.begun ∧ ∀ call ∈ d.pending, call.label ≠ label

theorem Ended.move {label : Nat} (h : Ended d label) (hm : d.move? m = some (e, result)) :
    Ended e label := by
  obtain ⟨hbegun, hfresh⟩ := Desk.begun_of_move? hm
  constructor
  · rw [hbegun]
    exact List.mem_append_right _ h.1
  · intro call hcall
    rcases Desk.pending_of_move? hm call hcall with hcall | ⟨hbegins, -⟩
    · exact h.2 call hcall
    · exact fun heq => hfresh call.label hbegins (heq ▸ h.1)

-- A call ends with its reply.
theorem ended_of_reply (hagrees : Agrees d l) {label : Nat} (hm : d.move? m = some (e, result))
    (hconcerns : m.concerns label = true) (hreplies : l.replies m ≠ []) :
    ¬ Ended d label ∧ Ended e label := by
  have hturn := hagrees.move hm
  obtain ⟨hbegun, hfresh⟩ := Desk.begun_of_move? hm
  cases m with
  | chat other message context =>
    have hlabel : other = label := of_decide_eq_true hconcerns
    subst hlabel
    -- A chat that is answered as it begins has no key, and never comes into flight.
    have hkey : ¬ l.config.hasApiKey = true := by
      intro hkey
      rw [Ledger.replies, Ledger.added, if_pos hkey] at hreplies
      exact hreplies rfl
    refine ⟨fun hended => hfresh other rfl hended.1, ?_, ?_⟩
    · rw [hbegun]
      exact List.mem_cons_self
    · intro call hcall
      rcases Desk.pending_of_move? hm call hcall with hcall | ⟨-, hreply⟩
      · exact fun heq => hfresh other rfl (heq ▸ hagrees.calls.pending_begun call hcall)
      · rw [hturn.reply, Move.reply?, if_neg hkey] at hreply
        cases hreply
  | answer other outcome =>
    have hlabel : other = label := of_decide_eq_true hconcerns
    subst hlabel
    obtain ⟨⟨call, hcall, hlabel⟩, hgone⟩ := Desk.pending_of_answer hm
    refine ⟨fun hended => hended.2 call hcall hlabel, ?_, hgone⟩
    rw [hbegun]
    exact List.mem_append_right _ (hlabel ▸ hagrees.calls.pending_begun call hcall)
  | ask => exact absurd rfl hreplies
  | clear | configure | subscribe | receive => cases hconcerns

theorem Ledger.length_replies_le (l : Ledger) (m : Move) : (l.replies m).length ≤ 1 := by
  unfold replies
  cases m with
  | chat =>
    rw [added]
    split <;> exact Nat.le_of_ble_eq_true rfl
  | answer label outcome =>
    cases outcome with
    | error => exact Nat.zero_le 1
    | ok completion =>
      rw [added]
      split <;> exact Nat.le_of_ble_eq_true rfl
  | ask | clear | configure | subscribe | receive => exact Nat.zero_le 1

theorem length_appendedFor_le (hagrees : Agrees d l) (hrun : Run d trace e) (label : Nat) :
    (appendedFor label trace).length ≤ 1 ∧ (Ended d label → appendedFor label trace = []) := by
  induction hrun generalizing l with
  | nil => exact ⟨Nat.zero_le 1, fun _ => rfl⟩
  | @cons d e f m result trace hm _ ih =>
    have hturn := hagrees.move hm
    have happended := hturn.appended_eq hagrees
    obtain ⟨hlength, hended⟩ := ih hturn.agrees
    by_cases hreply : m.concerns label = true ∧ l.replies m ≠ []
    · -- The reply ends the call, so nothing is appended for it later.
      obtain ⟨hbefore, hafter⟩ := ended_of_reply hagrees hm hreply.1 hreply.2
      have heq : appendedFor label (⟨d, m, result, e⟩ :: trace) = l.replies m := by
        rw [appendedFor_cons, if_pos hreply.1, hended hafter, List.append_nil, happended]
      exact ⟨heq ▸ l.length_replies_le m, fun h => absurd h hbefore⟩
    · have heq : appendedFor label (⟨d, m, result, e⟩ :: trace) = appendedFor label trace := by
        rw [appendedFor_cons, happended]
        by_cases hconcerns : m.concerns label = true
        · have hnone : l.replies m = [] := by
            by_contra hsome
            exact hreply ⟨hconcerns, hsome⟩
          rw [hnone, ite_self, List.nil_append]
        · rw [if_neg hconcerns, List.nil_append]
      exact ⟨heq ▸ hlength, fun h => heq ▸ hended (h.move hm)⟩

/-! ## Every run -/

theorem listens_of_run {config : Config} {earlier later : List Turn} {subscribed : Turn}
    (h : Run (Desk.ofConfig config) (earlier ++ subscribed :: later) d)
    (hsubscribe : subscribed.move = .subscribe) :
    ∃ pieces unread,
      List.Forall₂ Delivery.Covers (heard subscribed.before.receivers.length later) pieces ∧
      appended later = pieces.flatten ++ unread ∧
      Listens d subscribed.before.receivers.length unread := by
  have hstart := agrees_ofConfig config
  obtain ⟨hearlier, hm, hlater⟩ := h.split
  rw [hsubscribe] at hm
  obtain ⟨hcarries, hcapacity⟩ :=
    carries_of_run hstart (Channel.carries_ofCapacity Client.replyCapacity) rfl hearlier
  have hlistens := listens_of_subscribe hcarries hcapacity hm
  exact hlistens.run ((hstart.run hearlier).move hm).agrees hlater

theorem appended_since {config : Config} {earlier later : List Turn} {subscribed : Turn}
    (h : Run (Desk.ofConfig config) (earlier ++ subscribed :: later) d)
    (hsubscribe : subscribed.move = .subscribe) :
    appended later = ((Ledger.ofConfig config).after (moves earlier)).repliesIn (moves later) := by
  obtain ⟨hearlier, hm, hlater⟩ := h.split
  rw [hsubscribe] at hm
  exact appended_eq_repliesIn ((agrees_of_run hearlier).move hm).agrees hlater

/-- What a receiver has got accounts for a prefix of the replies that were appended since it subscribed,
piece by piece: each time it got the next one, or a notice where more than 64 lay before it.  What is left
for it now is the rest, the newest 64 at most.  The stream carries what is appended and nothing else, and
at most one reply for each call. -/
theorem heard_agrees_with_history {config : Config} {earlier later : List Turn} {subscribed : Turn}
    {d : Desk} (h : Run (Desk.ofConfig config) (earlier ++ subscribed :: later) d)
    (hsubscribe : subscribed.move = .subscribe) :
    (∃ pieces unread receiver,
      List.Forall₂ Delivery.Covers (heard subscribed.before.receivers.length later) pieces ∧
      appended later = pieces.flatten ++ unread ∧
      d.receivers[subscribed.before.receivers.length]? = some receiver ∧
      (d.client.replies.receive? receiver).map Prod.fst = Delivery.first? 64 unread ∧
      (d.client.replies.receiveAll receiver).1 = Delivery.upToDate 64 unread) ∧
    (∀ before turn after, later = before ++ turn :: after →
      turn.move = .receive subscribed.before.receivers.length → ∃ pieces unread,
        List.Forall₂ Delivery.Covers (heard subscribed.before.receivers.length before) pieces ∧
        appended before = pieces.flatten ++ unread ∧
        turn.result.delivery = Delivery.first? 64 unread) ∧
    appended later = ((Ledger.ofConfig config).after (moves earlier)).repliesIn (moves later) ∧
    (∀ turn ∈ earlier ++ subscribed :: later,
      turn.after.client.replies = turn.appended.foldl Channel.send turn.before.client.replies) ∧
    ∀ label, (appendedFor label (earlier ++ subscribed :: later)).length ≤ 1 := by
  refine ⟨?_, ?_, appended_since h hsubscribe, ?_, fun label =>
    (length_appendedFor_le (agrees_ofConfig config) h label).1⟩
  · obtain ⟨pieces, unread, hcovers, hsplit, hlistens⟩ := listens_of_run h hsubscribe
    obtain ⟨all, receiver, hall, hget, hposition, hunread⟩ := hlistens.stands
    refine ⟨pieces, unread, receiver, hcovers, hsplit, hget, hlistens.receive?_eq hget, ?_⟩
    rw [hall.receiveAll_eq hposition, hlistens.capacity, hunread]
    rfl
  · rintro before turn after rfl hreceive
    rw [← List.cons_append, ← List.append_assoc] at h
    obtain ⟨hbefore, hm, -⟩ := h.split
    rw [hreceive] at hm
    obtain ⟨pieces, unread, hcovers, hsplit, hlistens⟩ := listens_of_run hbefore hsubscribe
    obtain ⟨delivery, hdelivery, hfirst, -⟩ := hlistens.receive hm
    exact ⟨pieces, unread, hcovers, hsplit, hdelivery.trans hfirst.symm⟩
  · intro turn hturn
    obtain ⟨earlier, hbefore, hm⟩ := h.exists_of_mem hturn
    have hagrees := agrees_of_run hbefore
    have haccounted := hagrees.move hm
    rw [haccounted.replies, ← haccounted.appended_eq hagrees]

/-- Chats without a key, each answered at once, until the receiver is two behind what is kept. -/
def laggingMoves : List Move :=
  .subscribe :: (List.range 66).map (fun label => .chat label "a" none) ++
    [.clear, .receive 0, .receive 0]

theorem heard_agrees_with_history_lagging :
    ∃ subscribed later d pieces unread, Run (Desk.ofConfig Config.default) (subscribed :: later) d ∧
      moves (subscribed :: later) = laggingMoves ∧
      heard 0 later = [.missed 2, .message ⟨.assistant, Prompt.missingCredential⟩] ∧
      List.Forall₂ Delivery.Covers (heard 0 later) pieces ∧
      appended later = pieces.flatten ++ unread := by
  obtain ⟨trace, d, hrun, hmoves, hheard, hreceivers⟩ :=
    Run.exists_of_run? (Desk.ofConfig Config.default) laggingMoves
      (fun r => heard 0 (r.1.drop 1) =
          [.missed 2, .message ⟨.assistant, Prompt.missingCredential⟩] ∧
        r.1[0]?.map (·.before.receivers.length) = some 0) (by decide +kernel)
  obtain ⟨earlier, subscribed, later, rfl, hearlier, hsubscribe, -, -⟩ :=
    exists_turn_of_moves [] hmoves
  obtain rfl := List.map_eq_nil_iff.mp hearlier
  have hlistener : subscribed.before.receivers.length = 0 := Option.some.inj hreceivers
  obtain ⟨⟨pieces, unread, -, hcovers, hsplit, -⟩, -⟩ := heard_agrees_with_history hrun hsubscribe
  rw [hlistener] at hcovers
  exact ⟨subscribed, later, d, pieces, unread, hrun, hmoves, hheard, hcovers, hsplit⟩

end ChatAssistant.Conversation
