import ChatAssistant.Proofs.Conversation.Recorded

/-!
# What requests contain

A request is made of the configuration and the history at its moment.  Nothing from before a clear gets
into a request after it: two runs with the same moves since then make the same requests, whatever had
happened before and whatever late answers arrive.
-/

namespace ChatAssistant.Conversation

/-- The move is no answer to one of these calls, and no receiver's. -/
def Move.isOwn (begun : List Nat) : Move → Bool
  | answer label _ => label ∉ begun
  | subscribe => false
  | receive _ => false
  | _ => true

/-- The turns that concern calls other than these. -/
def ownTurns (begun : List Nat) (trace : List Turn) : List Turn :=
  trace.filter (·.move.isOwn begun)

/-- What is seen of a turn from outside. -/
def Turn.seen (turn : Turn) : List Request × Option String :=
  (turn.result.requests, turn.result.reply)

/-- What is seen of these moves, as the ledger has it. -/
def Ledger.seen (l : Ledger) : List Move → List (List Request × Option String)
  | [] => []
  | m :: list => (l.requests m, m.reply? l.config) :: (l.next m).seen list

theorem moves_ownTurns (begun : List Nat) (trace : List Turn) :
    moves (ownTurns begun trace) = (moves trace).filter (·.isOwn begun) := by
  rw [moves, ownTurns, moves, List.filter_map]
  rfl

variable {d e : Desk} {l : Ledger} {m : Move} {result : Result} {begun : List Nat}

/-! ## Moves that leave no trace -/

-- Such a move can only be a late answer, or a receiver's.
theorem Ledger.next_of_not_own (hcurrent : ∀ label ∈ l.current, label ∉ begun)
    (h : m.isOwn begun = false) : l.next m = l := by
  cases m with
  | answer label outcome =>
    have hmem : label ∈ begun := by simpa [Move.isOwn] using h
    have hadded : l.added (.answer label outcome) = [] := by
      cases outcome with
      | error failure => rfl
      | ok completion =>
        rw [Ledger.added, if_neg fun hlabel => hcurrent label hlabel hmem]
    rw [Ledger.next, hadded, List.append_nil]
  | subscribe | receive => rfl
  | chat | ask | clear | configure => cases h

theorem Ledger.requests_of_not_begins (h : m.begins? = none) : l.requests m = [] := by
  cases m with
  | chat | ask => cases h
  | answer | clear | configure | subscribe | receive => rfl

theorem Move.begins?_of_not_own (h : m.isOwn begun = false) : m.begins? = none := by
  cases m with
  | chat | ask => cases h
  | answer | clear | configure | subscribe | receive => rfl

theorem Ledger.mem_current_next {label : Nat} (h : label ∈ (l.next m).current) :
    label ∈ l.current ∨ m.begins? = some label := by
  cases m with
  | chat other =>
    rcases List.mem_cons.mp h with rfl | h
    · exact .inr rfl
    · exact .inl h
  | clear => exact absurd h List.not_mem_nil
  | ask | answer | configure | subscribe | receive => exact .inl h

-- Calls of the conversation stay apart from calls that had begun before it.
theorem current_apart (hm : d.move? m = some (e, result)) (hbegun : begun ⊆ d.begun)
    (hcurrent : ∀ label ∈ l.current, label ∉ begun) :
    begun ⊆ e.begun ∧ ∀ label ∈ (l.next m).current, label ∉ begun := by
  obtain ⟨hafter, hfresh⟩ := Desk.begun_of_move? hm
  constructor
  · rw [hafter]
    exact fun label hlabel => List.mem_append_right _ (hbegun hlabel)
  · intro label hlabel
    rcases Ledger.mem_current_next hlabel with hlabel | hbegins
    · exact hcurrent label hlabel
    · exact fun hold => hfresh label hbegins (hbegun hold)

-- Turns that do not concern the conversation can be left out.
theorem seen_ownTurns (h : Agrees d l) {trace : List Turn} (hrun : Run d trace e)
    (hbegun : begun ⊆ d.begun) (hcurrent : ∀ label ∈ l.current, label ∉ begun) :
    (ownTurns begun trace).map Turn.seen = l.seen (moves (ownTurns begun trace)) ∧
      l.after (moves (ownTurns begun trace)) = l.after (moves trace) ∧
      (ownTurns begun trace).flatMap (·.result.requests) = trace.flatMap (·.result.requests) := by
  -- The old labels stay apart from the chats of the conversation all along the run.
  induction hrun generalizing l with
  | nil => exact ⟨rfl, rfl, rfl⟩
  | @cons d e f m result trace hm hrest ih =>
    have hturn := h.move hm
    obtain ⟨hbegun', hcurrent'⟩ := current_apart hm hbegun hcurrent
    obtain ⟨hseen, hafter, hrequests⟩ := ih hturn.agrees hbegun' hcurrent'
    by_cases hown : m.isOwn begun = true
    · have hcons : ownTurns begun (⟨d, m, result, e⟩ :: trace) =
          ⟨d, m, result, e⟩ :: ownTurns begun trace := List.filter_cons_of_pos hown
      rw [hcons]
      refine ⟨?_, hafter, ?_⟩
      · rw [List.map_cons, hseen, moves_cons, Ledger.seen, Turn.seen, hturn.requests, hturn.reply]
      · rw [List.flatMap_cons, List.flatMap_cons, hrequests]
    · have hnot := Bool.eq_false_iff.mpr hown
      have hskip : ownTurns begun (⟨d, m, result, e⟩ :: trace) = ownTurns begun trace :=
        List.filter_cons_of_neg hown
      rw [Ledger.next_of_not_own hcurrent hnot] at hseen hafter
      have hnone := hturn.requests.trans (Ledger.requests_of_not_begins (Move.begins?_of_not_own hnot))
      refine ⟨by rw [hskip, hseen], ?_, ?_⟩
      · rw [hskip, moves_cons, hafter]
        exact congrArg (Ledger.after · (moves trace)) (Ledger.next_of_not_own hcurrent hnot).symm
      · rw [hskip, List.flatMap_cons, hnone, List.nil_append, hrequests]

-- After a clear the ledger is that of a new client.
theorem agrees_after_clear {config : Config} {earlier later : List Turn} {cleared : Turn}
    (h : Run (Desk.ofConfig config) (earlier ++ cleared :: later) d) (hclear : cleared.move = .clear) :
    Agrees cleared.after (Ledger.ofConfig cleared.before.client.config) ∧
      Run cleared.after later d ∧ cleared.after.begun = cleared.before.begun := by
  obtain ⟨hearlier, hm, hlater⟩ := h.split
  rw [hclear] at hm
  have hbefore := agrees_of_run hearlier
  refine ⟨?_, hlater, (Desk.begun_of_move? hm).1⟩
  rw [hbefore.config]
  exact (hbefore.move hm).agrees

-- Runs that have the same moves since a clear look the same since then.
theorem same_after_clear {config config' : Config} {d d' : Desk}
    {earlier earlier' later later' : List Turn} {cleared cleared' : Turn}
    (h : Run (Desk.ofConfig config) (earlier ++ cleared :: later) d)
    (h' : Run (Desk.ofConfig config') (earlier' ++ cleared' :: later') d')
    (hclear : cleared.move = .clear) (hclear' : cleared'.move = .clear)
    (hconfig : cleared'.before.client.config = cleared.before.client.config)
    (hmoves : moves (ownTurns cleared'.before.begun later') =
      moves (ownTurns cleared.before.begun later)) :
    (ownTurns cleared'.before.begun later').map Turn.seen =
        (ownTurns cleared.before.begun later).map Turn.seen ∧
      later'.flatMap (·.result.requests) = later.flatMap (·.result.requests) ∧
      d'.client.history.entries = d.client.history.entries := by
  obtain ⟨hagrees, hlater, hbegun⟩ := agrees_after_clear h hclear
  obtain ⟨hagrees', hlater', hbegun'⟩ := agrees_after_clear h' hclear'
  rw [hconfig] at hagrees'
  obtain ⟨hseen, hafter, hrequests⟩ := seen_ownTurns hagrees hlater
    (fun _ hlabel => hbegun ▸ hlabel) (fun _ hlabel => absurd hlabel List.not_mem_nil)
  obtain ⟨hseen', hafter', hrequests'⟩ := seen_ownTurns hagrees' hlater'
    (fun _ hlabel => hbegun' ▸ hlabel) (fun _ hlabel => absurd hlabel List.not_mem_nil)
  have hsame : (ownTurns cleared'.before.begun later').map Turn.seen =
      (ownTurns cleared.before.begun later).map Turn.seen := by
    rw [hseen, hseen', hmoves]
  refine ⟨hsame, ?_, ?_⟩
  · have hfst : ∀ trace : List Turn,
        trace.flatMap (·.result.requests) = (trace.map Turn.seen).flatMap Prod.fst := by
      intro trace
      rw [List.flatMap_map]
      rfl
    rw [← hrequests, ← hrequests', hfst, hfst, hsame]
  · rw [(hagrees.run hlater).entries, (hagrees'.run hlater').entries, ← hafter, ← hafter', hmoves]

/-! ## Single requests -/

theorem exists_chat {label : Nat} (h : label ∉ d.begun) (message : String) (context : Option String) :
    ∃ e result, d.move? (.chat label message context) = some (e, result) := by
  rw [Desk.move?, if_neg h]
  exact ⟨_, _, rfl⟩

theorem exists_ask {label : Nat} (h : label ∉ d.begun) (question : Question) :
    ∃ e result, d.move? (.ask label question) = some (e, result) := by
  rw [Desk.move?, if_neg h]
  exact ⟨_, _, rfl⟩

-- The request of a chat ends with its own message, behind the nine messages before it.
theorem requests_chat {config : Config} {trace : List Turn} (h : Run (Desk.ofConfig config) trace d)
    {label : Nat} {message : String} {context : Option String}
    (hm : d.move? (.chat label message context) = some (e, result))
    (hkey : d.client.config.hasApiKey = true) :
    ∃ earlier window,
      e.client.history.entries = conversation config (moves trace) ++ [⟨.user, message⟩] ∧
      e.client.history.entries = earlier ++ window ∧
      window.length = min 10 e.client.history.entries.length ∧
      window.getLast? = some ⟨.user, message⟩ ∧
      result.requests =
        [⟨d.client.config, ⟨.system, Prompt.chatPersona⟩ ::
          (context.toList.map fun code => ⟨.system, Prompt.context code⟩) ++ window⟩] := by
  have hagrees := agrees_of_run h
  have hturn := hagrees.move hm
  have hconversation := Ledger.entries_after_eq_conversation config (moves trace)
  have hkey' := hkey
  rw [hagrees.config] at hkey'
  have hentries : e.client.history.entries =
      conversation config (moves trace) ++ [⟨.user, message⟩] := by
    rw [hturn.agrees.entries, Ledger.entries_next _ rfl, hconversation, Ledger.added, if_pos hkey']
  refine ⟨e.client.history.entries.rdrop 10, e.client.history.entries.rtake 10, hentries, ?_, ?_,
    ?_, ?_⟩
  · exact (List.take_append_drop _ _).symm
  · rw [List.rtake, List.length_drop]
    omega
  · rw [hentries, List.rtake_concat_succ, List.getLast?_concat]
  · rw [hturn.requests, Ledger.requests, if_pos hkey', hconversation, hagrees.config, hentries]
    rfl

theorem requests_chat_of_no_key {config : Config} {trace : List Turn}
    (h : Run (Desk.ofConfig config) trace d) {label : Nat} {message : String}
    {context : Option String} (hm : d.move? (.chat label message context) = some (e, result))
    (hkey : d.client.config.hasApiKey = false) : result.requests = [] := by
  have hagrees := agrees_of_run h
  rw [(hagrees.move hm).requests, Ledger.requests, ← hagrees.config, hkey]
  rfl

theorem requests_ask {config : Config} {trace : List Turn} (h : Run (Desk.ofConfig config) trace d)
    {label : Nat} {question : Question}
    (hm : d.move? (.ask label question) = some (e, result)) :
    result.requests =
      if d.client.config.hasApiKey then [⟨d.client.config, question.messages⟩] else [] := by
  have hagrees := agrees_of_run h
  rw [(hagrees.move hm).requests, Ledger.requests, ← hagrees.config]

theorem requests_of_not_begins {config : Config} {trace : List Turn}
    (h : Run (Desk.ofConfig config) trace d) (hm : d.move? m = some (e, result))
    (hnone : m.begins? = none) : result.requests = [] := by
  rw [((agrees_of_run h).move hm).requests, Ledger.requests_of_not_begins hnone]

/-- In every run, a request is made by each call that begins with a key and by nothing else, from the
configuration and the conversation of its moment; and two runs with the same moves since a clear, late
answers aside, make the same requests. -/
theorem requests_isolated_by_clear {config : Config} {trace : List Turn} {d : Desk}
    (h : Run (Desk.ofConfig config) trace d) :
    (∀ label message context, label ∉ d.begun → ∃ e result,
      d.move? (.chat label message context) = some (e, result) ∧
      (d.client.config.hasApiKey = true → ∃ earlier window,
        e.client.history.entries = conversation config (moves trace) ++ [⟨.user, message⟩] ∧
        e.client.history.entries = earlier ++ window ∧
        window.length = min 10 e.client.history.entries.length ∧
        window.getLast? = some ⟨.user, message⟩ ∧
        result.requests =
          [⟨d.client.config, ⟨.system, Prompt.chatPersona⟩ ::
            (context.toList.map fun code => ⟨.system, Prompt.context code⟩) ++ window⟩]) ∧
      (d.client.config.hasApiKey = false → result.requests = [])) ∧
    (∀ label question, label ∉ d.begun → ∃ e result,
      d.move? (.ask label question) = some (e, result) ∧
      result.requests =
        if d.client.config.hasApiKey then [⟨d.client.config, question.messages⟩] else []) ∧
    (∀ m e result, d.move? m = some (e, result) → m.begins? = none → result.requests = []) ∧
    ∀ earlier cleared later, trace = earlier ++ cleared :: later → cleared.move = .clear →
      ∀ config' earlier' cleared' later' d',
        Run (Desk.ofConfig config') (earlier' ++ cleared' :: later') d' → cleared'.move = .clear →
        cleared'.before.client.config = cleared.before.client.config →
        moves (ownTurns cleared'.before.begun later') =
          moves (ownTurns cleared.before.begun later) →
        (ownTurns cleared'.before.begun later').map Turn.seen =
            (ownTurns cleared.before.begun later).map Turn.seen ∧
          later'.flatMap (·.result.requests) = later.flatMap (·.result.requests) ∧
          d'.client.history.entries = d.client.history.entries := by
  refine ⟨?_, ?_, fun m e result hm hnone => requests_of_not_begins h hm hnone, ?_⟩
  · intro label message context hfresh
    obtain ⟨e, result, hm⟩ := exists_chat hfresh message context
    exact ⟨e, result, hm, requests_chat h hm, requests_chat_of_no_key h hm⟩
  · intro label question hfresh
    obtain ⟨e, result, hm⟩ := exists_ask hfresh question
    exact ⟨e, result, hm, requests_ask h hm⟩
  rintro earlier cleared later rfl hclear config' earlier' cleared' later' d' h' hclear' hconfig hmoves
  exact same_after_clear h h' hclear hclear' hconfig hmoves

/-- A chat that is answered after a clear only, between two chats of the next conversation. -/
def lateAnswer : List Move :=
  [.chat 0 "a" none, .clear, .chat 1 "b" none, .answer 0 (.ok ⟨"A", none⟩), .chat 2 "c" (some "x")]

theorem requests_isolated_by_clear_lateAnswer :
    ∃ trace d trace' d', Run (Desk.ofConfig keyed) trace d ∧ moves trace = lateAnswer ∧
      Run (Desk.ofConfig keyed) trace' d' ∧
      moves trace' = [.clear, .chat 1 "b" none, .chat 2 "c" (some "x")] ∧
      ∃ earlier cleared later earlier' cleared' later',
        trace = earlier ++ cleared :: later ∧ trace' = earlier' ++ cleared' :: later' ∧
        later'.flatMap (·.result.requests) = later.flatMap (·.result.requests) ∧
        d'.client.history.entries = d.client.history.entries := by
  obtain ⟨trace, d, hrun, hmoves, hbegun⟩ := Run.exists_of_run? (Desk.ofConfig keyed) lateAnswer
    (fun r => r.1[1]?.map (fun turn => (turn.before.begun, turn.before.client.config)) =
      some ([0], keyed)) (by decide +kernel)
  obtain ⟨trace', d', hrun', hmoves', hbegun'⟩ := Run.exists_of_run? (Desk.ofConfig keyed)
    [.clear, .chat 1 "b" none, .chat 2 "c" (some "x")]
    (fun r => r.1[0]?.map (fun turn => (turn.before.begun, turn.before.client.config)) =
      some ([], keyed)) (by decide +kernel)
  obtain ⟨earlier, cleared, later, rfl, -, hclear, hlater, hturn⟩ :=
    exists_turn_of_moves [.chat 0 "a" none] hmoves
  obtain ⟨earlier', cleared', later', rfl, -, hclear', hlater', hturn'⟩ :=
    exists_turn_of_moves [] hmoves'
  rw [List.length_singleton] at hturn
  rw [List.length_nil] at hturn'
  simp only [hturn, hturn', Option.map_some, Option.some.injEq, Prod.mk.injEq] at hbegun hbegun'
  obtain ⟨hbegun, hconfig⟩ := hbegun
  obtain ⟨hbegun', hconfig'⟩ := hbegun'
  have hsame : moves (ownTurns cleared'.before.begun later') =
      moves (ownTurns cleared.before.begun later) := by
    rw [moves_ownTurns, moves_ownTurns, hlater, hlater', hbegun, hbegun']
    rfl
  obtain ⟨-, -, -, hisolated⟩ := requests_isolated_by_clear hrun
  obtain ⟨-, hrequests, hentries⟩ := hisolated earlier cleared later rfl hclear keyed earlier'
    cleared' later' d' hrun' hclear' (hconfig'.trans hconfig.symm) hsame
  exact ⟨_, d, _, d', hrun, hmoves, hrun', hmoves', earlier, cleared, later, earlier', cleared',
    later', rfl, rfl, hrequests, hentries⟩

end ChatAssistant.Conversation
