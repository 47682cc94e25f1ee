import ChatAssistant.Proofs.Conversation.Ledger

/-!
# What the history holds

However calls overlap, the history is read off the moves since the last clear.
-/

namespace ChatAssistant.Conversation

/-- The moves up to the last clear. -/
def uptoClear (list : List Move) : List Move := list.rdropWhile fun m => !m.isClear

/-- The moves after the last clear. -/
def sinceClear (list : List Move) : List Move := list.rtakeWhile fun m => !m.isClear

/-- What these moves add to the history, in their order. -/
def Ledger.reads (l : Ledger) : List Move → List Message
  | [] => []
  | m :: list => l.added m ++ (l.next m).reads list

/-- The conversation since the last clear: each message of a chat, and each reply to one of these chats. -/
def conversation (config : Config) (list : List Move) : List Message :=
  (Ledger.ofConfig ((Ledger.ofConfig config).after (uptoClear list)).config).reads (sinceClear list)

namespace Ledger

theorem entries_after (l : Ledger) {list : List Move} (h : ∀ m ∈ list, m.isClear = false) :
    (l.after list).entries = l.entries ++ l.reads list := by
  induction list generalizing l with
  | nil => exact (List.append_nil l.entries).symm
  | cons m list ih =>
    rw [List.forall_mem_cons] at h
    calc (l.after (m :: list)).entries
        = ((l.next m).after list).entries := rfl
      _ = (l.next m).entries ++ (l.next m).reads list := ih _ h.2
      _ = l.entries ++ (l.added m ++ (l.next m).reads list) := by
        rw [entries_next l h.1, List.append_assoc]

-- After a clear nothing is left but the configuration.
theorem after_uptoClear (config : Config) (list : List Move) :
    (ofConfig config).after (uptoClear list) =
      ofConfig ((ofConfig config).after (uptoClear list)).config := by
  by_cases hnil : uptoClear list = []
  · rw [hnil]
    rfl
  · -- What is left ends with a move that was not dropped: a clear.
    have hlast := List.rdropWhile_last_not (fun m : Move => !m.isClear) list hnil
    have hclear : (uptoClear list).getLast hnil = .clear := by
      revert hlast
      change ¬ (!((uptoClear list).getLast hnil).isClear) = true → _
      cases (uptoClear list).getLast hnil <;> simp [Move.isClear]
    rw [← List.dropLast_append_getLast hnil, hclear, after_append]
    rfl

theorem entries_after_eq_conversation (config : Config) (list : List Move) :
    ((ofConfig config).after list).entries = conversation config list := by
  have hsplit : uptoClear list ++ sinceClear list = list := List.rdropWhile_append_rtakeWhile
  have hsince : ∀ m ∈ sinceClear list, m.isClear = false := by
    intro m hm
    simpa using List.mem_rtakeWhile_imp hm
  calc ((ofConfig config).after list).entries
      = (((ofConfig config).after (uptoClear list)).after (sinceClear list)).entries := by
        rw [← after_append, hsplit]
    _ = conversation config list := by
        rw [after_uptoClear, entries_after _ hsince]
        rfl

end Ledger

-- The generation of the history is the number of clears.
theorem generation_eq_countP {d e : Desk} {l : Ledger} (h : Agrees d l) {trace : List Turn}
    (hrun : Run d trace e) :
    e.client.history.generation =
      d.client.history.generation + (moves trace).countP Move.isClear := by
  induction hrun generalizing l with
  | nil => rfl
  | cons hm hrest ih =>
    have hturn := h.move hm
    rw [ih hturn.agrees, hturn.generation, moves_cons, List.countP_cons]
    cases Move.isClear _ <;> simp only [Bool.toNat_true, Bool.toNat_false, if_true, if_false,
      Bool.false_eq_true] <;> omega

-- A call in flight can end at any time and with any outcome.
theorem exists_answer {d : Desk} {call : Pending} (h : call ∈ d.pending) (outcome : Outcome) :
    ∃ e result, d.move? (.answer call.label outcome) = some (e, result) := by
  have hfind : (d.pending.find? (·.label == call.label)).isSome = true := by
    rw [List.find?_isSome]
    exact ⟨call, h, beq_self_eq_true call.label⟩
  obtain ⟨found, hfound⟩ := Option.isSome_iff_exists.mp hfind
  exact ⟨_, _, Desk.move?_answer hfound outcome⟩

/-- In every run the history is the conversation since the last clear, and every call that ends returns
its own reply.  Generations count the clears. -/
theorem history_eq_conversation {config : Config} {trace : List Turn} {d : Desk}
    (h : Run (Desk.ofConfig config) trace d) :
    d.client.history.entries = conversation config (moves trace) ∧
    d.client.history.generation = (moves trace).countP Move.isClear ∧
    (∀ call ∈ d.pending, ∀ generation, call.purpose = .chat generation →
      generation ≤ d.client.history.generation) ∧
    (∀ call ∈ d.pending, ∀ outcome, ∃ e result,
      d.move? (.answer call.label outcome) = some (e, result)) ∧
    ∀ turn ∈ trace, turn.result.reply = turn.move.reply? turn.before.client.config := by
  have hagrees := agrees_of_run h
  refine ⟨?_, ?_, hagrees.calls.le, fun _ hcall => exists_answer hcall, ?_⟩
  · rw [hagrees.entries, Ledger.entries_after_eq_conversation]
  · rw [generation_eq_countP (agrees_ofConfig config) h]
    exact Nat.zero_add _
  · intro turn hturn
    obtain ⟨earlier, hearlier, hm⟩ := h.exists_of_mem hturn
    have hbefore := agrees_of_run hearlier
    rw [hbefore.config]
    exact (hbefore.move hm).reply

/-- A configuration with a key. -/
def keyed : Config := Config.default.setApiKey "sk-1"

/-- Chats that overlap a clear and each other, with a late reply, a failure and a chat without a key. -/
def overlapping : List Move :=
  [.chat 0 "a" none, .ask 1 (.prompt "p"), .chat 2 "b" (some "code"), .answer 2 (.ok ⟨"B", none⟩),
   .clear, .chat 3 "c" none, .answer 0 (.ok ⟨"A", none⟩), .chat 4 "d" none,
   .answer 1 (.ok ⟨"P", none⟩), .configure (.apiKey " "), .answer 4 (.error .rateLimited),
   .chat 5 "e" none, .answer 3 (.ok ⟨"C", none⟩)]

theorem history_eq_conversation_overlapping :
    ∃ trace d, Run (Desk.ofConfig keyed) trace d ∧ moves trace = overlapping ∧
      d.client.history.entries =
        [⟨.user, "c"⟩, ⟨.user, "d"⟩, ⟨.user, "e"⟩, ⟨.assistant, Prompt.missingCredential⟩,
          ⟨.assistant, "C"⟩] ∧
      d.client.history.generation = 1 := by
  obtain ⟨trace, d, hrun, hmoves, -⟩ :=
    Run.exists_of_run? (Desk.ofConfig keyed) overlapping (fun _ => True) (by decide +kernel)
  obtain ⟨hentries, hgeneration, -⟩ := history_eq_conversation hrun
  rw [hmoves] at hentries hgeneration
  exact ⟨trace, d, hrun, hmoves, hentries.trans (by decide +kernel),
    hgeneration.trans (by decide +kernel)⟩

end ChatAssistant.Conversation
