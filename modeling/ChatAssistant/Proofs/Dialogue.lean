import ChatAssistant.Dialogue
import ChatAssistant.Proofs.Command.InForce

/-!
# Dialogues as runs

What lines of input do to a session is made of the moves of sessions: a line is a command or a message,
and after a command the watcher receives until it is idle.  So what holds along every run of a session
holds in every dialogue.
-/

namespace ChatAssistant

open ChatAssistant.Conversation ChatAssistant.Settings

namespace Session

variable {start s t : Session} {trace : List Turn} {published : List Change} {r : Receiver}

-- A move of the watcher is the first part of what it does until it is idle.
theorem Watches.settle_receive (h : Watches s published r) (hm : s.receive? = some t) :
    ∃ delivery next, Watches t published next ∧ t.settle.1 = s.settle.1 ∧
      Delivery.upToDate s.changes.capacity (published.drop r.next) =
        delivery :: Delivery.upToDate t.changes.capacity (published.drop next.next) := by
  rw [h.receive?_eq] at hm
  obtain ⟨delivery, hfirst, rfl⟩ := Option.map_eq_some_iff.mp hm
  have hsize := Delivery.size_le_of_first? hfirst
  rw [List.length_drop] at hsize
  have hposition := h.position
  have hupToDate := Delivery.upToDate_of_first? hfirst
  rw [List.drop_drop] at hupToDate
  have hnext : Watches { s.configure fun c => Watcher.apply s.store.source c delivery with
      watcher := some ⟨r.next + delivery.size⟩ } published ⟨r.next + delivery.size⟩ :=
    ⟨h.carries, rfl, by dsimp only; omega⟩
  refine ⟨delivery, _, hnext, ?_, hupToDate⟩
  rw [hnext.settle_eq, h.settle_eq, hupToDate]
  rfl

theorem Watches.settle_of_idle (h : Watches s published r) (hidle : s.Idle) : s.settle.1 = s := by
  rw [Idle, h.receive?_eq, Option.map_eq_none_iff] at hidle
  have hend : published.length ≤ r.next := by
    simpa using Delivery.first?_eq_none.mp hidle
  have hnext : r.next = published.length := Nat.le_antisymm h.position hend
  have hwatcher : s.watcher = some ⟨published.length⟩ := by rw [h.watcher, ← hnext]
  rw [h.settle_eq, Delivery.upToDate_of_first?_eq_none hidle, ← hwatcher]
  rfl

-- Letting the watcher run means letting it move until it is idle.
theorem Run.settle (hrun : Run start trace s) (h : Watches s published r) :
    ∃ later, Run start (trace ++ later) s.settle.1 := by
  generalize hcount : (Delivery.upToDate s.changes.capacity (published.drop r.next)).length = count
  induction count generalizing s trace r with
  | zero =>
    cases hm : s.receive? with
    | none => exact ⟨[], by rwa [List.append_nil, h.settle_of_idle hm]⟩
    | some t =>
      obtain ⟨delivery, next, -, -, hupToDate⟩ := h.settle_receive hm
      rw [hupToDate] at hcount
      cases hcount
  | succ count ih =>
    cases hm : s.receive? with
    | none => exact ⟨[], by rwa [List.append_nil, h.settle_of_idle hm]⟩
    | some t =>
      obtain ⟨delivery, next, hnext, hsettle, hupToDate⟩ := h.settle_receive hm
      rw [hupToDate, List.length_cons, Nat.add_right_cancel_iff] at hcount
      obtain ⟨later, hlater⟩ := ih (hrun.snoc (m := .receive) hm) hnext hcount
      rw [hsettle, List.append_assoc] at hlater
      exact ⟨_, hlater⟩

end Session

namespace Dialogue

open Session (Run)

variable {client : Client} {store : Store} {files : FileTree} {trace : List Session.Turn}

theorem enter_run {d : Dialogue} (hrun : Run (Session.start client store files) trace d.session)
    (hasColor : Bool) (respond : Request → Outcome) (line : String) :
    ∃ later, Run (Session.start client store files) (trace ++ later)
      (d.enter hasColor respond line).dialogue.session := by
  have hnote : (d.note line).session = d.session := by rw [note_eq]
  rw [← hnote] at hrun
  unfold enter
  dsimp only
  cases Entry.ofLine line with
  | nothing => exact ⟨[], by rwa [List.append_nil]⟩
  | command name args =>
    have hcommand := hrun.snoc (m := .command hasColor name args) rfl
    obtain ⟨published, r, hfollows⟩ := hcommand.follows
    obtain ⟨later, hlater⟩ := hcommand.settle hfollows.watches
    rw [List.append_assoc] at hlater
    exact ⟨_, hlater⟩
  | message text => exact ⟨_, hrun.snoc (m := .chat respond text none) rfl⟩

/-- A dialogue is a run of its session. -/
theorem takeLines_run {d : Dialogue} (hrun : Run (Session.start client store files) trace d.session)
    (hasColor : Bool) (respond : Nat → Request → Outcome) (lines : List (List Nat)) :
    ∃ later, Run (Session.start client store files) (trace ++ later)
      (d.takeLines hasColor respond lines).1.dialogue.session := by
  induction lines generalizing d trace respond with
  | nil => exact ⟨[], by rwa [List.append_nil]⟩
  | cons bytes rest ih =>
    unfold takeLines
    cases typed? bytes with
    | none => exact ⟨[], by rwa [List.append_nil]⟩
    | some line =>
      obtain ⟨turns, hturns⟩ := enter_run hrun hasColor (respond 0) line
      dsimp only
      split
      · obtain ⟨later, hlater⟩ := ih hturns fun n => respond (n + 1)
        rw [List.append_assoc] at hlater
        exact ⟨_, hlater⟩
      · exact ⟨turns, hturns⟩

end Dialogue

end ChatAssistant
