import ChatAssistant.Command.Session
import ChatAssistant.Proofs.Channel
import ChatAssistant.Proofs.Command.Effect

/-!
# The course of a session

Commands and chats follow each other in any order.  Between them the files change in any way, the file
system answers in any way, and the watcher receives at times of its own.
-/

namespace ChatAssistant

open ChatAssistant.Conversation ChatAssistant.Settings

/-! ## Chats leave the configuration alone -/

namespace Conversation.Client

theorem config_record (c : Client) (generation : Nat) (text : String) :
    (c.record generation text).client.config = c.config := by
  unfold record
  dsimp only
  split <;> rfl

theorem config_finishChat (c : Client) (generation : Nat) (request : Request) (outcome : Outcome) :
    (c.finishChat generation request outcome).client.config = c.config := by
  cases outcome with
  | ok completion => exact c.config_record generation completion.content
  | error failure => rfl

theorem config_ask (c : Client) (messages : List Message) :
    (c.ask messages).client.config = c.config := by
  unfold ask
  split <;> rfl

theorem config_chat (c : Client) (respond : Request → Outcome) (message : String)
    (context : Option String) : (c.chat respond message context).client.config = c.config := by
  have hbegin : (c.beginChat message context).client.config = c.config := config_ask _ _
  unfold chat completeChat
  split
  · exact (config_record _ _ _).trans hbegin
  · exact (config_finishChat _ _ _ _).trans hbegin

end Conversation.Client

namespace Session

/-! ## Moves -/

inductive Move
  | command (color : Bool) (name : String) (args : List String)
  | chat (respond : Request → Outcome) (message : String) (context : Option String)
  /-- The files change, or the way in which the file system answers. -/
  | edit (files : FileTree) (disk : Disk)
  /-- The watcher receives once. -/
  | receive

/-- The session after the watcher has received once, if there is anything to receive. -/
def receive? (s : Session) : Option Session :=
  s.watcher.bind fun r => (s.changes.receive? r).map fun (delivery, r) =>
    { s.configure fun c => Watcher.apply s.store.source c delivery with watcher := some r }

/-- The session after a move, if the move can be made. -/
def move? (s : Session) : Move → Option Session
  | .command color name args => some (s.run color name args).session
  | .chat respond message context =>
    some { s with client := (s.client.chat respond message context).client }
  | .edit files disk => some { s with files, disk }
  | .receive => s.receive?

/-- The watcher has nothing left to receive. -/
def Idle (s : Session) : Prop := s.receive? = none

/-- A move that was made. -/
structure Turn where
  before : Session
  move : Move
  after : Session

/-- The turns of a run, the first one first. -/
inductive Run (s : Session) : List Turn → Session → Prop
  | nil : Run s [] s
  | snoc {trace : List Turn} {t u : Session} {m : Move} :
      Run s trace t → t.move? m = some u → Run s (trace ++ [⟨t, m, u⟩]) u

-- Further moves make a run longer.
theorem Run.exists_of_foldlM {s t u : Session} {trace : List Turn} (h : Run s trace t)
    {moves : List Move} (hmoves : moves.foldlM move? t = some u) :
    ∃ later, Run s (trace ++ later) u ∧ later.map Turn.move = moves := by
  induction moves generalizing t trace with
  | nil =>
    cases hmoves
    exact ⟨[], by rwa [List.append_nil], rfl⟩
  | cons m moves ih =>
    rw [List.foldlM_cons] at hmoves
    obtain ⟨v, hm, hrest⟩ := Option.bind_eq_some_iff.mp hmoves
    obtain ⟨later, hrun, hlater⟩ := ih (h.snoc hm) hrest
    refine ⟨⟨t, m, v⟩ :: later, ?_, by rw [List.map_cons, hlater]⟩
    rwa [List.append_assoc] at hrun

theorem exists_run (s : Session) (moves : List Move) (P : Session → Prop) [DecidablePred P]
    (h : (moves.foldlM move? s).any (fun t => P t) = true) :
    ∃ trace t, Run s trace t ∧ trace.map Turn.move = moves ∧ P t := by
  obtain ⟨t, hmoves, ht⟩ := (Option.any_eq_true _ _).mp h
  obtain ⟨trace, hrun, htrace⟩ := Run.nil.exists_of_foldlM hmoves
  exact ⟨trace, t, hrun, htrace, of_decide_eq_true ht⟩

/-! ## The watcher of a session -/

/-- These changes have been published, and the watcher stands at a place among them. -/
structure Watches (s : Session) (published : List Change) (r : Receiver) : Prop where
  carries : s.changes.Carries published
  watcher : s.watcher = some r
  position : r.next ≤ published.length

theorem watches_start (client : Client) (store : Store) (files : FileTree) :
    Watches (start client store files) [] (Channel.ofCapacity changeCapacity : Channel Change).subscribe where
  carries := Channel.carries_ofCapacity changeCapacity
  watcher := rfl
  position := Nat.le_refl 0

variable {s t : Session} {published : List Change} {r : Receiver}

-- What is published comes after everything else, unless it is empty.
theorem Watches.publish (h : Watches s published r) (change : Change) :
    Watches (s.publish change).1 (published ++ if change.isEmpty then [] else [change]) r := by
  unfold Session.publish
  by_cases hempty : change.isEmpty = true
  · simpa only [hempty, if_true, List.append_nil] using h
  · have hwatched : s.watcher.isSome = true := by rw [h.watcher]; rfl
    simp only [hempty, hwatched, if_true, Bool.false_eq_true, if_false]
    refine ⟨h.carries.send change, h.watcher, ?_⟩
    rw [List.length_append]
    exact Nat.le_add_right_of_le h.position

-- What the watcher receives next.
theorem Watches.receive?_eq (h : Watches s published r) :
    s.receive? =
      (Delivery.first? s.changes.capacity (published.drop r.next)).map fun delivery =>
        { s.configure fun c => Watcher.apply s.store.source c delivery with
          watcher := some ⟨r.next + delivery.size⟩ } := by
  unfold receive?
  rw [h.watcher, Option.bind_some, h.carries.receive?_eq h.position, Option.map_map]
  rfl

theorem Watches.settle_eq (h : Watches s published r) :
    s.settle.1 =
      { s.configure fun c =>
          (Delivery.upToDate s.changes.capacity (published.drop r.next)).foldl
            (Watcher.apply s.store.source) c with
        watcher := some ⟨published.length⟩ } := by
  unfold settle
  rw [h.watcher]
  simp only [Watcher.run, h.carries.receiveAll_eq h.position]
  rfl

theorem Watches.idle_settle (h : Watches s published r) : s.settle.1.Idle := by
  have hend : Watches s.settle.1 published ⟨published.length⟩ := by
    rw [h.settle_eq]
    exact ⟨h.carries, rfl, Nat.le_refl _⟩
  rw [Idle, hend.receive?_eq, List.drop_length]
  rfl

end Session

end ChatAssistant
