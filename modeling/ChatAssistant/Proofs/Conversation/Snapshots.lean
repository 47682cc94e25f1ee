import ChatAssistant.Proofs.Conversation.Likeness

/-!
# Reports on tokens

A call takes the configuration with it when it begins.  What becomes of the configuration while the call
is in flight does not decide whether its tokens are reported.
-/

namespace ChatAssistant.Conversation

/-- Whether an event reports tokens. -/
def isUsage : Log.Event → Bool
  | .tokenUsage _ => true
  | _ => false

variable {d e : Desk} {m : Move} {result : Result}

/-! ## What calls take with them -/

theorem config_ask (c : Client) (messages : List Message) :
    ∀ r ∈ (c.ask messages).value.requests, r.config = c.config := by
  unfold Client.ask
  split <;> simp [Call.requests]

theorem request_of_await (d : Desk) (label : Nat) (purpose : Purpose) (begun : Call) :
    ∀ call ∈ (d.await label purpose begun).1.pending,
      call ∈ d.pending ∨ (call.label = label ∧ call.request ∈ begun.requests) := by
  intro call hcall
  cases begun with
  | answered text => exact .inl hcall
  | waiting request =>
    rcases List.mem_append.mp hcall with hold | hnew
    · exact .inl hold
    · rw [List.mem_singleton.mp hnew]
      exact .inr ⟨rfl, List.mem_singleton_self _⟩

theorem config_of_begun {start : Desk} {label : Nat} {purpose : Purpose} {begun : Call}
    (h : (if label ∈ d.begun then none else some (start.await label purpose begun)) = some (e, result))
    (hstart : start.pending = d.pending) (hconfig : ∀ r ∈ begun.requests, r.config = d.client.config) :
    ∀ call ∈ e.pending, call ∈ d.pending ∨
      (some label = some call.label ∧ call.request.config = d.client.config) := by
  intro call hcall
  obtain ⟨-, h⟩ := Option.ite_none_left_eq_some.mp h
  have hdesk : (start.await label purpose begun).1 = e := congrArg Prod.fst (Option.some.inj h)
  rw [← hdesk] at hcall
  rcases request_of_await start label purpose begun call hcall with hold | ⟨hlabel, hrequest⟩
  · exact .inl (hstart ▸ hold)
  · exact .inr ⟨congrArg some hlabel.symm, hconfig _ hrequest⟩

-- A call that comes into flight has the configuration of the desk on which it begins.
theorem config_of_move? (h : d.move? m = some (e, result)) :
    ∀ call ∈ e.pending, call ∈ d.pending ∨
      (m.begins? = some call.label ∧ call.request.config = d.client.config) := by
  cases m with
  | chat label message context =>
    simp only [Desk.move?] at h
    exact config_of_begun h rfl
      (config_ask { d.client with history := d.client.history.push ⟨.user, message⟩ } _)
  | ask label question =>
    simp only [Desk.move?, Question.ask_eq] at h
    exact config_of_begun h rfl (config_ask d.client question.messages)
  | answer | clear | configure | subscribe | receive =>
    intro call hcall
    refine (Desk.pending_of_move? h call hcall).imp_right fun hnew => ?_
    cases hnew.1

/-- Every call in flight has the configuration from the turn in which it began. -/
def Snapshots (trace : List Turn) (d : Desk) : Prop :=
  ∀ call ∈ d.pending, ∃ t ∈ trace,
    t.move.begins? = some call.label ∧ call.request.config = t.before.client.config

theorem Snapshots.move {trace : List Turn} (h : Snapshots trace d)
    (hm : d.move? m = some (e, result)) : Snapshots (trace ++ [⟨d, m, result, e⟩]) e := by
  intro call hcall
  rcases config_of_move? hm call hcall with hold | ⟨hbegins, hconfig⟩
  · obtain ⟨t, ht, hbegan⟩ := h call hold
    exact ⟨t, List.mem_append_left _ ht, hbegan⟩
  · exact ⟨_, List.mem_append_right _ (List.mem_singleton_self _), hbegins, hconfig⟩

theorem Snapshots.run {before trace : List Turn} (h : Snapshots before d) (hrun : Run d trace e) :
    Snapshots (before ++ trace) e := by
  induction hrun generalizing before with
  | nil => rwa [List.append_nil]
  | cons hm _ ih =>
    have hrest := ih (h.move hm)
    rwa [List.append_assoc] at hrest

theorem snapshots_of_run {c : Config} {trace : List Turn} (hrun : Run (.ofConfig c) trace e) :
    Snapshots trace e := by
  have hstart : Snapshots [] (.ofConfig c) := fun _ hcall => by cases hcall
  simpa only [List.nil_append] using hstart.run hrun

/-! ## What moves report -/

theorem usage_refreshLog (change : Settings.Change) (source : Settings.Source) :
    (Config.refreshLog change source).filter isUsage = [] := by
  have hkey : (Config.apiKeyReport source).filter isUsage = [] := by
    unfold Config.apiKeyReport
    split <;> rfl
  have hprovider : (Config.providerReport source).filter isUsage = [] := by
    unfold Config.providerReport
    split <;> rfl
  unfold Config.refreshLog
  rw [List.filter_append, List.filter_append]
  split <;> split <;> simp only [hkey, hprovider, List.filter_nil, List.append_nil] <;> rfl

theorem usage_usageLines (config : Config) (outcome : Outcome) :
    (usageLines config outcome).filter isUsage = usageLines config outcome := by
  unfold usageLines
  split
  · split <;> rfl
  · rfl
  · rfl

theorem usage_record (c : Client) (generation : Nat) (text : String) :
    (c.record generation text).log.filter isUsage = [] := by
  unfold Client.record
  dsimp only
  split <;> rfl

theorem usage_ask (c : Client) (messages : List Message) :
    (c.ask messages).log.filter isUsage = [] := by
  unfold Client.ask
  split <;> rfl

theorem usage_finish (d : Desk) (call : Pending) (outcome : Outcome) :
    (d.finish call outcome).log.filter isUsage = usageLines call.request.config outcome := by
  unfold Desk.finish
  cases outcome with
  | error failure => cases call.purpose <;> rfl
  | ok completion =>
    have hlines : (Client.usageLog call.request.config completion).filter isUsage =
        usageLines call.request.config (.ok completion) := by rw [usageLog_eq, usage_usageLines]
    cases call.purpose with
    | question => exact hlines
    | chat generation =>
      change (_ ++ (d.client.record generation completion.content).log).filter isUsage = _
      rw [List.filter_append, hlines, usage_record, List.append_nil]

theorem usage_log (hm : ∀ label outcome, m ≠ .answer label outcome) :
    (d.log m).filter isUsage = [] := by
  cases m with
  | answer label outcome => exact absurd rfl (hm label outcome)
  | chat label message context =>
    have hbegin : (d.client.beginChat message context).log.filter isUsage = [] := usage_ask _ _
    simp only [Desk.log]
    split
    · rw [List.filter_append, hbegin, usage_record, List.append_nil]
    · exact hbegin
  | ask label question =>
    rw [Desk.log, Question.ask_eq]
    exact usage_ask _ _
  | configure update =>
    cases update with
    | refresh change source => exact usage_refreshLog change source
    | _ => rfl
  | clear | subscribe | receive => rfl

/-- The reports on tokens of a turn: those of the outcome of a call, as the configuration asked for them
when the call began, and no others. -/
def UsageReported (earlier : List Turn) (t : Turn) : Prop :=
  match t.move with
  | .answer label outcome => ∃ start ∈ earlier, start.move.begins? = some label ∧
      t.log.filter isUsage = usageLines start.before.client.config outcome
  | _ => t.log.filter isUsage = []

/-- Tokens are reported turn by turn as they should be. -/
def ReportsUsage (trace : List Turn) : Prop :=
  ∀ earlier t later, trace = earlier ++ t :: later → UsageReported earlier t

theorem reportsUsage_of_run {c : Config} {trace : List Turn} (hrun : Run (.ofConfig c) trace e) :
    ReportsUsage trace := by
  rintro earlier t later rfl
  obtain ⟨hearlier, hmove, -⟩ := hrun.split
  unfold UsageReported
  split
  · next label outcome hanswer =>
    rw [hanswer] at hmove
    obtain ⟨call, hfind, -⟩ := Option.map_eq_some_iff.mp hmove
    obtain ⟨start, hstart, hbegins, hconfig⟩ :=
      snapshots_of_run hearlier call (List.mem_of_find?_eq_some hfind)
    have hlabel : call.label = label := by simpa using List.find?_some hfind
    refine ⟨start, hstart, hlabel ▸ hbegins, ?_⟩
    rw [Turn.log, hanswer, Desk.log, hfind, ← hconfig]
    exact usage_finish t.before call outcome
  · next hother => exact usage_log hother

end ChatAssistant.Conversation
