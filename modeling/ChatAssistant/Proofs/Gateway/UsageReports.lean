import ChatAssistant.Gateway.Exchange
import ChatAssistant.Proofs.Conversation.Snapshots
import ChatAssistant.Proofs.Gateway.Completion

/-!
# Token counts beside the conversation

What the gateway says about tokens, and whether it is reported, changes the log alone.  Two conversations
over the network whose answers differ in nothing else are the same.
-/

namespace ChatAssistant

open ChatAssistant.Settings ChatAssistant.Conversation

namespace Config

/-! ## Configurations that report or do not -/

/-- Configurations that agree but for whether tokens are reported. -/
abbrev UsageApart : Config → Config → Prop := AlikeBut .showTokenUsage fun _ _ => True

/-- Settings that agree but for whether tokens are reported. -/
def Update.SourcesApart (source other : Source) : Prop :=
  ∀ name, name ≠ Key.showTokenUsage.name → source name = other name

/-- Updates that agree but for whether tokens are reported. -/
inductive Update.UsageApart : Update → Update → Prop
  | same (u : Update) : UsageApart u u
  | showTokenUsage (enabled other : Bool) : UsageApart (.showTokenUsage enabled) (.showTokenUsage other)
  | refresh (change : Change) {source other : Source} : SourcesApart source other →
      UsageApart (.refresh change source) (.refresh change other)

/-- Origins that agree but for whether tokens are reported. -/
inductive Origin.UsageApart : Origin → Origin → Prop
  | given {c other : Config} : c.UsageApart other → UsageApart (.given c) (.given other)
  | settings {source other : Source} : Update.SourcesApart source other →
      UsageApart (.settings source) (.settings other)

theorem Update.UsageApart.apply {u v : Update} (h : UsageApart u v) {c other : Config}
    (hc : c.UsageApart other) : (u.apply c).UsageApart (v.apply other) := by
  cases h with
  | same => exact hc.apply (fun _ => trivial) u
  | showTokenUsage enabled shown =>
    exact hc.replace (fun _ hk => parameter_setShowTokenUsage hk enabled c)
      (fun _ hk => parameter_setShowTokenUsage hk shown other) trivial
  | refresh change hsource =>
    exact hc.refresh change hsource fun _ _ _ => trivial

theorem Update.SourcesApart.log {source other : Source} (h : SourcesApart source other)
    (change : Change) : refreshLog change source = refreshLog change other :=
  refreshLog_congr change (by rw [apiKeyReport, apiKeyReport, h _ (by decide)]) (h _ (by decide))

theorem Update.UsageApart.log_eq {u v : Update} (h : UsageApart u v) : u.log = v.log := by
  cases h with
  | same => rfl
  | showTokenUsage => rfl
  | refresh change hsource => exact hsource.log change

theorem UsageApart.hasApiKey_eq {c other : Config} (h : c.UsageApart other) :
    c.hasApiKey = other.hasApiKey := by
  have hkey : c.apiKey = other.apiKey := h.same .apiKey (by decide)
  rw [hasApiKey, hasApiKey, hkey]

theorem Origin.UsageApart.config {o other : Origin} (h : UsageApart o other) :
    o.config.UsageApart other.config := by
  cases h with
  | given hc => exact hc
  | settings hsource =>
    exact (Update.UsageApart.refresh .everything hsource).apply (.refl (fun _ => trivial) default)

theorem Origin.UsageApart.log_eq {o other : Origin} (h : UsageApart o other) : o.log = other.log := by
  cases h with
  | given => rfl
  | settings hsource => exact hsource.log .everything

end Config

namespace Gateway

open ChatAssistant.Json ChatAssistant.Json.Raw

/-! ## Answers with other counts -/

/-- The members of an answer without its counts of tokens. -/
def withoutUsage (members : List (List Piece × Raw)) : List (List Piece × Raw) :=
  members.filter fun member => text? member.1 ≠ some "usage"

/-- Counts of tokens stand at most once, and have a value. -/
def ReadsUsage (members : List (List Piece × Raw)) (field : Option Raw) : Prop :=
  valuesUnder "usage" members = field.toList ∧
    ∀ value, field = some value → value.Valued (depthLimit - 1)

/-- Bodies that are objects and agree but for counts of tokens. -/
inductive BodiesApart (body other : String) : Prop
  | intro {members others : List (List Piece × Raw)} {field usage : Option Raw} :
      Raw.parse? body = some (.object members) → Raw.parse? other = some (.object others) →
      ReadsUsage members field → ReadsUsage others usage →
      withoutUsage members = withoutUsage others → BodiesApart body other

/-- Answers of the network that agree but for the counts of tokens of a success. -/
inductive AnswersApart : NetworkResult → NetworkResult → Prop
  | same (result : NetworkResult) : AnswersApart result result
  | success {status : Nat} {body other : List Nat} : isSuccess status = true →
      BodiesApart (Text.Utf8.decodeLenient body) (Text.Utf8.decodeLenient other) →
      AnswersApart (.response status body) (.response status other)

theorem BodiesApart.symm {body other : String} (h : BodiesApart body other) :
    BodiesApart other body := by
  obtain ⟨hbody, hother, hfield, husage, hsame⟩ := h
  exact .intro hother hbody husage hfield hsame.symm

theorem valuesUnder_withoutUsage {name : String} (hname : name ≠ "usage")
    (members : List (List Piece × Raw)) :
    valuesUnder name (withoutUsage members) = valuesUnder name members := by
  unfold valuesUnder withoutUsage
  rw [List.filter_filter]
  congr 1
  refine List.filter_congr fun member _ => ?_
  by_cases hmember : text? member.1 = some name
  · simp [hmember, hname]
  · simp [hmember]

theorem isText_keys_withoutUsage (members : List (List Piece × Raw)) :
    (∀ member ∈ withoutUsage members, (text? member.1).isSome = true) ↔
      ∀ member ∈ members, (text? member.1).isSome = true := by
  constructor
  · intro h member hmember
    by_cases husage : text? member.1 = some "usage"
    · rw [husage]
      rfl
    · exact h member (List.mem_filter.mpr ⟨hmember, by simpa using husage⟩)
  · exact fun h member hmember => h member (List.mem_filter.mp hmember).1

theorem exists_usageField? {field : Option Raw}
    (h : ∀ value, field = some value → value.Valued (depthLimit - 1)) :
    ∃ usage, usageField? field = some usage := by
  cases field with
  | none => exact ⟨none, rfl⟩
  | some raw =>
    obtain ⟨value, hvalue⟩ := Option.isSome_iff_exists.mp
      ((Raw.isSome_toValue?_iff raw (depthLimit - 1)).mpr (h raw rfl))
    exact ⟨usageValue? value, by rw [usageField?, hvalue, Option.map_some]⟩

-- The reply of a body does not depend on its counts of tokens.
theorem BodiesApart.exists_completion {body other : String} (h : BodiesApart body other)
    {completion : Completion} (hread : completion? body = some completion) :
    ∃ usage, completion? other = some ⟨completion.content, usage⟩ := by
  obtain ⟨hbody, hother, -, ⟨hfield, hvalued⟩, hsame⟩ := h
  next members others _ field =>
  obtain ⟨raw, hwrites, hanswer⟩ := completion?_eq_some_iff.mp hread
  cases hbody.symm.trans (Raw.parse?_eq_some_iff.mpr hwrites)
  obtain ⟨hfields, hitems, hne, -, -⟩ := hanswer
  cases hfields with
  | object hkeys hplaces =>
    cases hplaces with
    | cons hchoices _ =>
      -- The other body has the same choices; only its counts are its own.
      rw [← valuesUnder_withoutUsage (by decide), hsame, valuesUnder_withoutUsage (by decide)]
        at hchoices
      rw [← isText_keys_withoutUsage, hsame, isText_keys_withoutUsage] at hkeys
      obtain ⟨usage, husage⟩ := exists_usageField? hvalued
      refine ⟨usage, completion?_eq_some_iff.mpr ⟨_, Raw.parse?_eq_some_iff.mp hother, ?_⟩⟩
      exact .intro (.object hkeys (.cons hchoices (.cons hfield .nil))) hitems hne hvalued
        (usageField?_eq_some_iff.mp husage).2

theorem BodiesApart.content_eq {body other : String} (h : BodiesApart body other) :
    (readCompletion body).map Completion.content = (readCompletion other).map Completion.content := by
  unfold readCompletion
  cases hbody : completion? body with
  | none =>
    cases hother : completion? other with
    | none => rfl
    | some completion =>
      obtain ⟨usage, husage⟩ := h.symm.exists_completion hother
      rw [hbody] at husage
      cases husage
  | some completion =>
    obtain ⟨usage, husage⟩ := h.exists_completion hbody
    rw [husage]
    rfl

theorem AnswersApart.content_eq {result other : NetworkResult} (h : AnswersApart result other) :
    (outcomeOf result).map Completion.content = (outcomeOf other).map Completion.content := by
  cases h with
  | same => rfl
  | success hsuccess hbodies =>
    simp only [outcomeOf, if_pos hsuccess]
    exact hbodies.content_eq

/-! ## Conversations over the network -/

/-- What happens in a conversation over the network. -/
inductive Incident
  /-- A move that is no answer. -/
  | move (m : Move)
  /-- The network brings something back for the call. -/
  | arrival (label : Nat) (result : NetworkResult)

/-- The move that an incident makes: an answer is what the gateway's client makes of the result. -/
def Incident.move? (referer : Option String) : Incident → Desk → Option Move
  | .move (.answer _ _), _ => none
  | .move m, _ => some m
  | .arrival label result, d =>
    (d.pending.find? (·.label == label)).map fun call =>
      .answer label (respond (fun _ => result) referer call.request)

/-- Incidents that agree but for counts of tokens and whether they are reported. -/
inductive Incident.UsageApart : Incident → Incident → Prop
  | move (m : Move) : UsageApart (.move m) (.move m)
  | configure {u v : Config.Update} : Config.Update.UsageApart u v →
      UsageApart (.move (.configure u)) (.move (.configure v))
  | arrival (label : Nat) {result other : NetworkResult} : AnswersApart result other →
      UsageApart (.arrival label result) (.arrival label other)

/-- The trace of a conversation over the network, and the desk after it. -/
def play? (referer : Option String) (c : Config) (incidents : List Incident) :
    Option (List Turn × Desk) :=
  (Desk.ofConfig c).follow? (incidents.map (Incident.move? referer))

theorem httpRequest_eq (referer : Option String) {r request : Request}
    (hc : r.config.UsageApart request.config) (hmessages : r.messages = request.messages) :
    httpRequest referer r = httpRequest referer request := by
  have hkey : r.config.apiKey = request.config.apiKey := hc.same .apiKey (by decide)
  have hmodel : r.config.model = request.config.model := hc.same .model (by decide)
  have htemperature : r.config.temperature = request.config.temperature :=
    hc.same .temperature (by decide)
  have hmaxTokens : r.config.maxTokens = request.config.maxTokens := hc.same .maxTokens (by decide)
  have hendpoint : r.config.endpoint = request.config.endpoint := hc.same .endpoint (by decide)
  simp only [httpRequest, requestBody, hkey, hmodel, htemperature, hmaxTokens, hendpoint, hmessages]

theorem filter_not_isUsage_usageLines (c : Config) (outcome : Outcome) :
    (usageLines c outcome).filter (!isUsage ·) = [] := by
  unfold usageLines
  split
  · split <;> rfl
  · rfl
  · rfl

/-- Configurations and answers that differ in counts of tokens look alike to everyone who passes over
the reports on them. -/
def usageLikeness : Likeness where
  config := Config.UsageApart
  update := Config.Update.UsageApart
  outcome o p := o.map Completion.content = p.map Completion.content
  shows e := !isUsage e
  hasApiKey_eq h := Config.UsageApart.hasApiKey_eq h
  provider_eq h := h.same .provider (by decide)
  model_eq h := h.same .model (by decide)
  apply h hc := h.apply hc
  log_eq h := by rw [h.log_eq]
  content_eq h := h
  usage_eq _ _ := by rw [filter_not_isUsage_usageLines, filter_not_isUsage_usageLines]

theorem Incident.UsageApart.plans {i j : Incident} (h : UsageApart i j) (referer : Option String) :
    usageLikeness.Plans (i.move? referer) (j.move? referer) := by
  intro d e hdesks
  cases h with
  | configure hupdate => exact .some (.configure hupdate)
  | arrival label hanswers =>
    exact rel_map (Likeness.rel_find? hdesks.pending label) fun _ _ _ => .answer label hanswers.content_eq
  | move m =>
    have hmoves : usageLikeness.Moves m m :=
      .refl Config.Update.UsageApart.same (fun _ => rfl) m
    cases m with
    | answer => exact .none
    | _ => exact .some hmoves

/-- Moves of which everything is the same but the reports on tokens. -/
structure SameButUsage (referer : Option String) (t u : Turn) : Prop where
  sent : t.result.requests.map (httpRequest referer) = u.result.requests.map (httpRequest referer)
  reply : t.result.reply = u.result.reply
  delivery : t.result.delivery = u.result.delivery
  history : t.after.client.history = u.after.client.history
  log : t.log.filter (!isUsage ·) = u.log.filter (!isUsage ·)

theorem sameButUsage_of_turns (referer : Option String) {t u : Turn} (h : usageLikeness.Turns t u) :
    SameButUsage referer t u where
  sent := Likeness.map_eq_of_requests h.result.requests fun _ _ hr =>
    httpRequest_eq referer hr.config hr.messages
  reply := h.result.reply
  delivery := h.result.delivery
  history := h.after.client.history
  log := h.log

/-- Two conversations over the network that differ in counts of tokens and in whether these are reported
are the same but for the reports.  In each of them every successful call with readable counts is reported
once if the configuration asked for it when the call began, and nothing else is reported. -/
theorem usage_shows_in_log_only (referer : Option String) {origin other : Config.Origin}
    (horigin : origin.UsageApart other) {incidents others : List Incident}
    (hincidents : List.Forall₂ Incident.UsageApart incidents others) :
    origin.log = other.log ∧
      Option.Rel (fun run run' => List.Forall₂ (SameButUsage referer) run.1 run'.1 ∧
          ReportsUsage run.1 ∧ ReportsUsage run'.1)
        (play? referer origin.config incidents) (play? referer other.config others) := by
  refine ⟨horigin.log_eq, ?_⟩
  have hdesks : usageLikeness.Desks (.ofConfig origin.config) (.ofConfig other.config) :=
    Likeness.desks_ofConfig horigin.config
  have hplans : List.Forall₂ usageLikeness.Plans (incidents.map (Incident.move? referer))
      (others.map (Incident.move? referer)) := by
    rw [List.forall₂_map_left_iff, List.forall₂_map_right_iff]
    exact hincidents.imp fun _ _ hi => hi.plans referer
  refine rel_imp (hdesks.follow hplans) fun run run' hrun hrun' hsame => ?_
  exact ⟨hsame.1.imp fun _ _ ht => sameButUsage_of_turns referer ht,
    reportsUsage_of_run (Run.of_follow? hrun), reportsUsage_of_run (Run.of_follow? hrun')⟩

/-- An answer with a count. -/
def countedBody : String :=
  "\x7b\"choices\":[\x7b\"message\":\x7b\"content\":\"Hi!\"\x7d\x7d],\"usage\":\x7b\"prompt_tokens\":3\x7d\x7d"

/-- The same answer without one. -/
def plainBody : String :=
  "\x7b\"choices\":[\x7b\"message\":\x7b\"content\":\"Hi!\"\x7d\x7d]\x7d"

/-- A chat during which reports are switched. -/
def switchedIncidents (enabled : Bool) (body : String) : List Incident :=
  [.move (.configure (.apiKey "sk-1")), .move .subscribe, .move (.chat 0 "Hello." none),
    .move (.configure (.showTokenUsage enabled)),
    .arrival 0 (.response 200 (Text.Utf8.encode body)), .move (.receive 0)]

/-- All reports on tokens of a run. -/
def reportedUsage (run : List Turn × Desk) : List Log.Event :=
  run.1.flatMap fun t => t.log.filter isUsage

theorem bodiesApart_counted_plain : BodiesApart countedBody plainBody := by
  refine @BodiesApart.intro _ _ _ _ (some _) none rfl rfl ⟨rfl, fun value hvalue => ?_⟩
    ⟨rfl, fun _ hvalue => by cases hvalue⟩ rfl
  cases hvalue
  exact (Json.Raw.isSome_toValue?_iff _ _).mp (by decide +kernel)

theorem usage_shows_in_log_only_switched :
    ∃ run run', play? none .default (switchedIncidents false countedBody) = some run ∧
      play? none .default (switchedIncidents true plainBody) = some run' ∧
        List.Forall₂ (SameButUsage none) run.1 run'.1 ∧
          reportedUsage run = [.tokenUsage ⟨3, 0, 0⟩] ∧ reportedUsage run' = [] := by
  have hanswers : AnswersApart (.response 200 (Text.Utf8.encode countedBody))
      (.response 200 (Text.Utf8.encode plainBody)) := by
    have hcounted : Text.Utf8.decodeLenient (Text.Utf8.encode countedBody) = countedBody := by
      decide +kernel
    have hplain : Text.Utf8.decodeLenient (Text.Utf8.encode plainBody) = plainBody := by
      decide +kernel
    refine .success (by decide) ?_
    rw [hcounted, hplain]
    exact bodiesApart_counted_plain
  have hincidents : List.Forall₂ Incident.UsageApart (switchedIncidents false countedBody)
      (switchedIncidents true plainBody) :=
    .cons (.move _) (.cons (.move _) (.cons (.move _) (.cons (.configure (.showTokenUsage _ _))
      (.cons (.arrival 0 hanswers) (.cons (.move _) .nil)))))
  have hruns := (usage_shows_in_log_only none
    (.given (.refl (fun _ => trivial) .default)) hincidents).2
  have hfirst : (play? none .default (switchedIncidents false countedBody)).map reportedUsage =
      some [.tokenUsage ⟨3, 0, 0⟩] := by decide +kernel
  have hsecond : (play? none .default (switchedIncidents true plainBody)).map reportedUsage =
      some [] := by decide +kernel
  obtain ⟨run, hrun, hreported⟩ := Option.map_eq_some_iff.mp hfirst
  obtain ⟨run', hrun', hreported'⟩ := Option.map_eq_some_iff.mp hsecond
  change Option.Rel _ (play? none .default _) (play? none .default _) at hruns
  rw [hrun, hrun'] at hruns
  cases hruns with
  | some hsame => exact ⟨run, run', hrun, hrun', hsame.1, hreported, hreported'⟩

end Gateway

end ChatAssistant
