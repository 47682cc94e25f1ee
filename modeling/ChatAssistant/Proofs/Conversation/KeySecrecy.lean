import ChatAssistant.Proofs.Conversation.Likeness

/-!
# What a key shows in

The key goes to the gateway with a request, and nowhere else: users, receivers, the log and the
diagnostics tell at most whether there is a key.  So two runs with different keys look the same.
-/

namespace ChatAssistant

open ChatAssistant.Settings ChatAssistant.Conversation

namespace Config

/-! ## Keys that differ -/

/-- The same key, or two keys that are not blank. -/
def KeysAlike (key other : String) : Prop :=
  key = other ∨ Text.isBlankText key = false ∧ Text.isBlankText other = false

/-- The same setting of the key, or two texts that are not blank. -/
inductive KeySettings : Option Json.Value → Option Json.Value → Prop
  | same (value : Option Json.Value) : KeySettings value value
  | given {key other : String} : Text.isBlankText key = false → Text.isBlankText other = false →
      KeySettings (some (.string key)) (some (.string other))

/-- Settings that agree but for the key. -/
structure SourcesApart (source other : Source) : Prop where
  same : ∀ name, name ≠ Key.apiKey.name → source name = other name
  key : KeySettings (source Key.apiKey.name) (other Key.apiKey.name)

/-- Updates that agree but for the key. -/
inductive Update.KeysApart : Update → Update → Prop
  | same (u : Update) : KeysApart u u
  | apiKey {key other : String} : Text.isBlankText key = false → Text.isBlankText other = false →
      KeysApart (.apiKey key) (.apiKey other)
  | refresh (change : Change) {source other : Source} : SourcesApart source other →
      KeysApart (.refresh change source) (.refresh change other)

/-- Origins that agree but for the key. -/
inductive Origin.KeysApart : Origin → Origin → Prop
  | given {c other : Config} : AlikeBut .apiKey KeysAlike c other →
      KeysApart (.given c) (.given other)
  | settings {source other : Source} : SourcesApart source other →
      KeysApart (.settings source) (.settings other)

theorem KeysAlike.refl (key : String) : KeysAlike key key := .inl rfl

theorem KeysAlike.isBlankText_eq {key other : String} (h : KeysAlike key other) :
    Text.isBlankText key = Text.isBlankText other := by
  rcases h with rfl | ⟨hkey, hother⟩
  · rfl
  · rw [hkey, hother]

section Settings

variable {source settings : Source}

-- A key that a setting gives is trimmed, and something is left of a text that is not blank.
theorem SourcesApart.read (h : SourcesApart source settings) {old older : String}
    (hold : KeysAlike old older) :
    KeysAlike (read source .apiKey old) (read settings .apiKey older) := by
  obtain ⟨-, hkey⟩ := h
  simp only [Config.read, apiKeyFrom]
  generalize source Key.apiKey.name = value at hkey
  generalize settings Key.apiKey.name = setting at hkey
  cases hkey with
  | same =>
    split
    case h_5 => exact hold
    all_goals exact .refl _
  | given hgiven hother => exact .inr ⟨Text.isBlankText_trim hgiven, Text.isBlankText_trim hother⟩

theorem SourcesApart.report (h : SourcesApart source settings) :
    apiKeyReport source = apiKeyReport settings := by
  obtain ⟨-, hkey⟩ := h
  unfold apiKeyReport
  generalize source Key.apiKey.name = value at hkey
  generalize settings Key.apiKey.name = setting at hkey
  cases hkey <;> rfl

theorem SourcesApart.log (h : SourcesApart source settings) (change : Change) :
    refreshLog change source = refreshLog change settings :=
  refreshLog_congr change h.report (h.same _ (by decide))

theorem SourcesApart.refresh (h : SourcesApart source settings) {c other : Config}
    (hc : AlikeBut .apiKey KeysAlike c other) (change : Change) :
    AlikeBut .apiKey KeysAlike (c.refresh change source) (other.refresh change settings) :=
  hc.refresh change h.same fun _ _ hold => h.read hold

end Settings

theorem Update.KeysApart.apply {u v : Update} (h : KeysApart u v) {c other : Config}
    (hc : AlikeBut .apiKey KeysAlike c other) :
    AlikeBut .apiKey KeysAlike (u.apply c) (v.apply other) := by
  cases h with
  | same => exact hc.apply KeysAlike.refl u
  | @apiKey key replaced hkey hreplaced =>
    exact hc.replace (fun _ hk => parameter_setApiKey hk key c)
      (fun _ hk => parameter_setApiKey hk replaced other) (.inr ⟨hkey, hreplaced⟩)
  | refresh change hsource => exact hsource.refresh hc change

theorem Update.KeysApart.log_eq {u v : Update} (h : KeysApart u v) : u.log = v.log := by
  cases h with
  | same => rfl
  | apiKey => rfl
  | refresh change hsource => exact hsource.log change

theorem AlikeBut.hasApiKey_eq {c other : Config} (h : AlikeBut .apiKey KeysAlike c other) :
    c.hasApiKey = other.hasApiKey :=
  congrArg (!·) (KeysAlike.isBlankText_eq h.like)

theorem AlikeBut.setApiKey_eq {c other : Config} (h : AlikeBut .apiKey KeysAlike c other)
    (key : String) : c.setApiKey key = other.setApiKey key := by
  refine ext_parameter fun k => ?_
  by_cases hk : k = .apiKey
  · subst hk
    rfl
  · rw [parameter_setApiKey hk, parameter_setApiKey hk, h.same k hk]

-- The diagnostics show that there is a key and not which.
theorem AlikeBut.diagnostic_eq {c other : Config} (h : AlikeBut .apiKey KeysAlike c other) :
    c.diagnostic = other.diagnostic := by
  have hprovider : c.provider = other.provider := h.same .provider (by decide)
  have hmodel : c.model = other.model := h.same .model (by decide)
  have htemperature : c.temperature = other.temperature := h.same .temperature (by decide)
  have hmaxTokens : c.maxTokens = other.maxTokens := h.same .maxTokens (by decide)
  have husage : c.showTokenUsage = other.showTokenUsage := h.same .showTokenUsage (by decide)
  have hendpoint : c.endpoint = other.endpoint := h.same .endpoint (by decide)
  simp only [diagnostic, h.hasApiKey_eq, hprovider, hmodel, htemperature, hmaxTokens, husage,
    hendpoint]

theorem Origin.KeysApart.config {o other : Origin} (h : KeysApart o other) :
    AlikeBut .apiKey KeysAlike o.config other.config := by
  cases h with
  | given hc => exact hc
  | settings hsource => exact hsource.refresh (.refl KeysAlike.refl default) .everything

theorem Origin.KeysApart.log_eq {o other : Origin} (h : KeysApart o other) : o.log = other.log := by
  cases h with
  | given => rfl
  | settings hsource => exact hsource.log .everything

end Config

namespace Conversation

/-! ## Runs with other keys -/

/-- Configurations with other keys look alike to everyone but the gateway. -/
def keyLikeness : Likeness where
  config := Config.AlikeBut .apiKey Config.KeysAlike
  update := Config.Update.KeysApart
  outcome := Eq
  shows _ := true
  hasApiKey_eq h := h.hasApiKey_eq
  provider_eq h := h.same .provider (by decide)
  model_eq h := h.same .model (by decide)
  apply h hc := h.apply hc
  log_eq h := by rw [h.log_eq]
  content_eq h := by rw [h]
  usage_eq {c other _ _} hc h := by
    have husage : c.showTokenUsage = other.showTokenUsage := hc.same .showTokenUsage (by decide)
    subst h
    unfold usageLines
    rw [husage]

/-- Moves that agree but for the key. -/
inductive Move.KeysApart : Move → Move → Prop
  | same (m : Move) : KeysApart m m
  | configure {u v : Config.Update} : Config.Update.KeysApart u v →
      KeysApart (.configure u) (.configure v)

/-- A request with its key taken out. -/
def Request.withoutKey (r : Request) : Request := { r with config := r.config.setApiKey "" }

/-- Moves of which everything is the same but the keys of requests. -/
structure SameButKeys (t u : Turn) : Prop where
  requests : t.result.requests.map Request.withoutKey = u.result.requests.map Request.withoutKey
  requestDiagnostics : t.result.requests.map (·.config.diagnostic) =
    u.result.requests.map (·.config.diagnostic)
  reply : t.result.reply = u.result.reply
  delivery : t.result.delivery = u.result.delivery
  log : t.log = u.log
  history : t.after.client.history = u.after.client.history
  diagnostic : t.after.client.config.diagnostic = u.after.client.config.diagnostic

theorem Move.KeysApart.moves {m n : Move} (h : KeysApart m n) : keyLikeness.Moves m n := by
  cases h with
  | configure hupdate => exact .configure hupdate
  | same => exact .refl Config.Update.KeysApart.same (fun _ => rfl) m

theorem withoutKey_eq {r request : Request} (h : keyLikeness.Requests r request) :
    r.withoutKey = request.withoutKey := by
  simp only [Request.withoutKey, h.messages, h.config.setApiKey_eq]

theorem sameButKeys_of_turns {t u : Turn} (h : keyLikeness.Turns t u) : SameButKeys t u where
  requests := Likeness.map_eq_of_requests h.result.requests fun _ _ hr => withoutKey_eq hr
  requestDiagnostics :=
    Likeness.map_eq_of_requests h.result.requests fun _ _ hr => Config.AlikeBut.diagnostic_eq hr.config
  reply := h.result.reply
  delivery := h.result.delivery
  log := by
    have hlog := h.log
    simpa only [Likeness.Logs, keyLikeness, List.filter_true] using hlog
  history := h.after.client.history
  diagnostic := h.after.client.config.diagnostic_eq

/-- Two runs that differ in their keys only, where a key that differs is not blank in either, are the
same to users, receivers and readers of the log and of diagnostics; so are their requests but for the
key. -/
theorem key_shows_in_requests_only {origin other : Config.Origin} (horigin : origin.KeysApart other)
    {list others : List Move} (hlist : List.Forall₂ Move.KeysApart list others) :
    origin.log = other.log ∧ origin.config.diagnostic = other.config.diagnostic ∧
      Option.Rel (fun run run' => List.Forall₂ SameButKeys run.1 run'.1)
        ((Desk.ofConfig origin.config).run? list) ((Desk.ofConfig other.config).run? others) := by
  refine ⟨horigin.log_eq, horigin.config.diagnostic_eq, ?_⟩
  have hdesks : keyLikeness.Desks (.ofConfig origin.config) (.ofConfig other.config) :=
    Likeness.desks_ofConfig horigin.config
  have hruns := hdesks.run (hlist.imp fun _ _ hm => hm.moves)
  exact rel_imp hruns fun _ _ _ _ hrun => hrun.1.imp fun _ _ ht => sameButKeys_of_turns ht

/-- A chat and a question, each with a key of its own. -/
def keyedMoves (key stored : String) : List Move :=
  [.configure (.apiKey key), .subscribe, .chat 0 "Hello." none,
    .configure (.refresh .everything fun name =>
      if name = Key.apiKey.name then some (.string stored) else none),
    .ask 1 (.prompt "Name a prime."), .answer 1 (.error .unauthorized),
    .answer 0 (.ok ⟨"Hi!", none⟩), .receive 0]

/-- The keys that are sent. -/
def keysSent (trace : List Turn) : List String :=
  trace.flatMap fun t => t.result.requests.map (·.config.apiKey)

theorem key_shows_in_requests_only_replaced :
    ∃ run run', (Desk.ofConfig .default).run? (keyedMoves "sk-1" " sk-2 ") = some run ∧
      (Desk.ofConfig .default).run? (keyedMoves "sk-3" "sk-4") = some run' ∧
        List.Forall₂ SameButKeys run.1 run'.1 ∧
          keysSent run.1 = ["sk-1", "sk-2"] ∧ keysSent run'.1 = ["sk-3", "sk-4"] := by
  have hlist : List.Forall₂ Move.KeysApart (keyedMoves "sk-1" " sk-2 ") (keyedMoves "sk-3" "sk-4") := by
    refine .cons (.configure (.apiKey (by decide) (by decide))) (.cons (.same _) (.cons (.same _)
      (.cons (.configure (.refresh _ ⟨fun name hname => ?_, .given (by decide) (by decide)⟩))
        (.cons (.same _) (.cons (.same _) (.cons (.same _) (.cons (.same _) .nil)))))))
    rw [if_neg hname, if_neg hname]
  obtain ⟨-, -, hruns⟩ :=
    key_shows_in_requests_only (.given (.refl Config.KeysAlike.refl .default)) hlist
  have hfirst : ((Desk.ofConfig .default).run? (keyedMoves "sk-1" " sk-2 ")).map (keysSent ·.1) =
      some ["sk-1", "sk-2"] := by decide +kernel
  have hsecond : ((Desk.ofConfig .default).run? (keyedMoves "sk-3" "sk-4")).map (keysSent ·.1) =
      some ["sk-3", "sk-4"] := by decide +kernel
  obtain ⟨run, hrun, hkeys⟩ := Option.map_eq_some_iff.mp hfirst
  obtain ⟨run', hrun', hkeys'⟩ := Option.map_eq_some_iff.mp hsecond
  change Option.Rel _ ((Desk.ofConfig .default).run? _) ((Desk.ofConfig .default).run? _) at hruns
  rw [hrun, hrun'] at hruns
  cases hruns with
  | some hsame => exact ⟨run, run', hrun, hrun', hsame, hkeys, hkeys'⟩

end Conversation

end ChatAssistant
