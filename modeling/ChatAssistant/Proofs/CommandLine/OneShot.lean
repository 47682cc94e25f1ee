import ChatAssistant.CommandLine.Program
import ChatAssistant.Proofs.Conversation.Desk
import ChatAssistant.Proofs.Terminal.Shown

/-!
# Runs without a chat

A run without a chat either stops before it asks, with a failure and without a trace, or it asks once and
shows a text, whatever becomes of the request.
-/

namespace ChatAssistant.CommandLine

open ChatAssistant.Conversation ChatAssistant.Settings ChatAssistant.Terminal

/-! ## What a run comes to -/

/-- Why a run stops before it asks, in the order in which it is found out. -/
inductive Stops (s : Surroundings) (args : Arguments) : Failure → Prop
  | settings {failure : Failure} :
      Store.load s.files (settingsPath args s.home) = .error failure → Stops s args failure
  | undecodable {store : Store} :
      Store.load s.files (settingsPath args s.home) = .ok store → Text.Utf8.decode? s.input = none →
        Stops s args (.input "Failed to read from stdin: stream did not contain valid UTF-8")
  | unread {store : Store} {input path : String} {e : FileError} :
      Store.load s.files (settingsPath args s.home) = .ok store → Text.Utf8.decode? s.input = some input →
        args.file = some path → s.files.read path = .error e → Stops s args e.failure
  | nothing {store : Store} {input : String} :
      Store.load s.files (settingsPath args s.home) = .ok store → Text.Utf8.decode? s.input = some input →
        args.file = none → args.query = none → Text.isBlankText input = true →
        Stops s args (.input "No query provided")

/-- The instruction that goes with a file: the one that is given, or else that of the action. -/
def fileInstruction (args : Arguments) : String :=
  match args.instruction, args.action with
  | some instruction, _ => instruction
  | none, some action => action.instruction
  | none, none => CodeAction.explain.instruction

/-- The settings and the messages with which a run asks.  A file goes before a query, and what is on the input
is only looked at where there is no file. -/
inductive Asks (s : Surroundings) (args : Arguments) : Store → List Message → Prop
  | file {store : Store} {input path content : String} :
      Store.load s.files (settingsPath args s.home) = .ok store → Text.Utf8.decode? s.input = some input →
        args.file = some path → s.files.read path = .ok content →
        Asks s args store
          [⟨.system, Prompt.codePersona⟩, ⟨.user, Prompt.file content (fileInstruction args)⟩]
  | queryAlone {store : Store} {input query : String} :
      Store.load s.files (settingsPath args s.home) = .ok store → Text.Utf8.decode? s.input = some input →
        args.file = none → args.query = some query → Text.isBlankText input = true →
        Asks s args store [⟨.system, Prompt.chatPersona⟩, ⟨.user, query⟩]
  | queryAbout {store : Store} {input query : String} :
      Store.load s.files (settingsPath args s.home) = .ok store → Text.Utf8.decode? s.input = some input →
        args.file = none → args.query = some query → Text.isBlankText input = false →
        Asks s args store [⟨.system, Prompt.chatPersona⟩, ⟨.system, Prompt.context input⟩, ⟨.user, query⟩]
  | bare {store : Store} {input : String} :
      Store.load s.files (settingsPath args s.home) = .ok store → Text.Utf8.decode? s.input = some input →
        args.file = none → args.query = none → Text.isBlankText input = false →
        Asks s args store [⟨.user, input⟩]

variable {s : Surroundings} {args : Arguments}

theorem stops_or_asks (s : Surroundings) (args : Arguments) :
    (∃ failure, Stops s args failure) ∨ ∃ store messages, Asks s args store messages := by
  cases hload : Store.load s.files (settingsPath args s.home) with
  | error failure => exact .inl ⟨_, .settings hload⟩
  | ok store =>
  cases hinput : Text.Utf8.decode? s.input with
  | none => exact .inl ⟨_, .undecodable hload hinput⟩
  | some input =>
  cases hfile : args.file with
  | some path =>
    cases hread : s.files.read path with
    | error e => exact .inl ⟨_, .unread hload hinput hfile hread⟩
    | ok content => exact .inr ⟨_, _, .file hload hinput hfile hread⟩
  | none =>
    cases hquery : args.query with
    | some query =>
      cases hblank : Text.isBlankText input with
      | true => exact .inr ⟨_, _, .queryAlone hload hinput hfile hquery hblank⟩
      | false => exact .inr ⟨_, _, .queryAbout hload hinput hfile hquery hblank⟩
    | none =>
      cases hblank : Text.isBlankText input with
      | true => exact .inl ⟨_, .nothing hload hinput hfile hquery hblank⟩
      | false => exact .inr ⟨_, _, .bare hload hinput hfile hquery hblank⟩

/-! ## Questions -/

/-- The text that a user gets from a call. -/
def heard (respond : Request → Outcome) : Call → String
  | .answered text => text
  | .waiting request => textOf (respond request)

theorem value_complete (step : Step Call) (respond : Request → Outcome) :
    (Client.complete step respond).value = heard respond step.value := by
  unfold Client.complete
  cases step.value with
  | answered text => rfl
  | waiting request =>
    dsimp only [heard]
    cases respond request <;> rfl

theorem value_completeChat (step : Step Client.Chat) (respond : Request → Outcome) :
    (Client.completeChat step respond).value = heard respond step.value.call := by
  unfold Client.completeChat
  cases step.value.call with
  | answered text => exact Client.value_record _ text
  | waiting request =>
    dsimp only [heard]
    cases respond request with
    | ok completion => exact Client.value_record _ completion.content
    | error failure => rfl

namespace Question

theorem value_ask (q : Question) (c : Client) (respond : Request → Outcome) :
    (q.ask c respond).value = heard respond (q.call c) := by
  cases q with
  | file => exact value_complete _ respond
  | query => exact value_completeChat _ respond
  | bare => exact value_complete _ respond

/-- The messages that a question asks with, where nothing has been said before. -/
def messages : Question → List Message
  | file content instruction => [⟨.system, Prompt.codePersona⟩, ⟨.user, Prompt.file content instruction⟩]
  | query text none => [⟨.system, Prompt.chatPersona⟩, ⟨.user, text⟩]
  | query text (some context) =>
    [⟨.system, Prompt.chatPersona⟩, ⟨.system, Prompt.context context⟩, ⟨.user, text⟩]
  | bare text => [⟨.user, text⟩]

theorem call_ofConfig (q : Question) (config : Config) :
    q.call (.ofConfig config) =
      if config.hasApiKey then .waiting ⟨config, q.messages⟩ else .answered Prompt.missingCredential := by
  have hask : ∀ (c : Client), c.config = config → (c.ask q.messages).value =
      if config.hasApiKey then .waiting ⟨config, q.messages⟩ else .answered Prompt.missingCredential := by
    rintro c rfl
    unfold Client.ask
    split <;> rfl
  cases q with
  | file => exact hask _ rfl
  | query text context => cases context <;> exact hask _ rfl
  | bare => exact hask _ rfl

end Question

/-- The requests of a run that asks with these messages. -/
def sentRequests (config : Config) (messages : List Message) : List Request :=
  if config.hasApiKey then [⟨config, messages⟩] else []

/-- The text that a run shows which asks with these messages. -/
def shownText (respond : Request → Outcome) (config : Config) (messages : List Message) : String :=
  if config.hasApiKey then textOf (respond ⟨config, messages⟩) else Prompt.missingCredential

/-! ## Runs -/

theorem ofArguments_of_undecodable (hinput : Text.Utf8.decode? s.input = none) :
    Question.ofArguments args s.files s.input =
      .error (.input "Failed to read from stdin: stream did not contain valid UTF-8") := by
  rw [Question.ofArguments, Question.piped, hinput]
  rfl

theorem instructionOf_eq (args : Arguments) : Question.instructionOf args = fileInstruction args := by
  unfold Question.instructionOf fileInstruction
  cases args.instruction with
  | some instruction => rfl
  | none => cases args.action <;> rfl

theorem ofArguments_of_decode {input : String} (hinput : Text.Utf8.decode? s.input = some input) :
    Question.ofArguments args s.files s.input =
      match args.file, args.query with
      | some path, _ =>
        match s.files.read path with
        | .ok content => .ok (.file content (fileInstruction args))
        | .error e => .error e.failure
      | none, some query => .ok (.query query (if Text.isBlankText input then none else some input))
      | none, none =>
        if Text.isBlankText input then .error (.input "No query provided") else .ok (.bare input) := by
  rw [Question.ofArguments, Question.piped, hinput, ← instructionOf_eq]
  dsimp only [bind, Except.bind]
  cases args.file with
  | some path => rfl
  | none =>
    cases args.query with
    | some query => rfl
    | none => cases Text.isBlankText input <;> rfl

variable {failure : Failure} {store : Store} {messages : List Message} (respond : Nat → Request → Outcome)

-- A run that stops has asked nothing and shows why.
theorem run_of_stops (hchat : args.chat = false) (h : Stops s args failure) :
    (run s respond args).blocks = [.failure failure] ∧ (run s respond args).requests = [] ∧
      (run s respond args).files = s.files ∧ (run s respond args).exitCode = 1 := by
  have hquestion : ∀ {store}, Store.load s.files (settingsPath args s.home) = .ok store →
      Question.ofArguments args s.files s.input = .error failure →
      ∃ log, run s respond args = .fail [] [] log s.files failure := by
    intro store hload hquestion
    refine ⟨Config.refreshLog .everything store.source, ?_⟩
    rw [run, hload]
    dsimp only
    rw [if_neg (by simp [hchat]), runQuestion, hquestion]
  have hending : ∃ log, run s respond args = .fail [] [] log s.files failure := by
    cases h with
    | settings hload =>
      refine ⟨[], ?_⟩
      rw [run, hload]
    | undecodable hload hinput => exact hquestion hload (ofArguments_of_undecodable hinput)
    | unread hload hinput hfile hread =>
      refine hquestion hload ?_
      rw [ofArguments_of_decode hinput, hfile]
      dsimp only
      rw [hread]
    | nothing hload hinput hfile hquery hblank =>
      refine hquestion hload ?_
      rw [ofArguments_of_decode hinput, hfile, hquery]
      exact if_pos hblank
  obtain ⟨log, hending⟩ := hending
  rw [hending]
  exact ⟨rfl, rfl, rfl, rfl⟩

theorem exists_question_of_asks (h : Asks s args store messages) :
    ∃ question, Question.ofArguments args s.files s.input = .ok question ∧ question.messages = messages := by
  cases h with
  | @file _ _ content hload hinput hfile hread =>
    refine ⟨.file content (fileInstruction args), ?_, rfl⟩
    rw [ofArguments_of_decode hinput, hfile]
    dsimp only
    rw [hread]
  | @queryAlone _ query hload hinput hfile hquery hblank =>
    refine ⟨.query query none, ?_, rfl⟩
    rw [ofArguments_of_decode hinput, hfile, hquery, hblank]
    rfl
  | @queryAbout input query hload hinput hfile hquery hblank =>
    refine ⟨.query query (some input), ?_, rfl⟩
    rw [ofArguments_of_decode hinput, hfile, hquery, hblank]
    rfl
  | @bare input hload hinput hfile hquery hblank =>
    refine ⟨.bare input, ?_, rfl⟩
    rw [ofArguments_of_decode hinput, hfile, hquery, hblank]
    rfl

theorem load_of_asks (h : Asks s args store messages) :
    Store.load s.files (settingsPath args s.home) = .ok store := by
  cases h with
  | file hload | queryAlone hload | queryAbout hload | bare hload => exact hload

-- A run that asks shows what comes of it.
theorem run_of_asks (hchat : args.chat = false) (h : Asks s args store messages) :
    (run s respond args).blocks =
        [.reply (shownText (respond 0) (startConfig args s.key store.source) messages)] ∧
      (run s respond args).requests = sentRequests (startConfig args s.key store.source) messages ∧
      (run s respond args).files = s.files ∧ (run s respond args).exitCode = 0 := by
  obtain ⟨question, hquestion, rfl⟩ := exists_question_of_asks h
  rw [run, load_of_asks h]
  dsimp only
  rw [if_neg (by simp [hchat]), runQuestion, hquestion]
  dsimp only
  rw [question.value_ask, question.call_ofConfig]
  refine ⟨?_, ?_, rfl, rfl⟩
  · unfold shownText
    split <;> rfl
  · unfold sentRequests
    split <;> rfl

-- A run either stops or asks, and the number that it ends with tells which.
theorem exitCode_eq_one_iff (hchat : args.chat = false) :
    (run s respond args).exitCode = 1 ↔ ∃ failure, Stops s args failure := by
  refine ⟨fun hone => ?_, fun ⟨failure, h⟩ => (run_of_stops respond hchat h).2.2.2⟩
  refine (stops_or_asks s args).resolve_right fun ⟨store, messages, h⟩ => ?_
  rw [(run_of_asks respond hchat h).2.2.2] at hone
  cases hone

theorem exitCode_eq_zero_iff (hchat : args.chat = false) :
    (run s respond args).exitCode = 0 ↔ ∃ store messages, Asks s args store messages := by
  refine ⟨fun hzero => ?_, fun ⟨store, messages, h⟩ => (run_of_asks respond hchat h).2.2.2⟩
  refine (stops_or_asks s args).resolve_left fun ⟨failure, h⟩ => ?_
  rw [(run_of_stops respond hchat h).2.2.2] at hzero
  cases hzero

theorem length_sentRequests (config : Config) (messages : List Message) :
    (sentRequests config messages).length = if config.hasApiKey then 1 else 0 := by
  unfold sentRequests
  split <;> rfl

theorem length_requests_le (hchat : args.chat = false) : (run s respond args).requests.length ≤ 1 := by
  rcases stops_or_asks s args with ⟨failure, h⟩ | ⟨store, messages, h⟩
  · rw [(run_of_stops respond hchat h).2.1]
    exact Nat.zero_le 1
  · rw [(run_of_asks respond hchat h).2.1, length_sentRequests]
    split <;> omega

theorem length_requests_eq_one_iff (hchat : args.chat = false) :
    (run s respond args).requests.length = 1 ↔
      ∃ store messages, Asks s args store messages ∧ (startConfig args s.key store.source).hasApiKey = true := by
  constructor
  · intro hone
    rcases stops_or_asks s args with ⟨failure, h⟩ | ⟨store, messages, h⟩
    · rw [(run_of_stops respond hchat h).2.1] at hone
      cases hone
    · rw [(run_of_asks respond hchat h).2.1, length_sentRequests] at hone
      split at hone
      · next hkey => exact ⟨store, messages, h, hkey⟩
      · cases hone
  · rintro ⟨store, messages, h, hkey⟩
    rw [(run_of_asks respond hchat h).2.1, length_sentRequests, if_pos hkey]

/-! ## What is shown -/

/-- A run without a chat fails exactly where it stops before it asks: then it has asked nothing, and writes the
failure behind its sign on the stream for errors and nothing on the output.  Everywhere else it succeeds and
writes a box on the output, and no error.  In the box stands the text of the outcome, whatever the outcome is, or
without a key what to do about that.  It makes one request where it asks with a key, and none otherwise, and
leaves the files as they are. -/
theorem one_shot_run (hchat : args.chat = false) :
    ((run s respond args).exitCode = 1 ↔ ∃ failure, Stops s args failure) ∧
    ((run s respond args).exitCode = 0 ↔ ∃ store messages, Asks s args store messages) ∧
    (∀ failure, Stops s args failure →
      (run s respond args).requests = [] ∧ (run s respond args).files = s.files ∧
      ∀ display clock, outputText display clock (run s respond args).blocks = "" ∧
        errorText display clock (run s respond args).blocks =
          failureSign display.hasColor ++ " " ++ failure.message ++ "\n") ∧
    (∀ store messages, Asks s args store messages →
      (run s respond args).requests = sentRequests (startConfig args s.key store.source) messages ∧
      (run s respond args).files = s.files ∧
      ∀ display clock, errorText display clock (run s respond args).blocks = "" ∧
        IsBoxed display (shownText (respond 0) (startConfig args s.key store.source) messages)
          (outputText display clock (run s respond args).blocks)) ∧
    (run s respond args).requests.length ≤ 1 ∧
    ((run s respond args).requests.length = 1 ↔
      ∃ store messages, Asks s args store messages ∧ (startConfig args s.key store.source).hasApiKey = true) := by
  refine ⟨exitCode_eq_one_iff respond hchat, exitCode_eq_zero_iff respond hchat, fun failure h => ?_,
    fun store messages h => ?_, length_requests_le respond hchat, length_requests_eq_one_iff respond hchat⟩
  · obtain ⟨hblocks, hrequests, hfiles, -⟩ := run_of_stops respond hchat h
    refine ⟨hrequests, hfiles, fun display clock => ?_⟩
    rw [hblocks]
    exact ⟨rfl, errorText_failure display clock failure⟩
  · obtain ⟨hblocks, hrequests, hfiles, -⟩ := run_of_asks respond hchat h
    refine ⟨hrequests, hfiles, fun display clock => ?_⟩
    rw [hblocks]
    exact ⟨rfl, isBoxed_outputText_reply display clock _⟩

/-- A key in the environment and nothing else. -/
def keyAlone : Surroundings := ⟨"/home/user", some "sk-env", false, ⟨[], [], []⟩, []⟩

/-- A query and nothing else. -/
def queryAlone : Arguments := ⟨some "hi", false, none, none, none, none, none, none, none, none⟩

/-- Neither a query nor a file. -/
def nothingAsked : Arguments := ⟨none, false, none, none, none, none, none, none, none, none⟩

theorem one_shot_run_refused :
    let refused := run keyAlone (fun _ _ => .error .rateLimited) queryAlone
    let stopped := run keyAlone (fun _ _ => .error .rateLimited) nothingAsked
    (refused.exitCode = 0 ∧ refused.requests.length = 1 ∧ errorText ⟨false, 40⟩ "" refused.blocks = "" ∧
      IsBoxed ⟨false, 40⟩ "Error: Rate limit exceeded. Try again shortly."
        (outputText ⟨false, 40⟩ "" refused.blocks) ∧
      outputText ⟨false, 40⟩ "" refused.blocks =
        "┌──────────────────────────────────────┐\n" ++
        "│ Error: Rate limit exceeded. Try      │\n" ++
        "│ again shortly.                       │\n" ++
        "└──────────────────────────────────────┘\n") ∧
    (stopped.exitCode = 1 ∧ stopped.requests = [] ∧ outputText ⟨true, 80⟩ "" stopped.blocks = "" ∧
      errorText ⟨true, 80⟩ "" stopped.blocks =
        "\x1b[31m\x1b[1merror:\x1b[0m Input error: No query provided\n") := by
  intro refused stopped
  have hload : Store.load keyAlone.files (settingsPath queryAlone keyAlone.home) =
      .ok ⟨settingsPath queryAlone keyAlone.home, []⟩ := Store.load_of_not_exists (by decide +kernel)
  have hinput : Text.Utf8.decode? keyAlone.input = some "" := by decide +kernel
  have hasks : Asks keyAlone queryAlone ⟨settingsPath queryAlone keyAlone.home, []⟩
      [⟨.system, Prompt.chatPersona⟩, ⟨.user, "hi"⟩] :=
    .queryAlone hload hinput rfl rfl (by decide)
  have hstops : Stops keyAlone nothingAsked (.input "No query provided") :=
    .nothing hload hinput rfl rfl (by decide)
  constructor
  · obtain ⟨-, hzero, -, hshown, -, hone⟩ :=
      @one_shot_run keyAlone queryAlone (fun _ _ => .error .rateLimited) rfl
    obtain ⟨-, -, hshown⟩ := hshown _ _ hasks
    obtain ⟨herror, hboxed⟩ := hshown ⟨false, 40⟩ ""
    exact ⟨hzero.mpr ⟨_, _, hasks⟩, hone.mpr ⟨_, _, hasks, by decide +kernel⟩, herror, hboxed,
      by decide +kernel⟩
  · obtain ⟨hfails, -, hstopped, -, -, -⟩ :=
      @one_shot_run keyAlone nothingAsked (fun _ _ => .error .rateLimited) rfl
    obtain ⟨hrequests, -, hshown⟩ := hstopped _ hstops
    obtain ⟨houtput, herror⟩ := hshown ⟨true, 80⟩ ""
    exact ⟨hfails.mpr ⟨_, hstops⟩, hrequests, houtput, herror.trans (by decide +kernel)⟩

end ChatAssistant.CommandLine
