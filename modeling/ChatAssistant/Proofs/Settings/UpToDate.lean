import ChatAssistant.Proofs.Settings.Freshness

/-!
# An up-to-date configuration

Once every change has been published and the watcher has nothing left to receive, reading all settings
again leaves the configuration as it is.  A reload that changes nothing but the sign of a zero is the
one exception: the store does not take it for a change.
-/

namespace ChatAssistant.Settings.Watching

open ChatAssistant.Number

/-! ## Zeros -/

/-- The setting of the key or the temperature was a zero and has been read again with the other sign. -/
def FlipsZero (trace : List (State × Move)) (key : Key) : Prop :=
  (key = .apiKey ∨ key = .temperature) ∧
    ∃ s files fresh change negative, (s, Move.reload files) ∈ trace ∧
      s.store.reload files = .ok (fresh, change) ∧
      zeroSign? (s.store.get? key.name) = some negative ∧
      zeroSign? (fresh.get? key.name) = some !negative

/-- Alike, and read alike unless the zero under the key has changed its sign. -/
def SameUnlessFlipped (trace : List (State × Move)) (key : Key) (v w : Option Json.Value) : Prop :=
  Alike v w ∧ (¬ FlipsZero trace key → Config.read (fun _ => v) key = Config.read (fun _ => w) key)

theorem equivalence_sameUnlessFlipped (trace : List (State × Move)) (key : Key) :
    Equivalence (SameUnlessFlipped trace key) where
  refl v := ⟨.refl v, fun _ => rfl⟩
  symm h := ⟨h.1.symm, fun hflip => (h.2 hflip).symm⟩
  trans h h' := ⟨h.1.trans h'.1, fun hflip => (h.2 hflip).trans (h'.2 hflip)⟩

theorem respects_sameUnlessFlipped {trace : List (State × Move)} {step : State × Move}
    (hstep : step ∈ trace) : Respects (SameUnlessFlipped trace) step.1 step.2 := by
  obtain ⟨s, m⟩ := step
  rintro files fresh change rfl hreload key hsame
  have halike := alike_of_not_differ hsame
  refine ⟨halike, fun hflip => halike.read_eq fun hkey => ?_⟩
  refine halike.zeroSign?_cases.resolve_right fun ⟨negative, hold, hnew⟩ => hflip ?_
  exact ⟨hkey, s, files, fresh, change, negative, hstep, hreload, hold, hnew⟩

/-! ## Idle states -/

namespace State

/-- Reading the setting of the key again leaves its parameter as it is. -/
def UpToDate (s : State) (key : Key) : Prop :=
  Config.read s.store.source key (s.config.parameter key) = s.config.parameter key

/-- The setting of the key is a zero, and its parameter is what the zero of the other sign gives. -/
def ShowsOtherZero (s : State) (key : Key) : Prop :=
  ∃ negative, zeroSign? (s.store.get? key.name) = some negative ∧
    Config.read (fun _ => some (.number (.float (Finite.zero double !negative)))) key
      (s.config.parameter key) = s.config.parameter key

end State

theorem zeroSign?_zero (negative : Bool) :
    zeroSign? (some (.number (.float (Finite.zero double negative)))) = some negative := by
  cases negative <;> rfl

theorem upToDate_or_showsOtherZero {trace : List (State × Move)} {s : State} {key : Key}
    (h : Fresh (SameUnlessFlipped trace) s key) :
    s.UpToDate key ∨ (FlipsZero trace key ∧ s.ShowsOtherZero key) := by
  obtain ⟨value, ⟨halike, hsame⟩, hread⟩ := h
  have upToDate_of_same
      (heq : Config.read (fun _ => value) key =
        Config.read (fun _ => s.store.source key.name) key) : s.UpToDate key := by
    rw [State.UpToDate, ← Config.read_value, ← heq, hread]
  -- Without a flip all values since the last reading are read alike; with one, two zeros may remain.
  by_cases hflip : FlipsZero trace key
  · rcases halike with rfl | ⟨hold, hnew⟩ | ⟨hold, hnew⟩
    · exact .inl (upToDate_of_same rfl)
    · exact .inl (upToDate_of_same (read_eq_of_isNested hold hnew key))
    · obtain ⟨a, ha⟩ := Option.isSome_iff_exists.mp hold
      obtain ⟨b, hb⟩ := Option.isSome_iff_exists.mp hnew
      by_cases hab : a = b
      · refine .inl (upToDate_of_same (Alike.read_eq (.inr (.inr ⟨hold, hnew⟩)) fun _ => ?_))
        exact ha.trans (hab ▸ hb.symm)
      · refine .inr ⟨hflip, b, hb, ?_⟩
        have hzero : (zeroSign? (some (.number (.float (Finite.zero double !b))))).isSome = true := by
          rw [zeroSign?_zero, Option.isSome_some]
        have heq : Config.read (fun _ => value) key =
            Config.read (fun _ => some (.number (.float (Finite.zero double !b)))) key := by
          refine Alike.read_eq (.inr (.inr ⟨hold, hzero⟩)) fun _ => ?_
          rw [ha, zeroSign?_zero, Bool.eq_not.mpr hab]
        rw [← heq, hread]
  · exact .inl (upToDate_of_same (hsame hflip))

theorem refresh_everything_of_upToDate {s : State} (h : ∀ key, s.UpToDate key) :
    s.config.refresh .everything s.store.source = s.config :=
  Config.refresh_everything_eq_self.mpr h

/-! ## A watcher whose sender is gone -/

/-- Nothing more will be published. -/
structure Closed (s : State) (published : List Change) : Prop where
  carries : s.changes.Carries published
  position : s.receiver.next ≤ published.length
  dropped : s.senderDropped = true

/-- How often a watcher can still move whose sender is gone. -/
def State.movesLeft (s : State) (published : List Change) : Nat :=
  (Delivery.upToDate s.changes.capacity (published.drop s.receiver.next)).length +
    (!s.watcherEnded).toNat

def Move.isReceive : Move → Bool
  | .receive => true
  | _ => false

variable {s t : State} {published : List Change}

theorem Closed.receive (h : Closed s published) (hm : s.receive? = some t) :
    Closed t published ∧ t.movesLeft published + 1 = s.movesLeft published := by
  obtain ⟨hrunning, ⟨d, hfirst, rfl⟩ | ⟨-, hdropped, rfl⟩⟩ :=
    State.receive?_cases h.carries h.position hm
  · have hsize := Delivery.size_le_of_first? hfirst
    rw [List.length_drop] at hsize
    have hposition := h.position
    refine ⟨⟨h.carries, by dsimp only; omega, h.dropped⟩, ?_⟩
    have hless := congrArg List.length (Delivery.upToDate_of_first? hfirst)
    rw [List.length_cons, List.drop_drop] at hless
    simp only [State.movesLeft]
    omega
  · -- The last move ends the watcher.
    refine ⟨⟨h.carries, h.position, hdropped⟩, ?_⟩
    simp only [State.movesLeft, hrunning, Bool.not_true, Bool.not_false, Bool.toNat_false,
      Bool.toNat_true]

theorem Closed.move (h : Closed s published) {m : Move} (hm : s.move? m = some t) :
    Closed t published ∧ t.movesLeft published + m.isReceive.toNat = s.movesLeft published := by
  obtain ⟨store, change, hstore, rfl⟩ | ⟨⟨files, rfl⟩, rfl⟩ | ⟨-, -, -, hopen, -, -⟩ |
    ⟨-, hopen, -⟩ | ⟨rfl, hreceive⟩ := State.move?_cases hm
  · have hother : m.isReceive = false := by
      rcases hstore with ⟨key, value, rfl, -⟩ | ⟨files, rfl, -⟩ <;> rfl
    rw [hother]
    exact ⟨⟨h.carries, h.position, h.dropped⟩, rfl⟩
  · exact ⟨h, rfl⟩
  · rw [h.dropped] at hopen
    cases hopen
  · rw [h.dropped] at hopen
    cases hopen
  · exact h.receive hreceive

theorem Closed.run (h : Closed s published) {trace : List (State × Move)} (hrun : Run s trace t) :
    Closed t published ∧
      t.movesLeft published + trace.countP (·.2.isReceive) = s.movesLeft published := by
  induction hrun with
  | nil => exact ⟨h, by rw [List.countP_nil, Nat.add_zero]⟩
  | snoc hrun hm ih =>
    obtain ⟨hclosed, hbefore⟩ := ih
    obtain ⟨hafter, hmove⟩ := hclosed.move hm
    refine ⟨hafter, ?_⟩
    rw [List.countP_append, List.countP_singleton, ← hbefore, ← hmove]
    cases Move.isReceive _ <;> simp only [Bool.toNat_false, Bool.toNat_true, if_true,
      Bool.false_eq_true, if_false] <;> omega

theorem Closed.receives_le (h : Closed s published) {trace : List (State × Move)}
    (hrun : Run s trace t) : trace.countP (·.2.isReceive) ≤ s.changes.capacity + 2 := by
  have htotal := (h.run hrun).2
  have hlength := Delivery.length_upToDate_le s.changes.capacity (published.drop s.receiver.next)
  have hended := Bool.toNat_le (!s.watcherEnded)
  rw [State.movesLeft.eq_def s] at htotal
  omega

theorem isSome_receive?_of_closed (hdropped : s.senderDropped = true)
    (hrunning : s.watcherEnded = false) : s.receive?.isSome = true := by
  unfold State.receive?
  rw [if_neg (by rw [hrunning]; exact Bool.false_ne_true)]
  split
  · rfl
  · rw [if_pos hdropped, Option.isSome_some]

/-! ## Every run -/

/-- In every run, the configuration is up to date wherever all changes are published and the watcher has
nothing left to receive, but for zeros that a reload has flipped.  A watcher ends only where it has received
everything, and where the sender is gone it does end. -/
theorem watcher_keeps_upToDate {store : Store} {capacity : Nat} {trace : List (State × Move)}
    {s : State} (h : Run (start store capacity) trace s) :
    (s.AllPublished → s.Idle →
      (∀ key, s.UpToDate key ∨ (FlipsZero trace key ∧ s.ShowsOtherZero key)) ∧
      ((∀ key, ¬ FlipsZero trace key) →
        s.config.refresh .everything s.store.source = s.config)) ∧
    (s.watcherEnded = true →
      s.senderDropped = true ∧ s.Idle ∧ s.receiver.next = s.changes.sent) ∧
    (s.senderDropped = true →
      (s.watcherEnded = false → s.receive?.isSome = true) ∧
      ∀ later t, Run s later t → later.countP (·.2.isReceive) ≤ s.changes.capacity + 2) := by
  have hequiv := equivalence_sameUnlessFlipped trace
  obtain ⟨published, htracked⟩ := (tracked_start hequiv store capacity).run hequiv h
    fun _ hstep => respects_sameUnlessFlipped hstep
  refine ⟨fun hpublished hidle => ?_, fun hended => ?_, fun hdropped => ⟨?_, ?_⟩⟩
  · have hkeys : ∀ key, s.UpToDate key ∨ (FlipsZero trace key ∧ s.ShowsOtherZero key) :=
      fun key => upToDate_or_showsOtherZero (htracked.fresh hpublished hidle key)
    exact ⟨hkeys, fun hflips => refresh_everything_of_upToDate fun key =>
      (hkeys key).resolve_right fun hflip => hflips key hflip.1⟩
  · obtain ⟨hdropped, hend⟩ := htracked.ended hended
    exact ⟨hdropped, htracked.idle_iff.mpr hend, by rw [hend, htracked.carries.sent_eq]⟩
  · exact isSome_receive?_of_closed hdropped
  · intro later t hlater
    exact Closed.receives_le ⟨htracked.carries, htracked.position, hdropped⟩ hlater

/-- Three changes on a channel that keeps one: the watcher misses two of them, and the store changes once
more before it reads the third. -/
def laggingMoves : List Move :=
  [.set "ai.apiKey" (.string " sk-1 "), .publish 0, .set "ai.maxTokens" (.number (.int 50)),
   .set "ai.provider" (.string "anthropic"), .publish 1, .publish 0, .receive,
   .set "ai.apiKey" .null, .receive, .publish 0, .dropSender, .receive, .receive]

theorem watcher_keeps_upToDate_lagging :
    ∃ trace s, Run (start ⟨"config.yaml", []⟩ 1) trace s ∧ trace.map Prod.snd = laggingMoves ∧
      s.watcherEnded = true ∧ s.config.provider = .anthropic ∧ s.config.maxTokens = 100 ∧
      s.receiver.next = s.changes.sent ∧
      s.config.refresh .everything s.store.source = s.config := by
  obtain ⟨trace, s, hrun, hmoves, hlast, hpublished, hprovider, htokens⟩ :=
    Run.exists_of_run? (start ⟨"config.yaml", []⟩ 1) laggingMoves
      (fun s => s.watcherEnded = true ∧ s.AllPublished ∧ s.config.provider = .anthropic ∧
        s.config.maxTokens = 100) (by decide +kernel)
  obtain ⟨hupToDate, hended, -⟩ := watcher_keeps_upToDate hrun
  obtain ⟨-, hidle, hposition⟩ := hended hlast
  refine ⟨trace, s, hrun, hmoves, hlast, hprovider, htokens, hposition, ?_⟩
  refine (hupToDate hpublished hidle).2 fun key hflip => ?_
  -- Nothing was read from a file in this run.
  obtain ⟨-, t, files, -, -, -, hmem, -⟩ := hflip
  have hmove : Move.reload files ∈ trace.map Prod.snd := List.mem_map_of_mem hmem
  rw [hmoves] at hmove
  simp [laggingMoves] at hmove

/-- A store with a zero for a key, which is taken by its text. -/
def zeroStore : Store :=
  ⟨"config.yaml", [("ai.apiKey", .number (.float (Finite.zero double false)))]⟩

/-- Its file with the other zero. -/
def flippedFile : FileTree := ⟨[(["config.yaml"], .text "ai.apiKey: -0.0\n")], [], []⟩

/-- A reload that flips a zero leaves the configuration behind the store. -/
theorem watcher_misses_flipped_zero :
    ¬ ∀ (store : Store) (capacity : Nat) (trace : List (State × Move)) (s : State),
      Run (start store capacity) trace s → s.AllPublished → s.Idle →
        s.config.refresh .everything s.store.source = s.config := by
  intro h
  obtain ⟨trace, s, hrun, -, hpublished, hidle, hconfig⟩ :=
    Run.exists_of_run? (start zeroStore 8) [.reload flippedFile]
      (fun s => s.AllPublished ∧ s.Idle ∧
        s.config.refresh .everything s.store.source ≠ s.config) (by decide +kernel)
  exact hconfig (h zeroStore 8 trace s hrun hpublished hidle)

end ChatAssistant.Settings.Watching
