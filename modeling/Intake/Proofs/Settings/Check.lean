import Intake.Proofs.Http.Path
import Intake.Proofs.Text.Blank
import Intake.Service.Startup

/-!
# Checking settings: what startup can rely on

Every error of the check speaks of a rule, and `InvalidSetting.Breaks` says what it means that settings break it. The check refuses
settings exactly if some rule is broken, and the rule it names is (`check_eq_ok_iff`, `breaks_of_check`). What the service resolves from
settings while it starts then cannot fail: the way of electing, the mode of encryption, the options of connections and the segment of
the exposition (`check_covers_startup`).
-/

namespace Intake

/-! ## The rules -/

/-- A path of one segment, whatever slashes stand around it. -/
def OneSegment (path : String) : Prop :=
  ∃ lead segment trail, path.toList = lead ++ segment ++ trail ∧ (segment ≠ [] ∧ '/' ∉ segment) ∧ (∀ c ∈ lead, c = '/') ∧
    ∀ c ∈ trail, c = '/'

/-- The settings break the rule that an error speaks of, and the error shows the value that breaks it. -/
def InvalidSetting.Breaks (s : Settings) : InvalidSetting → Prop
  | .telemetryPath given => s.web.telemetryPath = given ∧ ¬ OneSegment given
  | .logLevel given => s.log.level = given ∧ given ∉ ["error", "warn", "info", "debug"]
  | .table given => s.postgres.table = given ∧ isPlainIdentifier given = false
  | .noConnections => s.postgres.maxOpenConns = 0
  | .idleAboveOpen idle openConns => s.postgres.maxIdleConns = idle ∧ s.postgres.maxOpenConns = openConns ∧ openConns < idle
  | .sslMode given => s.postgres.sslMode = given ∧ ∀ m : SslMode, m.name.toList ≠ given.toList.map Char.toLower
  | .zeroInterval => s.election.intervalMs = 0
  | .negativeIdleTimeout given => s.election.idleTimeoutMs = some given ∧ given < 0
  | .twoBackends => s.election.advisoryLockId ≠ 0 ∧ s.election.externalDecision = true
  | .lockWithoutIdleTimeout => s.election.advisoryLockId ≠ 0 ∧ s.election.idleTimeoutMs = none

/-! ## Chains of checks -/

section Chain

variable {c : Prop} [Decidable c] {e e' : InvalidSetting} {r r' : Except InvalidSetting Unit}

/-- One rule of a chain, and the rules behind it. -/
theorem ite_eq_ok_iff : (if c then .error e else r) = .ok () ↔ ¬ c ∧ r = .ok () := by
  by_cases h : c <;> simp [h]

theorem ite_eq_error_iff : (if c then .error e' else r) = .error e ↔ c ∧ e' = e ∨ ¬ c ∧ r = .error e := by
  by_cases h : c <;> simp [h]

/-- One check, and another that is made if the first accepts. -/
theorem bind_eq_ok_iff : (r.bind fun _ => r') = .ok () ↔ r = .ok () ∧ r' = .ok () := by
  cases r <;> simp [Except.bind]

theorem bind_eq_error_iff : (r.bind fun _ => r') = .error e ↔ r = .error e ∨ r = .ok () ∧ r' = .error e := by
  cases r <;> simp [Except.bind]

/-- A check that something can be resolved. -/
theorem map_eq_ok_iff {α : Type} {x : Except InvalidSetting α} : (x.map fun _ => ()) = .ok () ↔ ∃ a, x = .ok a := by
  cases x <;> simp [Except.map]

theorem map_eq_error_iff {α : Type} {x : Except InvalidSetting α} : (x.map fun _ => ()) = .error e ↔ x = .error e := by
  cases x <;> simp [Except.map]

end Chain

/-! ## Each section -/

namespace WebSettings

variable {s : WebSettings} {e : InvalidSetting}

theorem isPiece_telemetrySegment_iff (s : WebSettings) : Route.IsPiece s.telemetrySegment ↔ OneSegment s.telemetryPath := by
  have hslash : ∀ cs : List Char, (∀ c ∈ cs, decide (c = '/') = true) ↔ ∀ c ∈ cs, c = '/' := by simp
  unfold Route.IsPiece OneSegment telemetrySegment
  rw [String.toList_ofList]
  constructor
  · rintro ⟨hne, hmem⟩
    obtain ⟨lead, trail, hpath, hlead, htrail⟩ := trimEnds_spec (· = '/') s.telemetryPath.toList
    refine ⟨lead, _, trail, hpath, ⟨fun hnil => hne ?_, hmem⟩, (hslash lead).1 hlead, (hslash trail).1 htrail⟩
    rw [hnil]
  · rintro ⟨lead, segment, trail, hpath, ⟨hne, hmem⟩, hlead, htrail⟩
    have hword : ∀ c ∈ segment, decide (c = '/') = false := by
      intro c hc
      rw [decide_eq_false_iff_not]
      rintro rfl
      exact hmem hc
    have htrim := (trimEnds_eq_iff (p := (· = '/')) hne hword).2
      ⟨lead, trail, hpath, (hslash lead).2 hlead, (hslash trail).2 htrail⟩
    rw [htrim]
    exact ⟨fun hempty => hne (by simpa using congrArg String.toList hempty), hmem⟩

/-- A telemetry path of one segment is accepted, and any other path is shown by the error. -/
theorem check_eq (s : WebSettings) :
    s.check = if Route.IsPiece s.telemetrySegment then .ok () else .error (.telemetryPath s.telemetryPath) := by
  have hpiece : (s.telemetrySegment.toList.isEmpty || s.telemetrySegment.toList.contains '/') = true ↔
      ¬ Route.IsPiece s.telemetrySegment := by
    rw [Bool.or_eq_true, List.isEmpty_iff, List.contains_iff_mem, String.toList_eq_nil_iff, Route.IsPiece, not_and_or, not_not, not_not]
  unfold check
  by_cases h : Route.IsPiece s.telemetrySegment
  · rw [if_pos h, if_neg (fun hrefused => hpiece.1 hrefused h)]
  · rw [if_neg h, if_pos (hpiece.2 h)]

end WebSettings

theorem LogSettings.check_eq (s : LogSettings) : s.check = if s.level ∈ LogSettings.levels then .ok () else .error (.logLevel s.level) := by
  unfold check
  simp only [List.contains_iff_mem]

namespace SslMode

theorem mem_all (m : SslMode) : m ∈ all := by
  cases m <;> decide

/-- A name is the name of a mode exactly if it is so in small letters. -/
theorem ofName?_eq_none_iff (name : String) : ofName? name = none ↔ ∀ m : SslMode, m.name.toList ≠ name.toList.map Char.toLower := by
  rw [ofName?, List.find?_eq_none]
  simp [mem_all]

end SslMode

namespace PostgresSettings

variable {s : PostgresSettings}

theorem sslMode?_eq_ok_iff {m : SslMode} : s.sslMode? = .ok m ↔ SslMode.ofName? s.sslMode = some m := by
  unfold sslMode?
  cases SslMode.ofName? s.sslMode <;> simp

theorem sslMode?_eq_error_iff {e : InvalidSetting} :
    s.sslMode? = .error e ↔ SslMode.ofName? s.sslMode = none ∧ .sslMode s.sslMode = e := by
  unfold sslMode?
  cases SslMode.ofName? s.sslMode <;> simp

theorem check_eq (s : PostgresSettings) :
    s.check = if !isPlainIdentifier s.table then .error (.table s.table) else if s.maxOpenConns = 0 then .error .noConnections
      else if s.maxOpenConns < s.maxIdleConns then .error (.idleAboveOpen s.maxIdleConns s.maxOpenConns)
      else s.sslMode?.map fun _ => () := by
  unfold check
  cases s.sslMode? <;> rfl

end PostgresSettings

namespace ElectionSettings

theorem check_eq (s : ElectionSettings) :
    s.check = if s.intervalMs = 0 then .error .zeroInterval
      else if s.idleTimeoutMs.any (· < 0) then .error (.negativeIdleTimeout (s.idleTimeoutMs.getD 0))
      else s.backend?.map fun _ => () := by
  unfold check
  cases s.idleTimeoutMs <;> simp

/-- What the way of electing is that is resolved from the settings. -/
structure Resolves (s : ElectionSettings) (backend : ElectionBackend) : Prop where
  external : backend = .externalDecision ↔ s.externalDecision = true
  disabled : backend = .disabled ↔ s.externalDecision = false ∧ s.advisoryLockId = 0
  /-- The lock is the one of the settings, and the instances compete for it at their interval. Its holder gives it up after as many
  milliseconds as the settings say, and never if they say zero. -/
  lock : s.externalDecision = false → s.advisoryLockId ≠ 0 → ∃ ms : Nat, s.idleTimeoutMs = some (ms : Int) ∧
    backend = .advisoryLock s.advisoryLockId (Span.ofMillis s.intervalMs) (if ms = 0 then none else some (Span.ofMillis ms))

/-- All that can come of resolving the way of electing. -/
theorem backend?_cases (s : ElectionSettings) :
    (s.externalDecision = true ∧ s.advisoryLockId ≠ 0 ∧ s.backend? = .error .twoBackends) ∨
    (s.externalDecision = true ∧ s.advisoryLockId = 0 ∧ s.backend? = .ok .externalDecision) ∨
    (s.externalDecision = false ∧ s.advisoryLockId = 0 ∧ s.backend? = .ok .disabled) ∨
    (s.externalDecision = false ∧ s.advisoryLockId ≠ 0 ∧ s.idleTimeoutMs = none ∧ s.backend? = .error .lockWithoutIdleTimeout) ∨
    (∃ ms : Int, s.idleTimeoutMs = some ms ∧ ms < 0 ∧ s.backend? = .error (.negativeIdleTimeout ms)) ∨
    (∃ ms : Nat, s.externalDecision = false ∧ s.advisoryLockId ≠ 0 ∧ s.idleTimeoutMs = some (ms : Int) ∧
      s.backend? = .ok (.advisoryLock s.advisoryLockId s.interval (if ms = 0 then none else some (Span.ofMillis ms)))) := by
  by_cases hlock : s.advisoryLockId = 0
  · cases hexternal : s.externalDecision <;> simp [backend?, hlock, hexternal]
  · cases hexternal : s.externalDecision with
    | true => simp [backend?, hlock, hexternal]
    | false =>
      cases hidle : s.idleTimeoutMs with
      | none => simp [backend?, hlock, hexternal, hidle]
      | some ms =>
        by_cases hneg : ms < 0
        · simp [backend?, hlock, hexternal, hidle, hneg]
        · obtain ⟨n, rfl⟩ := Int.eq_ofNat_of_zero_le (Int.not_lt.1 hneg)
          refine Or.inr (Or.inr (Or.inr (Or.inr (Or.inr ⟨n, rfl, hlock, rfl, ?_⟩))))
          simp [backend?, hlock, hexternal, hidle, hneg]

variable {s : ElectionSettings} {backend : ElectionBackend}

theorem resolves_of_backend? (h : s.backend? = .ok backend) : s.Resolves backend := by
  rcases s.backend?_cases with ⟨hexternal, hlock, hb⟩ | ⟨hexternal, hlock, hb⟩ | ⟨hexternal, hlock, hb⟩ | ⟨hexternal, hlock, -, hb⟩ |
    ⟨ms, -, -, hb⟩ | ⟨ms, hexternal, hlock, hidle, hb⟩
  all_goals rw [hb] at h; cases h
  · exact ⟨by simp [hexternal], by simp [hexternal], by simp [hexternal]⟩
  · exact ⟨by simp [hexternal], by simp [hexternal, hlock], by simp [hlock]⟩
  · exact ⟨by simp [hexternal], by simp [hlock], fun _ _ => ⟨ms, hidle, rfl⟩⟩

/-- A way of electing is resolved only from settings that do not ask for two. -/
theorem one_of_backend? (h : s.backend? = .ok backend) : s.advisoryLockId = 0 ∨ s.externalDecision = false := by
  rcases s.backend?_cases with ⟨-, -, hb⟩ | ⟨-, hlock, -⟩ | ⟨-, hlock, -⟩ | ⟨hexternal, -⟩ | ⟨ms, -, -, hb⟩ | ⟨ms, hexternal, -⟩
  · cases h.symm.trans hb
  · exact Or.inl hlock
  · exact Or.inl hlock
  · exact Or.inr hexternal
  · cases h.symm.trans hb
  · exact Or.inr hexternal

end ElectionSettings

/-! ## All sections -/

variable {s : Settings} {e : InvalidSetting}

theorem breaks_of_web (h : s.web.check = .error e) : e.Breaks s := by
  rw [WebSettings.check_eq] at h
  split at h
  · cases h
  · next hpiece =>
    cases h
    exact ⟨rfl, mt (WebSettings.isPiece_telemetrySegment_iff s.web).2 hpiece⟩

theorem breaks_of_log (h : s.log.check = .error e) : e.Breaks s := by
  rw [LogSettings.check_eq] at h
  split at h
  · cases h
  · next hlevel =>
    cases h
    exact ⟨rfl, hlevel⟩

theorem breaks_of_postgres (h : s.postgres.check = .error e) : e.Breaks s := by
  rw [PostgresSettings.check_eq, ite_eq_error_iff, ite_eq_error_iff, ite_eq_error_iff, map_eq_error_iff,
    PostgresSettings.sslMode?_eq_error_iff] at h
  rcases h with ⟨htable, rfl⟩ | ⟨-, ⟨hopen, rfl⟩ | ⟨-, ⟨hidle, rfl⟩ | ⟨-, hmode, rfl⟩⟩⟩
  · exact ⟨rfl, by simpa using htable⟩
  · exact hopen
  · exact ⟨rfl, rfl, hidle⟩
  · exact ⟨rfl, (SslMode.ofName?_eq_none_iff s.postgres.sslMode).1 hmode⟩

theorem breaks_of_election (h : s.election.check = .error e) : e.Breaks s := by
  rw [ElectionSettings.check_eq, ite_eq_error_iff, ite_eq_error_iff, map_eq_error_iff] at h
  rcases h with ⟨hinterval, rfl⟩ | ⟨-, ⟨hneg, rfl⟩ | ⟨-, hbackend⟩⟩
  · exact hinterval
  · obtain ⟨ms, hidle, hms⟩ := (Option.any_eq_true _ _).1 hneg
    rw [hidle]
    exact ⟨hidle, by simpa using hms⟩
  · rcases s.election.backend?_cases with ⟨hexternal, hlock, hb⟩ | ⟨-, -, hb⟩ | ⟨-, -, hb⟩ | ⟨-, hlock, hidle, hb⟩ |
      ⟨ms, hidle, hms, hb⟩ | ⟨ms, -, -, -, hb⟩
    all_goals rw [hb] at hbackend; cases hbackend
    · exact ⟨hlock, hexternal⟩
    · exact ⟨hlock, hidle⟩
    · exact ⟨hidle, hms⟩

theorem Settings.check_eq (s : Settings) :
    s.check = s.web.check.bind fun _ => s.log.check.bind fun _ => s.postgres.check.bind fun _ => s.election.check := by
  unfold check
  cases s.web.check with
  | error e => rfl
  | ok u =>
    cases s.log.check with
    | error e => rfl
    | ok u => cases s.postgres.check <;> rfl

/-- The check refuses settings for a rule that they break. -/
theorem breaks_of_check (h : s.check = .error e) : e.Breaks s := by
  rw [Settings.check_eq, bind_eq_error_iff, bind_eq_error_iff, bind_eq_error_iff] at h
  rcases h with hweb | ⟨-, hlog | ⟨-, hpostgres | ⟨-, helection⟩⟩⟩
  · exact breaks_of_web hweb
  · exact breaks_of_log hlog
  · exact breaks_of_postgres hpostgres
  · exact breaks_of_election helection

/-- Each section of settings that are accepted is accepted. -/
theorem sections_of_check (h : s.check = .ok ()) :
    s.web.check = .ok () ∧ s.log.check = .ok () ∧ s.postgres.check = .ok () ∧ s.election.check = .ok () := by
  rwa [Settings.check_eq, bind_eq_ok_iff, bind_eq_ok_iff, bind_eq_ok_iff] at h

/-- Settings that are accepted break no rule. -/
theorem not_breaks_of_check (h : s.check = .ok ()) (e : InvalidSetting) : ¬ e.Breaks s := by
  obtain ⟨hweb, hlog, hpostgres, helection⟩ := sections_of_check h
  rw [PostgresSettings.check_eq, ite_eq_ok_iff, ite_eq_ok_iff, ite_eq_ok_iff, map_eq_ok_iff] at hpostgres
  obtain ⟨htable, hopen, hidle, mode, hmode⟩ := hpostgres
  rw [ElectionSettings.check_eq, ite_eq_ok_iff, ite_eq_ok_iff, map_eq_ok_iff] at helection
  obtain ⟨hinterval, hneg, backend, hbackend⟩ := helection
  have hone := ElectionSettings.one_of_backend? hbackend
  cases e with
  | telemetryPath given =>
    rintro ⟨rfl, hsegment⟩
    exact hsegment ((WebSettings.isPiece_telemetrySegment_iff s.web).1 (Route.isPiece_of_check hweb))
  | logLevel given =>
    rintro ⟨rfl, hlevel⟩
    rw [LogSettings.check_eq, if_neg (show s.log.level ∉ LogSettings.levels from hlevel)] at hlog
    cases hlog
  | table given =>
    rintro ⟨rfl, hplain⟩
    exact htable (by rw [hplain]; rfl)
  | noConnections => exact hopen
  | idleAboveOpen idle openConns =>
    rintro ⟨rfl, rfl, hlt⟩
    exact hidle hlt
  | sslMode given =>
    rintro ⟨rfl, hunknown⟩
    rw [PostgresSettings.sslMode?_eq_ok_iff, (SslMode.ofName?_eq_none_iff _).2 hunknown] at hmode
    cases hmode
  | zeroInterval => exact hinterval
  | negativeIdleTimeout given =>
    rintro ⟨hgiven, hlt⟩
    rw [hgiven] at hneg
    exact hneg (by simpa using hlt)
  | twoBackends =>
    rintro ⟨hlock, hexternal⟩
    rcases hone with hzero | hfalse
    · exact hlock hzero
    · exact Bool.false_ne_true (hfalse.symm.trans hexternal)
  | lockWithoutIdleTimeout =>
    rintro ⟨hlock, hnone⟩
    obtain ⟨ms, hms, -⟩ := (ElectionSettings.resolves_of_backend? hbackend).lock (hone.resolve_left hlock) hlock
    cases hnone.symm.trans hms

/-- Settings are accepted exactly if they break no rule. -/
theorem check_eq_ok_iff : s.check = .ok () ↔ ∀ e : InvalidSetting, ¬ e.Breaks s := by
  refine ⟨not_breaks_of_check, fun h => ?_⟩
  cases hcheck : s.check with
  | ok u => rfl
  | error e => exact absurd (breaks_of_check hcheck) (h e)

/-! ## What startup resolves -/

/-- Whatever startup resolves from the settings is there. -/
structure Settings.Startable (s : Settings) : Prop where
  backend : ∃ backend, s.election.backend? = .ok backend ∧ s.election.Resolves backend
  sslMode : ∃ mode, s.postgres.sslMode? = .ok mode
  options : ∃ options, s.postgres.connectOptions? = .ok options
  /-- The instances compete for the lock at an interval that is not empty. -/
  interval : Span.zero < s.election.interval
  /-- The segment of the exposition is one that a route can have. -/
  segment : s.web.telemetrySegment ≠ "" ∧ '/' ∉ s.web.telemetrySegment.toList
  /-- Startup fails no more before it asks for the database, unless a name is taken in the registry. -/
  prepared : ∀ registry registered, registry.register? = some registered →
    ∃ ready, Startup.prepare s registry = .ok ready ∧ s.election.backend? = .ok ready.backend ∧ ready.telemetry = s.web.telemetrySegment

theorem startable_of_check (h : s.check = .ok ()) : s.Startable := by
  obtain ⟨hweb, -, hpostgres, helection⟩ := sections_of_check h
  rw [PostgresSettings.check_eq, ite_eq_ok_iff, ite_eq_ok_iff, ite_eq_ok_iff, map_eq_ok_iff] at hpostgres
  obtain ⟨-, -, -, mode, hmode⟩ := hpostgres
  rw [ElectionSettings.check_eq, ite_eq_ok_iff, ite_eq_ok_iff, map_eq_ok_iff] at helection
  obtain ⟨hinterval, -, backend, hbackend⟩ := helection
  have hoptions : ∃ options, s.postgres.connectOptions? = .ok options := by
    rw [PostgresSettings.connectOptions?, hmode]
    exact ⟨_, rfl⟩
  refine ⟨⟨backend, hbackend, ElectionSettings.resolves_of_backend? hbackend⟩, ⟨mode, hmode⟩, hoptions, ?_,
    Route.isPiece_of_check hweb, fun registry registered hregistered => ?_⟩
  · exact Nat.mul_pos (Nat.pos_of_ne_zero hinterval) (by decide)
  · obtain ⟨options, hoptions⟩ := hoptions
    unfold Startup.prepare Source.new?
    rw [h, hbackend, hregistered, hoptions]
    exact ⟨_, rfl, rfl, rfl⟩

/-- Settings that are refused end startup before anything else is done. -/
theorem start_of_refused {σ : Type} (h : s.check = .error e) (svc : DatabaseServer σ) (pause : ReaderT Span (Act (Source × σ)) Unit)
    (name : String) (registry : Registry) (server : σ) :
    (Startup.start svc pause name s registry).run server = (.error (.invalidSettings e.message), server, []) := by
  have hprepare : Startup.prepare s registry = .error (.invalidSettings e.message) := by
    unfold Startup.prepare
    rw [h]
    rfl
  unfold Startup.start Act.run
  rw [hprepare]

/-- Settings that pass their check lack nothing that startup needs; and settings that break a rule do not pass it, whatever else they say,
so that startup ends at once, for a rule that they break. -/
theorem check_covers_startup (s : Settings) :
    (s.check = .ok () → s.Startable) ∧
      ∀ e : InvalidSetting, e.Breaks s → ∃ named : InvalidSetting, s.check = .error named ∧ named.Breaks s ∧
        ∀ {σ : Type} (svc : DatabaseServer σ) (pause : ReaderT Span (Act (Source × σ)) Unit) (name : String) (registry : Registry)
          (server : σ), (Startup.start svc pause name s registry).run server = (.error (.invalidSettings named.message), server, []) := by
  refine ⟨startable_of_check, fun e he => ?_⟩
  cases hcheck : s.check with
  | ok u => exact absurd he (not_breaks_of_check hcheck e)
  | error named => exact ⟨named, rfl, breaks_of_check hcheck, start_of_refused hcheck⟩

/-- Instances that compete for a lock and keep it without traffic. -/
def lockSettings : Settings :=
  { web := { telemetryPath := "//metrics/" }, postgres := { sslMode := "Verify-Full", table := "_m" },
    election := { advisoryLockId := -1, idleTimeoutMs := some 0, intervalMs := 1 } }

/-- The same, with a decision from outside beside the lock. -/
def undecidedSettings : Settings := { lockSettings with election := { lockSettings.election with externalDecision := true } }

theorem check_covers_startup_lock :
    lockSettings.check = .ok () ∧ lockSettings.Startable ∧ InvalidSetting.twoBackends.Breaks undecidedSettings ∧
      ∃ named : InvalidSetting, undecidedSettings.check = .error named ∧ named.Breaks undecidedSettings := by
  have hcheck : lockSettings.check = .ok () := by decide
  have hbreaks : InvalidSetting.twoBackends.Breaks undecidedSettings := ⟨by decide, rfl⟩
  obtain ⟨named, herror, hnamed, -⟩ := (check_covers_startup undecidedSettings).2 .twoBackends hbreaks
  exact ⟨hcheck, (check_covers_startup lockSettings).1 hcheck, hbreaks, named, herror, hnamed⟩

end Intake
