import ComputeHorde.OrganicJobs.MinerDriver

/-!
# What `drive_organic_job` reports, and when it reports nothing

The job driver's state machine ends a job in one of four terminal states: `Finished` completes it, a `BUSY` decline the
excuse policy accepts excuses it, any other decline rejects it, and every other failure fails it (`specTerminal`). The
code keeps no `REJECTED` status: a declined job is saved `FAILED` and the facilitator is told `rejected`, so the state it
reports is the saved status read together with the notified one (`observedTerminal`).

`driveOrganicJob_contract`: after the `accepted` notifications the miner client sends, the driver either raises having
done nothing more, or saves the job once, records at most one event, whose description is the saved comment and whose
type says whether it returns `True`, and sends one notification built from the saved job; the terminal state it reports
is the one the state machine gives the run. `driveOrganicJob_raises_iff` says when it raises: on an exception other than
`OrganicJobError`, on a `FailureReason` none of its branches names, on a `V0JobFailedRequest` whose `error_type` its
`match` does not name, and on a `BUSY` decline of a job with no `JobStartedReceipt`.
-/

namespace ComputeHorde

/-! ## Terminal states -/

/-- Modelled from the spec: the terminal states of the job driver's state machine. -/
inductive Terminal where
  | completed
  | excused
  | rejected
  | failed
  deriving DecidableEq, Repr

/-- Modelled from the spec: the excuse policy accepts a `BUSY` decline when the valid excuse receipts, checked at the
time the job was requested, are at least the executors the miner is expected to have for the class. -/
def DriverEnv.excuseAccepted (env : DriverEnv) (receipts : Option (List String)) : Bool :=
  match env.jobStartedAt with
  | some t => decide (env.expectedExecutorCount t ≤ env.validExcuseCount (receipts.getD []) t)
  | none => false

/-- Modelled from the spec: where a decline leads, an excused `BUSY` decline to `EXCUSED` and any other to
`REJECTED`. -/
def declineTerminal (excused : Option (List String) → Bool) : Option Received → Terminal
  | some (.declineJob .busy receipts) => if excused receipts then .excused else .rejected
  | _ => .rejected

/-- Modelled from the spec: the terminal state a run ends the job in. `Finished` completes it, a decline excuses or
rejects it, and every other failure (a connection failure, an executor failure, a job failure, a timeout) fails it. -/
def specTerminal (excused : Option (List String) → Bool) : RunResult → Option Terminal
  | .finished .. => some .completed
  | .organicJobError exc => some (if exc.reason = .jobDeclined then declineTerminal excused exc.received else .failed)
  | .otherException => none

/-- The terminal state the driver reports: the status it saves on the job read with the status it notifies. -/
def observedTerminal : JobStatus → JobStatusType → Option Terminal
  | .completed, .completed => some .completed
  | .excused, .rejected => some .excused
  | .failed, .rejected => some .rejected
  | .failed, .failed => some .failed
  | _, _ => none

/-! ## One lemma per branch of the handler -/

namespace DriverAux

theorem declineTerminal_ne_completed (excused : Option (List String) → Bool) (r : Option Received) :
    declineTerminal excused r ≠ .completed := by
  unfold declineTerminal
  split
  · split <;> nofun
  · nofun

/-- Only a completed job is reported completed. -/
theorem observedTerminal_completed {s : JobStatus} {st : JobStatusType} {t : Terminal}
    (h : observedTerminal s st = some t) : s = .completed ↔ t = .completed := by
  cases s <;> cases st <;> simp only [observedTerminal, Option.some.injEq, reduceCtorEq] at h <;> subst h <;> decide

theorem onBusyDecline_ok {env : DriverEnv} {job : OrganicJob} {exc : OrganicJobError} {receipts : Option (List String)}
    {c : Conclusion} (h : env.onBusyDecline job exc receipts = .ok c) :
    c.job = job ∧ observedTerminal c.status c.notifyStatus =
      some (if env.excuseAccepted receipts then .excused else .rejected) := by
  unfold DriverEnv.onBusyDecline at h
  unfold DriverEnv.excuseAccepted
  split at h
  · cases h
  · rename_i t ht
    rw [ht]
    split at h <;> cases h <;> simp [observedTerminal, *]

theorem onJobFailed_ok {env : DriverEnv} {job : OrganicJob} {exc : OrganicJobError} {c : Conclusion}
    (h : env.onJobFailed job exc = .ok c) :
    c.job.jobUuid = job.jobUuid ∧ c.job.onTrustedMiner = job.onTrustedMiner ∧ c.status = .failed ∧
      c.notifyStatus = .failed := by
  unfold DriverEnv.onJobFailed at h
  split at h
  · split at h <;> cases h <;> exact ⟨rfl, rfl, rfl, rfl⟩
  · cases h
    exact ⟨rfl, rfl, rfl, rfl⟩

/-- Every branch of the handler that does not raise keeps the job's uuid and trust, and reports the terminal state the
spec gives the error. -/
theorem handleOrganicJobError_ok {env : DriverEnv} {job : OrganicJob} {exc : OrganicJobError} {c : Conclusion}
    (h : env.handleOrganicJobError job exc = .ok c) :
    c.job.jobUuid = job.jobUuid ∧ c.job.onTrustedMiner = job.onTrustedMiner ∧
      observedTerminal c.status c.notifyStatus = specTerminal env.excuseAccepted (.organicJobError exc) := by
  unfold DriverEnv.handleOrganicJobError at h
  split at h
  case h_3 _ _ receipts hr hrec =>
    obtain ⟨rfl, hterm⟩ := onBusyDecline_ok h
    exact ⟨rfl, rfl, by simp [hterm, specTerminal, declineTerminal, hr, hrec]⟩
  case h_4 _ _ hr hnot =>
    cases h
    exact ⟨rfl, rfl, by simp only [observedTerminal, specTerminal, hr, if_true, declineTerminal]⟩
  case h_9 _ _ hr =>
    obtain ⟨hu, ht, hs, hn⟩ := onJobFailed_ok h
    exact ⟨hu, ht, by simp [hs, hn, hr, specTerminal, observedTerminal]⟩
  case h_10 => cases h
  all_goals (cases h; simp [specTerminal, observedTerminal, *])

/-- `save_event` reads only the job's uuid and whether it runs on the trusted miner. -/
theorem saveEvent_congr (env : DriverEnv) {job job' : OrganicJob} (hu : job'.jobUuid = job.jobUuid)
    (ht : job'.onTrustedMiner = job.onTrustedMiner) (subtype : EventSubType) (longDescription : String)
    (success : Bool) : env.saveEvent job' subtype longDescription success = env.saveEvent job subtype longDescription success := by
  simp only [DriverEnv.saveEvent, hu, ht]

/-- The handler raises exactly on a reason it does not name, on a `V0JobFailedRequest` whose `error_type` its `match` does
not name, and on a `BUSY` decline of a job with no `JobStartedReceipt`. -/
theorem handleOrganicJobError_error_iff {env : DriverEnv} {job : OrganicJob} {exc : OrganicJobError} :
    (∃ e, env.handleOrganicJobError job exc = .error e) ↔
      (∃ n, exc.reason = .other n) ∨
      (exc.reason = .jobFailed ∧
        ∃ stdout stderr n detail, exc.received = some (.jobFailed stdout stderr (some (.other n)) detail)) ∨
      (exc.reason = .jobDeclined ∧ (∃ receipts, exc.received = some (.declineJob .busy receipts)) ∧
        env.jobStartedAt = none) := by
  obtain ⟨reason, received, s, rs⟩ := exc
  cases reason
  case jobDeclined =>
    rcases received with _ | ⟨_ | n, receipts⟩ | _ | _
    case some.declineJob.busy =>
      simp only [DriverEnv.handleOrganicJobError, DriverEnv.onBusyDecline]
      cases env.jobStartedAt <;> simp
      split <;> simp
    all_goals simp [DriverEnv.handleOrganicJobError]
  case jobFailed =>
    rcases received with _ | ⟨_ | n, receipts⟩ | ⟨o, d, _ | _ | n, detail⟩ | _ <;>
      simp [DriverEnv.handleOrganicJobError, DriverEnv.onJobFailed]
  all_goals simp [DriverEnv.handleOrganicJobError]

theorem mem_saveEvent {env : DriverEnv} {job : OrganicJob} {subtype : EventSubType} {d : String} {b : Bool}
    {ev : SystemEvent} :
    ev ∈ env.saveEvent job subtype d b ↔ (job.onTrustedMiner && env.disableTrustedOrganicJobEvents) = false ∧
      ev = saveJobExecutionEvent subtype d [("job_uuid", job.jobUuid), ("miner_hotkey", env.myHotkey)] b := by
  unfold DriverEnv.saveEvent
  split <;> simp [*]

/-- The events among the driver's effects are the rows of its one `save_event` call, made when it returns. -/
theorem events_driveOrganicJob (env : DriverEnv) (job : OrganicJob) (accepted : List String) (run : RunResult) :
    ∃ subtype d, ∀ ev, Effect.createEvent ev ∈ (env.driveOrganicJob job accepted run).1 ↔
      ∃ b, (env.driveOrganicJob job accepted run).2 = .ok b ∧ ev ∈ env.saveEvent job subtype d b := by
  have hacc : ∀ ev, Effect.createEvent ev ∉ accepted.map (notifyJobAccepted job) := by simp [notifyJobAccepted]
  cases run with
  | finished stdout stderr artifacts =>
    exact ⟨.success, "Miner " ++ env.minerName ++ " finished: stdout=" ++ env.pyRepr stdout ++ " stderr=" ++
      env.pyRepr stderr, fun ev => by simp [DriverEnv.driveOrganicJob, DriverEnv.conclude, DriverEnv.saveEvent, hacc]⟩
  | organicJobError exc =>
    cases hc : env.handleOrganicJobError job exc with
    | ok c =>
      obtain ⟨hu, ht, -⟩ := handleOrganicJobError_ok hc
      exact ⟨c.subtype, c.comment, fun ev => by
        simp [DriverEnv.driveOrganicJob, DriverEnv.conclude, hc, hacc, saveEvent_congr env hu ht]⟩
    | error e => exact ⟨.failure, "", fun ev => by simp [DriverEnv.driveOrganicJob, hc, hacc]⟩
  | otherException => exact ⟨.failure, "", fun ev => by simp [DriverEnv.driveOrganicJob, hacc]⟩

/-- Where the driver raises, its effects are the `accepted` notifications alone. -/
theorem effects_of_error {env : DriverEnv} {job : OrganicJob} {accepted : List String} {run : RunResult}
    {e : DriverRaise} (h : (env.driveOrganicJob job accepted run).2 = .error e) :
    (env.driveOrganicJob job accepted run).1 = accepted.map (notifyJobAccepted job) := by
  cases run with
  | finished => simp [DriverEnv.driveOrganicJob] at h
  | organicJobError exc => cases hc : env.handleOrganicJobError job exc <;> simp_all [DriverEnv.driveOrganicJob]
  | otherException => rfl

end DriverAux

open DriverAux

/-! ## Every way `run_organic_job` ends -/

/-- After the `accepted` notifications of the miner client, `drive_organic_job` either raises having done nothing more,
or saves the job once, creates the rows of `save_event` (none or one) with the saved comment as description and its
return value as success, and sends one notification built from the saved job. The saved job keeps the job's uuid and
trust, it is `COMPLETED` exactly when the driver returns `True`, and the terminal state it reports with the notification
is the one the job driver's state machine gives the run. -/
theorem driveOrganicJob_contract (env : DriverEnv) (job : OrganicJob) (accepted : List String) (run : RunResult) :
    ((env.driveOrganicJob job accepted run).1 = accepted.map (notifyJobAccepted job) ∧
      ∃ e, (env.driveOrganicJob job accepted run).2 = .error e) ∨
    ∃ b saved status messageType subtype, (env.driveOrganicJob job accepted run).2 = .ok b ∧
      (env.driveOrganicJob job accepted run).1 = accepted.map (notifyJobAccepted job) ++
        (.saveJob saved :: (env.saveEvent job subtype saved.comment b).map .createEvent ++
          [.notify (statusUpdateFromJob saved status messageType)]) ∧
      saved.jobUuid = job.jobUuid ∧ saved.onTrustedMiner = job.onTrustedMiner ∧
      (b = true ↔ saved.status = .completed) ∧
      observedTerminal saved.status status = specTerminal env.excuseAccepted run := by
  cases run with
  | finished stdout stderr artifacts =>
    exact .inr ⟨true, _, .completed, _, .success, rfl, rfl, rfl, rfl, by simp, rfl⟩
  | organicJobError exc =>
    cases hc : env.handleOrganicJobError job exc with
    | error e =>
      have h : (env.driveOrganicJob job accepted (.organicJobError exc)).2 = .error e := by
        simp [DriverEnv.driveOrganicJob, hc]
      exact .inl ⟨effects_of_error h, e, h⟩
    | ok c =>
      obtain ⟨hu, ht, hterm⟩ := handleOrganicJobError_ok hc
      have hne : (if exc.reason = .jobDeclined then declineTerminal env.excuseAccepted exc.received else .failed) ≠
          Terminal.completed := by
        split
        · exact declineTerminal_ne_completed _ _
        · nofun
      refine .inr ⟨false, { c.job with status := c.status, comment := c.comment }, c.notifyStatus, c.messageType,
        c.subtype, by simp [DriverEnv.driveOrganicJob, hc], ?_, hu, ht,
        ⟨nofun, fun hs => (hne ((observedTerminal_completed hterm).1 hs)).elim⟩, hterm⟩
      simp only [DriverEnv.driveOrganicJob, hc, DriverEnv.conclude, saveEvent_congr env hu ht]
  | otherException => exact .inl ⟨rfl, _, rfl⟩

/-- `drive_organic_job` raises exactly when `run_organic_job` raised something other than `OrganicJobError`, or the error's reason is none of the eight
its branches name (the tests' `VOLUMES_TIMED_OUT`, which they expect to end `failed`), or it is `JOB_FAILED` with a
`V0JobFailedRequest` whose `error_type` is neither `None` nor `HUGGINGFACE_DOWNLOAD`, or it is a `BUSY` decline of a job
with no `JobStartedReceipt`. Its effects are then the `accepted` notifications alone: the job keeps the status it had,
no event is recorded, and the facilitator is not told how it ended. -/
theorem driveOrganicJob_raises_iff (env : DriverEnv) (job : OrganicJob) (accepted : List String) (run : RunResult) :
    ((∃ e, (env.driveOrganicJob job accepted run).2 = .error e) ↔
      run = .otherException ∨ ∃ exc, run = .organicJobError exc ∧
        ((∃ n, exc.reason = .other n) ∨
          (exc.reason = .jobFailed ∧
            ∃ stdout stderr n detail, exc.received = some (.jobFailed stdout stderr (some (.other n)) detail)) ∨
          (exc.reason = .jobDeclined ∧ (∃ receipts, exc.received = some (.declineJob .busy receipts)) ∧
            env.jobStartedAt = none))) ∧
    ((∃ e, (env.driveOrganicJob job accepted run).2 = .error e) →
      (env.driveOrganicJob job accepted run).1 = accepted.map (notifyJobAccepted job)) := by
  refine ⟨?_, fun ⟨_, h⟩ => effects_of_error h⟩
  cases run with
  | organicJobError exc =>
    simp only [reduceCtorEq, RunResult.organicJobError.injEq, exists_eq_left', false_or]
    rw [← handleOrganicJobError_error_iff]
    cases hc : env.handleOrganicJobError job exc <;> simp [DriverEnv.driveOrganicJob, hc]
  | _ => simp [DriverEnv.driveOrganicJob]

/-! ## `execute_organic_job_request` -/

/-- `execute_organic_job_request` sets `on_trusted_miner` exactly when the miner's hotkey is `TRUSTED_MINER_FAKE_KEY` and
the miner is not the debug miner with an address and a port set. -/
theorem onTrustedMiner_createdJob (settings : DriverSettings) (miner : Miner) (jobUuid : String) :
    (createdJob settings miner jobUuid).onTrustedMiner = true ↔
      settings.isDebugMiner miner = false ∧ miner.hotkey = settings.trustedMinerFakeKey := by
  simp only [createdJob, OrganicJob.new, minerEndpoint]
  split_ifs <;> simp [*]

/-- `execute_organic_job_request` records an event exactly when the driver returns and the job is not one on the
trusted miner while `DYNAMIC_DISABLE_TRUSTED_ORGANIC_JOB_EVENTS` is set; the job is on the trusted miner when the miner's
hotkey is `TRUSTED_MINER_FAKE_KEY`, unless the debug miner's branch took it first. Every event names the job's uuid and
the validator's hotkey, and is a success exactly when the driver returns `True`. -/
theorem executeOrganicJobRequest_events (settings : DriverSettings) (env : DriverEnv) (miner : Miner)
    (jobUuid : String) (accepted : List String) (run : RunResult) :
    ((∃ ev, .createEvent ev ∈ (executeOrganicJobRequest settings env miner jobUuid accepted run).1) ↔
      (∃ b, (executeOrganicJobRequest settings env miner jobUuid accepted run).2 = .ok b) ∧
        ¬(settings.isDebugMiner miner = false ∧ miner.hotkey = settings.trustedMinerFakeKey ∧
          env.disableTrustedOrganicJobEvents = true)) ∧
    ∀ ev, .createEvent ev ∈ (executeOrganicJobRequest settings env miner jobUuid accepted run).1 →
      ev.data = [("job_uuid", jobUuid), ("miner_hotkey", env.myHotkey)] ∧
      (ev.type = .minerOrganicJobSuccess ↔
        (executeOrganicJobRequest settings env miner jobUuid accepted run).2 = .ok true) := by
  obtain ⟨subtype, d, hev⟩ := events_driveOrganicJob env (createdJob settings miner jobUuid) accepted run
  have htr := onTrustedMiner_createdJob settings miner jobUuid
  simp only [executeOrganicJobRequest, hev, mem_saveEvent]
  refine ⟨⟨fun ⟨_, b, hb, ht, _⟩ => ⟨⟨b, hb⟩, fun ⟨h1, h2, h3⟩ => by simp [htr.2 ⟨h1, h2⟩, h3] at ht⟩,
    fun ⟨⟨b, hb⟩, hn⟩ => ⟨_, b, hb, ?_, rfl⟩⟩, ?_⟩
  · cases hT : (createdJob settings miner jobUuid).onTrustedMiner
    · rfl
    · simpa using fun hD => hn ⟨(htr.1 hT).1, (htr.1 hT).2, hD⟩
  · rintro ev ⟨b, hb, -, rfl⟩
    refine ⟨rfl, ?_⟩
    rw [hb]
    cases b <;> simp [saveJobExecutionEvent]

end ComputeHorde
