import Mathlib.Data.List.Basic

/-!
# `drive_organic_job`: how a run of an organic job ends

`drive_organic_job` hands the job to `run_organic_job` and then records how it ended. On success it stores the miner's
output, marks the job `COMPLETED`, saves a success event and tells the facilitator `completed`; on an `OrganicJobError`
one branch per `FailureReason` sets the status (`FAILED`, or `EXCUSED` for a `BUSY` decline the excuse receipts cover),
the comment and the event subtype, and notifies `failed` or `rejected`. Every branch ends the same way: `job.asave()`,
`save_event`, `notify_callback`. A reason none of the branches names, or a `V0JobFailedRequest` whose `error_type` the
`match` does not name, reaches `assert_never` and raises.

The branches differ only in their data, so `handleOrganicJobError` computes a `Conclusion` per branch and `conclude` is
the tail they share. `execute_organic_job_request` chooses the miner's address (the debug miner, the trusted miner, or
the miner's own), creates the job and drives it.
-/

namespace ComputeHorde

/-! ## The job and how `run_organic_job` ends -/

/-- Modelled from the spec: `OrganicJob.Status`, whose model is not under src. The driver writes `COMPLETED`, `FAILED`
and `EXCUSED`; a job is created `PENDING`. -/
inductive JobStatus where
  | pending
  | completed
  | failed
  | excused
  deriving DecidableEq, Repr

/-- The values of `JobStatusType` the driver sends to the facilitator. -/
inductive JobStatusType where
  | accepted
  | completed
  | failed
  | rejected
  deriving DecidableEq, Repr

/-- `FailureReason` of `compute_horde.miner_client.organic` (not under src): the eight members the driver's branches
name, and `other`, a member they do not name (the tests use `VOLUMES_TIMED_OUT`). -/
inductive FailureReason where
  | minerConnectionFailed
  | initialResponseTimedOut
  | jobDeclined
  | executorReadinessResponseTimedOut
  | streamingJobReadyTimedOut
  | executorFailed
  | finalResponseTimedOut
  | jobFailed
  | other (name : String)
  deriving DecidableEq, Repr

/-- `V0DeclineJobRequest.Reason`: `BUSY`, the one the driver checks for, or another. -/
inductive DeclineReason where
  | busy
  | other (name : String)
  deriving DecidableEq, Repr

/-- `V0JobFailedRequest.ErrorType`: `HUGGINGFACE_DOWNLOAD`, the one the driver's `match` names, or another. -/
inductive ErrorType where
  | huggingfaceDownload
  | other (name : String)
  deriving DecidableEq, Repr

/-- `exc.received`, the miner message an `OrganicJobError` carries, as far as the driver looks into it. -/
inductive Received where
  /-- `V0DeclineJobRequest(reason, receipts)`, each receipt by its serialised form. -/
  | declineJob (reason : DeclineReason) (receipts : Option (List String))
  /-- `V0JobFailedRequest`. -/
  | jobFailed (stdout stderr : String) (errorType : Option ErrorType) (errorDetail : Option String)
  /-- Any other message. -/
  | other
  deriving DecidableEq, Repr

/-- `OrganicJobError`: its `reason`, its `received` message (`none` for `None`), and the two texts the driver puts in
comments, `str(exc)` and `exc.received_str()`. -/
structure OrganicJobError where
  reason : FailureReason
  received : Option Received
  str : String
  receivedStr : String
  deriving DecidableEq, Repr

/-- How `run_organic_job` ends: it returns `(stdout, stderr, artifacts)`, raises `OrganicJobError`, or raises another
exception, which the driver does not catch. -/
inductive RunResult where
  | finished (stdout stderr : String) (artifacts : List (String × String))
  | organicJobError (exc : OrganicJobError)
  | otherException
  deriving DecidableEq, Repr

/-- The fields of `OrganicJob` the driver reads or writes. -/
structure OrganicJob where
  jobUuid : String
  onTrustedMiner : Bool
  status : JobStatus
  comment : String
  stdout : String
  stderr : String
  artifacts : List (String × String)
  errorType : Option ErrorType
  errorDetail : Option String
  deriving DecidableEq, Repr

/-- `MinerResponse`. -/
structure MinerResponse where
  jobUuid : String
  messageType : Option String
  dockerProcessStdout : String
  dockerProcessStderr : String
  artifacts : List (String × String)
  deriving DecidableEq, Repr

/-! ## Notifications and system events -/

/-- `JobStatusUpdate`, its `JobStatusMetadata` (`comment`, `miner_response`) inlined. -/
structure JobStatusUpdate where
  uuid : String
  status : JobStatusType
  comment : String
  minerResponse : MinerResponse
  deriving DecidableEq, Repr

/-- `status_update_from_job(job, status, message_type)`: the update reports the job as it stands. -/
def statusUpdateFromJob (job : OrganicJob) (status : JobStatusType) (messageType : Option String) : JobStatusUpdate where
  uuid := job.jobUuid
  status := status
  comment := job.comment
  minerResponse :=
    { jobUuid := job.jobUuid, messageType := messageType, dockerProcessStdout := job.stdout,
      dockerProcessStderr := job.stderr, artifacts := job.artifacts }

/-- `SystemEvent.EventType` of an organic job's event. -/
inductive EventType where
  | minerOrganicJobSuccess
  | minerOrganicJobFailure
  deriving DecidableEq, Repr

/-- The `SystemEvent.EventSubType` values the driver records. -/
inductive EventSubType where
  | success
  | minerConnectionError
  | jobNotStarted
  | jobExcused
  | jobRejected
  | jobExecutionTimeout
  | failure
  | errorDownloadingFromHuggingface
  deriving DecidableEq, Repr

/-- A `SystemEvent` row. -/
structure SystemEvent where
  type : EventType
  subtype : EventSubType
  longDescription : String
  data : List (String × String)
  deriving DecidableEq, Repr

/-- `save_job_execution_event(subtype, long_description, data, success)`: the row it creates (`data or {}`). -/
def saveJobExecutionEvent (subtype : EventSubType) (longDescription : String) (data : List (String × String))
    (success : Bool) : SystemEvent where
  type := if success then .minerOrganicJobSuccess else .minerOrganicJobFailure
  subtype := subtype
  longDescription := longDescription
  data := data

/-! ## `drive_organic_job` -/

/-- What the driver does outside the job object: save the job, create an event, notify the facilitator. -/
inductive Effect where
  /-- `job.asave()`, with the job as it stands. -/
  | saveJob (job : OrganicJob)
  /-- `SystemEvent.objects.acreate(...)`. -/
  | createEvent (event : SystemEvent)
  /-- `notify_callback(update)`. -/
  | notify (update : JobStatusUpdate)
  deriving DecidableEq, Repr

/-- Why `drive_organic_job` raises. -/
inductive DriverRaise where
  /-- `assert_never` reached: `AssertionError`. -/
  | assertionError
  /-- `JobStartedReceipt.objects.aget(job_uuid=...)` found no receipt: `DoesNotExist`. -/
  | doesNotExist
  /-- `run_organic_job` raised something other than `OrganicJobError`. -/
  | uncaught
  deriving DecidableEq, Repr

/-- The driver's arguments and what it reads from outside: the three timeouts, the dynamic setting
`DYNAMIC_DISABLE_TRUSTED_ORGANIC_JOB_EVENTS`, the time of the job's `JobStartedReceipt` (`none` when there is none),
`len(job_excuses.filter_valid_excuse_receipts(receipts, check_time, ...))` and
`job_excuses.get_expected_miner_executor_count(check_time, ...)` for this job and miner, the client's `miner_name` and
`my_hotkey`, and `repr` of a `str`. -/
structure DriverEnv where
  totalJobTimeout : Nat
  initialResponseTimeout : Nat
  executorReadyTimeout : Nat
  disableTrustedOrganicJobEvents : Bool
  jobStartedAt : Option Nat
  validExcuseCount : List String → Nat → Nat
  expectedExecutorCount : Nat → Nat
  minerName : String
  myHotkey : String
  pyRepr : String → String

namespace DriverEnv

variable (env : DriverEnv)

/-- The rows `save_event(subtype=..., long_description=..., success=...)` creates: none when the job runs on the trusted
miner and `DYNAMIC_DISABLE_TRUSTED_ORGANIC_JOB_EVENTS` is set, else the one of `save_job_execution_event` with the job's
uuid and the validator's hotkey as `data`. -/
def saveEvent (job : OrganicJob) (subtype : EventSubType) (longDescription : String) (success : Bool) :
    List SystemEvent :=
  if job.onTrustedMiner && env.disableTrustedOrganicJobEvents then []
  else [saveJobExecutionEvent subtype longDescription [("job_uuid", job.jobUuid), ("miner_hotkey", env.myHotkey)] success]

/-- The tail every branch shares: set `job.status` and `job.comment`, `job.asave()`, `save_event` with the comment as
`long_description`, then `notify_callback(status_update_from_job(job, status, message_type))`. -/
def conclude (job : OrganicJob) (st : JobStatus) (comment : String) (subtype : EventSubType) (success : Bool)
    (status : JobStatusType) (messageType : Option String) : List Effect :=
  let saved := { job with status := st, comment := comment }
  .saveJob saved :: (env.saveEvent job subtype comment success).map .createEvent ++
    [.notify (statusUpdateFromJob saved status messageType)]

end DriverEnv

/-- What one branch of the `except OrganicJobError` handler decides: the job with the fields it copies from the miner's
message, the status, the comment, the event subtype, and the status and message type it notifies. -/
structure Conclusion where
  job : OrganicJob
  status : JobStatus
  comment : String
  subtype : EventSubType
  notifyStatus : JobStatusType
  messageType : Option String

/-- `notify_job_accepted(msg)`, which the driver installs on the miner client: the job as it stands, `accepted`. -/
def notifyJobAccepted (job : OrganicJob) (messageType : String) : Effect :=
  .notify (statusUpdateFromJob job .accepted (some messageType))

namespace DriverEnv

variable (env : DriverEnv)

/-- The `JOB_FAILED` branch: the comment, and the job with the stdout, stderr, error type and detail of a
`V0JobFailedRequest`; the `match` on its `error_type` raises on a type it does not name. -/
def onJobFailed (job : OrganicJob) (exc : OrganicJobError) : Except DriverRaise Conclusion :=
  let comment := "Miner " ++ env.minerName ++ " failed: " ++ exc.receivedStr
  match exc.received with
  | some (.jobFailed stdout stderr errorType errorDetail) =>
    let job := { job with stdout := stdout, stderr := stderr, errorType := errorType, errorDetail := errorDetail }
    match errorType with
    | none => .ok ⟨job, .failed, comment, .failure, .failed, some "V0JobFailedRequest"⟩
    | some .huggingfaceDownload =>
      .ok ⟨job, .failed, comment, .errorDownloadingFromHuggingface, .failed, some "V0JobFailedRequest"⟩
    | some (.other _) => .error .assertionError
  | _ => .ok ⟨job, .failed, comment, .failure, .failed, some "V0JobFailedRequest"⟩

/-- The `BUSY` decline: the decline is excused when the valid excuse receipts, checked at the time of the job's
`JobStartedReceipt`, are at least the executors the miner is expected to have. -/
def onBusyDecline (job : OrganicJob) (exc : OrganicJobError) (receipts : Option (List String)) :
    Except DriverRaise Conclusion :=
  match env.jobStartedAt with
  | none => .error .doesNotExist
  | some t =>
    if env.expectedExecutorCount t ≤ env.validExcuseCount (receipts.getD []) t then
      .ok ⟨job, .excused, "Miner properly excused job " ++ env.minerName ++ ": " ++ exc.receivedStr, .jobExcused,
        .rejected, none⟩
    else
      .ok ⟨job, .failed, "Miner failed to excuse job " ++ env.minerName ++ ": " ++ exc.receivedStr, .jobRejected,
        .rejected, none⟩

/-- The `except OrganicJobError as exc` handler: one branch per reason, in the source's order (the `BUSY` decline before
any other decline), and `assert_never` for a reason none names. -/
def handleOrganicJobError (job : OrganicJob) (exc : OrganicJobError) : Except DriverRaise Conclusion :=
  match exc.reason, exc.received with
  | .minerConnectionFailed, _ =>
    .ok ⟨job, .failed, "Miner connection error: " ++ exc.str, .minerConnectionError, .failed, none⟩
  | .initialResponseTimedOut, _ =>
    .ok ⟨job, .failed, "Miner " ++ env.minerName ++ " timed out waiting for initial response " ++ job.jobUuid ++
      " after " ++ toString env.initialResponseTimeout ++ " seconds", .jobNotStarted, .failed, none⟩
  | .jobDeclined, some (.declineJob .busy receipts) => env.onBusyDecline job exc receipts
  | .jobDeclined, _ =>
    .ok ⟨job, .failed, "Miner declined job " ++ env.minerName ++ ": " ++ exc.receivedStr, .jobRejected, .rejected, none⟩
  | .executorReadinessResponseTimedOut, _ =>
    .ok ⟨job, .failed, "Miner " ++ env.minerName ++ " timed out while preparing executor for job " ++ job.jobUuid ++
      " after " ++ toString env.executorReadyTimeout ++ " seconds", .jobNotStarted, .failed, none⟩
  | .streamingJobReadyTimedOut, _ =>
    .ok ⟨job, .failed, "Streaming job " ++ job.jobUuid ++ " not ready after " ++ toString env.executorReadyTimeout ++
      " seconds", .jobNotStarted, .failed, none⟩
  | .executorFailed, _ =>
    .ok ⟨job, .failed, "Miner " ++ env.minerName ++ " failed to start executor: " ++ exc.receivedStr, .jobRejected,
      .failed, none⟩
  | .finalResponseTimedOut, _ =>
    .ok ⟨job, .failed, "Miner " ++ env.minerName ++ " timed out after " ++ toString env.totalJobTimeout ++ " seconds",
      .jobExecutionTimeout, .failed, none⟩
  | .jobFailed, _ => env.onJobFailed job exc
  | .other _, _ => .error .assertionError

/-- `drive_organic_job`: the effects, in order, and what it returns or why it raises. `accepted` holds the message
types of the `V0AcceptJobRequest`s the miner client hands to `notify_job_accepted` while `run_organic_job` runs, and
`run` is how that run ends. -/
def driveOrganicJob (job : OrganicJob) (accepted : List String) (run : RunResult) :
    List Effect × Except DriverRaise Bool :=
  let acceptedNotes := accepted.map (notifyJobAccepted job)
  match run with
  | .finished stdout stderr artifacts =>
    (acceptedNotes ++ env.conclude { job with stdout := stdout, stderr := stderr, artifacts := artifacts } .completed
      ("Miner " ++ env.minerName ++ " finished: stdout=" ++ env.pyRepr stdout ++ " stderr=" ++ env.pyRepr stderr)
      .success true .completed (some "V0JobFinishedRequest"), .ok true)
  | .organicJobError exc =>
    match env.handleOrganicJobError job exc with
    | .ok c => (acceptedNotes ++ env.conclude c.job c.status c.comment c.subtype false c.notifyStatus c.messageType,
        .ok false)
    | .error e => (acceptedNotes, .error e)
  | .otherException => (acceptedNotes, .error .uncaught)

end DriverEnv

/-! ## `execute_organic_job_request` -/

/-- A `Miner` row, as far as `execute_organic_job_request` reads it. -/
structure Miner where
  hotkey : String
  address : String
  port : Nat
  ipVersion : Nat
  deriving DecidableEq, Repr

/-- The settings `execute_organic_job_request` reads, `none` for `None`. -/
structure DriverSettings where
  debugMinerKey : Option String
  debugMinerAddress : Option String
  debugMinerPort : Option Nat
  trustedMinerFakeKey : String
  trustedMinerAddress : String
  trustedMinerPort : Nat

/-- The first branch of `execute_organic_job_request`: the miner's hotkey is `DEBUG_MINER_KEY`, and the address and
the port are values Python finds true (a string that is not empty, a port that is not `0`). -/
def DriverSettings.isDebugMiner (settings : DriverSettings) (miner : Miner) : Bool :=
  settings.debugMinerKey == some miner.hotkey && settings.debugMinerAddress.any (· != "") &&
    settings.debugMinerPort.any (· != 0)

/-- The address `execute_organic_job_request` gives the job: `(miner_ip, miner_port, ip_type, on_trusted_miner)`. -/
def minerEndpoint (settings : DriverSettings) (miner : Miner) : String × Nat × Nat × Bool :=
  if settings.isDebugMiner miner then
    (settings.debugMinerAddress.getD "", settings.debugMinerPort.getD 0, 4, false)
  else if miner.hotkey = settings.trustedMinerFakeKey then
    (settings.trustedMinerAddress, settings.trustedMinerPort, 4, true)
  else (miner.address, miner.port, miner.ipVersion, false)

/-- Modelled from the spec: a job as the `OrganicJob` model creates it, whose defaults are not under src: `pending`,
with no comment, output, artifacts or error. -/
def OrganicJob.new (jobUuid : String) (onTrustedMiner : Bool) : OrganicJob where
  jobUuid := jobUuid
  onTrustedMiner := onTrustedMiner
  status := .pending
  comment := ""
  stdout := ""
  stderr := ""
  artifacts := []
  errorType := none
  errorDetail := none

/-- The job `OrganicJob.objects.acreate(...)` creates in `execute_organic_job_request` for a request with uuid
`jobUuid`, with `on_trusted_miner` as `minerEndpoint` chose. -/
def createdJob (settings : DriverSettings) (miner : Miner) (jobUuid : String) : OrganicJob :=
  OrganicJob.new jobUuid (minerEndpoint settings miner).2.2.2

/-- `execute_organic_job_request`: create the job, then drive it. -/
def executeOrganicJobRequest (settings : DriverSettings) (env : DriverEnv) (miner : Miner) (jobUuid : String)
    (accepted : List String) (run : RunResult) : List Effect × Except DriverRaise Bool :=
  env.driveOrganicJob (createdJob settings miner jobUuid) accepted run

end ComputeHorde
