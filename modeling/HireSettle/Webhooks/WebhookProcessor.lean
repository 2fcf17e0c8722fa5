import HireSettle.Common.Json
import HireSettle.Common.Calls
import HireSettle.Workflow.Sequential

/-! The worker that delivers webhooks. The queue makes an attempt of a job, and another
one when it has thrown, as long as attempts are left; each failed attempt is handed to
`onFailed`, which logs the last one. -/
namespace HireSettle.Webhooks
open Workflow

structure WebhookPayload where
  event : String
  engagementId : String
  status : String
  timestamp : String
  more : List (String × Json) := []
  deriving DecidableEq, Repr

structure WebhookJobData where
  url : String
  payload : WebhookPayload
  userId : Option String := none
  secret : Option String := none
  subscriptionId : Option String := none
  lastResponseCode : Option Nat := none
  deriving DecidableEq, Repr

structure Job where
  -- `opts.attempts`
  attempts : Option Nat := none
  attemptsMade : Nat := 0
  failedReason : Option String := none
  deriving DecidableEq, Repr

inductive WebhookDeliveryStatus where
  | succeeded | failed | resent
  deriving DecidableEq, Repr

structure WebhookDelivery where
  userId : Option String
  subscriptionId : Option String
  url : String
  event : String
  payload : WebhookPayload
  attempts : Nat
  responseCode : Option Nat
  errorMessage : Option String := none
  status : WebhookDeliveryStatus
  deriving DecidableEq, Repr

structure Post where
  url : String
  rawBody : String
  signature : Option String
  attempt : Nat
  deriving DecidableEq, Repr

inductive Reply where
  | accepted (status : Nat)
  -- without a status when there was no response
  | refused (status : Option Nat) (message : String)
  deriving DecidableEq, Repr

def Reply.accepts : Reply → Bool
  | .accepted _ => true
  | .refused _ _ => false

inductive ProcessorError where
  | axios (status : Option Nat) (message : String)
  | reference (message : String)
  | database (message : String)
  deriving DecidableEq, Repr

namespace ProcessorError

def status : ProcessorError → Option Nat
  | .axios status _ => status
  | _ => none

def message : ProcessorError → String
  | .axios _ message | .reference message | .database message => message

end ProcessorError

inductive WebhookSite where
  | job
  | updateData
  | post (post : Post)
  | measure
  | createDelivery
  deriving DecidableEq, Repr

/-- A job's data in the queue, and what its attempts have sent and logged. -/
structure Outbox where
  data : WebhookJobData
  posts : List Post := []
  deliveries : List WebhookDelivery := []
  measured : List (WebhookDeliveryStatus × String × Nat) := []
  deriving DecidableEq, Repr

abbrev WebhookOp := Process WebhookSite Reply Outbox ProcessorError

structure WebhookConfig where
  -- `JSON.stringify`
  stringify : Json → String
  signWebhookBody : String → String → String
  maxBytes : Nat := 256 * 1024
  -- without a slash at its end
  appBaseUrl : String := "https://api.hiresettle.com"
  -- whether the processor has a metrics service
  metrics : Bool := false

variable (config : WebhookConfig)

def WebhookPayload.summary (payload : WebhookPayload) : List (String × Json) :=
  [("event",.text payload.event),("engagementId",.text payload.engagementId),("status",.text payload.status),
    ("timestamp",.text payload.timestamp)]

def buildEngagementRefUrl (engagementId : String) : String := s!"{config.appBaseUrl}/engagements/{engagementId}"

def buildWebhookRawBody (payload : WebhookPayload) : String :=
  let full := config.stringify (.object (payload.summary ++ payload.more))
  if full.utf8ByteSize ≤ config.maxBytes then full
  else config.stringify (.object (payload.summary ++
    [("truncated",.bool true),("ref",.text (buildEngagementRefUrl config payload.engagementId))]))

namespace WebhookProcessor

def jobData : WebhookOp WebhookJobData := .query .job fun _ w => .ok w.data

def updateData (data : WebhookJobData) : WebhookOp Unit := .transact .updateData fun _ w => .ok ((),{ w with data := data })

def request (data : WebhookJobData) (attempt : Nat) : Post :=
  let rawBody := buildWebhookRawBody config data.payload
  { url := data.url
    rawBody := rawBody
    signature := (present data.secret).map (config.signWebhookBody rawBody)
    attempt := attempt }

def post (post : Post) : WebhookOp Nat :=
  .call (.post post) (fun _ w => { w with posts := w.posts ++ [post] }) fun reply _ =>
    match reply with
    | .accepted status => .ret status
    | .refused status message => .raise (.axios status message)

def recordWebhookDelivery (status : WebhookDeliveryStatus) (event : String) (attempts : Nat) : WebhookOp Unit :=
  .transact .measure fun _ w => .ok ((),{ w with measured := w.measured ++ [(status,event,attempts)] })

def delivery (data : WebhookJobData) (status : WebhookDeliveryStatus) (attempts : Nat) (responseCode : Option Nat)
    (errorMessage : Option String := none) : WebhookDelivery :=
  { userId := data.userId
    subscriptionId := data.subscriptionId
    url := data.url
    event := data.payload.event
    payload := data.payload
    attempts := attempts
    responseCode := responseCode
    errorMessage := errorMessage
    status := status }

-- a failed write is only logged
def recordDelivery (row : WebhookDelivery) : WebhookOp Unit :=
  (.transact .createDelivery fun reply w =>
    match reply with
    | .accepted _ => .ok ((),{ w with deliveries := w.deliveries ++ [row] })
    | .refused _ message => .error (.database message) : WebhookOp Unit).handle fun _ => return ()

def process (job : Job) : WebhookOp Unit := do
  let data ← jobData
  let responseCode ← (post (request config data (job.attemptsMade + 1))).handle fun error => do
    if error.status ≠ data.lastResponseCode then updateData { data with lastResponseCode := error.status }
    .raise error
  -- the duration is computed from a `startTime` that nothing declares
  if config.metrics then .raise (.reference "startTime is not defined")
  else if (present data.subscriptionId).isSome then
    recordDelivery (delivery data .succeeded (job.attemptsMade + 1) (some responseCode))
  else return ()

def onFailed (job : Job) : WebhookOp Unit :=
  if job.attemptsMade < job.attempts.getD 1 then return ()
  else do
    let data ← jobData
    if config.metrics then recordWebhookDelivery .failed data.payload.event job.attemptsMade
    recordDelivery (delivery data .failed job.attemptsMade data.lastResponseCode job.failedReason)

end WebhookProcessor

open WebhookProcessor

-- the queue: an attempt, which is done unless it has thrown
def attempt (job : Job) : WebhookOp Bool :=
  (do
    process config job
    return true : WebhookOp Bool).handle fun error => do
      onFailed config { job with attemptsMade := job.attemptsMade + 1, failedReason := some error.message }
      return false

def work : Nat → Job → WebhookOp Unit
  | 0, job => do
      let _ ← attempt config job
  | left + 1, job => do
      let done ← attempt config job
      if done then return () else work left { job with attemptsMade := job.attemptsMade + 1 }

def total (attempts : Option Nat) : Nat := attempts.getD 1 - 1 + 1

/-- All attempts of a new job. -/
def runJob (attempts : Option Nat) (data : WebhookJobData) (respond : WebhookSite → Reply) : Outbox :=
  ((work config (attempts.getD 1 - 1) { attempts := attempts }).interpret respond { data := data }).2

def reply (data : WebhookJobData) (respond : WebhookSite → Reply) (n : Nat) : Reply := respond (.post (request config data n))

section Attempts

variable {config} {respond : WebhookSite → Reply}

theorem deliveryRecorded (writes : (respond .createDelivery).accepts = true) (w : Outbox) (row : WebhookDelivery) :
    (recordDelivery row).interpret respond w = (.ok (),{ w with deliveries := w.deliveries ++ [row] }) := by
  rw [recordDelivery,interpretHandle,interpretTransact,Process.applied]
  cases answer : respond .createDelivery with
  | accepted status => rfl
  | refused status message => simp [answer,Reply.accepts] at writes

theorem processAccepted (writes : (respond .createDelivery).accepts = true) (w : Outbox) (job : Job) {status : Nat}
    (answered : reply config w.data respond (job.attemptsMade + 1) = .accepted status) (metrics : config.metrics = false) :
    (process config job).interpret respond w = (.ok (),{ w with
      posts := w.posts ++ [request config w.data (job.attemptsMade + 1)]
      deliveries := w.deliveries ++ if (present w.data.subscriptionId).isSome then
        [delivery w.data .succeeded (job.attemptsMade + 1) (some status)] else [] }) := by
  have posted : (post (request config w.data (job.attemptsMade + 1))).interpret respond w =
      (.ok status,{ w with posts := w.posts ++ [request config w.data (job.attemptsMade + 1)] }) := by
    rw [post,Process.interpret,show respond (.post (request config w.data (job.attemptsMade + 1))) = .accepted status from answered]
    rfl
  rw [process,interpretBind,jobData,interpretQuery]
  dsimp only
  rw [interpretBind,interpretHandle,posted]
  dsimp only
  rw [metrics]
  by_cases subscribed : (present w.data.subscriptionId).isSome = true
  · simp [subscribed,deliveryRecorded writes]
  · simp [subscribed]

/-- An attempt that the receiver refuses, or that is measured, throws. -/
theorem processThrows (w : Outbox) (job : Job) (throws : config.metrics = true ∨ (reply config w.data respond (job.attemptsMade + 1)).accepts = false) :
    ∃ error code, (process config job).interpret respond w = (.error error,{ w with
      data := { w.data with lastResponseCode := code }
      posts := w.posts ++ [request config w.data (job.attemptsMade + 1)] }) := by
  rw [process,interpretBind,jobData,interpretQuery]
  dsimp only
  rw [interpretBind,interpretHandle,post,Process.interpret]
  cases answer : respond (.post (request config w.data (job.attemptsMade + 1))) with
  | accepted status =>
    have metrics : config.metrics = true := throws.resolve_right (by simp [reply,answer,Reply.accepts])
    exact ⟨_,w.data.lastResponseCode,by simp [Process.interpret,metrics]; rfl⟩
  | refused status message =>
    refine ⟨.axios status message,status,?_⟩
    by_cases same : status = w.data.lastResponseCode
    · simp [Process.interpret,ProcessorError.status,same]
    · simp [Process.interpret,ProcessorError.status,same,updateData,interpretBind,Except.map,Process.applied]

theorem failedRecorded (writes : (respond .createDelivery).accepts = true) (w : Outbox) (job : Job) :
    ∃ measured, (onFailed config job).interpret respond w = (.ok (),{ w with
      measured := measured
      deliveries := w.deliveries ++ if job.attemptsMade < job.attempts.getD 1 then [] else
        [delivery w.data .failed job.attemptsMade w.data.lastResponseCode job.failedReason] }) := by
  unfold onFailed
  split
  · exact ⟨w.measured,by simp⟩
  · rw [interpretBind,jobData,interpretQuery]
    dsimp only
    by_cases metrics : config.metrics = true
    · exact ⟨_,by simp [metrics,recordWebhookDelivery,interpretBind,Except.map,Process.applied,deliveryRecorded writes]; rfl⟩
    · exact ⟨w.measured,by simp [metrics,deliveryRecorded writes]⟩

theorem attemptAccepted (writes : (respond .createDelivery).accepts = true) (w : Outbox) (job : Job) {status : Nat}
    (answered : reply config w.data respond (job.attemptsMade + 1) = .accepted status) (metrics : config.metrics = false) :
    (attempt config job).interpret respond w = (.ok true,{ w with
      posts := w.posts ++ [request config w.data (job.attemptsMade + 1)]
      deliveries := w.deliveries ++ if (present w.data.subscriptionId).isSome then
        [delivery w.data .succeeded (job.attemptsMade + 1) (some status)] else [] }) := by
  rw [attempt,interpretHandle,interpretBind,processAccepted writes w job answered metrics]
  rfl

theorem attemptThrows (writes : (respond .createDelivery).accepts = true) (w : Outbox) (job : Job)
    (throws : config.metrics = true ∨ (reply config w.data respond (job.attemptsMade + 1)).accepts = false) :
    ∃ code message measured, (attempt config job).interpret respond w = (.ok false,{ w with
      data := { w.data with lastResponseCode := code }
      posts := w.posts ++ [request config w.data (job.attemptsMade + 1)]
      measured := measured
      deliveries := w.deliveries ++ if job.attemptsMade + 1 < job.attempts.getD 1 then [] else
        [delivery w.data .failed (job.attemptsMade + 1) code (some message)] }) := by
  obtain ⟨error,code,threw⟩ := processThrows w job throws
  obtain ⟨measured,failed⟩ := failedRecorded writes
    { w with data := { w.data with lastResponseCode := code }, posts := w.posts ++ [request config w.data (job.attemptsMade + 1)] }
    { job with attemptsMade := job.attemptsMade + 1, failedReason := some error.message }
  refine ⟨code,error.message,measured,?_⟩
  rw [attempt,interpretHandle,interpretBind,threw]
  dsimp only
  rw [interpretBind,failed]
  rfl

theorem rangeNext (data : WebhookJobData) (m count : Nat) : [request config data (m + 1)] ++
    (List.range' (m + 1 + 1) count).map (request config data) = (List.range' (m + 1) (count + 1)).map (request config data) := by
  rw [List.range'_succ]
  rfl

/-- Each attempt throws: all are made, and the last one is logged. -/
theorem workThrows (writes : (respond .createDelivery).accepts = true) (left : Nat) (job : Job) (w : Outbox)
    (last : job.attempts.getD 1 ≤ job.attemptsMade + left + 1) (more : 0 < left → job.attemptsMade + left < job.attempts.getD 1)
    (throws : ∀ n, job.attemptsMade < n → n ≤ job.attemptsMade + left + 1 →
      config.metrics = true ∨ (reply config w.data respond n).accepts = false) :
    ((work config left job).interpret respond w).2.posts =
      w.posts ++ (List.range' (job.attemptsMade + 1) (left + 1)).map (request config w.data) ∧
    ∃ row, ((work config left job).interpret respond w).2.deliveries = w.deliveries ++ [row] ∧ row.status = .failed ∧
      row.attempts = job.attemptsMade + left + 1 := by
  induction left generalizing job w with
  | zero =>
    obtain ⟨code,message,measured,made⟩ := attemptThrows writes w job (throws (job.attemptsMade + 1) (by omega) (by omega))
    rw [work,interpretBind,made]
    have late : ¬ job.attemptsMade + 1 < job.attempts.getD 1 := by omega
    exact ⟨rfl,delivery w.data .failed (job.attemptsMade + 1) code (some message),by simp [late],rfl,rfl⟩
  | succ left ih =>
    obtain ⟨code,message,measured,made⟩ := attemptThrows writes w job (throws (job.attemptsMade + 1) (by omega) (by omega))
    rw [work,interpretBind,made]
    have scheduled : job.attemptsMade + 1 < job.attempts.getD 1 := by omega
    obtain ⟨posts,row,deliveries,failed,attempts⟩ := ih { job with attemptsMade := job.attemptsMade + 1 }
      { data := { w.data with lastResponseCode := code }, posts := w.posts ++ [request config w.data (job.attemptsMade + 1)]
        measured := measured, deliveries := w.deliveries }
      (by dsimp only; omega) (fun _ => by dsimp only; omega) fun n after before =>
        throws n (by dsimp only at after; omega) (by dsimp only at before; omega)
    rw [if_pos scheduled,List.append_nil]
    refine ⟨?_,row,?_,failed,by dsimp only at attempts; omega⟩
    · rw [← rangeNext,← List.append_assoc]
      exact posts
    · exact deliveries

/-- Without metrics the first accepted attempt is the last one. -/
theorem workAccepted (writes : (respond .createDelivery).accepts = true) (metrics : config.metrics = false) (left : Nat) (job : Job)
    (w : Outbox) (last : job.attempts.getD 1 ≤ job.attemptsMade + left + 1)
    (more : 0 < left → job.attemptsMade + left < job.attempts.getD 1) {count status : Nat} (within : count ≤ left)
    (refused : ∀ n, job.attemptsMade < n → n ≤ job.attemptsMade + count → (reply config w.data respond n).accepts = false)
    (answered : reply config w.data respond (job.attemptsMade + count + 1) = .accepted status) :
    ((work config left job).interpret respond w).2.posts =
      w.posts ++ (List.range' (job.attemptsMade + 1) (count + 1)).map (request config w.data) ∧
    ((work config left job).interpret respond w).2.deliveries = w.deliveries ++
      if (present w.data.subscriptionId).isSome then
        [delivery w.data .succeeded (job.attemptsMade + count + 1) (some status)] else [] := by
  induction count generalizing left job w with
  | zero =>
    have made := attemptAccepted writes w job answered metrics
    cases left with
    | zero =>
      rw [work,interpretBind,made]
      exact ⟨rfl,rfl⟩
    | succ left =>
      rw [work,interpretBind,made]
      exact ⟨rfl,rfl⟩
  | succ count ih =>
    obtain ⟨left,rfl⟩ : ∃ rest, left = rest + 1 := ⟨left - 1,by omega⟩
    obtain ⟨code,message,measured,made⟩ := attemptThrows writes w job (Or.inr (refused (job.attemptsMade + 1) (by omega) (by omega)))
    rw [work,interpretBind,made]
    have scheduled : job.attemptsMade + 1 < job.attempts.getD 1 := by omega
    obtain ⟨posts,deliveries⟩ := ih left { job with attemptsMade := job.attemptsMade + 1 }
      { data := { w.data with lastResponseCode := code }, posts := w.posts ++ [request config w.data (job.attemptsMade + 1)]
        measured := measured, deliveries := w.deliveries }
      (by dsimp only; omega) (fun _ => by dsimp only; omega) (by omega)
      (fun n after before => refused n (by dsimp only at after; omega) (by dsimp only at before; omega))
      (by
        have same : job.attemptsMade + 1 + count + 1 = job.attemptsMade + (count + 1) + 1 := by omega
        show reply config w.data respond (job.attemptsMade + 1 + count + 1) = .accepted status
        rw [same,answered])
    rw [if_pos scheduled,List.append_nil]
    refine ⟨?_,?_⟩
    · rw [← rangeNext,← List.append_assoc]
      exact posts
    · have same : job.attemptsMade + 1 + count + 1 = job.attemptsMade + (count + 1) + 1 := by omega
      rw [← same]
      exact deliveries

end Attempts

/-- Nothing is sent after an accepted attempt, and the log of a subscription says how the job ended. -/
structure SentOnce (attempts : Option Nat) (data : WebhookJobData) (respond : WebhookSite → Reply) : Prop where
  returns : ∀ n, n < total attempts → (reply config data respond (n + 1)).accepts = true → ∀ code w,
    w.data = { data with lastResponseCode := code } →
      ((process config { attempts := attempts, attemptsMade := n }).interpret respond w).1 = .ok ()
  silent : ∀ p ∈ (runJob config attempts data respond).posts, (reply config data respond p.attempt).accepts = true →
    ∀ q ∈ (runJob config attempts data respond).posts, q.attempt ≤ p.attempt
  succeeded : (present data.subscriptionId).isSome = true → ∀ p ∈ (runJob config attempts data respond).posts, ∀ status,
    reply config data respond p.attempt = .accepted status →
      (runJob config attempts data respond).deliveries = [delivery data .succeeded p.attempt (some status)]
  failed : (present data.subscriptionId).isSome = true →
    (∀ p ∈ (runJob config attempts data respond).posts, (reply config data respond p.attempt).accepts = false) →
      ∃ row, (runJob config attempts data respond).deliveries = [row] ∧ row.status = .failed ∧ row.attempts = total attempts

section Jobs

variable {config} {respond : WebhookSite → Reply} {attempts : Option Nat} {data : WebhookJobData}

/-- The first accepted attempt, if there is one. -/
theorem firstAccepted (total : Nat) (answers : Nat → Reply) :
    (∀ n, n < total → (answers (n + 1)).accepts = false) ∨
    ∃ count status, count < total ∧ answers (count + 1) = .accepted status ∧ ∀ n, n < count → (answers (n + 1)).accepts = false := by
  by_cases some' : ∃ count, count < total ∧ (answers (count + 1)).accepts = true
  · have least := Nat.find_spec some'
    obtain ⟨status,answered⟩ : ∃ status, answers (Nat.find some' + 1) = .accepted status := by
      cases answer : answers (Nat.find some' + 1) with
      | accepted status => exact ⟨status,rfl⟩
      | refused status message =>
        have accepts := least.2
        rw [answer] at accepts
        cases accepts
    refine Or.inr ⟨Nat.find some',status,least.1,answered,fun n before => ?_⟩
    simpa using fun accepts => Nat.find_min some' before ⟨by omega,accepts⟩
  · refine Or.inl fun n before => ?_
    simpa using fun accepts => some' ⟨n,before,accepts⟩

theorem postsMem {count : Nat} {p : Post} (inside : p ∈ (List.range' 1 count).map (request config data)) :
    ∃ n, n < count ∧ p.attempt = n + 1 := by
  obtain ⟨n,within,rfl⟩ := List.mem_map.mp inside
  obtain ⟨i,small,rfl⟩ := List.mem_range'.mp within
  exact ⟨i,small,by simp [request]; omega⟩

theorem refusedOnce (writes : (respond .createDelivery).accepts = true)
    (refused : ∀ n, n < total attempts → (reply config data respond (n + 1)).accepts = false) : SentOnce config attempts data respond := by
  have throws : ∀ n, 0 < n → n ≤ 0 + (attempts.getD 1 - 1) + 1 → config.metrics = true ∨ (reply config data respond n).accepts = false := by
    intro n after before
    obtain ⟨n,rfl⟩ : ∃ before, n = before + 1 := ⟨n - 1,by omega⟩
    exact Or.inr (refused n (by dsimp only [total]; omega))
  obtain ⟨posts,row,deliveries,failed,made⟩ := workThrows writes (attempts.getD 1 - 1) { attempts := attempts } { data := data }
    (by dsimp only; omega) (fun more => by dsimp only; omega) throws
  have each : ∀ p ∈ (runJob config attempts data respond).posts, (reply config data respond p.attempt).accepts = false := by
    intro p inside
    rw [runJob,posts] at inside
    obtain ⟨n,within,same⟩ := postsMem inside
    rw [same]
    exact refused n within
  refine ⟨fun n within accepts => ?_,fun p inside accepts => ?_,fun _ p inside status answered => ?_,fun _ _ => ?_⟩
  · simp [refused n within] at accepts
  · simp [each p inside] at accepts
  · simpa [answered,Reply.accepts] using each p inside
  · exact ⟨row,deliveries,failed,by rw [made]; dsimp only [total]; omega⟩

theorem acceptedOnce (writes : (respond .createDelivery).accepts = true) (metrics : config.metrics = false) {count status : Nat}
    (within : count < total attempts) (answered : reply config data respond (count + 1) = .accepted status)
    (refused : ∀ n, n < count → (reply config data respond (n + 1)).accepts = false) : SentOnce config attempts data respond := by
  have numbered : (0 : Nat) + count + 1 = count + 1 := by omega
  obtain ⟨posts,deliveries⟩ := workAccepted writes metrics (attempts.getD 1 - 1) { attempts := attempts } { data := data }
    (by dsimp only; omega) (fun more => by dsimp only; omega) (Nat.le_of_lt_succ within)
    (fun n after before => by
      obtain ⟨n,rfl⟩ : ∃ before, n = before + 1 := ⟨n - 1,by dsimp only at after; omega⟩
      exact refused n (by dsimp only at before; omega))
    (show reply config data respond (0 + count + 1) = .accepted status by rw [numbered,answered])
  have only : ∀ p ∈ (runJob config attempts data respond).posts, p.attempt ≤ count + 1 ∧
      ((reply config data respond p.attempt).accepts = true → p.attempt = count + 1) := by
    intro p inside
    rw [runJob,posts] at inside
    obtain ⟨n,small,same⟩ := postsMem inside
    rw [same]
    refine ⟨by omega,fun accepts => ?_⟩
    rcases Nat.lt_or_ge n count with before | after
    · simp [refused n before] at accepts
    · omega
  refine ⟨fun n small accepts code w same => ?_,fun p inside accepts q inside' => ?_,fun subscribed p inside status' answered' => ?_,
    fun _ none => ?_⟩
  · cases answer : reply config data respond (n + 1) with
    | refused status message => simp [answer,Reply.accepts] at accepts
    | accepted status' =>
      have answered' : reply config w.data respond (n + 1) = .accepted status' := by
        rw [same]
        exact answer
      have returned := processAccepted writes w { attempts := attempts, attemptsMade := n } answered' metrics
      rw [returned]
  · rw [(only p inside).2 accepts]
    exact (only q inside').1
  · have last := (only p inside).2 (by rw [answered']; rfl)
    rw [last,answered] at answered'
    cases answered'
    rw [runJob,deliveries,if_pos subscribed,last,numbered]
    rfl
  · have sent : request config data (count + 1) ∈ (runJob config attempts data respond).posts := by
      rw [runJob,posts]
      exact List.mem_map.mpr ⟨count + 1,List.mem_range'.mpr ⟨count,by omega,by dsimp only; omega⟩,rfl⟩
    have accepts : (reply config data respond (count + 1)).accepts = true := by rw [answered]; rfl
    exact absurd (none _ sent) (by rw [show (request config data (count + 1)).attempt = count + 1 from rfl,accepts]; simp)

/-- Without a metrics service an accepted webhook is sent and logged once; with one, only a
job that no attempt of gets accepted. -/
theorem sentOnceIff (config : WebhookConfig) (attempts : Option Nat) (data : WebhookJobData) (respond : WebhookSite → Reply)
    (writes : (respond .createDelivery).accepts = true) : SentOnce config attempts data respond ↔
      config.metrics = false ∨ ∀ n, n < total attempts → (reply config data respond (n + 1)).accepts = false := by
  constructor
  · intro once
    by_cases metrics : config.metrics = true
    · refine Or.inr fun n within => ?_
      by_contra accepts
      have returned := once.returns n within (by simpa using accepts) data.lastResponseCode { data := data } rfl
      have throws : config.metrics = true ∨ (reply config data respond (n + 1)).accepts = false := Or.inl metrics
      obtain ⟨error,code,threw⟩ := processThrows { data := data } { attempts := attempts, attemptsMade := n } throws
      rw [threw] at returned
      cases returned
    · exact Or.inl (by simpa using metrics)
  · rintro (metrics | refused)
    · rcases firstAccepted (total attempts) (reply config data respond) with none | ⟨count,status,within,answered,before⟩
      · exact refusedOnce writes none
      · exact acceptedOnce writes metrics within answered before
    · exact refusedOnce writes refused

def completed : WebhookPayload where
  event := "COMPLETED"
  engagementId := "e"
  status := "COMPLETED"
  timestamp := "2026-08-29T00:00:00.000Z"

def subscribed : WebhookJobData where
  url := "https://ats.example/hook"
  payload := completed
  subscriptionId := some "s"

def measuredConfig : WebhookConfig where
  stringify _ :=
    "\x7b\"event\":\"COMPLETED\",\"engagementId\":\"e\",\"status\":\"COMPLETED\",\"timestamp\":\"2026-08-29T00:00:00.000Z\"\x7d"
  signWebhookBody _ _ := ""
  metrics := true

def secondAccepts (site : WebhookSite) : Reply :=
  match site with
  | .post post => if post.attempt = 2 then .accepted 200 else .refused (some 503) "Request failed with status code 503"
  | _ => .accepted 200

theorem sentOnceSecond : SentOnce { measuredConfig with metrics := false } (some 3) subscribed secondAccepts ∧
    (runJob { measuredConfig with metrics := false } (some 3) subscribed secondAccepts).deliveries =
      [delivery subscribed .succeeded 2 (some 200)] :=
  ⟨(sentOnceIff { measuredConfig with metrics := false } (some 3) subscribed secondAccepts rfl).mpr (Or.inl rfl),by decide⟩

theorem acceptedAgain : ¬ SentOnce measuredConfig (some 3) subscribed secondAccepts ∧
    (runJob measuredConfig (some 3) subscribed secondAccepts).posts.map Post.attempt = [1,2,3] ∧
    (runJob measuredConfig (some 3) subscribed secondAccepts).deliveries.map WebhookDelivery.status = [.failed] := by
  refine ⟨fun once => ?_,by decide,by decide⟩
  have silent := once.silent (request measuredConfig subscribed 2) (by decide) rfl (request measuredConfig subscribed 3) (by decide)
  exact absurd silent (by decide)

end Jobs

end HireSettle.Webhooks
