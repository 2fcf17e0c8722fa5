import HireSettle.Escrow.FileScans
import HireSettle.Workflow.Turns

/-! Whether an infected file is served. The verdict is recorded without a second look at
the row, and a link is made for what has been read before; either may come after another
scan has found the file infected. -/
namespace HireSettle.Escrow.FileScans.QuarantinedFiles
open Workflow

/-- The file has been infected before the event. -/
def WasInfected (file : FileScanJobData) (earlier : List FileEvent) (e : FileEvent) : Prop :=
  statusOf file e.before = some .infected ∨
    ∃ d ∈ earlier, statusOf file d.before = some .infected ∨ statusOf file d.after = some .infected

def Serves (file : FileScanJobData) (e : FileEvent) : Prop := e.site = .getPresignedUrl file ∧ e.answer.fails = false

/-- Once a file is infected it does not become clean, and no link to it is made. -/
def NeverServed (pool : FilePool) : Prop :=
  AllMeet (fun earlier e => ∀ file, WasInfected file earlier e → statusOf file e.after ≠ some .clean ∧ ¬ Serves file e) pool.history

def Cleans (file : FileScanJobData) (e : FileEvent) : Prop := e.site = .markClean file ∧ statusOf file e.after = some .clean

def Infects (file : FileScanJobData) (e : FileEvent) : Prop := e.site = .markInfected file ∧ statusOf file e.after = some .infected

/-- The reads that say whether a file is pending or clean. -/
def Looks (e : FileEvent) : Prop :=
  match e.site with
  | .loadPendingTarget _ | .findEvidence | .findMessages => True
  | _ => False

/-- No scan has found the file infected since the thread looked at it. -/
def Untouched (earlier : List FileEvent) (e : FileEvent) : Prop :=
  ∀ file, Cleans file e ∨ Serves file e → ∀ recent r older, earlier = recent ++ r :: older → r.thread = e.thread → Looks r →
    ∀ d ∈ recent, ¬ Infects file d

section Calls

variable {own : List FileEvent} {α : Type} {w w' : World} {answer : Answer} {file : FileScanJobData}

/-- What is known of each call, from those before it. -/
inductive Calls (own : List FileEvent) (e : FileEvent) : Prop where
  | idle (kept : ∀ file, statusOf file e.after = statusOf file e.before) (unserved : ∀ file, ¬ Serves file e)
  | served (file : FileScanJobData) (site : e.site = .getPresignedUrl file) (kept : ∀ file, statusOf file e.after = statusOf file e.before)
      (looked : ∃ r ∈ own, Looks r ∧ r.after = r.before ∧ statusOf file r.before = some .clean)
  | cleaned (file : FileScanJobData) (site : e.site = .markClean file) (status : statusOf file e.after = some .clean)
      (others : ∀ other, other ≠ file → statusOf other e.after = statusOf other e.before)
      (looked : ∃ r ∈ own, Looks r ∧ r.after = r.before ∧ statusOf file r.before = some .pending)
  | infected (file : FileScanJobData) (site : e.site = .markInfected file) (status : statusOf file e.after = some .infected)
      (others : ∀ other, other ≠ file → statusOf other e.after = statusOf other e.before)

theorem updateStatus {onEvidence : DisputeEvidence → DisputeEvidence} {onMessage : DisputeMessage → DisputeMessage}
    {keepsEvidence : ∀ row, Keyed.key (onEvidence row) = Keyed.key row} {keepsMessage : ∀ row, Keyed.key (onMessage row) = Keyed.key row}
    {status : FileScanStatus} (evidence : ∀ row, (onEvidence row).scanStatus = status)
    (message : ∀ row, (onMessage row).attachmentScanStatus = some status)
    (updated : FileScanService.updateFile file onEvidence onMessage keepsEvidence keepsMessage answer w = .ok ((),w')) :
    statusOf file w' = some status ∧ ∀ other, other ≠ file → statusOf other w' = statusOf other w := by
  unfold FileScanService.updateFile at updated
  split at updated
  · cases updated
  cases kind : file.kind with
  | evidence =>
    simp only [kind] at updated
    split at updated
    · cases updated
    · rename_i modified
      cases updated
      obtain ⟨row,found,_,same⟩ := Table.modifyGet modified
      refine ⟨?_,fun other differs => ?_⟩
      · simp only [statusOf,kind,same,Table.getUpdateSelf found onEvidence keepsEvidence,Option.map_some,evidence]
      · cases its : other.kind with
        | evidence =>
          have elsewhere : other.id ≠ file.id := fun same => differs (by cases other; cases file; simp_all)
          simp only [statusOf,its,same,Table.getUpdateOther _ elsewhere onEvidence keepsEvidence]
        | disputeMessage => simp only [statusOf,its]
  | disputeMessage =>
    simp only [kind] at updated
    split at updated
    · cases updated
    · rename_i modified
      cases updated
      obtain ⟨row,found,_,same⟩ := Table.modifyGet modified
      refine ⟨?_,fun other differs => ?_⟩
      · simp only [statusOf,kind,same,Table.getUpdateSelf found onMessage keepsMessage,Option.bind_some,message]
      · cases its : other.kind with
        | evidence => simp only [statusOf,its]
        | disputeMessage =>
          have elsewhere : other.id ≠ file.id := fun same => differs (by cases other; cases file; simp_all)
          simp only [statusOf,its,same,Table.getUpdateOther _ elsewhere onMessage keepsMessage]

theorem pendingStatus {target : FileScanService.ScanTarget} (found : FileScanService.pendingTarget file w = some target) :
    statusOf file w = some .pending := by
  unfold FileScanService.pendingTarget at found
  unfold statusOf
  split at found
  · split at found
    · cases found
    · rename_i there
      split at found
      · cases found
      · rename_i pending
        simpa [there] using pending
  · split at found
    · cases found
    · rename_i there
      split at found
      · cases found
      split at found
      · cases found
      · rename_i pending
        simpa [there] using pending

theorem cleanStatus (marked : FileScanService.markClean file answer w = .ok ((),w')) :
    statusOf file w' = some .clean ∧ ∀ other, other ≠ file → statusOf other w' = statusOf other w :=
  updateStatus (fun row => (rfl : (FileScanService.cleanEvidence w.db.clock row).scanStatus = .clean)) (fun _ => rfl) marked

theorem infectedStatus {quarantineKey : String} (marked : FileScanService.markInfected file quarantineKey answer w = .ok ((),w')) :
    statusOf file w' = some .infected ∧ ∀ other, other ≠ file → statusOf other w' = statusOf other w :=
  updateStatus (fun row => (rfl : (FileScanService.infectedEvidence quarantineKey w.db.clock row).scanStatus = .infected)) (fun _ => rfl) marked

variable {done : List FileEvent → Except Exception α → Prop}

theorem guardedIdle {site : Site} (other : ∀ file, site ≠ .getPresignedUrl file) {f : Answer → World → Except Exception α}
    (fin : ∀ thread i w, done (⟨thread,site,i,w,w⟩ :: own) (f i w)) : Guarded Calls done (Process.query site f) own :=
  guardedQuery fun thread i w => ⟨.idle (fun _ => rfl) fun file its => other file its.1,fin thread i w⟩

theorem guardedRead {site : Site} (other : ∀ file, site ≠ .getPresignedUrl file) {f : World → α} (fails : ∀ own error, done own (.error error))
    (finds : ∀ thread i w, done (⟨thread,site,i,w,w⟩ :: own) (.ok (f w))) : Guarded Calls done (read site f) own := by
  refine guardedIdle other fun thread i w => ?_
  split
  · exact fails _ _
  · exact finds thread i w

theorem guardedAsk {β : Type} {site : Site} (other : ∀ file, site ≠ .getPresignedUrl file) {f : Answer → World → Except Exception β}
    {k : β → Op α} (rest : ∀ value e, Guarded Calls anyOutcome (k value) (e :: own)) :
    Guarded Calls anyOutcome (Process.query site f >>= k) own := by
  refine guardedBind (guardedIdle other fun thread i w => ?_)
  split
  · exact rest _ _
  · trivial

/-- A link to a file that one of the reads has shown as clean. -/
theorem guardedUrl (file : FileScanJobData) (looked : ∃ r ∈ own, Looks r ∧ r.after = r.before ∧ statusOf file r.before = some .clean) :
    Guarded Calls anyOutcome (getPresignedUrl file) own :=
  guardedQuery fun _ _ _ => ⟨.served file rfl (fun _ => rfl) looked,trivial⟩

theorem guardedScan (file : FileScanJobData) : Guarded Calls anyOutcome (FileScanService.scan file) [] := by
  refine guardedBind (guardedRead (by simp) (fun _ _ => trivial) fun thread i w => ?_)
  cases found : FileScanService.pendingTarget file w with
  | none => trivial
  | some target =>
    refine guardedAsk (by simp) fun _ downloaded => guardedAsk (by simp) fun infected scanned => ?_
    split
    · refine guardedTransact (fun _ _ _ _ _ marked => ⟨?_,trivial⟩) fun _ _ _ _ _ => ⟨.idle (fun _ => rfl) fun _ its => absurd its.1 (by simp),trivial⟩
      obtain ⟨status,others⟩ := cleanStatus marked
      refine .cleaned file rfl status others ⟨⟨thread,.loadPendingTarget file,i,w,w⟩,?_,trivial,rfl,pendingStatus found⟩
      exact List.mem_cons_of_mem _ (List.mem_cons_of_mem _ List.mem_cons_self)
    · refine guardedThen (guardedTransact (fun _ _ _ _ _ marked => ⟨?_,trivial⟩) fun _ _ _ _ _ =>
        ⟨.idle (fun _ => rfl) fun _ its => absurd its.1 (by simp),trivial⟩) fun _ own => ?_
      · obtain ⟨status,others⟩ := infectedStatus marked
        exact .infected file rfl status others
      · exact guardedThen (guardedElse (guardedIdle (by simp) fun _ _ _ => trivial) fun _ _ => trivial) fun _ own =>
          guardedIdle (by simp) fun _ _ _ => trivial

theorem evidenceFound {evidenceId : String} {evidence : DisputeEvidence} {milestone : Milestone} {engagement : Engagement}
    (found : MilestonesService.withEngagement evidenceId w = some (evidence,milestone,engagement)) :
    w.evidence.get? evidence.id = some evidence := by
  obtain ⟨row,there,rest⟩ := Option.bind_eq_some_iff.mp found
  obtain ⟨milestone',_,rest⟩ := Option.bind_eq_some_iff.mp rest
  obtain ⟨engagement',_,same⟩ := Option.bind_eq_some_iff.mp rest
  cases same
  have key : evidence.id = evidenceId := Table.getKey there
  rwa [key]

theorem guardedDownload (engagementId : String) (milestoneIndex : Nat) (evidenceId : String) (user : DisputeActor) :
    Guarded Calls anyOutcome (MilestonesService.getEvidenceDownloadUrl engagementId milestoneIndex evidenceId user) [] := by
  refine guardedBind (guardedRead (by simp) (fun _ _ => trivial) fun thread i w => ?_)
  cases found : MilestonesService.withEngagement evidenceId w with
  | none => trivial
  | some rows =>
    obtain ⟨evidence,milestone,engagement⟩ := rows
    have there := evidenceFound found
    dsimp only
    split
    · trivial
    cases MilestonesService.checkPartyAccess engagement user with
    | error error => trivial
    | ok _ =>
      show Guarded _ _ (if _ then _ else _) _
      split
      · trivial
      · rename_i clean
        have status : statusOf { kind := .evidence, id := evidence.id } w = some .clean := by simpa [statusOf,there] using clean
        exact guardedThen (guardedUrl _ ⟨⟨thread,.findEvidence,i,w,w⟩,List.mem_cons_self,trivial,rfl,status⟩) fun _ _ => trivial

theorem guardedList (disputeId : String) (actor : DisputeActor) : Guarded Calls anyOutcome (DisputesService.listMessages disputeId actor) [] := by
  refine guardedBind (guardedRead (by simp) (fun _ _ => trivial) fun _ _ w => ?_)
  cases DisputesService.withParties disputeId w with
  | none => trivial
  | some found =>
    obtain ⟨dispute,engagement,appeal⟩ := found
    dsimp only
    cases DisputesService.assertCanAccessMessages dispute engagement appeal actor with
    | error error => trivial
    | ok _ =>
      show Guarded _ _ (read .findMessages _ >>= _) _
      refine guardedBind (guardedRead (by simp) (fun _ _ => trivial) fun thread i w => ?_)
      have looks : ∀ pair ∈ DisputesService.rows disputeId w, pair.1.attachmentScanStatus = some .clean →
          statusOf { kind := .disputeMessage, id := pair.1.id } w = some .clean := by
        intro pair inside clean
        obtain ⟨m,sorted,rfl⟩ := List.mem_map.mp inside
        have there := (Table.findManyGet ((List.perm_insertionSort _ _).mem_iff.mp sorted)).1
        have found : w.messages.get? m.id = some m := there
        simpa [statusOf,found] using clean
      refine guardedFoldKeeps (I := fun own => ⟨thread,.findMessages,i,w,w⟩ ∈ own) (fun messages pair inside own known => ?_) [] List.mem_cons_self
      refine guardedMono (fun _ _ stays _ _ => stays) (guardedRemembers (guardedThen ?_ fun _ _ => trivial) known)
      unfold DisputesService.attachmentUrl
      split
      · rename_i clean
        refine guardedElse (guardedThen (guardedUrl _ ⟨_,known,trivial,rfl,looks pair inside clean.2⟩) fun _ _ => trivial) fun _ _ => trivial
      · trivial

theorem guardedHandler (request : Request) : Guarded Calls anyOutcome (handler request) [] := by
  cases request with
  | scan file => exact guardedThen (guardedScan file) fun _ _ => trivial
  | getEvidenceDownloadUrl engagementId milestoneIndex evidenceId user =>
    exact guardedThen (guardedDownload engagementId milestoneIndex evidenceId user) fun _ _ => trivial
  | listMessages disputeId actor => exact guardedThen (guardedList disputeId actor) fun _ _ => trivial

end Calls

section Runs

variable {c : Snapshot Site Answer World} {own history : List FileEvent} {file : FileScanJobData}

structure Inv (c : Snapshot Site Answer World) : Prop where
  stays : ∀ file, ∀ d ∈ c.history, statusOf file d.before = some .infected ∨ statusOf file d.after = some .infected →
    statusOf file c.world = some .infected
  since : ∀ file, Since (fun e => ¬ Infects file e)
    (fun w w' => statusOf file w ≠ some .infected → statusOf file w' ≠ some .infected) c
  never : AllMeet (fun earlier e => ∀ file, WasInfected file earlier e → statusOf file e.after ≠ some .clean ∧ ¬ Serves file e) c.history

/-- A file that the thread has read as pending or clean, and that no scan has found infected since, is not infected. -/
theorem notInfected (inv : Inv c) {e : FileEvent} (acts : Cleans file e ∨ Serves file e) (untouched : Untouched c.history e)
    (mine : ∀ r ∈ own, r ∈ c.history ∧ r.thread = e.thread) {status : FileScanStatus} (differs : status ≠ .infected)
    (looked : ∃ r ∈ own, Looks r ∧ r.after = r.before ∧ statusOf file r.before = some status) :
    statusOf file c.world ≠ some .infected := by
  obtain ⟨r,inside,looks,same,shown⟩ := looked
  obtain ⟨there,thread⟩ := mine r inside
  obtain ⟨recent,older,split⟩ := List.append_of_mem there
  refine inv.since file recent r older split (untouched file acts recent r older split thread looks) ?_
  rw [same,shown]
  simpa using differs

/-- An event after which a file is infected only where it was before or where a scan has found it so. -/
theorem invQuiet (inv : Inv c) {thread : Nat} {site : Site} {i : Answer} {w : World}
    (kept : ∀ file, statusOf file c.world = some .infected → statusOf file w = some .infected)
    (found : ∀ file, statusOf file w = some .infected → statusOf file c.world = some .infected ∨ Infects file (c.event thread site i w))
    (never : ∀ file, WasInfected file c.history (c.event thread site i w) →
      statusOf file w ≠ some .clean ∧ ¬ Serves file (c.event thread site i w)) : Inv (c.record thread site i w) := by
  refine ⟨fun file d inside shown => ?_,fun file => ?_,never,inv.never⟩
  · rcases List.mem_cons.mp inside with rfl | before
    · exact shown.elim (kept file) id
    · exact kept file (inv.stays file d before shown)
  · refine sinceRecord (fun _ => id) (fun first second differs => second (first differs)) (fun quiet differs here => ?_) (inv.since file)
    exact (found file here).elim differs quiet

theorem wasInfected (inv : Inv c) {e : FileEvent} (same : e.before = c.world) (was : WasInfected file c.history e) :
    statusOf file c.world = some .infected := by
  rcases was with now | ⟨d,inside,shown⟩
  · exact same ▸ now
  · exact inv.stays file d inside shown

theorem invRecord (inv : Inv c) {thread : Nat} {site : Site} {i : Answer} {w : World}
    (calls : Calls (c.history.filter fun e => e.thread = thread) (c.event thread site i w))
    (untouched : Untouched c.history (c.event thread site i w)) : Inv (c.record thread site i w) := by
  have mine : ∀ r ∈ c.history.filter fun e => e.thread = thread, r ∈ c.history ∧ r.thread = thread := fun r inside =>
    ⟨(List.mem_filter.mp inside).1,of_decide_eq_true (List.mem_filter.mp inside).2⟩
  cases calls with
  | idle kept unserved =>
    refine invQuiet inv (fun file here => (kept file).trans here) (fun file here => Or.inl ((kept file).symm.trans here)) fun file was => ?_
    have here := wasInfected inv rfl was
    exact ⟨fun clean => absurd (((kept file).trans here).symm.trans clean) (by simp),unserved file⟩
  | served served site' kept looked =>
    refine invQuiet inv (fun file here => (kept file).trans here) (fun file here => Or.inl ((kept file).symm.trans here)) fun file was => ?_
    have here := wasInfected inv rfl was
    refine ⟨fun clean => absurd (((kept file).trans here).symm.trans clean) (by simp),fun serves => ?_⟩
    cases site'.symm.trans serves.1
    exact notInfected inv (Or.inr serves) untouched mine (by decide) looked here
  | cleaned cleaned site' status others looked =>
    have healthy := notInfected inv (Or.inl ⟨site',status⟩) untouched mine (by decide) looked
    refine invQuiet inv (fun file here => ?_) (fun file here => Or.inl ?_) fun file was => ?_
    · by_cases same : file = cleaned
      · exact absurd (same ▸ here) healthy
      · exact (others file same).trans here
    · by_cases same : file = cleaned
      · cases status.symm.trans (same ▸ here)
      · exact (others file same).symm.trans here
    · have here := wasInfected inv rfl was
      have differs : file ≠ cleaned := fun same => healthy (same ▸ here)
      refine ⟨fun clean => absurd (((others file differs).trans here).symm.trans clean) (by simp),fun serves => ?_⟩
      cases site'.symm.trans serves.1
  | infected infected site' status others =>
    refine invQuiet inv (fun file here => ?_) (fun file here => ?_) fun file was => ⟨fun clean => ?_,fun serves => ?_⟩
    · by_cases same : file = infected
      · exact same ▸ status
      · exact (others file same).trans here
    · by_cases same : file = infected
      · subst same
        exact Or.inr ⟨site',status⟩
      · exact Or.inl ((others file same).symm.trans here)
    · have here := wasInfected inv rfl was
      by_cases same : file = infected
      · cases status.symm.trans (same ▸ clean)
      · cases ((others file same).trans here).symm.trans clean
    · cases site'.symm.trans serves.1

theorem guardedFiles (w : World) (moves : List FileMove) (untouched : AllMeet Untouched (service.run (Pool.initial w) moves).history) :
    GuardedEnds (fun _ => Calls) (fun _ => anyOutcome) Inv (service.run (Pool.initial w) moves) := by
  refine guardedRun (P := fun _ => Untouched) (fun request c thread site i w' inv calls untouched => invRecord inv calls untouched)
    (fun elapsed c inv => ?_) guardedHandler (guardedInitial ⟨fun _ _ inside => absurd inside List.not_mem_nil,fun _ => sinceInitial,trivial⟩)
    moves (meetsMono (fun _ _ its _ _ => its) untouched)
  exact ⟨inv.stays,inv.since,inv.never⟩

end Runs

theorem neverServedIff (w : World) (moves : List FileMove) :
    NeverServed (service.run (Pool.initial w) moves) ↔ AllMeet Untouched (service.run (Pool.initial w) moves).history := by
  constructor
  · refine meetsMono fun earlier e never file acts recent r older same _ _ d inside infects => ?_
    have there : d ∈ earlier := same ▸ List.mem_append_left _ inside
    obtain ⟨dirty,unserved⟩ := never file (Or.inr ⟨d,there,Or.inr infects.2⟩)
    exact acts.elim (fun cleans => dirty cleans.2) unserved
  · exact fun untouched => (guardedFiles w moves untouched).holds.never

def uploaded : World where
  evidence := .single { id := "e", milestoneId := "m", uploadedBy := "u", fileName := "f", mimeType := "t", s3Path := "k" }
  db :=
    { engagements := .single { id := "g", companyAddress := "C", recruiterAddress := "R", arbiterAddress := "A", totalAmount := 100 }
      milestones := .single { id := "m", engagementId := "g", milestoneIndex := 0, name := "n", kind := .placement, paymentPercent := 100 } }

-- two scans have read the file pending, and the one that finds nothing writes last
def scannedTwice : List FileMove :=
  [.start (.scan { kind := .evidence, id := "e" }),.start (.scan { kind := .evidence, id := "e" }),.answer 0 {},.answer 1 {},.answer 0 {},
    .answer 1 {},.answer 0 { number := 1 },.answer 1 {},.answer 0 {},.answer 1 {},
    .start (.getEvidenceDownloadUrl "g" 0 "e" { id := "r", stellarAddress := some "R" }),.answer 2 {},.answer 2 { text := "url" }]

/-- A file that a scan has found infected becomes clean, and a link to it is handed out. -/
theorem infectedServed :
    (service.run (Pool.initial uploaded) scannedTwice).threads[2]? = some ⟨.getEvidenceDownloadUrl "g" 0 "e" { id := "r", stellarAddress := some "R" },
      .ret (.evidence { id := "e", fileName := "f", mimeType := "t", url := "url" })⟩ ∧
    ¬ NeverServed (service.run (Pool.initial uploaded) scannedTwice) := by
  refine ⟨endedEq (by decide +kernel),fun never => ?_⟩
  obtain ⟨e,latest,serves⟩ : ∃ e, (service.run (Pool.initial uploaded) scannedTwice).history =
      e :: (service.run (Pool.initial uploaded) scannedTwice).history.drop 1 ∧ Serves { kind := .evidence, id := "e" } e := ⟨_,rfl,rfl,rfl⟩
  have infected : ∃ d ∈ (service.run (Pool.initial uploaded) scannedTwice).history.drop 1,
      statusOf { kind := .evidence, id := "e" } d.after = some .infected := by decide +kernel
  obtain ⟨d,inside,shown⟩ := infected
  exact (meetsIff.mp never _ e (latest ▸ List.suffix_refl _) _ (Or.inr ⟨d,inside,Or.inr shown⟩)).2 serves

end HireSettle.Escrow.FileScans.QuarantinedFiles
