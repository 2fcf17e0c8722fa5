import HireSettle.Users.Erasure
import HireSettle.Workflow.Turns

/-! The daily job that anonymises the accounts that are due. It asks for a batch of them,
the longest closed first, and asks again as long as a batch is full. The accounts that
cannot be wiped stay in front. -/
namespace HireSettle.Users.PiiAnonymizationSchedulerService
open Workflow

variable (config : Config) (failing lost : String → Bool)

-- the accounts that cannot be wiped, and the avatars that cannot be deleted
def answers : Site → Answer
  | .anonymize userId => { fails := failing userId }
  | .deleteObject key => { fails := lost key }
  | _ => {}

def Anonymized (users : Table UserRow) (userId : String) : Prop := ∃ row, users.get? userId = some row ∧ row.anonymizedAt.isSome

def dueCutoff (w : World) : Int := config.setDate w.clock (-config.piiAnonymizationWindowDays)

/-- The job returns, and has wiped every account that was due and can be wiped, once each. -/
def ReachesEveryone (w : World) : Prop := ∃ fuel totalProcessed w',
  (anonymizeDueAccounts config fuel).interpret (answers failing lost) w = (.ok (some totalProcessed),w') ∧
    ∀ row ∈ w.users.findMany (due (dueCutoff config w)), failing row.id = false →
      ((anonymizeDueAccounts config fuel).sites (answers failing lost) w).count (.anonymize row.id) = 1 ∧ Anonymized w'.users row.id

section Batches

variable {config failing lost} {w w' w'' : World}

/-- How a process ends when it runs alone, and how often it has tried to wipe each account. -/
def Performs (failing lost : String → Bool) (p : Op α) (w : World) (out : Except Exception α) (w' : World) (times : String → Nat) : Prop :=
  p.interpret (answers failing lost) w = (out,w') ∧
    ∀ id, (p.sites (answers failing lost) w).count (.anonymize id) = times id

theorem performsTimes {p : Op α} {out : Except Exception α} {times times' : String → Nat} (same : ∀ id, times id = times' id)
    (performs : Performs failing lost p w out w' times) : Performs failing lost p w out w' times' :=
  ⟨performs.1,fun id => (performs.2 id).trans (same id)⟩

theorem performsBind {p : Op α} {k : α → Op β} {value : α} {out : Except Exception β} {times times' : String → Nat}
    (first : Performs failing lost p w (.ok value) w' times) (rest : Performs failing lost (k value) w' out w'' times') :
    Performs failing lost (p >>= k) w out w'' (fun id => times id + times' id) := by
  refine ⟨?_,fun id => ?_⟩
  · rw [interpretBind,first.1]
    exact rest.1
  · rw [sitesBind,first.1,List.count_append,first.2 id]
    exact congrArg _ (rest.2 id)

theorem performsThrow {p : Op α} {k : α → Op β} {error : Exception} {times : String → Nat}
    (first : Performs failing lost p w (.error error) w' times) : Performs failing lost (p >>= k) w (.error error) w' times := by
  refine ⟨?_,fun id => ?_⟩
  · rw [interpretBind,first.1]
  · rw [sitesBind,first.1,List.count_append,first.2 id]
    rfl

theorem performsCaught {p : Op α} {h : Exception → Op α} {error : Exception} {value : α} {times : String → Nat}
    (first : Performs failing lost p w (.error error) w' times) (caught : h error = .ret value) :
    Performs failing lost (p.handle h) w (.ok value) w' times := by
  refine ⟨?_,fun id => ?_⟩
  · simp only [interpretHandle,first.1,caught,interpretRet]
  · rw [sitesHandle,first.1,List.count_append,first.2 id]
    simp only [caught]
    rfl

theorem performsHandle {p : Op α} {h : Exception → Op α} {value : α} {times : String → Nat}
    (first : Performs failing lost p w (.ok value) w' times) : Performs failing lost (p.handle h) w (.ok value) w' times := by
  refine ⟨?_,fun id => ?_⟩
  · rw [interpretHandle,first.1]
  · rw [sitesHandle,first.1,List.count_append,first.2 id]
    rfl

theorem performsRet (value : α) : Performs failing lost (.ret value) w (.ok value) w fun _ => 0 := ⟨rfl,fun _ => rfl⟩

theorem performsQuery {site : Site} {f : Answer → World → Except Exception α} (other : ∀ id, site ≠ .anonymize id) :
    Performs failing lost (Process.query site f) w (f (answers failing lost site) w) w fun _ => 0 :=
  ⟨interpretQuery _ _,fun id => by rw [sitesQuery,List.count_singleton,beq_false_of_ne (other id)]; rfl⟩

theorem avatarPerforms (avatarUrl : String) : Performs failing lost (deleteAvatar config avatarUrl) w (.ok ()) w fun _ => 0 := by
  unfold deleteAvatar
  split
  · exact performsRet ()
  · rename_i key _
    have asks := @performsQuery failing lost w _ (.deleteObject key)
      (fun answer _ => if answer.fails then .error .database else .ok ()) nofun
    cases gone : lost key with
    | false =>
      simp only [answers,gone] at asks
      exact performsHandle asks
    | true =>
      simp only [answers,gone] at asks
      exact performsCaught asks rfl

theorem wipeRuns {userId : String} {row : UserRow} (found : w.users.get? userId = some row) :
    ∃ w', wipe userId w = .ok ((),w') ∧ w'.users = w.users.update userId (anonymizedRow w.clock) (anonymizedKey w.clock) ∧ w'.clock = w.clock := by
  have modified : w.users.modify userId (anonymizedRow w.clock) (anonymizedKey w.clock) =
      some (anonymizedRow w.clock row,w.users.update userId (anonymizedRow w.clock) (anonymizedKey w.clock)) := by
    unfold Table.modify
    rw [found]
    rfl
  unfold wipe
  rw [modified]
  exact ⟨_,rfl,rfl,rfl⟩

theorem wipePerforms (userId : String) {w' : World} (wipes : wipe userId w = .ok ((),w')) :
    Performs failing lost (Process.transact (.anonymize userId) fun answer w => if answer.fails then .error .database else wipe userId w) w
      (if failing userId then .error .database else .ok ()) (if failing userId then w else w') fun id => if id = userId then 1 else 0 := by
  refine ⟨?_,fun id => ?_⟩
  · rw [interpretTransact]
    cases throws : failing userId with
    | false => simp [Process.applied,answers,throws,wipes,Except.map]
    | true => simp [Process.applied,answers,throws,Except.map]
  · rw [sitesTransact,List.count_singleton]
    by_cases same : id = userId
    · simp [same]
    · simp [same,Ne.symm same]

def processed (failing : String → Bool) (at' : Nat) (users : Table UserRow) (user : UserRow) : Table UserRow :=
  if failing user.id then users else users.update user.id (anonymizedRow at') (anonymizedKey at')

theorem eachPerforms {user row : UserRow} (found : w.users.get? user.id = some row) (totalProcessed : Nat) :
    ∃ total w', Performs failing lost (anonymizeEach config totalProcessed user) w (.ok total) w' (fun id => if id = user.id then 1 else 0) ∧
      w'.clock = w.clock ∧ w'.users = processed failing w.clock w.users user := by
  obtain ⟨w',wipes,users,clock⟩ := wipeRuns found
  have avatar : Performs failing lost ((present user.avatarUrl).elim (.ret ()) (deleteAvatar config)) w (.ok ()) w fun _ => 0 := by
    cases present user.avatarUrl with
    | none => exact performsRet ()
    | some avatarUrl => exact avatarPerforms avatarUrl
  have runs : Performs failing lost (anonymizeUser config user.id user.avatarUrl) w
      (if failing user.id then .error .database else .ok ()) (if failing user.id then w else w') fun id => if id = user.id then 1 else 0 := by
    refine performsTimes ?_ (performsBind avatar (wipePerforms user.id wipes))
    exact fun id => Nat.zero_add _
  cases throws : failing user.id with
  | false =>
    simp only [throws] at runs
    exact ⟨totalProcessed + 1,w',performsHandle (performsTimes (fun id => Nat.add_zero _) (performsBind runs (performsRet (totalProcessed + 1)))),clock,by rw [processed,throws]; exact users⟩
  | true =>
    simp only [throws] at runs
    exact ⟨totalProcessed,w,performsCaught (performsThrow runs) rfl,rfl,by rw [processed,throws]; rfl⟩

section Tables

variable {users : Table UserRow} {at' : Nat} {cutoff : Int}

theorem processedGet (user : UserRow) (id : String) :
    (processed failing at' users user).get? id =
      (users.get? id).map fun row => if failing user.id = false ∧ id = user.id then anonymizedRow at' row else row := by
  unfold processed
  cases failing user.id with
  | false =>
    rw [if_neg (by simp),Table.getUpdate]
    by_cases same : id = user.id <;> simp [same]
  | true => simp

theorem dueUpdated (userId : String) (rows : List UserRow) :
    (rows.map fun row => if decide (Keyed.key row = userId) = true then anonymizedRow at' row else row).filter (due cutoff) =
      (rows.filter (due cutoff)).filter fun row => row.id ≠ userId := by
  induction rows with
  | nil => rfl
  | cons row rows ih =>
    rw [List.map_cons,List.filter_cons (x := row)]
    by_cases same : row.id = userId
    · have changed : (if decide (Keyed.key row = userId) = true then anonymizedRow at' row else row) = anonymizedRow at' row :=
        if_pos (decide_eq_true same)
      rw [changed,List.filter_cons_of_neg (by simp [due,anonymizedRow]),ih]
      cases due cutoff row <;> simp [same]
    · have kept : (if decide (Keyed.key row = userId) = true then anonymizedRow at' row else row) = row :=
        if_neg fun here => same (of_decide_eq_true here)
      rw [kept,List.filter_cons,ih]
      cases due cutoff row <;> simp [same]

theorem processedDue (user : UserRow) : (processed failing at' users user).findMany (due cutoff) =
    (users.findMany (due cutoff)).filter fun row => failing row.id || row.id ≠ user.id := by
  unfold processed
  cases throws : failing user.id with
  | false =>
    rw [if_neg (by simp)]
    refine (dueUpdated user.id users.rows).trans (List.filter_congr fun row _ => ?_)
    by_cases same : row.id = user.id <;> simp [same,throws]
  | true =>
    rw [if_pos rfl,List.filter_eq_self.mpr]
    intro row _
    by_cases same : row.id = user.id <;> simp [same,throws]

theorem batchDue (batch : List UserRow) : (batch.foldl (processed failing at') users).findMany (due cutoff) =
    (users.findMany (due cutoff)).filter fun row => failing row.id || row.id ∉ batch.map (·.id) := by
  induction batch generalizing users with
  | nil => simp
  | cons user batch ih =>
    rw [List.foldl_cons,ih,processedDue,List.filter_filter]
    refine List.filter_congr fun row _ => ?_
    by_cases same : row.id = user.id <;> cases failing row.id <;> simp [same]

theorem processedKeeps (user : UserRow) {id : String} (done : Anonymized users id) : Anonymized (processed failing at' users user) id := by
  obtain ⟨row,found,marked⟩ := done
  refine ⟨_,by rw [processedGet,found]; rfl,?_⟩
  split
  · rfl
  · exact marked

theorem batchKeeps (batch : List UserRow) {id : String} (done : Anonymized users id) :
    Anonymized (batch.foldl (processed failing at') users) id := by
  induction batch generalizing users with
  | nil => exact done
  | cons user batch ih => exact ih (processedKeeps user done)

theorem batchDone {batch : List UserRow} {user : UserRow} (inside : user ∈ batch) (works : failing user.id = false)
    (there : (users.get? user.id).isSome) : Anonymized (batch.foldl (processed failing at') users) user.id := by
  induction batch generalizing users with
  | nil => exact absurd inside List.not_mem_nil
  | cons head batch ih =>
    have found := fun id => @processedGet failing users at' head id
    rcases List.mem_cons.mp inside with rfl | later
    · obtain ⟨row,here⟩ := Option.isSome_iff_exists.mp there
      refine batchKeeps batch ⟨_,by rw [found,here]; rfl,?_⟩
      simp only [works,and_self,if_true]
      rfl
    · exact ih later (by rw [found,Option.isSome_map]; exact there)

end Tables

theorem batchPerforms (batch : List UserRow) {totalProcessed : Nat} (there : ∀ user ∈ batch, (w.users.get? user.id).isSome) :
    ∃ total w', Performs failing lost (.foldEach (anonymizeEach config) totalProcessed batch) w (.ok total) w'
        (fun id => (batch.map (·.id)).count id) ∧
      w'.clock = w.clock ∧ w'.users = batch.foldl (processed failing w.clock) w.users := by
  induction batch generalizing w totalProcessed with
  | nil => exact ⟨totalProcessed,w,performsRet _,rfl,rfl⟩
  | cons user batch ih =>
    obtain ⟨row,found⟩ := Option.isSome_iff_exists.mp (there user List.mem_cons_self)
    obtain ⟨total,w',first,clock,users⟩ := @eachPerforms config failing lost w user row found totalProcessed
    obtain ⟨total',w'',rest,clock',users'⟩ := @ih w' total fun other later => by
      rw [users,processedGet,Option.isSome_map]
      exact there other (List.mem_cons_of_mem _ later)
    refine ⟨total',w'',performsTimes (fun id => ?_) (performsBind first rest),clock'.trans clock,?_⟩
    · rw [List.map_cons,List.count_cons,Nat.add_comm]
      by_cases same : id = user.id
      · simp [same]
      · simp [same,Ne.symm same]
    · rw [users',users,clock]
      rfl

section Loop

variable {cutoff : Int}

/-- What a number of batches has done to the accounts that were due. -/
structure Reaches (failing : String → Bool) (cutoff : Int) (users users' : Table UserRow) (times : String → Nat) : Prop where
  once : ∀ row ∈ users.findMany (due cutoff), failing row.id = false → times row.id = 1 ∧ Anonymized users' row.id
  others : ∀ id, id ∉ (users.findMany (due cutoff)).map (·.id) → times id = 0
  keeps : ∀ id, Anonymized users id → Anonymized users' id

def stuck (failing : String → Bool) (cutoff : Int) (users : Table UserRow) : Nat := (users.findMany (due cutoff)).countP fun row => failing row.id

def batchOf (cutoff : Int) (users : Table UserRow) : List UserRow := ((users.findMany (due cutoff)).insertionSort earlier).take BATCH_SIZE

theorem batchInside {users : Table UserRow} {user : UserRow} (inside : user ∈ batchOf cutoff users) : user ∈ users.findMany (due cutoff) :=
  (List.mem_insertionSort earlier).mp (List.mem_of_mem_take inside)

theorem dueIds (users : Table UserRow) : ((users.findMany (due cutoff)).map (·.id)).Nodup :=
  users.unique.sublist (List.filter_sublist.map _)

theorem batchIds (users : Table UserRow) : ((batchOf cutoff users).map (·.id)).Nodup :=
  ((((List.perm_insertionSort earlier _).map _).nodup_iff).mpr (dueIds users)).sublist ((List.take_sublist _ _).map _)

theorem batchLength (users : Table UserRow) : (batchOf cutoff users).length = min BATCH_SIZE (users.findMany (due cutoff)).length := by
  simp [batchOf]

theorem batchStuck (users : Table UserRow) : (batchOf cutoff users).countP (fun row => failing row.id) ≤ stuck failing cutoff users :=
  ((List.take_sublist _ _).countP_le).trans (le_of_eq ((List.perm_insertionSort earlier _).countP_eq _))

theorem batchHelps {users : Table UserRow} (full : (batchOf cutoff users).length = BATCH_SIZE)
    (few : stuck failing cutoff users < BATCH_SIZE) : ∃ user ∈ batchOf cutoff users, failing user.id = false := by
  by_contra none
  have all : (batchOf cutoff users).countP (fun row => failing row.id) = (batchOf cutoff users).length :=
    List.countP_eq_length.mpr fun user inside => by
      by_contra works
      exact none ⟨user,inside,by simpa using works⟩
  have bound := @batchStuck failing cutoff users
  omega

def pending (failing : String → Bool) (cutoff : Int) (users : Table UserRow) : Nat :=
  (users.findMany (due cutoff)).countP fun row => !failing row.id

variable {users : Table UserRow} {at' : Nat}

abbrev afterBatch (failing : String → Bool) (at' : Nat) (cutoff : Int) (users : Table UserRow) : Table UserRow :=
  (batchOf cutoff users).foldl (processed failing at') users

theorem stuckStay : stuck failing cutoff (afterBatch failing at' cutoff users) = stuck failing cutoff users := by
  rw [stuck,stuck,batchDue,List.countP_filter]
  refine List.countP_congr fun row _ => ?_
  cases failing row.id <;> simp

theorem pendingLess {user : UserRow} (inside : user ∈ batchOf cutoff users) (works : failing user.id = false) :
    pending failing cutoff (afterBatch failing at' cutoff users) < pending failing cutoff users := by
  have split := List.countP_eq_countP_filter_add (users.findMany (due cutoff)) (fun row => !failing row.id)
    (fun row => failing row.id || row.id ∉ (batchOf cutoff users).map (·.id))
  have here : 0 < ((users.findMany (due cutoff)).filter
      fun row => !(failing row.id || row.id ∉ (batchOf cutoff users).map (·.id))).countP fun row => !failing row.id :=
    List.countP_pos_iff.mpr ⟨user,List.mem_filter.mpr ⟨batchInside inside,by simpa [works] using ⟨user,inside,rfl⟩⟩,by simp [works]⟩
  rw [pending,pending,batchDue]
  omega

theorem batchAll (short : (batchOf cutoff users).length ≠ BATCH_SIZE) {user : UserRow} (inside : user ∈ users.findMany (due cutoff)) :
    user ∈ batchOf cutoff users := by
  have few : ((users.findMany (due cutoff)).insertionSort earlier).length ≤ BATCH_SIZE := by
    have length := @batchLength cutoff users
    rw [List.length_insertionSort]
    omega
  rw [batchOf,List.take_of_length_le few]
  exact (List.mem_insertionSort earlier).mpr inside

theorem batchOnce {user : UserRow} (inside : user ∈ batchOf cutoff users) : ((batchOf cutoff users).map (·.id)).count user.id = 1 :=
  List.count_eq_one_of_mem (batchIds users) (List.mem_map.mpr ⟨user,inside,rfl⟩)

theorem batchThere {user : UserRow} (inside : user ∈ batchOf cutoff users) : (users.get? user.id).isSome :=
  Option.isSome_iff_exists.mpr ⟨user,(Table.findManyGet (batchInside inside)).1⟩

/-- One pass through the loop, before what comes after it. -/
theorem roundPerforms (w : World) (totalProcessed : Nat) : ∃ total w', w'.clock = w.clock ∧
    w'.users = afterBatch failing w.clock cutoff w.users ∧ ∀ fuel out w'' times,
      Performs failing lost (if (batchOf cutoff w.users).length = BATCH_SIZE then anonymizeBatches config cutoff fuel total
        else .ret (some total)) w' out w'' times →
      Performs failing lost (anonymizeBatches config cutoff (fuel + 1) totalProcessed) w out w''
        fun id => ((batchOf cutoff w.users).map (·.id)).count id + times id := by
  obtain ⟨total,w',performs,clock,users⟩ :=
    @batchPerforms config failing lost w (batchOf cutoff w.users) totalProcessed fun user => batchThere
  have asks : Performs failing lost (findDue cutoff) w (.ok (batchOf cutoff w.users)) w fun _ => 0 := performsQuery nofun
  exact ⟨total,w',clock,users,fun fuel out w'' times rest =>
    performsTimes (fun id => Nat.zero_add _) (performsBind asks (performsBind performs rest))⟩

theorem lastReaches (short : (batchOf cutoff users).length ≠ BATCH_SIZE) : Reaches failing cutoff users
    (afterBatch failing at' cutoff users) fun id => ((batchOf cutoff users).map (·.id)).count id + 0 where
  once row inside works :=
    have taken := batchAll short inside
    ⟨batchOnce taken,batchDone taken works (batchThere taken)⟩
  others id absent := List.count_eq_zero.mpr fun taken => by
    obtain ⟨user,inside,rfl⟩ := List.mem_map.mp taken
    exact absent (List.mem_map.mpr ⟨user,batchInside inside,rfl⟩)
  keeps _ := batchKeeps _

theorem batchTaken {row : UserRow} (inside : row ∈ users.findMany (due cutoff)) :
    row.id ∈ (batchOf cutoff users).map (·.id) ↔ row ∈ batchOf cutoff users := by
  constructor
  · intro there
    obtain ⟨other,chosen,same⟩ := List.mem_map.mp there
    have found := (Table.findManyGet (batchInside chosen)).1
    have found' := (Table.findManyGet inside).1
    cases (show users.get? row.id = some other from same ▸ found).symm.trans found'
    exact chosen
  · exact fun taken => List.mem_map.mpr ⟨row,taken,rfl⟩

theorem leftDue {row : UserRow} : row ∈ (afterBatch failing at' cutoff users).findMany (due cutoff) ↔
    row ∈ users.findMany (due cutoff) ∧ (failing row.id = true ∨ row.id ∉ (batchOf cutoff users).map (·.id)) := by
  rw [batchDue,List.mem_filter,Bool.or_eq_true,decide_eq_true_eq]

theorem roundReaches {users'' : Table UserRow} {times : String → Nat}
    (rest : Reaches failing cutoff (afterBatch failing at' cutoff users) users'' times) :
    Reaches failing cutoff users users'' fun id => ((batchOf cutoff users).map (·.id)).count id + times id where
  once row inside works := by
    by_cases taken : row.id ∈ (batchOf cutoff users).map (·.id)
    · have chosen := (batchTaken inside).mp taken
      have gone : row.id ∉ ((afterBatch failing at' cutoff users).findMany (due cutoff)).map (·.id) := by
        intro there
        obtain ⟨other,left,same⟩ := List.mem_map.mp there
        obtain ⟨_,fails | out⟩ := leftDue.mp left
        · cases (same ▸ works).symm.trans fails
        · exact out (same ▸ taken)
      exact ⟨by simp only [batchOnce chosen,rest.others _ gone],rest.keeps _ (batchDone chosen works (batchThere chosen))⟩
    · obtain ⟨single,done⟩ := rest.once row (leftDue.mpr ⟨inside,Or.inr taken⟩) works
      exact ⟨by simp only [List.count_eq_zero.mpr taken,single],done⟩
  others id absent := by
    have untaken : id ∉ (batchOf cutoff users).map (·.id) := fun taken => by
      obtain ⟨user,inside,rfl⟩ := List.mem_map.mp taken
      exact absent (List.mem_map.mpr ⟨user,batchInside inside,rfl⟩)
    have gone : id ∉ ((afterBatch failing at' cutoff users).findMany (due cutoff)).map (·.id) := fun there => by
      obtain ⟨other,left,rfl⟩ := List.mem_map.mp there
      exact absent (List.mem_map.mpr ⟨other,(leftDue.mp left).1,rfl⟩)
    simp only [List.count_eq_zero.mpr untaken,rest.others id gone]
  keeps id done := rest.keeps id (batchKeeps _ done)

theorem batchesReturn (few : stuck failing cutoff w.users < BATCH_SIZE) (totalProcessed : Nat) :
    ∃ fuel total w' times, Performs failing lost (anonymizeBatches config cutoff fuel totalProcessed) w (.ok (some total)) w' times ∧
      Reaches failing cutoff w.users w'.users times := by
  induction left : pending failing cutoff w.users using Nat.strong_induction_on generalizing w totalProcessed with
  | _ n ih =>
    subst left
    obtain ⟨total,w',_,users,round⟩ := @roundPerforms config failing lost cutoff w totalProcessed
    by_cases full : (batchOf cutoff w.users).length = BATCH_SIZE
    · obtain ⟨user,inside,works⟩ := batchHelps full few
      have less : pending failing cutoff w'.users < pending failing cutoff w.users := by
        rw [users]
        exact pendingLess inside works
      obtain ⟨fuel,total',w'',times,performs,reaches⟩ := ih _ less (by rw [users,stuckStay]; exact few) total rfl
      rw [users] at reaches
      exact ⟨fuel + 1,total',w'',_,round fuel _ w'' times (by rwa [if_pos full]),roundReaches reaches⟩
    · refine ⟨1,total,w',_,round 0 _ w' (fun _ => 0) (by rw [if_neg full]; exact performsRet _),?_⟩
      rw [users]
      exact lastReaches full

theorem batchesGoOn (many : BATCH_SIZE ≤ stuck failing cutoff w.users) (fuel totalProcessed : Nat) :
    ∃ w' times, Performs failing lost (anonymizeBatches config cutoff fuel totalProcessed) w (.ok none) w' times := by
  induction fuel generalizing w totalProcessed with
  | zero => exact ⟨w,_,performsRet none⟩
  | succ fuel ih =>
    obtain ⟨total,w',_,users,round⟩ := @roundPerforms config failing lost cutoff w totalProcessed
    have full : (batchOf cutoff w.users).length = BATCH_SIZE := by
      have enough : stuck failing cutoff w.users ≤ (w.users.findMany (due cutoff)).length := List.countP_le_length
      have length := @batchLength cutoff w.users
      omega
    obtain ⟨w'',times,performs⟩ := @ih w' (by rw [users,stuckStay]; exact many) total
    exact ⟨w'',_,round fuel _ w'' times (by rwa [if_pos full])⟩

end Loop

end Batches

theorem stuckForever {w : World} (many : BATCH_SIZE ≤ stuck failing (dueCutoff config w) w.users) :
    ¬ ReachesEveryone config failing lost w := by
  intro ⟨fuel,total,w',returned,_⟩
  have asks : Performs failing lost (.query .now fun _ w => .ok w.clock) w (.ok w.clock) w fun _ => 0 := performsQuery nofun
  obtain ⟨w'',times,performs⟩ := @batchesGoOn config failing lost w (dueCutoff config w) many fuel 0
  have endless := (performsBind asks (k := fun now => anonymizeBatches config
    (config.setDate now (-config.piiAnonymizationWindowDays)) fuel 0) performs).1
  cases returned.symm.trans endless

theorem reachesUnlessStuck (w : World) :
    ReachesEveryone config failing lost w ↔ stuck failing (dueCutoff config w) w.users < BATCH_SIZE := by
  constructor
  · intro reaches
    by_contra many
    exact stuckForever config failing lost (Nat.le_of_not_lt many) reaches
  · intro few
    have asks : Performs failing lost (.query .now fun _ w => .ok w.clock) w (.ok w.clock) w fun _ => 0 := performsQuery nofun
    obtain ⟨fuel,total,w',times,performs,reaches⟩ := @batchesReturn config failing lost w _ few 0
    have whole := performsBind asks (k := fun now => anonymizeBatches config
      (config.setDate now (-config.piiAnonymizationWindowDays)) fuel 0) performs
    refine ⟨fuel,total,w',whole.1,fun row inside works => ?_⟩
    obtain ⟨once,done⟩ := reaches.once row inside works
    exact ⟨(whole.2 row.id).trans ((Nat.zero_add _).trans once),done⟩

-- as many accounts as fill a batch, all of which closed at once
def crowd : Table UserRow where
  rows := (List.range BATCH_SIZE).map fun n => { id := String.ofList (List.replicate n 'a'), deletedAt := some 0 }
  unique := by
    rw [List.map_map]
    refine List.nodup_range.map_on fun n _ m _ same => ?_
    have lengths : (String.ofList (List.replicate n 'a')).length = (String.ofList (List.replicate m 'a')).length :=
      congrArg String.length same
    simpa using lengths

def plainConfig : Config where
  verifyPassword _ _ := false
  verifyWalletSignature _ _ _ := false
  parseUrl _ := none
  setDate at' days := at' + days * 86400000

/-- A hundred accounts that cannot be wiped fill every batch. -/
theorem anonymizationGoesOn :
    ¬ ReachesEveryone plainConfig (fun _ => true) (fun _ => false) { users := crowd, clock := 31 * 86400000 } := by
  refine stuckForever _ _ _ ?_
  have all : ∀ row ∈ crowd.rows, due (dueCutoff plainConfig { users := crowd, clock := 31 * 86400000 }) row = true := by
    intro row inside
    obtain ⟨n,_,rfl⟩ := List.mem_map.mp inside
    rfl
  rw [stuck,Table.findMany,List.filter_eq_self.mpr all,List.countP_true,crowd,List.length_map,List.length_range]

end HireSettle.Users.PiiAnonymizationSchedulerService
