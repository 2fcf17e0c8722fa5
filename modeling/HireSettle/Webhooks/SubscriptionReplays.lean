import HireSettle.Webhooks.WebhookProcessor
import HireSettle.Workflow.Table

/-! Replays of the delivery log of a subscription. The log is that of all the subscriptions of
a company, and of the one webhook that a company had before there were any. -/
namespace HireSettle.Webhooks.SubscriptionReplays
open Workflow

/-- A subscription, whose address has been validated. -/
structure WebhookSubscription where
  id : String
  companyId : String
  url : String
  eventTypes : List String := []
  https : url.startsWith "https://" = true

instance : Keyed WebhookSubscription String := ⟨WebhookSubscription.id⟩

structure LoggedDelivery extends WebhookDelivery where
  id : String
  resendCount : Nat := 0
  lastResendAt : Option Nat := none
  createdAt : Nat
  deriving DecidableEq, Repr

instance : Keyed LoggedDelivery String := ⟨LoggedDelivery.id⟩

structure ReplayWorld where
  subscriptions : Table WebhookSubscription
  deliveries : Table LoggedDelivery
  queue : List WebhookJobData := []
  clock : Nat

inductive ReplaySite where
  | findSubscription
  | findDeliveries
  | add
  | updateDelivery (id : String)
  deriving DecidableEq, Repr

abbrev ReplayOp := Process ReplaySite Answer ReplayWorld Exception

structure WebhookDeliveryMeta where
  userId : Option String := none
  secret : Option String := none
  subscriptionId : Option String := none

def sendWebhook (url : String) (payload : WebhookPayload) (sent : WebhookDeliveryMeta) : ReplayOp Unit :=
  if url = "" then return
  else .transact .add fun answer w =>
    if answer.fails then .error .database
    else .ok ((),{ w with queue := w.queue ++ [{
      url := url, payload := payload, userId := sent.userId, secret := sent.secret, subscriptionId := sent.subscriptionId }] })

def shouldDeliver (eventTypes : List String) (eventType : String) : Bool := eventTypes.length = 0 || eventTypes.contains eventType

def resent (now : Nat) (row : LoggedDelivery) : LoggedDelivery :=
  { row with status := .resent, resendCount := row.resendCount + 1, lastResendAt := some now }

def updateDelivery (id : String) : ReplayOp LoggedDelivery :=
  .transact (.updateDelivery id) fun answer w =>
    if answer.fails then .error .database
    else match w.deliveries.modify id (resent w.clock) fun _ => rfl with
      | none => .error .recordNotFound
      | some (row,deliveries) => .ok (row,{ w with deliveries := deliveries })

def byCreatedAt (a b : LoggedDelivery) : Prop := a.createdAt ≤ b.createdAt

instance : DecidableRel byCreatedAt := fun _ _ => inferInstanceAs (Decidable (_ ≤ _))

instance : Std.Total byCreatedAt := ⟨fun _ _ => Nat.le_total _ _⟩

instance : IsTrans LoggedDelivery byCreatedAt := ⟨fun _ _ _ => Nat.le_trans⟩

def within (start stop : Nat) (row : LoggedDelivery) : Bool := start ≤ row.createdAt && row.createdAt ≤ stop

def resendEach (subscription : WebhookSubscription) (companyId : String) (secret : Option String) (replayed : Nat)
    (delivery : LoggedDelivery) : ReplayOp Nat :=
  if !shouldDeliver subscription.eventTypes delivery.event then return replayed
  else do
    sendWebhook subscription.url delivery.payload
      { userId := some companyId, secret := secret, subscriptionId := some subscription.id }
    let _ ← updateDelivery delivery.id
    return replayed + 1

def replay (id companyId : String) (start stop : Nat) (secret : Option String) : ReplayOp (Nat × String) :=
  if stop < start then .raise (.badRequest "from must be before to")
  else do
    let found ← .query .findSubscription fun answer w =>
      if answer.fails then .error .database else .ok (w.subscriptions.get? id)
    match found with
    | none => .raise (.notFound s!"Webhook subscription {id} not found")
    | some subscription =>
        if subscription.companyId ≠ companyId then .raise (.forbidden "Not authorized to replay this subscription")
        else do
          let deliveries ← .query .findDeliveries fun answer w =>
            if answer.fails then .error .database
            else .ok ((w.deliveries.findMany fun row => row.userId = some companyId && within start stop row).insertionSort byCreatedAt)
          let replayed ← .foldEach (resendEach subscription companyId secret) 0 deliveries
          return (replayed,id)

def job (subscription : WebhookSubscription) (secret : Option String) (row : LoggedDelivery) : WebhookJobData where
  url := subscription.url
  payload := row.payload
  userId := some subscription.companyId
  secret := secret
  subscriptionId := some subscription.id

def accepts (subscription : WebhookSubscription) (row : LoggedDelivery) : Bool := shouldDeliver subscription.eventTypes row.event

/-- The rows of the subscription that a replay of it is to send again. -/
def due (subscription : WebhookSubscription) (start stop : Nat) (row : LoggedDelivery) : Bool :=
  row.subscriptionId = some subscription.id && within start stop row && accepts subscription row

/-- The replay has sent the due rows again, the oldest first, has marked these and has left the others. -/
structure Resends (subscription : WebhookSubscription) (secret : Option String) (start stop : Nat) (w w' : ReplayWorld) : Prop where
  enqueued : ∃ sent : List LoggedDelivery, sent.Perm (w.deliveries.rows.filter (due subscription start stop)) ∧ sent.Pairwise byCreatedAt ∧
    w'.queue = w.queue ++ sent.map (job subscription secret)
  marked : w'.deliveries.rows = w.deliveries.rows.map fun row => if due subscription start stop row then resent w.clock row else row

section Calls

variable {subscription : WebhookSubscription} {secret : Option String} {respond : ReplaySite → Answer} {w w' : ReplayWorld} {start stop : Nat}

theorem urlFilled (subscription : WebhookSubscription) : subscription.url ≠ "" := by
  intro empty
  have https := subscription.https
  rw [empty] at https
  exact absurd https (by decide)

/-- The world after these rows have been sent again. -/
def after (subscription : WebhookSubscription) (secret : Option String) (w : ReplayWorld) (sent : List LoggedDelivery) : ReplayWorld :=
  { w with
    queue := w.queue ++ sent.map (job subscription secret)
    deliveries := w.deliveries.updateMany (fun row => row.id ∈ sent.map LoggedDelivery.id) (resent w.clock) fun _ => rfl }

theorem afterNone : after subscription secret w [] = w := by
  have same : w.deliveries.updateMany (fun row => row.id ∈ ([] : List LoggedDelivery).map LoggedDelivery.id) (resent w.clock) (fun _ => rfl) =
      w.deliveries := Table.updateManySame.mpr fun row _ inside => absurd (of_decide_eq_true inside) (by simp)
  rw [after,same,List.map_nil,List.append_nil]

theorem afterCons {first : LoggedDelivery} {rest : List LoggedDelivery} (fresh : first.id ∉ rest.map LoggedDelivery.id) :
    after subscription secret (after subscription secret w [first]) rest = after subscription secret w (first :: rest) := by
  have rows : ((w.deliveries.updateMany (fun row => row.id ∈ [first].map LoggedDelivery.id) (resent w.clock) fun _ => rfl).updateMany
      (fun row => row.id ∈ rest.map LoggedDelivery.id) (resent w.clock) fun _ => rfl) =
      w.deliveries.updateMany (fun row => row.id ∈ (first :: rest).map LoggedDelivery.id) (resent w.clock) fun _ => rfl := by
    refine Table.rowsSame ?_
    simp only [Table.updateMany,List.map_map]
    refine List.map_congr_left fun row _ => ?_
    by_cases here : row.id = first.id
    · simp [here,resent]
      simpa using fresh
    · simp [here]
  show ReplayWorld.mk _ _ _ _ = ReplayWorld.mk _ _ _ _
  simp only [after] at rows ⊢
  rw [rows,List.append_assoc,← List.map_append]
  rfl

theorem afterKeeps {sent : List LoggedDelivery} {id : String} :
    ((after subscription secret w sent).deliveries.get? id).isSome = (w.deliveries.get? id).isSome :=
  (congrArg Option.isSome (Table.getUpdateMany w.deliveries _ (resent w.clock) (fun _ => rfl) id)).trans Option.isSome_map

theorem yieldsEach {delivery : LoggedDelivery} {n : Nat} : Yields respond (· = w)
    (resendEach subscription subscription.companyId secret n delivery) fun _ s =>
      s = after subscription secret w (if accepts subscription delivery then [delivery] else []) := by
  unfold resendEach
  split
  · rename_i refused
    have other : accepts subscription delivery = false := by simpa [accepts] using refused
    exact yieldsRet fun s here => by rw [other,here]; exact afterNone.symm
  · rename_i accepted
    have takes : accepts subscription delivery = true := by simpa [accepts] using accepted
    rw [takes,if_pos rfl]
    refine yieldsThrough (fun _ s => s = { w with queue := w.queue ++ [job subscription secret delivery] }) ?_ fun _ => ?_
    · unfold sendWebhook
      rw [if_neg (urlFilled subscription)]
      refine yieldsTransact fun i s value s' here committed => ?_
      subst here
      split at committed
      · cases committed
      · cases committed
        rfl
    · refine yieldsBind (@yieldsTransact _ _ _ _ _ respond _ (fun _ s => s = after subscription secret w [delivery]) _ _ fun i s value s' here committed => ?_)
        fun _ => yieldsRet fun s here => here
      subst here
      split at committed
      · cases committed
      · split at committed
        · cases committed
        · rename_i row deliveries modified
          cases committed
          obtain ⟨_,_,_,rfl⟩ := Table.modifyGet modified
          show ReplayWorld.mk _ _ _ _ = ReplayWorld.mk _ _ _ _
          simp only [List.map_cons,List.map_nil,List.mem_singleton]
          rfl

theorem yieldsAll {deliveries : List LoggedDelivery} (distinct : (deliveries.map LoggedDelivery.id).Nodup) {n : Nat} :
    Yields respond (· = w) (.foldEach (resendEach subscription subscription.companyId secret) n deliveries) fun _ s =>
      s = after subscription secret w (deliveries.filter (accepts subscription)) := by
  induction deliveries generalizing n w with
  | nil => exact yieldsRet fun s here => here.trans afterNone.symm
  | cons delivery rest ih =>
    obtain ⟨fresh,distinct⟩ := List.nodup_cons.mp distinct
    refine yieldsThrough _ yieldsEach fun m => yieldsMono (fun _ here => here) (fun _ s here => ?_) (ih distinct)
    rw [here,List.filter_cons]
    split
    · refine afterCons fun inside => fresh ?_
      obtain ⟨row,there,same⟩ := List.mem_map.mp inside
      exact List.mem_map.mpr ⟨row,List.mem_of_mem_filter there,same⟩
    · rw [afterNone]

/-- The rows that a replay picks: those of the company, whatever the subscription. -/
def picked (subscription : WebhookSubscription) (start stop : Nat) (row : LoggedDelivery) : Bool :=
  row.userId = some subscription.companyId && within start stop row && accepts subscription row

def sortedPicked (subscription : WebhookSubscription) (start stop : Nat) (w : ReplayWorld) : List LoggedDelivery :=
  ((w.deliveries.findMany fun row => row.userId = some subscription.companyId && within start stop row).insertionSort byCreatedAt).filter
    (accepts subscription)

theorem sortedPickedPerm : (sortedPicked subscription start stop w).Perm (w.deliveries.rows.filter (picked subscription start stop)) := by
  have sorted := (List.perm_insertionSort byCreatedAt
    (w.deliveries.findMany fun row => row.userId = some subscription.companyId && within start stop row)).filter (accepts subscription)
  refine sorted.trans (List.Perm.of_eq ?_)
  rw [Table.findMany,List.filter_filter]
  exact List.filter_congr fun row _ => Bool.and_comm _ _

theorem replayed (found : w.subscriptions.get? subscription.id = some subscription) {out : Nat × String}
    (returned : (replay subscription.id subscription.companyId start stop secret).interpret respond w = (.ok out,w')) :
    w' = after subscription secret w (sortedPicked subscription start stop w) := by
  have yields : Yields respond (· = w) (replay subscription.id subscription.companyId start stop secret) fun _ s =>
      s = after subscription secret w (sortedPicked subscription start stop w) := by
    unfold replay
    split
    · exact yieldsRaise
    · refine yieldsThrough (fun out s => out = some subscription ∧ s = w) (yieldsQuery fun i s value here read => ?_) fun out => ?_
      · subst here
        split at read
        · cases read
        · exact ⟨(Except.ok.inj read).symm.trans found,rfl⟩
      · rintro s ⟨rfl,here⟩
        dsimp only
        rw [if_neg (not_not.mpr rfl)]
        refine (?_ : Yields respond (· = w) _ _) s here
        refine yieldsThrough (fun rows s => rows = (w.deliveries.findMany fun row => row.userId = some subscription.companyId &&
          within start stop row).insertionSort byCreatedAt ∧ s = w) (yieldsQuery fun i s value here read => ?_) fun rows => ?_
        · subst here
          split at read
          · cases read
          · exact ⟨(Except.ok.inj read).symm,rfl⟩
        · rintro s ⟨rfl,here⟩
          refine yieldsBind (yieldsAll ?_) (fun n => yieldsRet fun s here => here) s here
          exact ((List.perm_insertionSort byCreatedAt _).map LoggedDelivery.id).nodup_iff.mpr
            (w.deliveries.unique.sublist (List.filter_sublist.map _))
  exact yields w rfl out w' returned

theorem afterMarked : (after subscription secret w (sortedPicked subscription start stop w)).deliveries.rows =
    w.deliveries.rows.map fun row => if picked subscription start stop row then resent w.clock row else row := by
  refine List.map_congr_left fun row inside => ?_
  have same : row.id ∈ (sortedPicked subscription start stop w).map LoggedDelivery.id ↔ picked subscription start stop row = true := by
    rw [(sortedPickedPerm.map LoggedDelivery.id).mem_iff]
    constructor
    · intro listed
      obtain ⟨other,there,its⟩ := List.mem_map.mp listed
      obtain ⟨stored,picks⟩ := List.mem_filter.mp there
      have same := Table.memGet stored
      rw [show Keyed.key other = Keyed.key row from its,Table.memGet inside] at same
      cases same
      exact picks
    · exact fun picks => List.mem_map.mpr ⟨row,List.mem_filter.mpr ⟨inside,picks⟩,rfl⟩
  simp only [same,decide_eq_true_eq]

/-- Every row of these days that the subscription accepts is both its own and its company's, or neither. -/
def Separate (subscription : WebhookSubscription) (start stop : Nat) (w : ReplayWorld) : Prop :=
  ∀ row ∈ w.deliveries.rows, within start stop row = true → accepts subscription row = true →
    (row.userId = some subscription.companyId ↔ row.subscriptionId = some subscription.id)

theorem separateIff : Separate subscription start stop w ↔
    ∀ row ∈ w.deliveries.rows, picked subscription start stop row = due subscription start stop row := by
  refine forall₂_congr fun row inside => ?_
  unfold picked due
  cases within start stop row <;> cases accepts subscription row <;> simp

theorem resendsIff : Resends subscription secret start stop w (after subscription secret w (sortedPicked subscription start stop w)) ↔
    Separate subscription start stop w := by
  rw [separateIff]
  constructor
  · intro resends row inside
    have same := List.map_inj_left.mp (afterMarked.symm.trans resends.marked) row inside
    have moved : resent w.clock row ≠ row := fun still => by
      have count := congrArg LoggedDelivery.resendCount still
      simp [resent] at count
    cases picks : picked subscription start stop row <;> cases dues : due subscription start stop row
    · rfl
    · rw [picks,dues] at same
      exact absurd same.symm moved
    · rw [picks,dues] at same
      exact absurd same moved
    · rfl
  · intro same
    have filtered : w.deliveries.rows.filter (picked subscription start stop) = w.deliveries.rows.filter (due subscription start stop) :=
      List.filter_congr same
    refine ⟨⟨_,filtered ▸ sortedPickedPerm,?_,rfl⟩,afterMarked.trans (List.map_congr_left fun row inside => by rw [same row inside])⟩
    exact (List.pairwise_insertionSort byCreatedAt _).filter _

def answering (_ : ReplaySite) : Answer := {}

theorem eachReturns {delivery : LoggedDelivery} (there : (w.deliveries.get? delivery.id).isSome) (n : Nat) :
    ∃ m w', (resendEach subscription subscription.companyId secret n delivery).interpret answering w = (.ok m,w') := by
  unfold resendEach
  split
  · exact ⟨_,_,rfl⟩
  · obtain ⟨row,found⟩ := Option.isSome_iff_exists.mp there
    have modified : ∀ queue : List WebhookJobData, ({ w with queue := queue } : ReplayWorld).deliveries.modify delivery.id (resent w.clock) (fun _ => rfl) =
        some (resent w.clock row,w.deliveries.update delivery.id (resent w.clock) fun _ => rfl) :=
      fun _ => congrArg (Option.map _) found
    unfold sendWebhook updateDelivery
    rw [if_neg (urlFilled subscription),interpretBind,interpretTransact]
    simp only [answering,Process.applied,Except.map,Bool.false_eq_true,if_false]
    rw [interpretBind,interpretTransact]
    simp only [answering,Process.applied,Except.map,Bool.false_eq_true,if_false,modified]
    exact ⟨_,_,rfl⟩

theorem allReturn {deliveries : List LoggedDelivery} (there : ∀ row ∈ deliveries, (w.deliveries.get? row.id).isSome) (n : Nat) :
    ∃ m w', (Process.foldEach (resendEach subscription subscription.companyId secret) n deliveries).interpret answering w = (.ok m,w') := by
  induction deliveries generalizing n w with
  | nil => exact ⟨_,_,rfl⟩
  | cons delivery rest ih =>
    obtain ⟨m,w',returned⟩ := @eachReturns subscription secret w delivery (there delivery List.mem_cons_self) n
    have same := yieldsEach w rfl m w' returned
    obtain ⟨k,w'',others⟩ := ih (w := w') (fun row inside => by
      rw [same,afterKeeps]
      exact there row (List.mem_cons_of_mem _ inside)) m
    refine ⟨k,w'',?_⟩
    rw [Process.foldEach,interpretBind,returned]
    exact others

theorem replayReturns (found : w.subscriptions.get? subscription.id = some subscription) (ordered : start ≤ stop) :
    ∃ out w', (replay subscription.id subscription.companyId start stop secret).interpret answering w = (.ok out,w') := by
  obtain ⟨n,w',returned⟩ := @allReturn subscription secret w ((w.deliveries.findMany fun row =>
    row.userId = some subscription.companyId && within start stop row).insertionSort byCreatedAt) (fun row inside => by
      have stored := List.mem_of_mem_filter ((List.perm_insertionSort byCreatedAt _).mem_iff.mp inside)
      exact (Table.memGet stored) ▸ rfl) 0
  refine ⟨(n,subscription.id),w',?_⟩
  unfold replay
  rw [if_neg (Nat.not_lt.mpr ordered),interpretBind,interpretQuery]
  simp only [answering,Bool.false_eq_true,if_false,found,ne_eq,not_true_eq_false]
  rw [interpretBind,interpretQuery]
  simp only [answering,Bool.false_eq_true,if_false]
  rw [interpretBind,returned]
  rfl

end Calls

/-- A replay that returns has sent the due rows again, and marked them alone, exactly where the rows are separate; and it returns
when its calls are answered. -/
theorem replayIff (subscription : WebhookSubscription) (secret : Option String) (w : ReplayWorld) (start stop : Nat)
    (found : w.subscriptions.get? subscription.id = some subscription) (ordered : start ≤ stop) :
    ((∀ respond out w', (replay subscription.id subscription.companyId start stop secret).interpret respond w = (.ok out,w') →
      Resends subscription secret start stop w w') ↔ Separate subscription start stop w) ∧
    ∃ out w', (replay subscription.id subscription.companyId start stop secret).interpret answering w = (.ok out,w') := by
  obtain ⟨out,w',returns⟩ := @replayReturns subscription secret w start stop found ordered
  refine ⟨⟨fun resends => ?_,fun separate respond out w' returned => ?_⟩,out,w',returns⟩
  · have sent := resends answering out w' returns
    rw [replayed found returns] at sent
    exact resendsIff.mp sent
  · rw [replayed found returned]
    exact resendsIff.mpr separate

def mine : WebhookSubscription where
  id := "s1"
  companyId := "c"
  url := "https://c.example/hook"
  https := by decide +kernel

def loggedAt (id : String) (createdAt : Nat) (subscriptionId : Option String) : LoggedDelivery where
  id := id
  createdAt := createdAt
  userId := some "c"
  subscriptionId := subscriptionId
  url := "https://c.example/hook"
  event := "COMPLETED"
  payload := ⟨"COMPLETED","e","COMPLETED","2026-08-29T00:00:00.000Z",[]⟩
  attempts := 1
  responseCode := some 200
  status := .succeeded

def ownLog : ReplayWorld where
  subscriptions := ⟨[mine],by simp⟩
  deliveries := ⟨[loggedAt "d1" 5 (some "s1")],by simp⟩
  clock := 10

theorem ownResent : ((∀ respond out w', (replay "s1" "c" 0 9 none).interpret respond ownLog = (.ok out,w') →
      Resends mine none 0 9 ownLog w') ↔ Separate mine 0 9 ownLog) ∧
    ∃ out w', (replay "s1" "c" 0 9 none).interpret answering ownLog = (.ok out,w') :=
  replayIff mine none ownLog 0 9 rfl (by decide)

-- beside the row of the subscription, one of another and one of the webhook of the user
def sharedLog : ReplayWorld where
  subscriptions := ⟨[mine],by simp⟩
  deliveries := ⟨[loggedAt "d1" 5 (some "s1"),loggedAt "d2" 6 (some "s2"),loggedAt "d3" 7 none],by decide⟩
  clock := 10

theorem sharedResent : ∃ out w', (replay "s1" "c" 0 9 none).interpret answering sharedLog = (.ok out,w') ∧
    w'.queue.length = 3 ∧ ¬ Resends mine none 0 9 sharedLog w' := by
  refine ⟨_,_,rfl,rfl,fun resends => ?_⟩
  have counts := congrArg (List.map LoggedDelivery.resendCount) resends.marked
  exact absurd counts (by decide)

end HireSettle.Webhooks.SubscriptionReplays
