import HireSettle.Escrow.CallEffects

/-! The open disputes of a milestone. Disputes are opened after a look-up that other
calls may overtake, and a resolution event closes every unreleased dispute of its
milestone, whichever settlement has emitted it. -/
namespace HireSettle.Escrow.OpenDisputes
open Workflow EventsService

def OpenSingle (db : Db) : Prop :=
  ∀ a ∈ db.disputes.rows, ∀ b ∈ db.disputes.rows, a.milestoneId = b.milestoneId → a.status ≠ .closed → b.status ≠ .closed → a = b

instance (db : Db) : Decidable (OpenSingle db) := inferInstanceAs (Decidable (∀ a ∈ _, _))

/-- A call that changes the disputes so that one is opened, or opened again, finds the
others of the milestone closed. -/
def OpensAlone (e : EscrowEvent) : Prop :=
  e.after.disputes.rows ≠ e.before.disputes.rows → match e.site with
    | .openDispute milestoneId => ∀ d ∈ e.before.disputes.rows, d.milestoneId = milestoneId → d.status = .closed
    | .assignArbiter id | .overrideArbiter id | .unclaimSettlement id | .decideAppeal id =>
        ∀ d ∈ e.before.disputes.rows, d.id = id →
          ∀ other ∈ e.before.disputes.rows, other.milestoneId = d.milestoneId → other.id ≠ id → other.status = .closed
    | _ => True

instance (e : EscrowEvent) : Decidable (OpensAlone e) := by
  unfold OpensAlone
  refine @instDecidableForall _ _ inferInstance ?_
  generalize e.site = site
  induction site using Site.casesOn <;> infer_instance

def Settles (disputeId : String) (e : EscrowEvent) : Bool :=
  !e.answer.fails && match e.site with
    | .resolveMilestoneDispute settled _ _ _ => settled = some disputeId
    | _ => false

def Opens (id : String) (e : EscrowEvent) : Bool :=
  (e.before.disputes.get? id).isNone && (e.after.disputes.get? id).isSome

/-- The dispute `id` was opened after the dispute `settled` was settled on-chain. -/
def openedSince (settled id : String) : List EscrowEvent → Bool
  | [] => false
  | e :: earlier => (Opens id e && earlier.any (Settles settled)) || openedSince settled id earlier

inductive Request where
  | disputeFlow (engagementId : String) (milestoneIndex : Nat) (reason : String)
  -- an event of type dispute_raised
  | disputeRaised (payload : Json)
  | settle (disputeId : String)
  -- an event of type dispute_resolved that the settlement of `settled` has emitted
  | disputeResolved (settled : String) (payload : Json)

/-- When the event is handled, the disputes opened since its settlement have been released. -/
def ClosesOwn (request : Request) (earlier : List EscrowEvent) (e : EscrowEvent) : Prop :=
  match request,e.site with
  | .disputeResolved settled _, .markSettledOnChain milestoneId =>
      ∀ row ∈ e.before.disputes.rows, row.milestoneId = milestoneId → row.fundsReleasedAt = none →
        openedSince settled row.id earlier = false
  | _, _ => True

instance (request : Request) (earlier : List EscrowEvent) (e : EscrowEvent) : Decidable (ClosesOwn request earlier e) := by
  unfold ClosesOwn
  generalize e.site = site
  induction request using Request.casesOn <;> first | infer_instance | induction site using Site.casesOn <;> infer_instance

/-- A resolution event changes no dispute opened after its settlement. -/
def SparesLater (request : Request) (earlier : List EscrowEvent) (e : EscrowEvent) : Prop :=
  match request with
  | .disputeResolved settled _ => ∀ id, openedSince settled id earlier = true → e.after.disputes.get? id = e.before.disputes.get? id
  | _ => True

section Rows

variable {db db' : Db} {site : Site}

/-- Every open dispute was open before. -/
def OpensNone (db db' : Db) : Prop :=
  ∀ row' ∈ db'.disputes.rows, row'.status ≠ .closed → ∃ row ∈ db.disputes.rows, SameCase row row' ∧ row.status ≠ .closed

theorem rowsSingle {t : Table Dispute} {a b : Dispute} (inside : a ∈ t.rows) (inside' : b ∈ t.rows) (same : a.id = b.id) : a = b := by
  have found := Table.memGet inside
  rw [show Keyed.key a = Keyed.key b from same,Table.memGet inside'] at found
  exact (Option.some.inj found).symm

theorem opensNoneMoves {p : Dispute → Prop} {P : Dispute → Dispute → Prop} (moves : MovesDisputes p P db db')
    (closes : ∀ d d', p d → P d d' → d'.status ≠ .closed → d.status ≠ .closed) : OpensNone db db' := by
  obtain ⟨q,f,keeps,met,same,rfl⟩ := moves
  intro row inside opened
  obtain ⟨old,there,rfl⟩ := (Table.memUpdateMany keeps).mp inside
  refine ⟨old,there,?_⟩
  split at opened
  · rename_i matched
    rw [if_pos matched]
    exact ⟨(same old).1,closes old (f old) (met old matched) (same old).2 opened⟩
  · rename_i other
    rw [if_neg other]
    exact ⟨⟨rfl,rfl,rfl,rfl⟩,opened⟩

theorem singleOpensNone (none : OpensNone db db') (single : OpenSingle db) : OpenSingle db' := by
  intro a insideA b insideB same openA openB
  obtain ⟨a',thereA,caseA,openA'⟩ := none a insideA openA
  obtain ⟨b',thereB,caseB,openB'⟩ := none b insideB openB
  have equal := single a' thereA b' thereB (by rw [← caseA.milestoneId,same,caseB.milestoneId]) openA' openB'
  exact rowsSingle insideA insideB (by rw [caseA.id,caseB.id,equal])

theorem singleOpens {row : Dispute} {disputes : Table Dispute} (made : db.disputes.create row = some disputes)
    (alone : ∀ d ∈ db.disputes.rows, d.milestoneId = row.milestoneId → d.status = .closed) (single : OpenSingle db) :
    OpenSingle { db with disputes := disputes } := by
  intro a insideA b insideB same openA openB
  rcases (Table.memCreate made).mp insideA with oldA | rfl
  · rcases (Table.memCreate made).mp insideB with oldB | rfl
    · exact single a oldA b oldB same openA openB
    · exact absurd (alone a oldA same) openA
  · rcases (Table.memCreate made).mp insideB with oldB | rfl
    · exact absurd (alone b oldB same.symm) openB
    · rfl

theorem singleMoves {id : String} {p : Dispute → Prop} {P : Dispute → Dispute → Prop} (moves : MovesDisputes p P db db')
    (byId : ∀ d, p d → d.id = id)
    (alone : ∀ d ∈ db.disputes.rows, d.id = id → ∀ other ∈ db.disputes.rows, other.milestoneId = d.milestoneId → other.id ≠ id →
      other.status = .closed) (single : OpenSingle db) : OpenSingle db' := by
  obtain ⟨q,f,keeps,met,same,rfl⟩ := moves
  have before : ∀ row ∈ (db.disputes.updateMany q f keeps).rows, ∃ old ∈ db.disputes.rows, SameCase old row ∧ (old.id = id ∨ old = row) := by
    intro row inside
    obtain ⟨old,there,rfl⟩ := (Table.memUpdateMany keeps).mp inside
    refine ⟨old,there,?_⟩
    split
    · rename_i matched
      exact ⟨(same old).1,Or.inl (byId old (met old matched))⟩
    · exact ⟨⟨rfl,rfl,rfl,rfl⟩,Or.inr rfl⟩
  intro a insideA b insideB milestone openA openB
  obtain ⟨a',thereA,caseA,movedA⟩ := before a insideA
  obtain ⟨b',thereB,caseB,movedB⟩ := before b insideB
  have milestone' : a'.milestoneId = b'.milestoneId := by rw [← caseA.milestoneId,milestone,caseB.milestoneId]
  have equal : a'.id = b'.id := by
    by_contra differ
    by_cases mineA : a'.id = id
    · have mineB : b'.id ≠ id := fun mineB => differ (mineA.trans mineB.symm)
      have closed := alone a' thereA mineA b' thereB milestone'.symm mineB
      rcases movedB with moved | rfl
      · exact mineB moved
      · exact openB closed
    · have stays : a' = a := movedA.resolve_left mineA
      by_cases mineB : b'.id = id
      · exact openA (stays ▸ alone b' thereB mineB a' thereA milestone' mineA)
      · have stays' : b' = b := movedB.resolve_left mineB
        exact differ (congrArg Dispute.id (single a' thereA b' thereB milestone' (stays ▸ openA) (stays' ▸ openB)))
  exact rowsSingle insideA insideB (by rw [caseA.id,caseB.id,equal])

/-- A call that opens a dispute alone in its milestone, or opens none. -/
theorem singleEffect {thread : Nat} {answer : Answer} (effect : Effect site db db') (alone : OpensAlone ⟨thread,site,answer,db,db'⟩)
    (single : OpenSingle db) : OpenSingle db' := by
  by_cases unchanged : db'.disputes.rows = db.disputes.rows
  · rwa [OpenSingle,unchanged]
  · have alone := alone unchanged
    have writes : site.writesDisputes = true := by
      by_contra elsewhere
      exact unchanged (congrArg Table.rows (disputesStay effect (Bool.eq_false_iff.mpr elsewhere)))
    obtain rfl | effect := effect
    · exact single
    · cases site with
      | openDispute milestoneId =>
        obtain ⟨row,disputes,new,made,rfl⟩ := effect
        exact singleOpens made (fun d there its => alone d there (its.trans new.milestoneId)) single
      | assignArbiter | overrideArbiter | unclaimSettlement => exact singleMoves effect (fun _ => id) alone single
      | decideAppeal =>
        obtain ⟨mid,moves,_,_,_,_,rfl⟩ := effect
        have kept : OpenSingle mid := singleMoves moves (fun _ => id) alone single
        exact kept
      | decide id =>
        refine singleOpensNone (opensNoneMoves effect fun d d' matched _ _ closed => ?_) single
        simp [Dispute.active,ACTIVE_DISPUTE_STATUSES,closed] at matched
      | expireAppealWindow id =>
        exact singleOpensNone (opensNoneMoves effect fun d d' _ same opened => same.1 ▸ opened) single
      | unlockFunds id =>
        exact singleOpensNone (opensNoneMoves effect fun d d' _ same opened => same.1 ▸ opened) single
      | claimSettlement id =>
        exact singleOpensNone (opensNoneMoves effect fun d d' _ same opened => absurd same.1 opened) single
      | markSettledOnChain milestoneId =>
        exact singleOpensNone (opensNoneMoves effect fun d d' _ same opened => absurd same.1 opened) single
      | openAppeal id =>
        obtain ⟨mid,moves,_,rfl⟩ := effect
        have none : OpensNone db mid := opensNoneMoves moves fun d d' matched _ _ closed => by
          cases matched.2.symm.trans closed
        exact singleOpensNone none single
      | _ => cases writes

end Rows

section Runs

variable (self : Config)

def handler : Request → Op Unit
  | .disputeFlow engagementId milestoneIndex reason => do
      let _ ← MilestonesService.disputeFlow self engagementId milestoneIndex reason
  | .disputeRaised payload => do
      let _ ← handleDisputeRaised self payload
  | .settle disputeId => do
      let _ ← DisputesService.settle self disputeId
  | .disputeResolved _ payload => do
      let _ ← handleDisputeResolved self payload

def service : System Request Nat Site Answer Db Exception Unit where
  handler := handler self
  environment elapsed db := { db with clock := db.clock + elapsed }

abbrev DisputeMove := Move Request Nat Answer

def opening : Contract Site Answer Db Unit where
  inv c _ := OpenSingle c.world
  admits _ := OpensAlone

theorem affectsHandler (request : Request) : Affects (handler self request) := by
  cases request with
  | disputeFlow => exact actsBind (actsDisputeFlow self (fun _ _ => rfl) (fun _ _ => rfl) (fun _ => rfl) (fun _ => rfl) _ _ _) fun _ => trivial
  | disputeRaised =>
    exact actsBind (actsHandleDisputeRaised (fun _ _ => rfl) self (fun _ _ => rfl) (fun _ => rfl) (fun _ => rfl) _) fun _ => trivial
  | settle => exact actsBind (affectsSettle self _) fun _ => trivial
  | disputeResolved =>
    exact actsBind (actsHandleDisputeResolved (fun _ _ => rfl) self (fun _ _ => rfl) (fun _ => rfl) (fun _ => rfl) _) fun _ => trivial

/-- The calls of the handler of a resolution event. -/
def Site.resolves : Site → Bool
  | .markResolved _ _ | .markSettledOnChain _ | .syncEngagement _ => true
  | site => site.reads

/-- The calls that a request makes. -/
def calls : Request → Site → Bool
  | .disputeResolved _ _ => Site.resolves
  | _ => anySite

theorem actsHandler (request : Request) : Acts (Within (calls request)) (handler self request) := by
  cases request with
  | disputeResolved settled payload =>
    have reads : ∀ site : Escrow.Site, site.reads = true → Site.resolves site = true := by
      intro site here
      cases site <;> first | rfl | cases here
    exact actsBind (actsHandleDisputeResolved reads self (fun _ _ => rfl) (fun _ => rfl) (fun _ => rfl) _) fun _ => trivial
  | _ => exact affectsHandler self _

theorem sparesLater {request : Request} {earlier : List EscrowEvent} {e : EscrowEvent}
    (within : Within (calls request) e.site e.before e.after) (own : ClosesOwn request earlier e) : SparesLater request earlier e := by
  obtain ⟨thread,site,answer,db,db'⟩ := e
  cases request with
  | disputeResolved settled payload =>
    intro id later
    obtain ⟨here,effect⟩ := within
    by_cases elsewhere : site.writesDisputes = false
    · exact congrArg (Table.get? · id) (disputesStay effect elsewhere)
    · cases site with
      | markSettledOnChain milestoneId =>
        obtain same | ⟨q,f,keeps,met,_,same⟩ := effect
        · exact congrArg (fun db : Db => db.disputes.get? id) same
        · refine (congrArg (fun db : Db => db.disputes.get? id) same).trans ?_
          refine (Table.getUpdateMany _ q f keeps id).trans ?_
          cases found : db.disputes.get? id with
          | none => rfl
          | some row =>
            have misses : q row = false := by
              by_contra matched
              obtain ⟨milestone,unreleased⟩ := met row (by simpa using matched)
              have sooner : openedSince settled row.id earlier = false := own row (Table.getMem found) milestone unreleased
              have same : row.id = id := Table.getKey found
              rw [same,later] at sooner
              cases sooner
            simp [misses]
      | _ => first | exact absurd rfl elsewhere | cases here
  | _ => trivial

def contested : Db where
  engagements := .single { id := "e", companyAddress := "GC", recruiterAddress := "GR", arbiterAddress := "GA", totalAmount := 1000 }
  milestones := .single { id := "m", engagementId := "e", milestoneIndex := 0, name := "placed", kind := .placement
                          paymentPercent := 100, amount := some 1000, status := .disputed }
  disputes := .single { id := "d1", engagementId := "e", milestoneId := "m", status := .resolved, outcome := some .refund, isFinal := true }

def settled : List DisputeMove := [.start (.settle "d1")] ++ answered 0 (.replicate 8 {})

def raised (thread : Nat) (id : String) : List DisputeMove :=
  [.start (.disputeRaised (.array [.text "e",.number 0]))] ++ answered thread [{},{},{},{},{ text := id }] ++
  answered thread (.replicate 7 {})

-- the event that the settlement of the first dispute has emitted
def resolved (thread : Nat) : List DisputeMove :=
  [.start (.disputeResolved "d1" (.array [.text "e",.number 0,.bool false]))] ++ answered thread (.replicate 4 {})

/-- Two events that both find no open dispute. -/
def raisedTogether : List DisputeMove :=
  settled ++ [.start (.disputeRaised (.array [.text "e",.number 0])),.start (.disputeRaised (.array [.text "e",.number 0]))] ++
  answered 1 (.replicate 4 {}) ++ answered 2 (.replicate 4 {}) ++ answered 1 [{ text := "d2" }] ++ answered 2 [{ text := "d3" }]

/-- The event of the settlement is handled after the next dispute was raised. -/
def resolvedLate : List DisputeMove := settled ++ raised 1 "d2" ++ resolved 2

def SparesSecond (request : Request) (earlier : List EscrowEvent) (e : EscrowEvent) : Prop :=
  match request with
  | .disputeResolved settled _ => openedSince settled "d2" earlier = true → e.after.disputes.get? "d2" = e.before.disputes.get? "d2"
  | _ => True

instance (request : Request) (earlier : List EscrowEvent) (e : EscrowEvent) : Decidable (SparesSecond request earlier e) := by
  unfold SparesSecond
  split <;> infer_instance

end Runs

end HireSettle.Escrow.OpenDisputes
