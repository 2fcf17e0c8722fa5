import HireSettle.Escrow.Appeals

/-! A dispute is settled on-chain at most once, as long as no decision is recorded
over an appeal. Whoever claims the dispute (RESOLVED to CLOSED) holds a token until
the chain call has returned. While the dispute has been settled or its token is
out, it stays CLOSED, which only an appeal decision or the rollback can change. -/
namespace HireSettle.Escrow
open Workflow

def settledDispute : Site → Option String
  | .resolveMilestoneDispute disputeId _ _ _ => disputeId
  | _ => none

def settles (id : String) (e : EscrowEvent) : Bool := settledDispute e.site = some id && !e.answer.fails

/-- No first-tier decision is recorded on a dispute that has been appealed. -/
def DecidesUnappealed (e : EscrowEvent) : Prop :=
  ∀ id dispute, e.site = .decide id → e.answer.fails = false → e.before.disputes.get? id = some dispute →
    dispute.active = true → e.before.appeals.get? id = none

namespace Settlement

def appealOpen (db : Db) (id : String) : Prop := ∃ appeal, db.appeals.get? id = some appeal ∧ appeal.status = .opened

/-- A dispute that `n` callers are settling or have settled. -/
def Stands (appealed : Prop) (n : Nat) (dispute : Dispute) : Prop :=
  dispute.fundsReleasedAt.isSome = true ∨
  (0 < n → dispute.status = .closed ∧ ¬ appealed) ∧ (appealed → dispute.active = true)

def settling (c : EscrowSnapshot) (tokens : Multiset String) (id : String) : Nat :=
  c.history.countP (settles id) + tokens.count id

def settlements : Contract Site Answer Db (Multiset String) where
  inv c tokens := ∀ id, settling c tokens id ≤ 1 ∧ ∀ dispute, c.world.disputes.get? id = some dispute →
    Stands (appealOpen c.world id) (settling c tokens id) dispute
  admits _ := DecidesUnappealed

section Invariant

variable {c : EscrowSnapshot} {db' : Db} {thread : Nat} {site : Site} {i : Answer} {tokens : Multiset String}

theorem settlesNothing (quiet : settledDispute site = none) (id : String) :
    settles id (c.event thread site i db') = false := by
  simp [settles,Snapshot.event,quiet]

theorem settlingQuiet (quiet : settledDispute site = none) (tokens : Multiset String) (id : String) :
    settling (c.record thread site i db') tokens id = settling c tokens id := by
  simp [settling,settlesNothing quiet]

/-- A call that settles nothing keeps the invariant when every dispute stands as before. -/
theorem invStands (inv : settlements.inv c tokens) (quiet : settledDispute site = none)
    (stands : ∀ id dispute', db'.disputes.get? id = some dispute' → ∃ dispute, c.world.disputes.get? id = some dispute ∧
      ∀ n, Stands (appealOpen c.world id) n dispute → Stands (appealOpen db' id) n dispute') :
    settlements.inv (c.record thread site i db') tokens := by
  intro id
  rw [settlingQuiet quiet]
  refine ⟨(inv id).1,fun dispute' found' => ?_⟩
  obtain ⟨dispute,found,stands⟩ := stands id dispute' found'
  exact stands _ ((inv id).2 dispute found)

def Untouched (db db' : Db) : Prop := db'.disputes = db.disputes ∧ db'.appeals = db.appeals

theorem openUntouched {db db' : Db} (untouched : Untouched db db') (id : String) : appealOpen db' id = appealOpen db id := by
  rw [appealOpen,untouched.2]
  rfl

theorem invUntouched (inv : settlements.inv c tokens) (quiet : settledDispute site = none)
    (untouched : Untouched c.world db') : settlements.inv (c.record thread site i db') tokens :=
  invStands inv quiet fun id dispute found => ⟨dispute,untouched.1 ▸ found,fun n stands => by rwa [openUntouched untouched]⟩

def quietSite (site : Site) : Bool := (settledDispute site).isNone

theorem sparesUntouched : settlements.Spares quietSite Untouched := by
  intro site db' quiet c g thread i untouched inv
  exact invUntouched inv (Option.isNone_iff_eq_none.mp quiet) untouched

theorem quietReads (site : Site) (reads : site.reads = true) : quietSite site = true := by
  cases site <;> first | rfl | cases reads

theorem ignoresReads (site : Site) (reads : site.reads = true) : settlements.Ignores site :=
  fun c g thread i inv => sparesUntouched site c.world (quietReads site reads) c g thread i ⟨rfl,rfl⟩ inv

theorem invClaim {disputeId : String} {dispute dispute' : Dispute} (inv : settlements.inv c tokens)
    (quiet : settledDispute site = none) (found : c.world.disputes.get? disputeId = some dispute)
    (resolved : dispute.status = .resolved) (locked : dispute.fundsReleasedAt = none)
    (found' : db'.disputes.get? disputeId = some dispute') (closed : dispute'.status = .closed)
    (elsewhere : ∀ other, other ≠ disputeId → db'.disputes.get? other = c.world.disputes.get? other)
    (appeals : db'.appeals = c.world.appeals) :
    settlements.inv (c.record thread site i db') (disputeId ::ₘ tokens) := by
  have same : ∀ id, appealOpen db' id = appealOpen c.world id := fun id => by rw [appealOpen,appeals]; rfl
  intro id
  simp only [settlingQuiet quiet,Snapshot.recordWorld,same]
  by_cases here : id = disputeId
  · subst here
    obtain ⟨_,stands⟩ := inv id
    have stands := stands dispute found
    simp only [Stands,locked,Option.isSome_none,Bool.false_eq_true,false_or,resolved,reduceCtorEq,false_and,imp_false,
      not_lt,Nat.le_zero_eq] at stands
    have unappealed : ¬ appealOpen c.world id := fun appealed => by
      simp [Dispute.active,ACTIVE_DISPUTE_STATUSES,resolved] at stands
      exact stands.2 appealed
    have one : settling c (id ::ₘ tokens) id = 1 := by
      have none := stands.1
      simp only [settling] at none ⊢
      rw [Multiset.count_cons_self]
      omega
    refine ⟨by omega,fun row there => ?_⟩
    cases Option.some.inj (there.symm.trans found')
    exact Or.inr ⟨fun _ => ⟨closed,unappealed⟩,fun appealed => absurd appealed unappealed⟩
  · have count : settling c (disputeId ::ₘ tokens) id = settling c tokens id := by
      simp [settling,Multiset.count_cons_of_ne here]
    rw [count]
    exact ⟨(inv id).1,fun row there => (inv id).2 row ((elsewhere id here).symm.trans there)⟩

theorem invUnclaim {disputeId : String} {dispute dispute' : Dispute} (inv : settlements.inv c (disputeId ::ₘ tokens))
    (quiet : settledDispute site = none) (found : c.world.disputes.get? disputeId = some dispute)
    (found' : db'.disputes.get? disputeId = some dispute') (funds : dispute'.fundsReleasedAt = dispute.fundsReleasedAt)
    (elsewhere : ∀ other, other ≠ disputeId → db'.disputes.get? other = c.world.disputes.get? other)
    (appeals : db'.appeals = c.world.appeals) :
    settlements.inv (c.record thread site i db') tokens := by
  have same : ∀ id, appealOpen db' id = appealOpen c.world id := fun id => by rw [appealOpen,appeals]; rfl
  intro id
  simp only [settlingQuiet quiet,Snapshot.recordWorld,same]
  by_cases here : id = disputeId
  · subst here
    obtain ⟨single,stands⟩ := inv id
    have free : settling c tokens id = 0 ∧ 0 < settling c (id ::ₘ tokens) id := by
      simp only [settling] at single ⊢
      rw [Multiset.count_cons_self] at single ⊢
      omega
    refine ⟨by omega,fun row there => ?_⟩
    cases Option.some.inj (there.symm.trans found')
    rcases stands dispute found with released | ⟨claimed,_⟩
    · exact Or.inl (funds ▸ released)
    · exact Or.inr ⟨fun out => by omega,fun appealed => absurd appealed (claimed free.2).2⟩
  · have count : settling c (disputeId ::ₘ tokens) id = settling c tokens id := by
      simp [settling,Multiset.count_cons_of_ne here]
    rw [← count]
    exact ⟨(inv id).1,fun row there => (inv id).2 row ((elsewhere id here).symm.trans there)⟩

end Invariant

section Calls

variable {α : Type} {site : Site} {held : Multiset String} {p : Dispute → Bool} {f : Dispute → Dispute}
variable {keeps : ∀ d, (f d).id = d.id}

theorem safeWrite {f : Answer → Db → Except Exception (α × Db)} {done : Except Exception α → Multiset String → Prop}
    (quiet : settledDispute site = none) (failed : ∀ error, done (.error error) held)
    (commits : ∀ c frame thread i value db', settlements.inv c (held + frame) → i.fails = false →
      f i c.world = .ok (value,db') → DecidesUnappealed (c.event thread site i db') →
      ∃ keeps, settlements.inv (c.record thread site i db') (keeps + frame) ∧ done (.ok value) keeps) :
    Safe settlements done (write site f) held := by
  refine safeTransact ?_ ?_
  · intro c frame thread i value db' inv ok meets
    split at ok
    · contradiction
    · rename_i answered
      exact commits c frame thread i value db' inv (by simpa using answered) ok meets
  · intro c frame thread i error inv _
    exact ⟨invUntouched inv quiet ⟨rfl,rfl⟩,failed error⟩

theorem harmlessWrite {f : Answer → Db → Except Exception (α × Db)} (quiet : settledDispute site = none)
    (commits : ∀ c tokens thread i value db', settlements.inv c tokens → i.fails = false →
      f i c.world = .ok (value,db') → DecidesUnappealed (c.event thread site i db') →
      settlements.inv (c.record thread site i db') tokens) : Harmless settlements (write site f) := by
  intro held
  refine safeWrite quiet (fun _ => trivial) fun c frame thread i value db' inv answered ok meets => ?_
  exact ⟨held,commits c _ thread i value db' inv answered ok meets,trivial⟩

theorem harmlessWhere (quiet : settledDispute site = none)
    (stands : ∀ (e : EscrowEvent) dispute n, e.site = site → e.answer.fails = false → DecidesUnappealed e →
      e.before.disputes.get? dispute.id = some dispute → p dispute = true →
      Stands (appealOpen e.before dispute.id) n dispute → Stands (appealOpen e.before dispute.id) n (f dispute)) :
    Harmless settlements (write site fun _ db => .ok (db.updateDisputesWhere p f keeps)) := by
  refine harmlessWrite quiet fun c tokens thread i value db' inv answered ok meets => ?_
  cases ok
  refine invStands inv quiet fun id dispute' found' => ?_
  simp only [Table.getUpdateMany,Option.map_eq_some_iff] at found'
  obtain ⟨dispute,found,rfl⟩ := found'
  have key : dispute.id = id := Table.getKey found
  subst key
  refine ⟨dispute,found,fun n stood => ?_⟩
  split
  · rename_i matched
    exact stands _ dispute n rfl answered meets found matched stood
  · exact stood

theorem harmlessUpdate {id : String} (quiet : settledDispute site = none)
    (stands : ∀ appealed n dispute, Stands appealed n dispute → Stands appealed n (f dispute)) :
    Harmless settlements (write site fun _ db => db.updateDispute id f keeps) := by
  refine harmlessWrite quiet fun c tokens thread i value db' inv _ ok _ => ?_
  obtain ⟨_,_,_,_,_,rfl⟩ := Db.updateDisputeCases ok
  refine invStands inv quiet fun other dispute' found' => ?_
  simp only [Table.getUpdate] at found'
  split at found'
  · obtain ⟨dispute,found,rfl⟩ := Option.map_eq_some_iff.mp found'
    exact ⟨dispute,found,fun n stood => stands _ n dispute stood⟩
  · exact ⟨dispute',found',fun n stood => stood⟩

theorem harmlessReads {p : Op α} (reads : Reads Site.reads p) : Harmless settlements p :=
  harmlessSteps (sparesReads ignoresReads) reads

theorem safeClaimSettlement {disputeId : String} {done : Except Exception Nat → Multiset String → Prop}
    (failed : ∀ error, done (.error error) held) (missed : done (.ok 0) held)
    (claimed : ∀ n, n ≠ 0 → done (.ok n) (disputeId ::ₘ held)) :
    Safe settlements done (DisputesService.claimSettlement disputeId) held := by
  refine safeWrite rfl failed fun c frame thread i value db' inv _ ok _ => ?_
  cases ok
  rcases Table.updateManyCases c.world.disputes (fun row => { row with status := .closed }) (fun _ => rfl)
    (fun row matched => (DisputesService.settleableIff.mp matched).1) with ⟨met,row,found,matched,found',elsewhere⟩ | ⟨nothing,same⟩
  · obtain ⟨_,resolved,_,locked⟩ := DisputesService.settleableIff.mp matched
    refine ⟨disputeId ::ₘ held,?_,claimed _ met⟩
    rw [Multiset.cons_add]
    exact invClaim inv rfl found resolved locked found' rfl elsewhere rfl
  · refine ⟨held,invStands inv rfl fun id dispute found => ?_,by rw [nothing]; exact missed⟩
    exact ⟨dispute,(same id).symm.trans found,fun n stood => stood⟩

theorem safeUnclaim {disputeId : String} {error : Exception} {done : Except Exception Unit → Multiset String → Prop}
    (thrown : ∀ error held, done (.error error) held) :
    Safe settlements done (DisputesService.unclaim disputeId error) (disputeId ::ₘ held) := by
  refine safeBind (safeWrite rfl (fun _ => thrown _ _) fun c frame thread i value db' inv _ ok _ => ?_)
  obtain ⟨row,found,_,found',elsewhere,rfl⟩ := Db.updateDisputeCases ok
  refine ⟨held,?_,thrown _ _⟩
  rw [Multiset.cons_add] at inv
  exact invUnclaim inv rfl found found' rfl elsewhere rfl

theorem invResolved {c : EscrowSnapshot} {tokens : Multiset String} {thread : Nat} {i : Answer} {disputeId : String}
    {engagementId : String} {milestoneIndex : Nat} {approved : Bool} (inv : settlements.inv c (disputeId ::ₘ tokens))
    (answered : i.fails = false) :
    settlements.inv (c.record thread (.resolveMilestoneDispute (some disputeId) engagementId milestoneIndex approved) i
      c.world) tokens := by
  have same : ∀ id, settling (c.record thread (.resolveMilestoneDispute (some disputeId) engagementId milestoneIndex
      approved) i c.world) tokens id = settling c (disputeId ::ₘ tokens) id := by
    intro id
    simp only [settling,Snapshot.recordHistory,List.countP_cons,settles,Snapshot.event,settledDispute,answered,
      Multiset.count_cons,Option.some.injEq,Bool.not_false,Bool.and_true,decide_eq_true_eq,eq_comm (a := id)]
    omega
  intro id
  rw [same]
  exact inv id

theorem safeResolve {disputeId : String} (engagementId : String) (milestoneIndex : Nat) (approved : Bool)
    {done : Except Exception Unit → Multiset String → Prop}
    (failed : done (.error .stellar) (disputeId ::ₘ held)) (resolved : done (.ok ()) held) :
    Safe settlements done (stellar (.resolveMilestoneDispute (some disputeId) engagementId milestoneIndex approved) fun _ => ())
      (disputeId ::ₘ held) := by
  intro c frame thread i inv _
  cases fails : i.fails with
  | true =>
    have nothing : ∀ id, settles id (c.event thread
        (.resolveMilestoneDispute (some disputeId) engagementId milestoneIndex approved) i c.world) = false :=
      fun id => by simp [settles,Snapshot.event,fails]
    refine ⟨disputeId ::ₘ held,?_,by simpa [fails,Process.ofExcept,Safe] using failed⟩
    intro id
    have same : settling (c.record thread (.resolveMilestoneDispute (some disputeId) engagementId milestoneIndex
        approved) i c.world) (disputeId ::ₘ held + frame) id = settling c (disputeId ::ₘ held + frame) id := by
      simp [settling,nothing]
    rw [same]
    exact inv id
  | false =>
    refine ⟨held,?_,by simpa [fails,Process.ofExcept,Safe] using resolved⟩
    rw [Multiset.cons_add] at inv
    exact invResolved inv fails

end Calls

section Methods

variable (self : Config)

theorem safePayOut (dispute : Dispute) (milestone : Milestone) (approved : Bool) (amount : Int) (held : Multiset String)
    {done : Except Exception Unit → Multiset String → Prop}
    (failed : ∀ error, done (.error error) (dispute.id ::ₘ held)) (resolved : done (.ok ()) held) :
    Safe settlements done (DisputesService.payOut dispute milestone approved amount) (dispute.id ::ₘ held) := by
  unfold DisputesService.payOut
  have resolves := safeResolve dispute.engagementId milestone.milestoneIndex approved (failed .stellar) resolved
  dsimp only
  split
  · refine safeBind (safeWrite rfl (fun error => failed error) ?_)
    rintro c frame thread i value db' inv _ ⟨⟩ _
    exact ⟨_,invUntouched inv rfl ⟨rfl,rfl⟩,resolves⟩
  · exact resolves

theorem safeFindWithMilestone {disputeId : String} {held : Multiset String}
    {done : Except Exception (Dispute × Milestone) → Multiset String → Prop} (failed : ∀ error, done (.error error) held)
    (found : ∀ dispute milestone, dispute.id = disputeId → done (.ok (dispute,milestone)) held) :
    Safe settlements done (DisputesService.findWithMilestone disputeId) held := by
  refine safeQuery (ignoresReads _ rfl) fun c frame i inv => ⟨held,inv,?_⟩
  dsimp only
  split
  · exact failed _
  · split
    · exact failed _
    · rename_i dispute there
      split
      · exact failed _
      · exact found dispute _ (Table.getKey there)

theorem harmlessRecordSettlement (dispute : Dispute) (milestone : Milestone) (approved : Bool) (amount : Int) :
    Harmless settlements (DisputesService.recordSettlement self dispute milestone approved amount) := by
  refine harmlessBind (harmlessReads readsNow) fun at' => harmlessBind ?_ fun updated => harmlessBind ?_ fun settled =>
    harmlessBind ?_ fun payout => harmlessReads (readsBind (readsNotifyParties _ _) fun _ => trivial)
  · refine harmlessWrite rfl fun c tokens thread i value db' inv _ ok _ => ?_
    obtain ⟨_,_,_,_,_,rfl⟩ := Db.updateMilestoneCases ok
    exact invUntouched inv rfl ⟨rfl,rfl⟩
  · exact harmlessUpdate rfl fun _ _ _ _ => Or.inl rfl
  · exact harmlessSteps sparesUntouched (DisputesService.stepsRecordArbiterPayout self quietReads (fun _ => rfl)
      (fun _ => ⟨rfl,rfl⟩) (fun _ _ => ⟨rfl,rfl⟩) dispute amount)

theorem harmlessSettle (disputeId : String) : Harmless settlements (DisputesService.settle self disputeId) := by
  intro held
  refine safeBind (safeClaimSettlement (fun _ => trivial) ?_ fun n claimed => ?_)
  · refine safeBind (safeFindWithMilestone (fun _ => trivial) fun dispute milestone same => ?_)
    trivial
  · refine safeBind (safeFindWithMilestone (fun _ => trivial) fun dispute milestone same => ?_)
    subst same
    dsimp only
    rw [if_neg claimed]
    refine safeBind (safeHandle (safePayOut dispute milestone _ _ held (fun error => ?_) ?_))
    · exact safeUnclaim fun _ _ => trivial
    · exact harmlessRecordSettlement self dispute milestone _ _ held

theorem standsActive {appealed : Prop} {n : Nat} {dispute dispute' : Dispute} (unappealed : ¬ appealed)
    (active : dispute.active = true) (funds : dispute'.fundsReleasedAt = dispute.fundsReleasedAt)
    (stands : Stands appealed n dispute) : Stands appealed n dispute' := by
  rcases stands with released | ⟨claimed,_⟩
  · exact Or.inl (funds ▸ released)
  · refine Or.inr ⟨fun out => ?_,fun appealed => absurd appealed unappealed⟩
    simp [Dispute.active,ACTIVE_DISPUTE_STATUSES,(claimed out).1] at active

theorem harmlessDecide (dispute : Dispute) (outcome : DisputeOutcome) (actor : Option DisputeActor) :
    Harmless settlements (DisputesService.decide self dispute outcome actor) := by
  unfold DisputesService.decide
  split
  · exact fun _ => trivial
  · split
    · exact fun _ => trivial
    · split
      · exact fun _ => trivial
      · refine harmlessBind (harmlessReads readsNow) fun at' => harmlessBind ?_ fun count => ?_
        · refine harmlessWhere rfl fun e row n site answered unappealed found matched => ?_
          simp only [Bool.and_eq_true,decide_eq_true_eq] at matched
          have none := unappealed dispute.id row site answered (matched.1 ▸ found) matched.2
          refine standsActive ?_ matched.2 rfl
          rintro ⟨appeal,there,_⟩
          cases (matched.1 ▸ there).symm.trans none
        · split
          · exact fun _ => trivial
          · split
            · exact harmlessSettle self dispute.id
            · refine harmlessReads (readsBind (readsFindOr _ _) fun updated => ?_)
              exact readsBind (readsNotifyParties _ _) fun _ => trivial

theorem harmlessRecordDecision (milestoneId : String) (outcome : DisputeOutcome) (actor : Option DisputeActor) :
    Harmless settlements (DisputesService.recordDecision self milestoneId outcome actor) := by
  refine harmlessBind (harmlessReads (readsFind _ _)) fun found => ?_
  split
  · exact fun _ => trivial
  · exact harmlessBind (harmlessDecide self _ outcome actor) fun _ _ => trivial

theorem harmlessMarkSettledOnChain (milestoneId : String) :
    Harmless settlements (DisputesService.markSettledOnChain milestoneId) :=
  harmlessBind (harmlessReads readsNow) fun _ => harmlessWhere rfl fun _ _ _ _ _ _ _ _ _ => Or.inl rfl

theorem harmlessCreateAppeal (disputeId : String) (row : DisputeAppeal) (at' : Nat) (same : row.disputeId = disputeId) :
    Harmless settlements (write (.openAppeal disputeId) fun _ db => AppealService.createAppeal self disputeId row at' db) := by
  refine harmlessWrite rfl fun c tokens thread i value db' inv _ ok _ => ?_
  obtain ⟨dispute,disputes,appeals,found,matched,found',elsewhere,created,rfl⟩ := AppealService.createAppealCases ok
  simp only [AppealService.appealable,Bool.and_eq_true,decide_eq_true_eq] at matched
  obtain ⟨_,_,get⟩ := Table.createGet created
  refine invStands inv rfl fun id dispute' there => ?_
  by_cases here : id = disputeId
  · subst here
    cases Option.some.inj (found'.symm.trans there)
    refine ⟨dispute,found,fun n stands => ?_⟩
    rcases stands with released | ⟨claimed,_⟩
    · exact Or.inl released
    · refine Or.inr ⟨fun out => ?_,fun _ => ?_⟩
      · cases matched.1.1.2.symm.trans (claimed out).1
      · simp only [AppealService.underAppeal,DisputeSlaService.stageFields,Dispute.active,ACTIVE_DISPUTE_STATUSES]
        split <;> rfl
  · have same' : appealOpen { c.world with disputes := disputes, appeals := appeals } id = appealOpen c.world id := by
      have other : id ≠ Keyed.key row := fun eq => here (eq.trans same)
      simp only [appealOpen,get,if_neg other]
    exact ⟨dispute',(elsewhere id here).symm.trans there,fun n stands => by rwa [same']⟩

theorem harmlessOpenAppeal (disputeId : String) (user : DisputeActor) (reason : String) :
    Harmless settlements (AppealService.openAppeal self disputeId user reason) := by
  refine harmlessBind (harmlessReads readsNow) fun at' => harmlessBind (harmlessReads (readsFindOr _ _)) fun found => ?_
  split
  · exact fun _ => trivial
  · split
    · exact fun _ => trivial
    · split
      · exact fun _ => trivial
      · split
        · exact fun _ => trivial
        · split
          · split
            · exact fun _ => trivial
            · refine harmlessBind (harmlessReads (ArbiterAssignmentService.readsSelectArbiter _ _)) fun arbiter => ?_
              refine harmlessBind (harmlessHandle (harmlessCreateAppeal self disputeId _ at' rfl) fun error => ?_) fun appeal => ?_
              · split <;> exact fun _ => trivial
              · exact harmlessReads (readsBind (AppealService.readsAnnounceAppeal _ _ _) fun _ => trivial)
          · exact fun _ => trivial

theorem harmlessRecordAppealDecision (disputeId : String) (outcome : DisputeOutcome) (slaStatus : DisputeSlaStatus) (at' : Nat) :
    Harmless settlements (write (.decideAppeal disputeId) fun _ db =>
      AppealService.recordAppealDecision disputeId outcome slaStatus at' db) := by
  refine harmlessWrite rfl fun c tokens thread i value db' inv _ ok _ => ?_
  obtain ⟨dispute,appeal,disputes,appeals,found,opened,still,found',elsewhere,decided,others,rfl⟩ :=
    AppealService.recordAppealDecisionCases ok
  refine invStands inv rfl fun id dispute' there => ?_
  by_cases here : id = disputeId
  · subst here
    cases Option.some.inj (found'.symm.trans there)
    refine ⟨dispute,found,fun n stands => ?_⟩
    have closed : ¬ appealOpen { c.world with disputes := disputes, appeals := appeals } id := by
      rintro ⟨row,there',reopened⟩
      cases Option.some.inj (decided.symm.trans there')
      cases reopened
    rcases stands with released | ⟨claimed,_⟩
    · exact Or.inl released
    · exact Or.inr ⟨fun out => absurd ⟨appeal,opened,still⟩ (claimed out).2,fun appealed => absurd appealed closed⟩
  · have same : appealOpen { c.world with disputes := disputes, appeals := appeals } id = appealOpen c.world id := by
      simp only [appealOpen,others id here]
    exact ⟨dispute',(elsewhere id here).symm.trans there,fun n stands => by rwa [same]⟩

theorem harmlessDecideAppeal (disputeId : String) (user : DisputeActor) (outcome : DisputeOutcome) :
    Harmless settlements (AppealService.decideAppeal self disputeId user outcome) := by
  refine harmlessBind (harmlessReads (readsFind _ _)) fun found => ?_
  split
  · exact fun _ => trivial
  · split
    · exact fun _ => trivial
    · split
      · exact fun _ => trivial
      · refine harmlessBind (harmlessReads readsNow) fun at' => ?_
        refine harmlessBind (harmlessRecordAppealDecision disputeId outcome _ at') fun _ => ?_
        exact harmlessBind (harmlessReads (readsNotifyParties _ _)) fun _ => harmlessSettle self disputeId

theorem harmlessFinalize (at' settled : Nat) (dispute : Dispute) :
    Harmless settlements (AppealService.finalize self at' settled dispute) := by
  refine harmlessBind (?_ : Harmless settlements (AppealService.expireWindow at' dispute)) fun count => ?_
  · unfold AppealService.expireWindow
    split
    · exact fun _ => trivial
    · exact harmlessWhere rfl fun _ _ _ _ _ _ _ _ stands => stands
  · split
    · exact fun _ => trivial
    · exact harmlessHandle (harmlessBind (harmlessSettle self dispute.id) fun _ _ => trivial) fun _ _ => trivial

theorem harmlessFinalizeExpiredAppealWindows : Harmless settlements (AppealService.finalizeExpiredAppealWindows self) := by
  refine harmlessBind (harmlessReads readsNow) fun at' => harmlessBind (harmlessReads (readsQuery rfl _)) fun locked => ?_
  split
  · exact fun _ => trivial
  · refine harmlessBind (harmlessHandle ?_ fun error => ?_) fun settled => ?_
    · exact harmlessBind (harmlessReads (readsFind _ _)) fun expired => harmlessFoldEach (harmlessFinalize self at') 0 expired
    · exact harmlessBind (harmlessReads (readsQuery rfl _)) fun _ _ => trivial
    · exact harmlessBind (harmlessReads (readsQuery rfl _)) fun _ _ => trivial

theorem harmlessController (id : String) (outcome : DisputeOutcome) (user : DisputeActor) :
    Harmless settlements (DisputesController.decide self id outcome user) := by
  refine harmlessBind (harmlessReads (readsFind _ _)) fun found => ?_
  split
  · exact fun _ => trivial
  · split
    · exact harmlessDecideAppeal self id user outcome
    · exact harmlessDecide self _ outcome (some user)

end Methods

inductive Request where
  | decide (id : String) (outcome : DisputeOutcome) (user : DisputeActor)
  | recordDecision (milestoneId : String) (outcome : DisputeOutcome) (actor : Option DisputeActor)
  | openAppeal (disputeId : String) (user : DisputeActor) (reason : String)
  | decideAppeal (disputeId : String) (user : DisputeActor) (outcome : DisputeOutcome)
  | finalizeExpiredAppealWindows
  | settle (disputeId : String)
  | markSettledOnChain (milestoneId : String)

inductive Reply where
  | dispute (row : Dispute)
  | decision (row : Option Dispute)
  | appeal (row : DisputeAppeal)
  | count (n : Nat)

variable (self : Config)

def handler : Request → Op Reply
  | .decide id outcome user => return .dispute (← DisputesController.decide self id outcome user)
  | .recordDecision milestoneId outcome actor =>
      return .decision (← DisputesService.recordDecision self milestoneId outcome actor)
  | .openAppeal disputeId user reason => return .appeal (← AppealService.openAppeal self disputeId user reason)
  | .decideAppeal disputeId user outcome => return .dispute (← AppealService.decideAppeal self disputeId user outcome)
  | .finalizeExpiredAppealWindows => return .count (← AppealService.finalizeExpiredAppealWindows self)
  | .settle disputeId => return .dispute (← DisputesService.settle self disputeId)
  | .markSettledOnChain milestoneId => return .count (← DisputesService.markSettledOnChain milestoneId)

def service : System Request Nat Site Answer Db Exception Reply where
  handler := handler self
  environment elapsed db := { db with clock := db.clock + elapsed }

section Runs

abbrev SettlementMove := Move Request Nat Answer

theorem harmlessHandler (request : Request) : Harmless settlements (handler self request) := by
  cases request with
  | decide id outcome user => exact harmlessBind (harmlessController self id outcome user) fun _ _ => trivial
  | recordDecision milestoneId outcome actor =>
    exact harmlessBind (harmlessRecordDecision self milestoneId outcome actor) fun _ _ => trivial
  | openAppeal disputeId user reason => exact harmlessBind (harmlessOpenAppeal self disputeId user reason) fun _ _ => trivial
  | decideAppeal disputeId user outcome =>
    exact harmlessBind (harmlessDecideAppeal self disputeId user outcome) fun _ _ => trivial
  | finalizeExpiredAppealWindows =>
    exact harmlessBind (harmlessFinalizeExpiredAppealWindows self) fun _ _ => trivial
  | settle disputeId => exact harmlessBind (harmlessSettle self disputeId) fun _ _ => trivial
  | markSettledOnChain milestoneId => exact harmlessBind (harmlessMarkSettledOnChain milestoneId) fun _ _ => trivial

def unappealed (db : Db) : Pool Request Site Answer Db Exception Reply := Pool.initial { db with appeals := Table.empty }

/-- In every run in which no decision is recorded over an appeal, the chain call of
a dispute succeeds at most once. -/
theorem settledOnce (db : Db) (moves : List SettlementMove) (id : String)
    (decides : ∀ e ∈ ((service self).run (unappealed db) moves).history, DecidesUnappealed e) :
    ((service self).run (unappealed db) moves).history.countP (settles id) ≤ 1 := by
  have begin : Secured settlements (fun _ => anyEnd) (unappealed db) := by
    refine securedInitial (K := settlements) fun id => ⟨by simp [settling],fun dispute _ => Or.inr ⟨?_,?_⟩⟩
    · simp [settling]
    · rintro ⟨appeal,found,_⟩
      cases found
  have ticks : ∀ elapsed c g, settlements.inv c g →
      settlements.inv { c with world := (service self).environment elapsed c.world } g := fun _ _ _ inv => inv
  obtain ⟨_,_,inv⟩ := securedRun (fun request => harmlessHandler self request 0) ticks begin moves (meetsEach decides)
  have single := (inv id).1
  simp only [settling] at single
  exact le_trans (Nat.le_add_right _ _) single

def disputed : Db where
  engagements := .single { id := "e", companyAddress := "GC", recruiterAddress := "GR", arbiterAddress := "GA", totalAmount := 1000
                           companyId := some "c", recruiterId := some "r" }
  milestones := .single { id := "m", engagementId := "e", milestoneIndex := 0, name := "placed", kind := .placement
                          paymentPercent := 100, amount := some 1000, status := .disputed }
  disputes := .single { id := "d", engagementId := "e", milestoneId := "m", status := .underReview, stage := .arbiterReview
                        arbiterId := some "a" }

def admin : DisputeActor where
  id := "root"
  role := .admin

def oneSettlement : List SettlementMove :=
  [.start (.decide "d" .release admin)] ++ answered 0 (.replicate 8 {}) ++ [.environment (73 * HOUR_MS)] ++
  [.start .finalizeExpiredAppealWindows,.start .finalizeExpiredAppealWindows] ++
  answered 1 (.replicate 4 {}) ++ answered 2 (.replicate 4 {}) ++ answered 1 (.replicate 20 {}) ++ answered 2 (.replicate 20 {})

theorem settledByTwoJobs :
    ((service {}).run (unappealed disputed) oneSettlement).history.countP (settles "d") = 1 ∧
    ((service {}).run (unappealed disputed) oneSettlement).history.countP (settles "d") ≤ 1 := by
  have none : ((service {}).run (unappealed disputed) oneSettlement).history.all
      (fun e => e.before.appeals.rows.isEmpty) = true := by decide +kernel
  refine ⟨by decide +kernel,settledOnce {} disputed oneSettlement "d" fun e inside id dispute _ _ _ _ => ?_⟩
  have empty := List.all_eq_true.mp none e inside
  simp [Table.get?,List.isEmpty_iff.mp empty]

/-- Two admins decide the dispute from the same reading; the company appeals in
between. The second decision takes the dispute out of the appeal, the job settles
it, and the appeal decision settles it again. -/
def decidedOverAppeal : List SettlementMove :=
  [.start (.decide "d" .release admin)] ++ answered 0 [{}] ++
  [.start (.decide "d" .release admin)] ++ answered 1 (.replicate 8 {}) ++
  [.start (.openAppeal "d" { id := "c" } "late")] ++ answered 2 (.replicate 10 {}) ++
  answered 0 (.replicate 8 {}) ++ [.environment (73 * HOUR_MS)] ++
  [.start .finalizeExpiredAppealWindows] ++ answered 3 (.replicate 7 {}) ++
  [.start (.decideAppeal "d" admin .release)] ++ answered 4 (.replicate 9 {})

theorem settledTwice :
    ((service {}).run (unappealed disputed) decidedOverAppeal).history.countP (settles "d") = 2 := by decide +kernel

end Runs

end Settlement

end HireSettle.Escrow
