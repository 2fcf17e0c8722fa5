import HireSettle.Escrow.AppealIndependence

/-! Recusals. An arbiter who asks to be taken off an engagement is named to the admins;
the selection leaves out whom the table of the recusals names, and the request writes no
row of it. -/
namespace HireSettle.Escrow

namespace EngagementsService

def recuseArbiter (engagementId userId : String) (userRole : UserRole) : Op String := do
  let found ← find .engagement fun db => (db.engagements.get? engagementId).map fun engagement =>
    (db.users.findFirst fun user => user.stellarAddress = some engagement.arbiterAddress : Option User)
  match found with
  | none => .raise (.notFound "Engagement not found")
  | some arbiter =>
      if userRole ≠ .arbiter ∨ ¬ arbiter.any (fun arbiter => arbiter.id = userId) then
        .raise (.forbidden "Only the assigned arbiter can recuse themselves")
      else do
        let admins ← find .user fun db => db.users.findMany fun user => user.role = .admin && user.deactivatedAt.isNone
        .forEach (fun _ => notify) admins
        return "Recusal request sent successfully"

end EngagementsService

namespace Recusals
open Workflow ArbiterAssignmentService
open AppealIndependence (actor roles court Conflicted leastLoadedMem candidateCases movedRows changedRow sameAppealsMoves Appeals
  appealsCreate Site.writesCourt courtStays)

inductive Request where
  | openForMilestone (milestoneId : String) (reason raisedById : Option String)
  | autoAssign (disputeId : String)
  | openAppeal (disputeId userId : String) (stellarAddress : Option String) (reason : String)
  -- the dispute, or its appeal
  | decide (id : String) (outcome : DisputeOutcome) (userId : String) (stellarAddress : Option String)
  | recuseArbiter (engagementId userId : String)

/-- What a selection has read. -/
structure Selection where
  dispute : Db
  recusals : Db
  users : Db
  load : Db

def selection (own : List EscrowEvent) : Option Selection :=
  match own.filter fun e => e.site ≠ .clock with
  | ⟨_,.find .dispute,_,load,_⟩ :: ⟨_,.find .user,_,users,_⟩ :: ⟨_,.find .recusal,_,recusals,_⟩ :: ⟨_,.find .dispute,_,dispute,_⟩ :: _ =>
      some ⟨dispute,recusals,users,load⟩
  | _ => none

def activeDisputes (db : Db) (id : String) : Nat := db.disputes.count fun dispute => dispute.arbiterId = some id && dispute.active

/-- Fewer active disputes, or as many and a longer standing. -/
def Preferred (load : String → Nat) (b a : User) : Prop := load b.id < load a.id ∨ load b.id = load a.id ∧ ¬ standing a b

instance (load : String → Nat) : DecidableRel (Preferred load) := fun _ _ => inferInstanceAs (Decidable (_ ∨ _))

-- an appeal is not heard by the arbiter of the decision
def excluded (appeal : Bool) (d : Dispute) : List String := if appeal then (present d.arbiterId).toList else []

namespace Selection

variable (s : Selection) (engagement : Engagement)

def conflicted : List String :=
  (s.recusals.recusals.findMany fun row => row.engagementId = engagement.id).map ArbiterRecusal.arbiterId ++
    (present engagement.companyId).toList ++ (present engagement.recruiterId).toList

def eligible (exclude : List String) : List User :=
  (candidates s.users (s.conflicted engagement ++ exclude)).filter fun arbiter => !isPartyAddress engagement arbiter

/-- `a` is not eligible, or somebody else is preferred. -/
def PassesOver (id : String) (appeal : Bool) (a : String) : Prop :=
  ∀ d ∈ s.dispute.disputes.get? id, ∀ engagement ∈ s.dispute.engagements.get? d.engagementId,
    let arbiters := s.eligible engagement (excluded appeal d)
    ∀ arbiter ∈ arbiters, arbiter.id = a → ∃ b ∈ arbiters, Preferred (activeDisputes s.load) b arbiter

instance (id : String) (appeal : Bool) (a : String) : Decidable (s.PassesOver id appeal a) := by
  unfold PassesOver
  infer_instance

structure Selects (id : String) (appeal : Bool) (d : Dispute) (engagement : Engagement) (arbiter : User) : Prop where
  dispute : s.dispute.disputes.get? id = some d
  engaged : s.dispute.engagements.get? d.engagementId = some engagement
  eligible : arbiter ∈ s.eligible engagement (excluded appeal d)
  least : ∀ b ∈ s.eligible engagement (excluded appeal d),
    ¬ Preferred (activeDisputes s.load) b arbiter

theorem selectsOther {id : String} {appeal : Bool} {d : Dispute} {arbiter : User} {a : String} {s : Selection} {engagement : Engagement}
    (passes : s.PassesOver id appeal a) (selects : s.Selects id appeal d engagement arbiter) : arbiter.id ≠ a := by
  intro same
  obtain ⟨b,inside,preferred⟩ := passes d selects.dispute engagement selects.engaged arbiter selects.eligible same
  exact selects.least b inside preferred

end Selection

def DisputeGets (engagementId a : String) (db db' : Db) : Prop :=
  ∃ d ∈ db'.disputes.rows, d.engagementId = engagementId ∧ d.arbiterId = some a ∧
    (db.disputes.get? d.id).bind Dispute.arbiterId ≠ some a

def AppealGets (engagementId a : String) (db db' : Db) : Prop :=
  ∃ row ∈ db'.appeals.rows, (db'.disputes.get? row.disputeId).map Dispute.engagementId = some engagementId ∧
    row.arbiterId = some a ∧ (db.appeals.get? row.disputeId).bind DisputeAppeal.arbiterId ≠ some a

/-- A dispute or an appeal on the engagement gets the arbiter `a`. -/
def Gets (engagementId a : String) (e : EscrowEvent) : Prop :=
  DisputeGets engagementId a e.before e.after ∨ AppealGets engagementId a e.before e.after

instance (engagementId a : String) (e : EscrowEvent) : Decidable (Gets engagementId a e) :=
  inferInstanceAs (Decidable ((∃ _ ∈ _, _) ∨ ∃ _ ∈ _, _))

/-- The selection behind a write, if it is for a dispute on the engagement, passes over `a`. -/
def PassedOver (engagementId a : String) (own : List EscrowEvent) (e : EscrowEvent) : Prop :=
  match e.site with
  | .assignArbiter id => (e.before.disputes.get? id).any (fun d => d.engagementId = engagementId && d.arbiterId.isNone) = true →
      ∀ s ∈ selection own, s.PassesOver id false a
  | .openAppeal id => (e.before.disputes.get? id).any (fun d => d.engagementId = engagementId) = true →
      ∀ s ∈ selection own, s.PassesOver id true a
  | _ => True

instance (engagementId a : String) (own : List EscrowEvent) (e : EscrowEvent) : Decidable (PassedOver engagementId a own e) := by
  unfold PassedOver
  generalize e.site = site
  induction site using Site.casesOn <;> infer_instance

section Selecting

variable {load : String → Nat}

theorem standingTrans {a b c : User} (first : standing a b) (second : standing b c) : standing a c := by
  rcases first with before | ⟨same,first⟩
  · rcases second with before' | ⟨same',_⟩
    · exact Or.inl (before.trans before')
    · exact Or.inl (same' ▸ before)
  · rcases second with before' | ⟨same',second⟩
    · exact Or.inl (same ▸ before')
    · exact Or.inr ⟨same.trans same',String.le_trans first second⟩

theorem standingTotal (a b : User) : standing a b ∨ standing b a := by
  rcases Nat.lt_trichotomy a.createdAt b.createdAt with before | same | after
  · exact Or.inl (Or.inl before)
  · rcases String.le_total a.id b.id with le | le
    · exact Or.inl (Or.inr ⟨same,le⟩)
    · exact Or.inr (Or.inr ⟨same.symm,le⟩)
  · exact Or.inr (Or.inl after)

theorem candidatesStanding (db : Db) (conflicted : List String) : (candidates db conflicted).Pairwise standing :=
  have : Std.Total standing := ⟨standingTotal⟩
  have : IsTrans User standing := ⟨fun _ _ _ => standingTrans⟩
  List.pairwise_insertionSort standing _

theorem leastFold (rest : List User) (best : User) (sorted : (best :: rest).Pairwise standing) :
    ∀ x ∈ best :: rest, ¬ Preferred load x (rest.foldl (fun best next => if load next.id < load best.id then next else best) best) := by
  induction rest generalizing best with
  | nil =>
    intro x inside
    obtain rfl := List.mem_singleton.mp inside
    rintro (less | ⟨_,before⟩)
    · exact Nat.lt_irrefl _ less
    · exact before (Or.inr ⟨rfl,String.le_refl _⟩)
  | cons next rest ih =>
    obtain ⟨first,sorted'⟩ := List.pairwise_cons.mp sorted
    obtain ⟨second,later⟩ := List.pairwise_cons.mp sorted'
    intro x inside
    rw [List.foldl_cons]
    by_cases less : load next.id < load best.id
    · rw [if_pos less]
      have least := ih next sorted'
      generalize rest.foldl _ next = chosen at least ⊢
      rcases List.mem_cons.mp inside with rfl | inside
      · have below : ¬ load next.id < load chosen.id := fun lower => least next List.mem_cons_self (Or.inl lower)
        rintro (lower | ⟨same,_⟩) <;> omega
      · exact least x inside
    · rw [if_neg less]
      have least := ih best (List.pairwise_cons.mpr ⟨fun y there => first y (List.mem_cons_of_mem _ there),later⟩)
      generalize rest.foldl _ best = chosen at least ⊢
      rcases List.mem_cons.mp inside with rfl | inside
      · exact least x List.mem_cons_self
      · rcases List.mem_cons.mp inside with rfl | inside
        · have above := least best List.mem_cons_self
          have below : ¬ load best.id < load chosen.id := fun lower => above (Or.inl lower)
          rintro (lower | ⟨same,before⟩)
          · omega
          · -- in a tie the best so far stands before both
            exact above (Or.inr ⟨by omega,fun stands => before (standingTrans stands (first x List.mem_cons_self))⟩)
        · exact least x (List.mem_cons_of_mem _ inside)

theorem leastLoadedLeast {arbiters : List User} {arbiter : User} (sorted : arbiters.Pairwise standing)
    (chosen : leastLoaded load arbiters = some arbiter) : ∀ b ∈ arbiters, ¬ Preferred load b arbiter := by
  cases arbiters with
  | nil => cases chosen
  | cons first rest =>
    rw [← Option.some.inj chosen]
    exact leastFold rest first sorted

end Selecting

section Steps

variable {engagementId a : String} {own : List EscrowEvent} {db db' : Db}

@[reducible] def Writes (own : List EscrowEvent) (site : Site) (db db' : Db) : Prop :=
  match site with
  | .assignArbiter id => ∃ s d engagement arbiter, selection own = some s ∧ s.Selects id false d engagement arbiter ∧
      MovesDisputes (fun d => d.id = id ∧ d.arbiterId = none) (fun _ d' => d'.arbiterId = some arbiter.id) db db'
  | .openAppeal id => ∃ appeal d d' disputes appeals, Appeals id appeal d d' db disputes appeals ∧ appeal.disputeId = id ∧
      (∀ userId, appeal.arbiterId = some userId →
        ∃ s d₀ engagement arbiter, selection own = some s ∧ s.Selects id true d₀ engagement arbiter ∧ arbiter.id = userId) ∧
      db' = { db with disputes := disputes, appeals := appeals }
  | .decideAppeal _ => ∃ disputes appeals,
      MovesDisputes (fun _ => True) SameHearing db { db with disputes := disputes } ∧
      (∀ id, (appeals.get? id).map DisputeAppeal.arbiterId = (db.appeals.get? id).map DisputeAppeal.arbiterId) ∧
      db' = { db with disputes := disputes, appeals := appeals }
  | .overrideArbiter _ | .overrideAppeal _ => False
  | _ => site.effect db db'

/-- What a request has read when it writes, and what it writes. -/
def Guard (own : List EscrowEvent) (e : EscrowEvent) : Prop := e.after = e.before ∨ Writes own e.site e.before e.after

theorem disputesKept (rows : ∀ id d', db'.disputes.get? id = some d' → d'.engagementId = engagementId → d'.arbiterId = some a →
    ∃ d, db.disputes.get? id = some d ∧ d.arbiterId = some a) : ¬ DisputeGets engagementId a db db' := by
  rintro ⟨d',inside,here,its,differs⟩
  obtain ⟨d,found,same⟩ := rows d'.id d' (Table.memGet inside) here its
  exact differs (by rw [found,Option.bind_some,same])

theorem disputesMoved {p : Dispute → Prop} {P : Dispute → Dispute → Prop} (moves : MovesDisputes p P db db')
    (each : ∀ d d', db.disputes.get? d.id = some d → p d → P d d' → d.engagementId = engagementId → d'.arbiterId = some a →
      d.arbiterId = some a) : ¬ DisputeGets engagementId a db db' := by
  obtain ⟨g,disputes,rfl,rows,moved⟩ := movedRows moves
  refine disputesKept fun id d' found' here its => ?_
  rw [show disputes.get? id = _ from rows id] at found'
  obtain ⟨d,found,rfl⟩ := Option.map_eq_some_iff.mp found'
  refine ⟨d,found,?_⟩
  rcases moved d with same | ⟨met,case',changed⟩
  · rw [← same]
    exact its
  · have mine : d.id = id := Table.getKey found
    exact each d (g d) (mine ▸ found) met changed (case'.engagementId ▸ here) its

theorem disputesHeard {p : Dispute → Prop} {P : Dispute → Dispute → Prop} (moves : MovesDisputes p P db db')
    (hearing : ∀ d d', P d d' → SameHearing d d') : ¬ DisputeGets engagementId a db db' :=
  disputesMoved moves fun d d' _ _ changed _ its => (hearing d d' changed).arbiterId ▸ its

theorem appealsKept (same : ∀ id, (db'.appeals.get? id).map DisputeAppeal.arbiterId = (db.appeals.get? id).map DisputeAppeal.arbiterId) :
    ¬ AppealGets engagementId a db db' := by
  rintro ⟨row,inside,_,its,differs⟩
  have there := same row.disputeId
  rw [show db'.appeals.get? row.disputeId = some row from Table.memGet inside,Option.map_some,its] at there
  obtain ⟨row₀,found,same₀⟩ := Option.map_eq_some_iff.mp there.symm
  exact differs (by rw [found,Option.bind_some,same₀])

theorem disputesAssigned {id : String} {s : Selection} {d₀ : Dispute} {engagement : Engagement} {arbiter : User}
    (selects : s.Selects id false d₀ engagement arbiter)
    (passes : (db.disputes.get? id).any (fun d => d.engagementId = engagementId && d.arbiterId.isNone) = true → s.PassesOver id false a)
    (moves : MovesDisputes (fun d => d.id = id ∧ d.arbiterId = none) (fun _ d' => d'.arbiterId = some arbiter.id) db db') :
    ¬ DisputeGets engagementId a db db' := by
  refine disputesMoved moves fun d d' found met assigned here its => ?_
  obtain ⟨rfl,unassigned⟩ := met
  have other := Selection.selectsOther (passes (by simp [found,here,unassigned])) selects
  exact absurd (Option.some.inj (assigned.symm.trans its)) other

theorem appealsOpened {id : String} {appeal : DisputeAppeal} {d d' : Dispute} {disputes : Table Dispute} {appeals : Table DisputeAppeal}
    (opens : Appeals id appeal d d' db disputes appeals) (its : appeal.disputeId = id)
    (other : d.engagementId = engagementId → appeal.arbiterId ≠ some a) :
    ¬ DisputeGets engagementId a db { db with disputes := disputes, appeals := appeals } ∧
      ¬ AppealGets engagementId a db { db with disputes := disputes, appeals := appeals } := by
  refine ⟨disputesKept fun id' d'' found' here assigned => ?_,?_⟩
  · by_cases same : id' = id
    · subst same
      cases opens.moved.symm.trans found'
      exact absurd (opens.arbiter.symm.trans assigned) (other (opens.engagementId ▸ here))
    · rw [show disputes.get? id' = _ from opens.others id' same] at found'
      exact ⟨d'',found',assigned⟩
  · rintro ⟨row,inside,here,assigned,differs⟩
    obtain ⟨_,_,found⟩ := Table.createGet opens.made
    have stored := (found row.disputeId).symm.trans (Table.memGet inside)
    split at stored
    · rename_i same
      cases stored
      have engaged : d.engagementId = engagementId := by
        rw [show disputes.get? appeal.disputeId = some d' from its ▸ opens.moved,Option.map_some] at here
        exact opens.engagementId ▸ Option.some.inj here
      exact other engaged assigned
    · exact differs (by rw [show db.appeals.get? row.disputeId = some row from stored,Option.bind_some,assigned])

theorem guardGets {e : EscrowEvent} (guard : Guard own e) (passed : PassedOver engagementId a own e) : ¬ Gets engagementId a e := by
  obtain ⟨thread,site,i,db,db'⟩ := e
  obtain same | writes := guard
  · cases same
    exact not_or.mpr ⟨disputesKept fun id d found _ its => ⟨d,found,its⟩,appealsKept fun _ => rfl⟩
  · simp only at writes passed
    by_cases elsewhere : Site.writesCourt site = false
    · have effect : Effect site db db' := by
        refine Or.inr ?_
        cases site <;> first | exact writes | cases elsewhere
      obtain ⟨disputes,appeals,_⟩ := courtStays effect elsewhere
      refine not_or.mpr ⟨disputesKept fun id d found _ its => ⟨d,?_,its⟩,appealsKept fun id => ?_⟩
      · rwa [← show db'.disputes = db.disputes from disputes]
      · rw [show db'.appeals = db.appeals from appeals]
    · cases site with
      | openDispute =>
        obtain ⟨row,disputes,new,made,rfl⟩ := writes
        refine not_or.mpr ⟨disputesKept fun id d found _ its => ?_,appealsKept fun _ => rfl⟩
        obtain ⟨_,_,found'⟩ := Table.createGet made
        rw [show disputes.get? id = _ from found' id] at found
        split at found
        · cases found
          cases new.arbiterId.symm.trans its
        · exact ⟨d,found,its⟩
      | assignArbiter id =>
        obtain ⟨s,d,engagement,arbiter,selected,selects,moves⟩ := writes
        refine not_or.mpr ⟨disputesAssigned selects (fun here => passed here s selected) moves,?_⟩
        obtain ⟨_,_,_,_,_,rfl⟩ := moves
        exact appealsKept fun _ => rfl
      | openAppeal id =>
        obtain ⟨appeal,d,d',disputes,appeals,opens,its,selected,rfl⟩ := writes
        refine not_or.mpr (appealsOpened opens its fun here assigned => ?_)
        obtain ⟨s,d₀,engagement,arbiter,found,selects,same⟩ := selected a assigned
        exact Selection.selectsOther (passed (by simp [opens.found,here]) s found) selects same
      | decideAppeal id =>
        obtain ⟨disputes,appeals,moves,same,rfl⟩ := writes
        have heard : ¬ DisputeGets engagementId a db { db with disputes := disputes } := disputesHeard moves fun _ _ same => same
        exact not_or.mpr ⟨heard,appealsKept same⟩
      | decide | claimSettlement | unclaimSettlement | expireAppealWindow =>
        refine not_or.mpr ⟨disputesHeard writes fun _ _ same => same.2.2,?_⟩
        obtain ⟨_,_,_,_,_,rfl⟩ := writes
        exact appealsKept fun _ => rfl
      | unlockFunds | markSettledOnChain =>
        refine not_or.mpr ⟨disputesHeard writes fun _ _ same => same.2,?_⟩
        obtain ⟨_,_,_,_,_,rfl⟩ := writes
        exact appealsKept fun _ => rfl
      | overrideArbiter | overrideAppeal => exact writes.elim
      | addReleasedAmount | syncEngagement =>
        obtain ⟨_,rfl⟩ := writes
        exact not_or.mpr ⟨disputesKept fun id d found _ its => ⟨d,found,its⟩,appealsKept fun _ => rfl⟩
      | markProcessed =>
        obtain ⟨_,_,_,rfl⟩ := writes
        exact not_or.mpr ⟨disputesKept fun id d found _ its => ⟨d,found,its⟩,appealsKept fun _ => rfl⟩
      | _ => exact absurd rfl elsewhere

end Steps

section Walks

variable (self : Config) {own : List EscrowEvent} {α : Type}

/-- The calls that appoint nobody. -/
def Site.hears : Site → Bool
  | .openDispute _ => true
  | site => site.decides

theorem hearsDecides (site : Site) (decides : site.decides = true) : Site.hears site = true := by
  cases site <;> first | rfl | cases decides

theorem hearsReads (site : Site) (reads : site.reads = true) : Site.hears site = true := by
  cases site <;> first | rfl | cases reads

theorem guardedHears {p : Op α} (acts : Acts (Within Site.hears) p) : Guarded Guard anyOutcome p own := by
  refine guardedAny (guardedActs (fun later e _ within => ?_) acts)
  obtain ⟨thread,site,answer,db,db'⟩ := e
  obtain ⟨here,same | effect⟩ := within
  · exact Or.inl same
  · refine Or.inr ?_
    cases site <;> first | exact effect | cases here

theorem guardedReads {p : Op α} (reads : Reads Site.reads p) : Guarded Guard anyOutcome p own :=
  guardedHears (actsReads hearsReads reads)

theorem selectionClock {e : EscrowEvent} (clock : e.site = .clock) : selection (e :: own) = selection own := by
  unfold selection
  rw [List.filter_cons_of_neg (by simpa using clock)]

theorem guardedSelect {done : List EscrowEvent → Except Exception (Option User) → Prop} {id : String} {appeal : Bool}
    {exclude : List String} {thread : Nat} {i : Answer} {read : Db} {d : Dispute} {engagement : Engagement}
    (excludes : exclude = excluded appeal d) (found : read.disputes.get? id = some d)
    (engaged : read.engagements.get? d.engagementId = some engagement)
    (selected : ∀ own' arbiter, (∀ a, arbiter = some a → ∃ s, selection own' = some s ∧ s.Selects id appeal d engagement a) →
      done own' (.ok arbiter)) (throws : ∀ own error, done own (.error error)) :
    Guarded Guard done (selectArbiter engagement exclude) (⟨thread,.find .dispute,i,read,read⟩ :: own) := by
  refine guardedBind (guardedBind (guardedQuery fun thread i recusals => ⟨Or.inl rfl,?_⟩))
  split
  · rename_i rows out
    split at out
    · contradiction
    · cases out
      refine guardedBind (guardedQuery fun thread' i' users => ⟨Or.inl rfl,?_⟩)
      split
      · rename_i arbiters out
        split at out
        · contradiction
        · cases out
          dsimp only
          split
          · exact selected _ none fun a chosen => absurd chosen (Option.some_ne_none a).symm
          · refine guardedBind (guardedQuery fun thread'' i'' load => ⟨Or.inl rfl,?_⟩)
            split
            · rename_i loads out
              split at out
              · contradiction
              · cases out
                subst excludes
                refine selected _ _ fun arbiter chosen => ⟨⟨read,recusals,users,load⟩,rfl,⟨found,engaged,leastLoadedMem chosen,?_⟩⟩
                exact leastLoadedLeast ((candidatesStanding _ _).filter _) chosen
            · exact throws _ _
      · exact throws _ _
  · exact throws _ _

theorem guardedAutoAssign (disputeId : String) (own : List EscrowEvent) :
    Guarded Guard anyOutcome (autoAssign self disputeId) own := by
  refine guardedBind (guardedQuery fun thread i s => ⟨Or.inl rfl,?_⟩)
  split
  · rename_i found out
    split at out
    · contradiction
    · dsimp only at out
      split at out
      · cases out
        trivial
      · rename_i dispute there
        split at out
        · contradiction
        · rename_i engagement engaged
          cases out
          dsimp only
          split
          · trivial
          · have excludes : [] = excluded false dispute := rfl
            refine guardedBind (guardedSelect excludes there engaged ?_ fun _ _ => trivial)
            intro later selected selects
            cases selected with
            | none => trivial
            | some arbiter =>
              obtain ⟨s,found,selects⟩ := selects arbiter rfl
              refine guardedBind (guardedQuery fun thread' i' s' => ⟨Or.inl rfl,?_⟩)
              refine guardedThen (guardedTransact ?_ fun thread i s error _ => ⟨Or.inl rfl,trivial⟩) fun count own => ?_
              · intro thread'' i'' s'' count after ok
                refine ⟨Or.inr ⟨s,dispute,engagement,arbiter,?_,selects,?_⟩,trivial⟩
                · rw [selectionClock rfl,found]
                · split at ok
                  · contradiction
                  · cases ok
                    refine movesDisputes ?_ ?_
                    · intro d matched
                      simp only [Bool.and_eq_true,decide_eq_true_eq,Option.isNone_iff_eq_none] at matched
                      exact matched.1
                    · exact fun d => ⟨⟨rfl,rfl,rfl,rfl⟩,rfl⟩
              · split
                · exact guardedReads (readsBind readsNotify fun _ => readsFind _ _)
                · exact guardedReads (readsFind _ _)
  · trivial

theorem guardedOpenForMilestone (milestoneId : String) (reason raisedById : Option String) (own : List EscrowEvent) :
    Guarded Guard anyOutcome (DisputesService.openForMilestone self milestoneId reason raisedById) own := by
  refine guardedThen (guardedReads (readsFind _ _)) fun existing own => ?_
  split
  · trivial
  · refine guardedThen (guardedReads (readsFind _ _)) fun found own => ?_
    split
    · trivial
    · refine guardedThen (guardedReads readsNow) fun at' own => guardedThen (guardedHears ?_) fun dispute own => ?_
      · refine actsWrite rfl fun i db value db' ok => ?_
        dsimp only at ok
        split at ok
        · contradiction
        · rename_i disputes made
          cases ok
          exact ⟨_,disputes,⟨rfl,rfl,rfl,rfl,rfl⟩,made,rfl⟩
      · exact guardedThen (guardedAutoAssign self _ own) fun _ _ => trivial

open AppealService in
theorem guardedOpenAppeal (disputeId : String) (user : DisputeActor) (reason : String) (own : List EscrowEvent) :
    Guarded Guard anyOutcome (openAppeal self disputeId user reason) own := by
  refine guardedThen (guardedReads readsNow) fun at' own => guardedBind (guardedQuery fun thread i s => ⟨Or.inl rfl,?_⟩)
  split
  · rename_i found out
    split at out
    · contradiction
    · dsimp only at out
      split at out
      · cases out
        trivial
      · rename_i dispute there
        split at out
        · contradiction
        · rename_i engagement engaged
          cases out
          dsimp only
          split
          · trivial
          · split
            · trivial
            · split
              · trivial
              · split
                · split
                  · trivial
                  · have excludes : (present dispute.arbiterId).toList = excluded true dispute := rfl
                    refine guardedBind (guardedSelect excludes there engaged ?_ fun _ _ => trivial)
                    intro later arbiter selects
                    refine guardedBind (guardedHandle (guardedTransact ?_ fun thread i s error _ => ⟨Or.inl rfl,?_⟩))
                    · intro thread' i' s' appeal after ok
                      refine ⟨Or.inr ?_,guardedReads ?_⟩
                      · split at ok
                        · contradiction
                        · obtain ⟨d,d',disputes,appeals,opens,rest⟩ := appealsCreate self ok
                          refine ⟨_,d,d',disputes,appeals,opens,rfl,?_,rest⟩
                          intro userId its
                          obtain ⟨a,same,rfl⟩ := Option.map_eq_some_iff.mp its
                          obtain ⟨s,found,selects⟩ := selects a same
                          exact ⟨s,dispute,engagement,a,found,selects,rfl⟩
                      · exact readsBind (readsAnnounceAppeal _ _ _) fun _ => trivial
                    · dsimp only
                      split <;> trivial
                · trivial
  · trivial

open AppealService in
theorem decideAppealKeeps {disputeId : String} {outcome : DisputeOutcome} {slaStatus : DisputeSlaStatus} {at' : Nat} {db db' : Db}
    (recorded : recordAppealDecision disputeId outcome slaStatus at' db = .ok ((),db')) :
    ∃ disputes appeals, MovesDisputes (fun _ => True) SameHearing db { db with disputes := disputes } ∧
      (∀ id, (appeals.get? id).map DisputeAppeal.arbiterId = (db.appeals.get? id).map DisputeAppeal.arbiterId) ∧
      db' = { db with disputes := disputes, appeals := appeals } := by
  unfold recordAppealDecision at recorded
  dsimp only at recorded
  split at recorded
  · contradiction
  · obtain ⟨out,updated,same⟩ := exceptBind.mp recorded
    cases same
    obtain ⟨_,_,_,_,_,same⟩ := Db.updateDisputeCases updated
    refine ⟨db.disputes.update disputeId (finallyResolved outcome slaStatus at'),_,?_,?_,same⟩
    · exact movesDisputes (fun _ _ => trivial) fun d => ⟨⟨rfl,rfl,rfl,rfl⟩,⟨rfl,rfl⟩⟩
    · intro id
      have keeps : ∀ row, Keyed.key (decidedAs outcome at' row) = Keyed.key row := fun _ => rfl
      have kept : ∀ row, (decidedAs outcome at' row).arbiterId = row.arbiterId := fun _ => rfl
      exact Table.getUpdateManyMap db.appeals keeps kept id

open AppealService in
theorem guardedDecideAppeal (disputeId : String) (user : DisputeActor) (outcome : DisputeOutcome) (own : List EscrowEvent) :
    Guarded Guard anyOutcome (decideAppeal self disputeId user outcome) own := by
  refine guardedThen (guardedReads (readsFind _ _)) fun found own => ?_
  split
  · trivial
  · split
    · trivial
    · split
      · trivial
      · refine guardedThen (guardedReads readsNow) fun at' own => guardedThen ?_ fun _ own => guardedHears ?_
        · refine guardedTransact ?_ fun thread i s error _ => ⟨Or.inl rfl,trivial⟩
          intro thread i s value after ok
          refine ⟨Or.inr ?_,trivial⟩
          split at ok
          · contradiction
          · exact decideAppealKeeps ok
        · refine actsBind (actsReads hearsReads (readsNotifyParties _ _)) fun _ => ?_
          exact actsSettle self (fun site here => hearsDecides site (decidesSettles site here)) _

theorem readsRecuse (engagementId userId : String) (userRole : UserRole) :
    Reads Site.reads (EngagementsService.recuseArbiter engagementId userId userRole) := by
  refine readsBind (readsFind _ _) fun found => ?_
  split
  · trivial
  · split
    · trivial
    · exact readsBind (readsFind _ _) fun admins => readsBind (stepsForEach (fun _ => readsNotify) admins) fun _ => trivial

end Walks

section Runs

variable (self : Config) (roleOf : String → UserRole)

def handler : Request → Op Unit
  | .openForMilestone milestoneId reason raisedById => do
      let _ ← DisputesService.openForMilestone self milestoneId reason raisedById
  | .autoAssign disputeId => do
      let _ ← autoAssign self disputeId
  | .openAppeal disputeId userId stellarAddress reason => do
      let _ ← AppealService.openAppeal self disputeId (actor roleOf userId stellarAddress) reason
  | .decide id outcome userId stellarAddress => do
      let _ ← DisputesController.decide self id outcome (actor roleOf userId stellarAddress)
  | .recuseArbiter engagementId userId => do
      let _ ← EngagementsService.recuseArbiter engagementId userId (roleOf userId)

/-- Between the calls the rest of the program may write any row. -/
def service : System Request (Db → Db) Site Answer Db Exception Unit where
  handler := handler self roleOf
  environment change db := change db

abbrev RecusalMove := Move Request (Db → Db) Answer

abbrev RecusalPool := Pool Request Site Answer Db Exception Unit

theorem guardedHandler (request : Request) : Guarded Guard anyOutcome (handler self roleOf request) [] := by
  cases request with
  | openForMilestone => exact guardedThen (guardedOpenForMilestone self _ _ _ _) fun _ _ => trivial
  | autoAssign => exact guardedThen (guardedAutoAssign self _ _) fun _ _ => trivial
  | openAppeal => exact guardedThen (guardedOpenAppeal self _ _ _ _) fun _ _ => trivial
  | recuseArbiter => exact guardedThen (guardedReads (readsRecuse _ _ _)) fun _ _ => trivial
  | decide =>
    refine guardedThen (guardedThen (guardedReads (readsFind _ _)) fun found own => ?_) fun _ _ => trivial
    split
    · trivial
    · split
      · exact guardedDecideAppeal self _ _ _ own
      · exact guardedHears (actsDecide self hearsDecides _ _ _)

theorem recusalRun (db : Db) (moves : List RecusalMove) :
    GuardedPool (fun _ => Guard) (fun _ => True) ((service self roleOf).run (Pool.initial db) moves) := by
  have start : GuardedPool (fun _ => Guard) (fun _ => True) (Pool.initial db : RecusalPool) := guardedInitial trivial
  have any : Meets (fun _ _ _ => True) ((service self roleOf).run (Pool.initial db) moves) :=
    meetsAlways (fun _ _ _ _ => trivial) _
  exact guardedRun (fun _ _ _ _ _ _ _ _ _ => trivial) (fun _ _ _ => trivial) (guardedHandler self roleOf) start moves any

/-- The engagement and the arbiter of a request that has succeeded. -/
def recused (t : Thread Request Site Answer Db Exception Unit) : Option (String × String) :=
  match t.request,t.process with
  | .recuseArbiter engagementId userId, .ret _ => some (engagementId,userId)
  | _, _ => none

/-- Who has recused himself by then is appointed by no request that starts later. -/
def Effective (past pool : RecusalPool) : Prop :=
  ∀ t ∈ past.threads, ∀ r ∈ recused t, ∀ e ∈ pool.history, past.threads.length ≤ e.thread → ¬ Gets r.1 r.2 e

instance (past pool : RecusalPool) : Decidable (Effective past pool) := by
  unfold Effective
  infer_instance

/-- The selections that start later pass over who has recused himself by then. -/
def Heeded (past : RecusalPool) (_ : Request) (earlier : List EscrowEvent) (e : EscrowEvent) : Prop :=
  past.threads.length ≤ e.thread → ∀ t ∈ past.threads, ∀ r ∈ recused t,
    PassedOver r.1 r.2 (earlier.filter fun e' => e'.thread = e.thread) e

instance (past : RecusalPool) (request : Request) (earlier : List EscrowEvent) (e : EscrowEvent) :
    Decidable (Heeded past request earlier e) := by
  unfold Heeded
  infer_instance

theorem recusalEffective (self : Config) (roleOf : String → UserRole) (db : Db) (before later : List RecusalMove) :
    let past := (service self roleOf).run (Pool.initial db) before
    let pool := (service self roleOf).run past later
    Meets (Heeded past) pool → Effective past pool := by
  intro past pool heeded t there r recusal e inside starts
  have guarded : GuardedPool (fun _ => Guard) (fun _ => True) pool := by
    have whole := recusalRun self roleOf db (before ++ later)
    rwa [System.runAppend] at whole
  obtain ⟨request,present⟩ : ∃ t, pool.threads[e.thread]? = some t := ⟨_,List.getElem?_eq_getElem (guarded.known e inside)⟩
  obtain ⟨earlier,_,guard,heeds⟩ := meetsAt (meetsBoth guarded.seen heeded) inside
  exact guardGets (guard request present) (heeds request present starts t there r recusal)

def busy : Db := { court with
  recusals := .single { engagementId := "e", arbiterId := "b" }
  users := ⟨[{ id := "a", role := .arbiter, stellarAddress := some "GA" },{ id := "b", role := .arbiter }],by decide⟩ }

-- the assigned arbiter leaves the engagement, whose dispute is opened next
def leaving : List RecusalMove :=
  [.start (.recuseArbiter "e" "a"),.answer 0 {},.answer 0 {}]

def opening : List RecusalMove :=
  [.start (.openForMilestone "m" none none),.answer 1 {},.answer 1 {},.answer 1 {},.answer 1 { text := "d" },.answer 1 {},.answer 1 {},
    .answer 1 {},.answer 1 {},.answer 1 {},.answer 1 {},.answer 1 {},.answer 1 {}]

def noted (db : Db) : Db := { db with recusals := ⟨[{ engagementId := "e", arbiterId := "a" }],by decide⟩ }

theorem recusalEffectiveNoted :
    let past := (service {} roles).run (Pool.initial busy) leaving
    let pool := (service {} roles).run past (.environment noted :: opening)
    Effective past pool ∧ pool.world.disputes.rows.map Dispute.arbiterId = [some "b"] := by
  intro past pool
  exact ⟨recusalEffective {} roles busy leaving (.environment noted :: opening) (by decide +kernel),by decide +kernel⟩

theorem recusedAppointed :
    let past := (service {} roles).run (Pool.initial busy) leaving
    ¬ Effective past ((service {} roles).run past opening) := by
  decide +kernel

end Runs

end Recusals

end HireSettle.Escrow
