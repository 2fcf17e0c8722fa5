import HireSettle.Escrow.PartialReleases
import HireSettle.Workflow.Effects
import HireSettle.Workflow.Facts

/-! A partial release is paid at most once, with both consents and never after a
rejection. Whoever claims a proposal holds a token for it until the payment is
made or has failed; a row whose token is out is an unpaid proposal that carries
`executedAt`, and so is everything a second claim or a rejection would need. -/
namespace HireSettle.Escrow.PartialReleaseService
open Workflow

def paidRelease : Site → Option String
  | .releasePartialMilestonePayment releaseId _ _ _ _ => some releaseId
  | _ => none

def pays (id : String) (e : EscrowEvent) : Bool := paidRelease e.site = some id && !e.answer.fails

def partyOf (db : Db) (milestoneId : String) (user : PartyUser) : Option PartyRole := do
  let milestone ← db.milestones.get? milestoneId
  let engagement ← db.engagements.get? milestone.engagementId
  engagementPartyRole engagement user

/-- The write that sets the approval stamp of this role, by a user who has it. -/
def Consents (role : PartyRole) (id : String) (e : EscrowEvent) : Prop :=
  ∃ user row, (e.site = .createRelease user ∨ e.site = .approveRelease id user) ∧
    (e.before.partialReleases.get? id).bind (approvedAt role) = none ∧
    e.after.partialReleases.get? id = some row ∧ (approvedAt role row).isSome = true ∧
    partyOf e.after row.milestoneId user = some role

def Consented (history : List EscrowEvent) (id : String) : Prop :=
  ∀ role ∈ [PartyRole.company,.recruiter], ∃ d ∈ history, Consents role id d

def Lawful (earlier : List EscrowEvent) (e : EscrowEvent) : Prop :=
  ∀ id, pays id e = true → (∀ d ∈ earlier, pays id d = false) ∧ Consented earlier id

structure Sound (c : EscrowSnapshot) (n : Nat) (id : String) : Prop where
  single : n ≤ 1
  claimed : 0 < n → (∀ e ∈ c.history, pays id e = false) ∧ Consented c.history id ∧
    ∃ row, c.world.partialReleases.get? id = some row ∧ row.status = .proposed ∧ row.executedAt.isSome = true
  paid : ∀ e ∈ c.history, pays id e = true →
    ∃ row, c.world.partialReleases.get? id = some row ∧ row.executedAt.isSome = true ∧
      (row.status = .proposed ∨ row.status = .executed)
  stamped : ∀ role ∈ [PartyRole.company,.recruiter], ∀ row, c.world.partialReleases.get? id = some row →
    (approvedAt role row).isSome = true → ∃ d ∈ c.history, Consents role id d

inductive Fact where
  | party (milestoneId : String) (engagement : Engagement)
  | proposed (id milestoneId : String)
  | consented (id : String)
  | paid (id : String)
  | rejected (id : String)

def Holds (c : EscrowSnapshot) : Fact → Prop
  | .party milestoneId engagement => ∀ user, partyOf c.world milestoneId user = engagementPartyRole engagement user
  | .proposed id milestoneId => ∃ row, c.world.partialReleases.get? id = some row ∧ row.milestoneId = milestoneId
  | .consented id => Consented c.history id
  | .paid id => ∃ d ∈ c.history, pays id d = true
  | .rejected id => ∃ row, c.world.partialReleases.get? id = some row ∧ row.status = .rejected

def payments : Knowledge Site Answer Db (Multiset String) Fact where
  base c tokens := AllMeet Lawful c.history ∧ ∀ id, Sound c (tokens.count id) id
  holds := Holds
  admits _ _ := True

/-- Parties stay; a row keeps its milestone, and a rejected one its status. -/
structure Ages (db db' : Db) : Prop where
  party : ∀ milestoneId user, partyOf db' milestoneId user = partyOf db milestoneId user
  row : ∀ id row, db.partialReleases.get? id = some row →
    ∃ row', db'.partialReleases.get? id = some row' ∧ row'.milestoneId = row.milestoneId ∧
      (row.status = .rejected → row'.status = .rejected)

section Base

variable {c : EscrowSnapshot} {db' : Db} {thread n : Nat} {site : Site} {i : Answer} {id : String}
variable {tokens mine frame : Multiset String} {known : Multiset Fact}

theorem consentedLater {history : List EscrowEvent} {e : EscrowEvent} (consented : Consented history id) :
    Consented (e :: history) id := by
  intro role side
  obtain ⟨d,earlier,consents⟩ := consented role side
  exact ⟨d,List.mem_cons_of_mem e earlier,consents⟩

theorem agesRefl (db : Db) : Ages db db := ⟨fun _ _ => rfl,fun _ row found => ⟨row,found,rfl,fun same => same⟩⟩

theorem remembers (ages : Ages c.world db') : payments.Remembers c (c.record thread site i db') := by
  intro fact true
  cases fact with
  | party milestoneId engagement => exact fun user => (ages.party milestoneId user).trans (true user)
  | proposed id milestoneId =>
    obtain ⟨row,found,rfl⟩ := true
    obtain ⟨row',found',same,_⟩ := ages.row id row found
    exact ⟨row',found',same⟩
  | consented id => exact consentedLater true
  | paid id =>
    obtain ⟨d,earlier,paid⟩ := true
    exact ⟨d,List.mem_cons_of_mem _ earlier,paid⟩
  | rejected id =>
    obtain ⟨row,found,rejected⟩ := true
    obtain ⟨row',found',_,stays⟩ := ages.row id row found
    exact ⟨row',found',stays rejected⟩

theorem unpaidLater (other : pays id (c.event thread site i db') = false)
    (unpaid : ∀ e ∈ c.history, pays id e = false) :
    ∀ e ∈ (c.record thread site i db').history, pays id e = false := by
  intro e inside
  rcases List.mem_cons.mp inside with rfl | earlier
  · exact other
  · exact unpaid e earlier

theorem soundElsewhere (sound : Sound c n id)
    (same : db'.partialReleases.get? id = c.world.partialReleases.get? id)
    (other : pays id (c.event thread site i db') = false) : Sound (c.record thread site i db') n id := by
  constructor
  · exact sound.single
  · intro out
    obtain ⟨unpaid,consented,row,found,rest⟩ := sound.claimed out
    exact ⟨unpaidLater other unpaid,consentedLater consented,row,same.trans found,rest⟩
  · intro e inside paid
    rcases List.mem_cons.mp inside with rfl | earlier
    · exact absurd paid (by simp [other])
    · obtain ⟨row,found,rest⟩ := sound.paid e earlier paid
      exact ⟨row,same.trans found,rest⟩
  · intro role side row found stamp
    obtain ⟨d,earlier,consents⟩ := sound.stamped role side row (same.symm.trans found) stamp
    exact ⟨d,List.mem_cons_of_mem _ earlier,consents⟩

theorem paysNothing (quiet : paidRelease site = none) (id : String) : pays id (c.event thread site i db') = false := by
  simp [pays,Snapshot.event,quiet]

theorem baseAt (base : payments.base c tokens) (quiet : paidRelease site = none) {tokens' : Multiset String}
    (here : Sound c (tokens.count id) id → Sound (c.record thread site i db') (tokens'.count id) id)
    (elsewhere : ∀ other, other ≠ id → db'.partialReleases.get? other = c.world.partialReleases.get? other ∧
      tokens'.count other = tokens.count other) :
    payments.base (c.record thread site i db') tokens' := by
  refine ⟨⟨?_,base.1⟩,fun other => ?_⟩
  · intro id' paid
    exact absurd paid (by simp [paysNothing quiet])
  · by_cases same : other = id
    · exact same ▸ here (base.2 id)
    · obtain ⟨row,count⟩ := elsewhere other same
      exact count ▸ soundElsewhere (base.2 other) row (paysNothing quiet other)

theorem baseStays (base : payments.base c tokens) (quiet : paidRelease site = none)
    (same : ∀ id, db'.partialReleases.get? id = c.world.partialReleases.get? id) :
    payments.base (c.record thread site i db') tokens :=
  have here : Sound c (tokens.count "") "" → Sound (c.record thread site i db') (tokens.count "") "" :=
    fun sound => soundElsewhere sound (same "") (paysNothing quiet "")
  baseAt base quiet here fun other _ => ⟨same other,rfl⟩

end Base

section Rows

variable {c : EscrowSnapshot} {db db' : Db} {thread n n' : Nat} {site : Site} {i : Answer} {id : String}

theorem soundRow (sound : Sound c n id) (quiet : paidRelease site = none) {row row' : MilestonePartialRelease}
    (found : c.world.partialReleases.get? id = some row) (found' : db'.partialReleases.get? id = some row')
    (single : n' ≤ 1)
    (claimed : 0 < n' → (∀ e ∈ c.history, pays id e = false) ∧ Consented c.history id ∧
      row'.status = .proposed ∧ row'.executedAt.isSome = true)
    (paid : row.executedAt.isSome = true → (row.status = .proposed ∨ row.status = .executed) →
      (∃ e ∈ c.history, pays id e = true) →
      row'.executedAt.isSome = true ∧ (row'.status = .proposed ∨ row'.status = .executed))
    (stamped : ∀ role ∈ [PartyRole.company,.recruiter], (approvedAt role row').isSome = true →
      (approvedAt role row).isSome = true ∨ Consents role id (c.event thread site i db')) :
    Sound (c.record thread site i db') n' id := by
  constructor
  · exact single
  · intro out
    obtain ⟨unpaid,consented,open',executing⟩ := claimed out
    exact ⟨unpaidLater (paysNothing quiet id) unpaid,consentedLater consented,row',found',open',executing⟩
  · intro e inside pay
    rcases List.mem_cons.mp inside with rfl | earlier
    · exact absurd pay (by simp [paysNothing quiet])
    · obtain ⟨old,there,executing,status⟩ := sound.paid e earlier pay
      cases Option.some.inj (there.symm.trans found)
      exact ⟨row',found',paid executing status ⟨e,earlier,pay⟩⟩
  · intro role side new there stamp
    cases Option.some.inj (there.symm.trans found')
    rcases stamped role side stamp with before | now
    · obtain ⟨d,earlier,consents⟩ := sound.stamped role side row found before
      exact ⟨d,List.mem_cons_of_mem _ earlier,consents⟩
    · exact ⟨_,List.mem_cons_self,now⟩

theorem agesRows {releases : Table MilestonePartialRelease}
    (row : ∀ id row, db.partialReleases.get? id = some row → ∃ row', releases.get? id = some row' ∧
      row'.milestoneId = row.milestoneId ∧ (row.status = .rejected → row'.status = .rejected)) :
    Ages db { db with partialReleases := releases } := ⟨fun _ _ => rfl,row⟩

variable {p : MilestonePartialRelease → Bool} {f : MilestonePartialRelease → MilestonePartialRelease}
variable {keeps : ∀ r, (f r).id = r.id}

theorem agesWhere (milestone : ∀ r, (f r).milestoneId = r.milestoneId)
    (rejected : ∀ r, p r = true → r.status = .rejected → (f r).status = .rejected) :
    Ages db (db.updateReleasesWhere p f keeps).2 := by
  refine agesRows fun id row found => ⟨if p row then f row else row,by rw [Table.getUpdateMany,found]; rfl,?_⟩
  cases matched : p row with
  | true => exact ⟨milestone row,rejected row matched⟩
  | false => exact ⟨rfl,fun same => same⟩

end Rows

section Calls

variable {α : Type} {site : Site} {mine : Multiset String} {known : Multiset Fact} {id : String}

theorem safeRead {f : Answer → Db → Except Exception α} {done : Except Exception α → Multiset String × Multiset Fact → Prop}
    (quiet : paidRelease site = none)
    (answered : ∀ c tokens i, payments.base c tokens → (∀ fact ∈ known, Holds c fact) →
      payments.Learns c known (fun known => done (f i c.world) (mine,known))) :
    Safe payments.contract done (Process.query site f) (mine,known) := by
  refine Knowledge.safeQuery fun c frame thread i base facts _ => ?_
  have base' : payments.base (c.record thread site i c.world) (mine + frame) := baseStays base quiet fun _ => rfl
  exact ⟨mine,base',remembers (agesRefl _),answered (c.record thread site i c.world) _ i base' fun fact inside =>
    remembers (agesRefl _) fact (facts fact inside)⟩

theorem safeWrite {f : Answer → Db → Except Exception (α × Db)}
    {done : Except Exception α → Multiset String × Multiset Fact → Prop} (quiet : paidRelease site = none)
    (failed : ∀ error, done (.error error) (mine,known))
    (commits : ∀ c frame thread i value after, payments.base c (mine + frame) → (∀ fact ∈ known, Holds c fact) →
      f i c.world = .ok (value,after) → payments.Leaves c (c.record thread site i after) frame known
        (fun mine known => done (.ok value) (mine,known))) :
    Safe payments.contract done (write site f) (mine,known) := by
  refine Knowledge.safeTransact ?_ ?_
  · intro c frame thread i value after base facts ok _
    split at ok
    · contradiction
    · exact commits c frame thread i value after base facts ok
  · intro c frame thread i error base facts _ _
    exact ⟨mine,baseStays base quiet fun _ => rfl,remembers (agesRefl _),Knowledge.learnsNothing (failed error)⟩

theorem paymentsIgnore (site : Site) (reads : site.reads = true) : payments.contract.Ignores site := by
  rintro c ⟨tokens,facts⟩ thread i ⟨base,true⟩
  have quiet : paidRelease site = none := by cases site <;> first | rfl | cases reads
  exact ⟨baseStays base quiet fun _ => rfl,fun fact inside => remembers (agesRefl _) fact (true fact inside)⟩

theorem safeElse {f : Answer → Db → Except Exception (α × Db)}
    {done : Except Exception α → Multiset String × Multiset Fact → Prop} (quiet : paidRelease site = none)
    (else' : ∀ i db value after, f i db = .ok (value,after) → after.partialReleases = db.partialReleases ∧
      ∀ milestoneId user, partyOf after milestoneId user = partyOf db milestoneId user)
    (fin : ∀ out, done out (mine,known)) : Safe payments.contract done (write site f) (mine,known) := by
  refine safeWrite quiet (fun error => fin _) fun c frame thread i value after base facts ok => ?_
  obtain ⟨same,party⟩ := else' i c.world value after ok
  refine ⟨mine,baseStays base quiet fun id => by rw [same],remembers ⟨party,fun id row found => ?_⟩,Knowledge.learnsNothing (fin _)⟩
  exact ⟨row,same ▸ found,rfl,fun stays => stays⟩

theorem safeLoad {engagementId : String} {milestoneIndex : Nat}
    {done : Except Exception (Milestone × Engagement) → Multiset String × Multiset Fact → Prop}
    (failed : ∀ error, done (.error error) (mine,known))
    (loaded : ∀ milestone engagement, done (.ok (milestone,engagement)) (mine,.party milestone.id engagement ::ₘ known)) :
    Safe payments.contract done (load engagementId milestoneIndex) (mine,known) := by
  refine safeRead rfl fun c tokens i base facts => ?_
  dsimp only
  split
  · exact Knowledge.learnsNothing (failed _)
  · split
    · exact Knowledge.learnsNothing (failed _)
    · rename_i milestone found
      split
      · exact Knowledge.learnsNothing (failed _)
      · rename_i engagement there
        refine Knowledge.learnsFact (.party milestone.id engagement) (fun user => ?_) (loaded _ _)
        have row : c.world.milestones.get? milestone.id = some milestone := (Table.findFirstGet found).1
        simp [partyOf,row,there]

theorem safeParty {engagement : Engagement} {user : PartyUser} {message : String} {β : Type} {k : PartyRole → Op β}
    {done : Except Exception β → Multiset String × Multiset Fact → Prop}
    (refused : done (.error (.forbidden message)) (mine,known))
    (admitted : ∀ role ∈ [PartyRole.company,.recruiter], engagementPartyRole engagement user = some role →
      Safe payments.contract done (k role) (mine,known)) :
    Safe payments.contract done (requirePartyRole engagement user [.company,.recruiter] message >>= k) (mine,known) := by
  unfold requirePartyRole
  split
  · rename_i role party
    split
    · rename_i side
      exact admitted role side party
    · exact refused
  · exact refused

theorem safeFindOpen {milestoneId : String}
    {done : Except Exception MilestonePartialRelease → Multiset String × Multiset Fact → Prop}
    (failed : ∀ error known, done (.error error) (mine,known))
    (found : ∀ release, release.id = id → done (.ok release) (mine,.proposed id milestoneId ::ₘ known)) :
    Safe payments.contract done (findOpen milestoneId id) (mine,known) := by
  refine safeBind (safeRead rfl fun c tokens i base facts => ?_)
  dsimp only
  split
  · rename_i value here
    split at here
    · contradiction
    · cases here
      split
      · exact Knowledge.learnsNothing (failed _ _)
      · rename_i release there
        split
        · exact Knowledge.learnsNothing (failed _ _)
        · rename_i same
          refine Knowledge.learnsFact (.proposed id milestoneId) ⟨release,there,not_not.mp same⟩ ?_
          split
          · exact found release (Table.getKey there)
          all_goals exact failed _ _
  · exact Knowledge.learnsNothing (failed _ _)

theorem dualConsent {c : EscrowSnapshot} {tokens : Multiset String} {row : MilestonePartialRelease}
    (base : payments.base c tokens) (found : c.world.partialReleases.get? id = some row)
    (dual : hasDualApproval row = true) : Consented c.history id := by
  simp only [hasDualApproval,Bool.and_eq_true] at dual
  intro role side
  refine (base.2 id).stamped role side row found ?_
  rcases List.mem_cons.mp side with rfl | rest
  · exact dual.1
  · rw [List.mem_singleton.mp rest]
    exact dual.2

theorem safeFindRelease {done : Except Exception MilestonePartialRelease → Multiset String × Multiset Fact → Prop}
    (failed : ∀ error, done (.error error) (mine,known))
    (single : ∀ release, release.id = id → hasDualApproval release = false → done (.ok release) (mine,known))
    (dual : ∀ release, release.id = id → hasDualApproval release = true →
      done (.ok release) (mine,.consented id ::ₘ known)) :
    Safe payments.contract done (findRelease id) (mine,known) := by
  refine safeRead rfl fun c tokens i base facts => ?_
  dsimp only [required]
  split
  · exact Knowledge.learnsNothing (failed _)
  · split
    · rename_i release there
      cases both : hasDualApproval release with
      | false => exact Knowledge.learnsNothing (single release (Table.getKey there) both)
      | true => exact Knowledge.learnsFact (.consented id) (dualConsent base there both) (dual release (Table.getKey there) both)
    · exact Knowledge.learnsNothing (failed _)

end Calls

section Stamps

variable {role role' : PartyRole} {userId : Option String} {at' : Nat}

theorem stampOther (side : role ∈ [PartyRole.company,.recruiter]) (side' : role' ∈ [PartyRole.company,.recruiter])
    (differs : role' ≠ role) (release : MilestonePartialRelease) :
    approvedAt role' (approvedBy role userId at' release) = approvedAt role' release := by
  cases role <;> cases role' <;> simp_all [approvedAt,approvedBy]

theorem stampKeeps (role : PartyRole) (userId : Option String) (at' : Nat) (release : MilestonePartialRelease) :
    (approvedBy role userId at' release).id = release.id ∧
    (approvedBy role userId at' release).milestoneId = release.milestoneId ∧
    (approvedBy role userId at' release).status = release.status ∧
    (approvedBy role userId at' release).executedAt = release.executedAt := by
  cases role <;> exact ⟨rfl,rfl,rfl,rfl⟩

end Stamps

section Writes

variable {mine : Multiset String} {known : Multiset Fact} {id : String}

theorem leavesRow {c : EscrowSnapshot} {db' : Db} {thread : Nat} {site : Site} {i : Answer} {mine' frame : Multiset String}
    {done : Multiset String → Multiset Fact → Prop} (base : payments.base c (mine + frame)) (quiet : paidRelease site = none)
    (ages : Ages c.world db')
    (elsewhere : ∀ other, other ≠ id → db'.partialReleases.get? other = c.world.partialReleases.get? other)
    (others : ∀ other, other ≠ id → mine'.count other = mine.count other)
    (sound : Sound c ((mine + frame).count id) id → Sound (c.record thread site i db') ((mine' + frame).count id) id)
    (learns : payments.Learns (c.record thread site i db') known (done mine')) :
    payments.Leaves c (c.record thread site i db') frame known done := by
  refine ⟨mine',baseAt base quiet sound fun other differs => ⟨elsewhere other differs,?_⟩,remembers ages,learns⟩
  rw [Multiset.count_add,Multiset.count_add,others other differs]

theorem safeUpdateWhere (id : String) {site : Site} {p : MilestonePartialRelease → Bool}
    {f : MilestonePartialRelease → MilestonePartialRelease} {keeps : ∀ r, (f r).id = r.id}
    {done : Except Exception Nat → Multiset String × Multiset Fact → Prop}
    (quiet : paidRelease site = none) (byId : ∀ r, p r = true → r.id = id)
    (milestone : ∀ r, (f r).milestoneId = r.milestoneId)
    (rejected : ∀ r, p r = true → r.status = .rejected → (f r).status = .rejected)
    (failed : ∀ error, done (.error error) (mine,known)) (missed : done (.ok 0) (mine,known))
    (met : ∀ c frame thread i row n db', payments.base c (mine + frame) → (∀ fact ∈ known, Holds c fact) →
      c.world.partialReleases.get? id = some row → p row = true → n ≠ 0 → Ages c.world db' →
      db'.partialReleases.get? id = some (f row) →
      ∃ mine', (∀ other, other ≠ id → mine'.count other = mine.count other) ∧
        (Sound c ((mine + frame).count id) id → Sound (c.record thread site i db') ((mine' + frame).count id) id) ∧
        payments.Learns (c.record thread site i db') known (fun known => done (.ok n) (mine',known))) :
    Safe payments.contract done (write site fun _ db => .ok (db.updateReleasesWhere p f keeps)) (mine,known) := by
  refine safeWrite quiet failed fun c frame thread i value after base facts ok => ?_
  cases ok
  have ages : Ages c.world (c.world.updateReleasesWhere p f keeps).2 := agesWhere milestone rejected
  rcases Table.updateManyCases c.world.partialReleases f keeps byId with
    ⟨some',row,found,matched,found',elsewhere⟩ | ⟨none,same⟩
  · obtain ⟨mine',others,sound,learns⟩ := met c frame thread i row _ _ base facts found matched some' ages found'
    exact leavesRow base quiet ages elsewhere others sound learns
  · exact ⟨mine,baseStays base quiet same,remembers ages,Knowledge.learnsNothing (by rw [none]; exact missed)⟩

theorem safeApproveRelease {role : PartyRole} {user : PartyUser} (milestoneId : String) (engagement : Engagement) {at' : Nat}
    {keeps : ∀ r, (approvedBy role user.id at' r).id = r.id}
    {done : Except Exception Nat → Multiset String × Multiset Fact → Prop}
    (side : role ∈ [PartyRole.company,.recruiter]) (party : engagementPartyRole engagement user = some role)
    (parties : Fact.party milestoneId engagement ∈ known) (proposed : Fact.proposed id milestoneId ∈ known)
    (fin : ∀ out, done out (mine,known)) :
    Safe payments.contract done (write (.approveRelease id user) fun _ db => .ok (db.updateReleasesWhere
      (fun r => r.id = id && r.status = .proposed && (approvedAt role r).isNone) (approvedBy role user.id at') keeps))
      (mine,known) := by
  refine safeUpdateWhere id rfl (fun r matched => ?_) (fun r => (stampKeeps role user.id at' r).2.1)
    (fun r _ rejected => (stampKeeps role user.id at' r).2.2.1.trans rejected) (fun error => fin _) (fin _) ?_
  · simp only [Bool.and_eq_true,decide_eq_true_eq] at matched
    exact matched.1.1
  · intro c frame thread i row n db' base facts found matched _ ages found'
    refine ⟨mine,fun _ _ => rfl,fun sound => ?_,Knowledge.learnsNothing (fin _)⟩
    obtain ⟨_,milestone,status,executed⟩ := stampKeeps role user.id at' row
    refine soundRow sound rfl found found' sound.single ?_ ?_ ?_
    · intro out
      obtain ⟨unpaid,consented,row',there,rest⟩ := sound.claimed out
      cases Option.some.inj (there.symm.trans found)
      exact ⟨unpaid,consented,status ▸ rest.1,executed ▸ rest.2⟩
    · exact fun executing either _ => ⟨executed ▸ executing,status ▸ either⟩
    · intro role' side' stamp
      by_cases differs : role' = role
      · subst differs
        simp only [Bool.and_eq_true,Option.isNone_iff_eq_none] at matched
        obtain ⟨row',there,mine⟩ := facts _ proposed
        cases Option.some.inj (there.symm.trans found)
        refine Or.inr ⟨user,_,Or.inr rfl,?_,found',stamp,?_⟩
        · exact (congrArg (Option.bind · (approvedAt role')) found).trans matched.2
        · rw [milestone,mine]
          exact (ages.party _ _).trans ((facts _ parties user).trans party)
      · exact Or.inl (stampOther side side' differs row ▸ stamp)

/-- Claiming an unclaimed proposal creates its token. -/
theorem safeClaimRelease {at' : Nat} {done : Except Exception Nat → Multiset String × Multiset Fact → Prop}
    (consented : .consented id ∈ known) (failed : ∀ error, done (.error error) (0,known))
    (missed : done (.ok 0) (0,known)) (claimed : ∀ n, n ≠ 0 → done (.ok n) ({id},known)) :
    Safe payments.contract done (write (.claimRelease id) fun _ db => .ok (db.updateReleasesWhere
      (fun r => r.id = id && r.status = .proposed && r.executedAt.isNone) (fun r => { r with executedAt := some at' })))
      (0,known) := by
  refine safeUpdateWhere id rfl (fun r matched => ?_) (fun _ => rfl) (fun _ _ same => same) failed missed ?_
  · simp only [Bool.and_eq_true,decide_eq_true_eq] at matched
    exact matched.1.1
  · intro c frame thread i row n db' base facts found matched met _ found'
    simp only [Bool.and_eq_true,decide_eq_true_eq,Option.isNone_iff_eq_none] at matched
    refine ⟨{id},fun other differs => by simp [differs],fun sound => ?_,Knowledge.learnsNothing (claimed n met)⟩
    have free : (0 + frame).count id = 0 := by
      by_contra out
      obtain ⟨_,_,row',there,_,executing⟩ := sound.claimed (Nat.pos_of_ne_zero out)
      cases Option.some.inj (there.symm.trans found)
      simp [matched.2] at executing
    have unpaid : ∀ e ∈ c.history, pays id e = false := by
      intro e inside
      by_contra pay
      obtain ⟨row',there,executing,_⟩ := sound.paid e inside (by simpa using pay)
      cases Option.some.inj (there.symm.trans found)
      simp [matched.2] at executing
    rw [zero_add] at free
    refine soundRow sound rfl found found' (by simp [free]) ?_ ?_ (fun _ _ stamp => Or.inl stamp)
    · exact fun _ => ⟨unpaid,facts _ consented,matched.1.2,rfl⟩
    · exact fun _ either _ => ⟨rfl,either⟩

theorem safeRejectRelease {done : Except Exception Nat → Multiset String × Multiset Fact → Prop}
    (failed : ∀ error, done (.error error) (mine,known)) (missed : done (.ok 0) (mine,known))
    (rejects : ∀ n, done (.ok n) (mine,.rejected id ::ₘ known)) :
    Safe payments.contract done (write (.rejectRelease id) fun _ db => .ok (db.updateReleasesWhere
      (fun r => r.id = id && r.status = .proposed && r.executedAt.isNone) (fun r => { r with status := .rejected })))
      (mine,known) := by
  refine safeUpdateWhere id rfl (fun r matched => ?_) (fun _ => rfl) (fun _ _ _ => rfl) failed missed ?_
  · simp only [Bool.and_eq_true,decide_eq_true_eq] at matched
    exact matched.1.1
  · intro c frame thread i row n db' base facts found matched met _ found'
    simp only [Bool.and_eq_true,decide_eq_true_eq,Option.isNone_iff_eq_none] at matched
    refine ⟨mine,fun _ _ => rfl,fun sound => ?_,Knowledge.learnsFact (.rejected id) ⟨_,found',rfl⟩ (rejects n)⟩
    refine soundRow sound rfl found found' sound.single ?_ ?_ (fun _ _ stamp => Or.inl stamp)
    · intro out
      obtain ⟨_,_,row',there,_,executing⟩ := sound.claimed out
      cases Option.some.inj (there.symm.trans found)
      simp [matched.2] at executing
    · intro executing
      simp [matched.2] at executing

theorem safeUpdateRow {site : Site} {f : Answer → MilestonePartialRelease → MilestonePartialRelease}
    {keeps : ∀ i r, (f i r).id = r.id}
    {done : Except Exception MilestonePartialRelease → Multiset String × Multiset Fact → Prop}
    (quiet : paidRelease site = none) (milestone : ∀ i r, (f i r).milestoneId = r.milestoneId)
    (failed : ∀ error, done (.error error) (mine,known))
    (met : ∀ c frame thread i row db', payments.base c (mine + frame) → (∀ fact ∈ known, Holds c fact) →
      c.world.partialReleases.get? id = some row → db'.partialReleases.get? id = some (f i row) →
      row.status ≠ .rejected ∧ ∃ mine', (∀ other, other ≠ id → mine'.count other = mine.count other) ∧
        (Sound c ((mine + frame).count id) id → Sound (c.record thread site i db') ((mine' + frame).count id) id) ∧
        done (.ok (f i row)) (mine',known)) :
    Safe payments.contract done (write site fun i db => db.updateRelease id (f i) (keeps i)) (mine,known) := by
  refine safeWrite quiet failed fun c frame thread i value after base facts ok => ?_
  obtain ⟨row,found,rfl,found',elsewhere,rfl⟩ := Db.updateReleaseCases ok
  obtain ⟨open',mine',others,sound,fin⟩ :=
    met c frame thread i row { c.world with partialReleases := _ } base facts found found'
  refine leavesRow base quiet (agesRows fun other old there => ?_) elsewhere
    others sound (Knowledge.learnsNothing fin)
  by_cases same : other = id
  · subst same
    cases Option.some.inj (there.symm.trans found)
    exact ⟨_,found',milestone i row,fun rejected => absurd rejected open'⟩
  · exact ⟨old,(elsewhere other same).trans there,rfl,fun stays => stays⟩

theorem safeFailRelease {done : Except Exception MilestonePartialRelease → Multiset String × Multiset Fact → Prop}
    (failed : ∀ error, done (.error error) ({id},known)) (ended : ∀ row, done (.ok row) (0,known)) :
    Safe payments.contract done (write (.failRelease id) fun answer db => db.updateRelease id fun r =>
      { r with status := .failed, failureReason := some answer.text, executedAt := none }) ({id},known) := by
  refine safeUpdateRow rfl (fun _ _ => rfl) failed fun c frame thread i row db' base facts found found' => ?_
  have sound := base.2 id
  rw [Multiset.count_add,Multiset.count_singleton_self] at sound
  obtain ⟨unpaid,_,row',there,open',_⟩ := sound.claimed (by omega)
  cases Option.some.inj (there.symm.trans found)
  refine ⟨by simp [open'],0,fun other differs => by simp [differs],fun sound => ?_,ended _⟩
  have single := sound.single
  rw [Multiset.count_add,Multiset.count_singleton_self] at single
  have free : (0 + frame).count id = 0 := by
    rw [zero_add]
    omega
  refine soundRow sound rfl found found' (by omega) (by omega) ?_ (fun _ _ stamp => Or.inl stamp)
  rintro _ _ ⟨e,inside,pay⟩
  exact absurd pay (by simp [unpaid e inside])

theorem safeExecuteRelease {txHash : String}
    {done : Except Exception MilestonePartialRelease → Multiset String × Multiset Fact → Prop}
    (paid : .paid id ∈ known) (fin : ∀ out, done out (0,known)) :
    Safe payments.contract done (write (.executeRelease id) fun _ db => db.updateRelease id fun r =>
      { r with status := .executed, txHash := some txHash }) (0,known) := by
  refine safeUpdateRow rfl (fun _ _ => rfl) (fun _ => fin _) fun c frame thread i row db' base facts found found' => ?_
  obtain ⟨e,inside,pay⟩ := facts _ paid
  obtain ⟨row',there,executing,either⟩ := (base.2 id).paid e inside pay
  cases Option.some.inj (there.symm.trans found)
  refine ⟨by rcases either with same | same <;> simp [same],0,fun _ _ => rfl,fun sound => ?_,fin _⟩
  refine soundRow sound rfl found found' sound.single ?_ ?_ (fun _ _ stamp => Or.inl stamp)
  · intro out
    exact absurd pay (by simp [(sound.claimed out).1 e inside])
  · exact fun executing _ _ => ⟨executing,Or.inr rfl⟩

theorem safePayment {engagementId : String} {milestoneIndex : Nat} {amount : Int} {refundRemainder : Bool}
    {done : Except Exception String → Multiset String × Multiset Fact → Prop}
    (failed : done (.error .stellar) ({id},known)) (paid : ∀ txHash, done (.ok txHash) (0,.paid id ::ₘ known)) :
    Safe payments.contract done
      (stellar (.releasePartialMilestonePayment id engagementId milestoneIndex amount refundRemainder) Answer.text)
      ({id},known) := by
  refine Knowledge.safeQuery fun c frame thread i base facts _ => ?_
  cases fails : i.fails with
  | true =>
    have nothing : ∀ other, pays other (c.event thread
        (.releasePartialMilestonePayment id engagementId milestoneIndex amount refundRemainder) i c.world) = false :=
      fun other => by simp [pays,Snapshot.event,fails]
    refine ⟨{id},⟨⟨fun other pay => absurd pay (by simp [nothing]),base.1⟩,fun other => ?_⟩,remembers (agesRefl _),
      Knowledge.learnsNothing failed⟩
    exact soundElsewhere (base.2 other) rfl (nothing other)
  | false =>
    have mine : ∀ other, pays other (c.event thread
        (.releasePartialMilestonePayment id engagementId milestoneIndex amount refundRemainder) i c.world) =
        decide (id = other) :=
      fun other => by simp [pays,Snapshot.event,paidRelease,fails]
    have sound := base.2 id
    rw [Multiset.count_add,Multiset.count_singleton_self] at sound
    obtain ⟨unpaid,consented,row,found,open',executing⟩ := sound.claimed (by omega)
    refine ⟨0,⟨⟨fun other pay => ?_,base.1⟩,fun other => ?_⟩,remembers (agesRefl _),
      Knowledge.learnsFact (.paid id) ⟨_,List.mem_cons_self,by simp [mine]⟩ (paid _)⟩
    · have same : id = other := by simpa [mine] using pay
      exact same ▸ ⟨unpaid,consented⟩
    · by_cases same : id = other
      · subst same
        have free : (0 + frame).count id = 0 := by
          have single := sound.single
          rw [zero_add]
          omega
        constructor
        · omega
        · omega
        · exact fun _ _ _ => ⟨row,found,executing,Or.inl open'⟩
        · intro role side row' found' stamp
          obtain ⟨d,earlier,consents⟩ := sound.stamped role side row' found' stamp
          exact ⟨d,List.mem_cons_of_mem _ earlier,consents⟩
      · have other' : (0 + frame).count other = ({id} + frame).count other := by
          simp [Ne.symm same]
        exact other' ▸ soundElsewhere (base.2 other) rfl (by simp [mine,same])

theorem soundCreated {c : EscrowSnapshot} {thread n : Nat} {i : Answer} {user : PartyUser} {releases : Table MilestonePartialRelease}
    {row : MilestonePartialRelease} {role : PartyRole} {at' : Nat} (side : role ∈ [PartyRole.company,.recruiter])
    (bare : row.companyApprovedAt = none ∧ row.recruiterApprovedAt = none)
    (party : partyOf c.world row.milestoneId user = some role)
    (created : c.world.partialReleases.create (approvedBy role user.id at' row) = some releases)
    (sound : Sound c n row.id) :
    Sound (c.record thread (.createRelease user) i { c.world with partialReleases := releases }) n row.id := by
  obtain ⟨id,milestone,_⟩ := stampKeeps role user.id at' row
  obtain ⟨free,_,get⟩ := Table.createGet created
  have key : Keyed.key (approvedBy role user.id at' row) = row.id := id
  rw [key] at free
  have there : releases.get? row.id = some (approvedBy role user.id at' row) := by
    rw [get,if_pos key.symm]
  constructor
  · exact sound.single
  · intro out
    obtain ⟨_,_,row',found,_⟩ := sound.claimed out
    cases free.symm.trans found
  · intro e inside pay
    rcases List.mem_cons.mp inside with rfl | earlier
    · cases pay.symm.trans (paysNothing rfl row.id)
    · obtain ⟨row',found,_⟩ := sound.paid e earlier pay
      cases free.symm.trans found
  · intro role' side' row' found stamp
    cases Option.some.inj (there.symm.trans found)
    by_cases differs : role' = role
    · subst differs
      refine ⟨_,List.mem_cons_self,user,_,Or.inl rfl,?_,there,stamp,milestone ▸ party⟩
      exact congrArg (Option.bind · (approvedAt role')) free
    · rw [stampOther side side' differs] at stamp
      have none : approvedAt role' row = none := by cases role' <;> simp [approvedAt,bare]
      simp [none] at stamp

theorem safeCreateRelease {role : PartyRole} {user : PartyUser} {milestoneId : String} {engagement : Engagement} {at' : Nat}
    {row : Answer → MilestonePartialRelease}
    {done : Except Exception MilestonePartialRelease → Multiset String × Multiset Fact → Prop}
    (side : role ∈ [PartyRole.company,.recruiter]) (party : engagementPartyRole engagement user = some role)
    (parties : Fact.party milestoneId engagement ∈ known)
    (bare : ∀ i, (row i).milestoneId = milestoneId ∧ (row i).companyApprovedAt = none ∧ (row i).recruiterApprovedAt = none)
    (fin : ∀ out, done out (mine,known)) :
    Safe payments.contract done (write (.createRelease user) fun i db =>
      if (openProposal db milestoneId).isSome then .error .uniqueViolation
      else match db.partialReleases.create (approvedBy role user.id at' (row i)) with
        | none => .error .uniqueViolation
        | some releases => .ok (approvedBy role user.id at' (row i),{ db with partialReleases := releases }))
      (mine,known) := by
  refine safeWrite rfl (fun _ => fin _) fun c frame thread i value after base facts ok => ?_
  split at ok
  · contradiction
  · split at ok
    · contradiction
    · rename_i releases created
      cases ok
      obtain ⟨milestone,bare⟩ := bare i
      obtain ⟨id,_⟩ := stampKeeps role user.id at' (row i)
      obtain ⟨free,_,get⟩ := Table.createGet created
      have key : Keyed.key (approvedBy role user.id at' (row i)) = (row i).id := id
      rw [key] at free get
      have elsewhere : ∀ other, other ≠ (row i).id → releases.get? other = c.world.partialReleases.get? other :=
        fun other differs => by rw [get,if_neg differs]
      have sound (n : Nat) : Sound c n (row i).id →
          Sound (c.record thread (.createRelease user) i { c.world with partialReleases := releases }) n (row i).id :=
        soundCreated side bare (milestone ▸ (facts _ parties user).trans party) created
      refine leavesRow base rfl (agesRows fun other old there => ?_) elsewhere (fun _ _ => rfl) (sound _)
        (Knowledge.learnsNothing (fin _))
      have differs : other ≠ (row i).id := fun same => by cases (same ▸ there).symm.trans free
      exact ⟨old,(elsewhere other differs).trans there,rfl,fun stays => stays⟩

end Writes

section Methods

variable {known : Multiset Fact}

theorem safePropose (engagementId : String) (milestoneIndex : Nat) (user : PartyUser) (terms : PartialReleaseTerms) :
    Safe payments.contract anyEnd (propose engagementId milestoneIndex user terms) 0 := by
  refine safeBind (safeLoad (fun _ => trivial) fun milestone engagement => ?_)
  refine safeParty trivial fun role side party => ?_
  dsimp only
  split
  · trivial
  · split
    · trivial
    · refine safeBind (safeRead rfl fun c tokens i base facts => Knowledge.learnsNothing ?_)
      dsimp only
      split
      · rename_i existing _
        split
        · trivial
        · refine safeBind ?_
          cases computeSplit _ _ terms with
          | error error => trivial
          | ok split =>
            refine safeBind (safeRead rfl fun c tokens i base facts => Knowledge.learnsNothing ?_)
            refine safeBind (safeHandle (safeCreateRelease side party (Multiset.mem_cons_self _ _) (fun _ => ⟨rfl,rfl,rfl⟩) ?_))
            intro out
            cases out with
            | error error =>
              dsimp only
              split <;> trivial
            | ok release =>
              refine safeReads paymentsIgnore ?_ fun _ => trivial
              exact readsBind (readsQuery rfl _) fun _ => readsBind (readsQuery rfl _) fun _ => trivial
      · trivial

theorem partyMilestone {db db' : Db} {id : String} {f : Milestone → Milestone} {keeps : ∀ m, (f m).id = m.id} {m' : Milestone}
    (updated : db.updateMilestone id f keeps = .ok (m',db')) (same : ∀ m, (f m).engagementId = m.engagementId)
    (milestoneId : String) (user : PartyUser) : partyOf db' milestoneId user = partyOf db milestoneId user := by
  obtain ⟨m,_,_,_,_,rfl⟩ := Db.updateMilestoneCases updated
  simp only [partyOf,Table.getUpdate]
  cases db.milestones.get? milestoneId <;> split <;> simp [same]

theorem partyEngagement {db db' : Db} {id : String} {f : Engagement → Engagement} {keeps : ∀ e, (f e).id = e.id} {e' : Engagement}
    (updated : db.updateEngagement id f keeps = .ok (e',db'))
    (same : ∀ e user, engagementPartyRole (f e) user = engagementPartyRole e user)
    (milestoneId : String) (user : PartyUser) : partyOf db' milestoneId user = partyOf db milestoneId user := by
  obtain ⟨e,_,_,_,_,rfl⟩ := Db.updateEngagementCases updated
  simp only [partyOf,Table.getUpdate]
  cases db.milestones.get? milestoneId with
  | none => rfl
  | some m =>
    simp only [Option.bind_eq_bind,Option.bind_some]
    cases db.engagements.get? m.engagementId <;> split <;> simp [same]

theorem safePay (release : MilestonePartialRelease) (milestone : Milestone) (engagement : Engagement) (at' : Nat)
    {done : Except Exception Unit → Multiset String × Multiset Fact → Prop} (fin : ∀ out, done out (0,known)) :
    Safe payments.contract done (pay release milestone engagement at') (0,known) := by
  refine safeBind (safeElse rfl ?_ ?_)
  · intro i db value after ok
    exact ⟨by obtain ⟨_,_,_,_,_,rfl⟩ := Db.updateMilestoneCases ok; rfl,partyMilestone ok fun _ => rfl⟩
  · intro out
    cases out with
    | error error => exact fin _
    | ok value =>
      refine safeBind (safeElse rfl ?_ ?_)
      · intro i db value after ok
        exact ⟨by obtain ⟨_,_,_,_,_,rfl⟩ := Db.updateEngagementCases ok; rfl,partyEngagement ok fun _ _ => rfl⟩
      · intro out
        cases out with
        | error error => exact fin _
        | ok value => exact fin _

theorem safeFailed (releaseId : String) (error : Exception)
    {done : Except Exception String → Multiset String × Multiset Fact → Prop} (thrown : ∀ error held, done (.error error) held) :
    Safe payments.contract done (failed releaseId error) ({releaseId},known) := by
  refine safeBind (safeFailRelease (fun _ => thrown _ _) fun _ => ?_)
  exact safeReadsThen paymentsIgnore (readsQuery rfl _) (fun _ => thrown _ _) (fun _ => thrown _ _)

theorem safeExecuted (release : MilestonePartialRelease) (txHash : String) (paid : .paid release.id ∈ known) :
    Safe payments.contract anyEnd (do
      let executed ← write (.executeRelease release.id) fun _ db => db.updateRelease release.id fun r =>
        { r with status := .executed, txHash := some txHash }
      audit
      notify
      notify
      return executed) (0,known) := by
  refine safeBind (safeExecuteRelease paid fun out => ?_)
  cases out with
  | error error => trivial
  | ok executed =>
    refine safeReads paymentsIgnore ?_ fun _ => trivial
    exact readsBind (readsQuery rfl _) fun _ => readsBind (readsQuery rfl _) fun _ =>
      readsBind (readsQuery rfl _) fun _ => trivial

theorem safeExecute (release : MilestonePartialRelease) (milestone : Milestone) (engagement : Engagement)
    (consented : hasDualApproval release = true → .consented release.id ∈ known) :
    Safe payments.contract anyEnd (execute release milestone engagement) (0,known) := by
  unfold execute
  split
  · trivial
  · rename_i dual
    refine safeBind (safeRead rfl fun c tokens i base facts => Knowledge.learnsNothing ?_)
    refine safeBind (safeClaimRelease (consented (by simpa using dual)) (fun _ => trivial) ?_ ?_)
    · exact safeReads paymentsIgnore (readsQuery rfl _) fun _ => trivial
    · intro n some'
      simp only [some',if_false]
      refine safeBind (safeHandle (safePayment (safeFailed release.id _ fun _ _ => trivial) fun txHash => ?_))
      refine safeBind (safePay release milestone engagement _ fun out => ?_)
      cases out with
      | error error => trivial
      | ok value =>
        have paid := Multiset.mem_cons_self (Fact.paid release.id) known
        dsimp only
        split
        · refine safeBind (safeElse rfl ?_ fun out => ?_)
          · rintro i db value after ⟨⟩
            exact ⟨rfl,fun _ _ => rfl⟩
          · cases out with
            | error error => trivial
            | ok refunded => exact safeExecuted release txHash paid
        · exact safeExecuted release txHash paid

theorem safeApprove (engagementId : String) (milestoneIndex : Nat) (releaseId : String) (user : PartyUser) :
    Safe payments.contract anyEnd (approve engagementId milestoneIndex releaseId user) 0 := by
  refine safeBind (safeLoad (fun _ => trivial) fun milestone engagement => ?_)
  refine safeParty trivial fun role side party => ?_
  refine safeBind (safeFindOpen (fun _ _ => trivial) fun release same => ?_)
  refine safeBind (safeRead rfl fun c tokens i base facts => Knowledge.learnsNothing ?_)
  subst same
  refine safeBind (safeApproveRelease milestone.id engagement side party (by simp) (by simp) fun out => ?_)
  cases out with
  | error error => trivial
  | ok count =>
    dsimp only
    split
    · trivial
    · refine safeBind (safeFindRelease (fun _ => trivial) (fun updated same single => ?_) fun updated same dual => ?_)
      · simp only [single,Bool.not_false,if_true]
        trivial
      · simp only [dual,Bool.not_true,Bool.false_eq_true,if_false]
        exact safeExecute updated milestone engagement fun _ => by simp [same]

theorem safeReject (engagementId : String) (milestoneIndex : Nat) (releaseId : String) (user : PartyUser) :
    Safe payments.contract (fun out held => ∀ row, out = .ok row → .rejected releaseId ∈ held.2)
      (reject engagementId milestoneIndex releaseId user) 0 := by
  refine safeBind (safeLoad (fun _ => by simp) fun milestone engagement => ?_)
  refine safeParty (by simp) fun role side party => ?_
  refine safeBind (safeFindOpen (fun _ _ => by simp) fun release same => ?_)
  subst same
  have thrown : ∀ (held : Multiset String × Multiset Fact) (error : Exception) (row : MilestonePartialRelease),
      Except.error error = .ok row → Fact.rejected release.id ∈ held.2 := by simp
  refine safeBind (safeRejectRelease (thrown _) (thrown _ _) fun n => ?_)
  dsimp only
  split
  · exact thrown _ _
  · refine safeReadsThen paymentsIgnore (readsQuery rfl _) (fun _ row _ => by simp) (thrown _)

end Methods

section Runs

abbrev ReleasePool := Pool Request Site Answer Db Exception MilestonePartialRelease

abbrev ReleaseMove := Move Request Nat Answer

def promises : Request → Except Exception MilestonePartialRelease → Multiset String × Multiset Fact → Prop
  | .reject _ _ releaseId _, out, held => ∀ row, out = .ok row → .rejected releaseId ∈ held.2
  | _, _, _ => True

theorem safeHandler (request : Request) : Safe payments.contract (promises request) (handler request) 0 := by
  cases request with
  | propose engagementId milestoneIndex user terms => exact safePropose engagementId milestoneIndex user terms
  | approve engagementId milestoneIndex releaseId user => exact safeApprove engagementId milestoneIndex releaseId user
  | reject engagementId milestoneIndex releaseId user => exact safeReject engagementId milestoneIndex releaseId user

variable (db : Db) (moves : List ReleaseMove)

def unproposed : ReleasePool := Pool.initial { db with partialReleases := Table.empty }

theorem paymentsTick (elapsed : Nat) (c : EscrowSnapshot) (held : Multiset String × Multiset Fact)
    (inv : payments.contract.inv c held) :
    payments.contract.inv { c with world := service.environment elapsed c.world } held := by
  obtain ⟨⟨lawful,sound⟩,facts⟩ := inv
  refine ⟨⟨lawful,fun id => ?_⟩,fun fact known => ?_⟩
  · exact ⟨(sound id).single,(sound id).claimed,(sound id).paid,(sound id).stamped⟩
  · have true := facts fact known
    cases fact <;> exact true

theorem paymentsSecured : Secured payments.contract promises (service.run (unproposed db) moves) := by
  have begin : Secured payments.contract promises (unproposed db) := by
    refine securedInitial (K := payments.contract) ⟨⟨trivial,fun id => ?_⟩,by simp⟩
    exact ⟨by simp,by simp,by simp,by simp⟩
  exact securedRun safeHandler paymentsTick begin moves (meetsAlways (fun _ _ => trivial) _)

theorem lawfulOnce {history : List EscrowEvent} (lawful : AllMeet Lawful history) (id : String) :
    history.countP (pays id) ≤ 1 := by
  induction history with
  | nil => simp
  | cons e earlier ih =>
    cases paid : pays id e with
    | false => simpa [paid] using ih lawful.2
    | true =>
      have none := List.countP_eq_zero.mpr fun d inside => by simpa using (lawful.1 id paid).1 d inside
      simp [paid,none]

theorem lawfulConsented {history : List EscrowEvent} (lawful : AllMeet Lawful history) (id : String) :
    AllMeet (fun earlier e => pays id e = true → Consented earlier id) history := by
  induction history with
  | nil => trivial
  | cons e earlier ih => exact ⟨fun paid => (lawful.1 id paid).2,ih lawful.2⟩

/-- Every partial release is paid at most once, after both consents, and not at
all in a run in which one of its rejections has returned. -/
theorem paidOnceWithConsents (id : String) :
    (service.run (unproposed db) moves).history.countP (pays id) ≤ 1 ∧
    AllMeet (fun earlier e => pays id e = true → Consented earlier id) (service.run (unproposed db) moves).history ∧
    ∀ (more : List ReleaseMove) (k : Nat) (engagementId : String) (milestoneIndex : Nat) (user : PartyUser)
      (release : MilestonePartialRelease),
      (service.run (unproposed db) moves).threads[k]? = some ⟨.reject engagementId milestoneIndex id user,.ret release⟩ →
      ∀ e ∈ (service.run (unproposed db) (moves ++ more)).history, pays id e = false := by
  obtain ⟨_,lawful,_⟩ := Knowledge.securedBase (paymentsSecured db moves)
  refine ⟨lawfulOnce lawful id,lawfulConsented lawful id,?_⟩
  intro more k engagementId milestoneIndex user release returned e inside
  have ended : (service.run (unproposed db) (moves ++ more)).threads[k]? =
      some ⟨.reject engagementId milestoneIndex id user,Process.ofExcept (.ok release)⟩ := by
    rw [System.runAppend]
    exact service.endedRun returned more
  obtain ⟨_,known,promise,facts⟩ := Knowledge.endedKnows (paymentsSecured db (moves ++ more)) ended
  obtain ⟨row,found,rejected⟩ := facts _ (promise release rfl)
  obtain ⟨_,_,sound⟩ := Knowledge.securedBase (paymentsSecured db (moves ++ more))
  by_contra paid
  obtain ⟨row',found',_,either⟩ := (sound id).paid e inside (by simpa using paid)
  cases Option.some.inj (found.symm.trans found')
  simp [rejected] at either

def submittedProof : Db where
  engagements := .single { id := "e", companyAddress := "GC", recruiterAddress := "GR", arbiterAddress := "GA", totalAmount := 1000 }
  milestones := .single { id := "m", engagementId := "e", milestoneIndex := 0, name := "placed", kind := .placement
                          paymentPercent := 100, amount := some 1000, status := .proofSubmitted }

def halfRetained : PartialReleaseTerms where
  releasePercent := some 50
  remainderAction := .retain

def bothApprove : List ReleaseMove :=
  [.start (.propose "e" 0 { stellarAddress := some "GC" } halfRetained)] ++
  answered 0 [{},{},{},{ text := "p" },{},{}] ++
  [.start (.approve "e" 0 "p" { stellarAddress := some "GR" })] ++
  answered 1 [{},{},{},{},{},{},{},{ text := "tx" },{},{},{},{},{},{}]

def recruiterRejects : List ReleaseMove :=
  [.start (.propose "e" 0 { stellarAddress := some "GC" } halfRetained)] ++
  answered 0 [{},{},{},{ text := "p" },{},{}] ++
  [.start (.reject "e" 0 "p" { stellarAddress := some "GR" })] ++ answered 1 [{},{},{},{}]

theorem unpaidAfterReject :
    ∀ e ∈ (service.run (unproposed submittedProof) (recruiterRejects ++ bothApprove)).history, pays "p" e = false :=
  (paidOnceWithConsents submittedProof recruiterRejects "p").2.2 bothApprove 1 "e" 0 _ _ rfl

example : (service.run (unproposed submittedProof) bothApprove).history.countP (pays "p") = 1 := by decide

end Runs

end HireSettle.Escrow.PartialReleaseService
