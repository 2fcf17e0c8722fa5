import HireSettle.Companies.MemberRuns
import HireSettle.Workflow.Turns

/-! The owner of a company, one request after the other. An owner offers the company to
a member, the member accepts or the owner cancels; members come and any call may fail. The
company has one owner throughout, and only the offer that is pending hands it on. -/
namespace HireSettle.Companies.OwnerTurns
open Workflow

/-- Nobody is made a second owner, and nobody leaves. -/
def Ordinary : Request → Prop
  | .addMember _ _ companyRole => companyRole ≠ .owner
  | .removeMember _ _ => False
  | _ => True

instance (request : Request) : Decidable (Ordinary request) := by
  cases request <;> unfold Ordinary <;> infer_instance

variable (self : Config) (companyId : String)

def service : System { request : Request // Ordinary request } Nat Site Answer Db Exception Reply where
  handler request := handler self request.val
  environment := (Companies.service self).environment

abbrev TransferTurn := Turn { request : Request // Ordinary request } Nat Answer

/-- The row of a member tells, and without one a user owns the company of its own id. -/
def Owns (db : Db) (userId : String) : Prop :=
  match db.members.get? (companyId,userId) with
  | some row => row.companyRole = .owner
  | none => userId = companyId

instance (db : Db) (userId : String) : Decidable (Owns companyId db userId) := by
  unfold Owns
  split <;> infer_instance

def Offered (db : Db) (transfer : OwnershipTransfer) : Prop :=
  transfer ∈ db.transfers.rows ∧ transfer.companyId = companyId ∧ transfer.pending = true

structure Orderly (db : Db) : Prop where
  owner : ∃ ownerId, ∀ userId, Owns companyId db userId ↔ userId = ownerId
  alone : ∀ a b, Offered companyId db a → Offered companyId db b → a = b
  offered : ∀ transfer, Offered companyId db transfer → Owns companyId db transfer.fromOwnerId ∧ transfer.toMemberId ≠ transfer.fromOwnerId

/-- The owner stays, or a pending offer of the last owner is accepted. -/
def Hands (before after : Db) : Prop :=
  (∀ userId, Owns companyId after userId ↔ Owns companyId before userId) ∨
    ∃ transfer, Offered companyId before transfer ∧ Owns companyId before transfer.fromOwnerId ∧
      Owns companyId after transfer.toMemberId ∧ ∀ row ∈ after.transfers.get? transfer.id, row.acceptedAt.isSome

/-- What was accepted or cancelled is not pending again. -/
def Settled (before after : Db) : Prop :=
  ∀ id row, before.transfers.get? id = some row → row.pending = false → ∃ row', after.transfers.get? id = some row' ∧ row'.pending = false

/-- One owner in every state of the run so far, of whom an offer has taken over. -/
structure Handed (c : Snapshot Site Answer Db) : Prop where
  orderly : Orderly companyId c.world
  steps : ∀ e ∈ c.history, Orderly companyId e.after ∧ Hands companyId e.before e.after
  settled : ∀ e ∈ c.history, Settled e.after c.world

section Rows

variable {companyId} {db after : Db} {userId memberId : String}

theorem ownsCompany (owner : companyRoleOf db userId = .owner) : Owns (companyIdOf db userId) db userId := by
  unfold companyRoleOf companyIdOf at *
  cases found : membershipOf db userId with
  | none =>
    have absent : db.members.get? (userId,userId) = none := by
      refine List.find?_eq_none.mpr fun row inside => ?_
      have other := List.find?_eq_none.mp found row inside
      simp only [decide_eq_true_eq] at other ⊢
      exact fun same => other (congrArg Prod.snd same)
    simp [Owns,absent]
  | some row =>
    have mine : row.memberId = userId := by simpa using List.find?_some found
    have there : db.members.get? (row.companyId,row.memberId) = some row := Table.memGet (List.mem_of_find?_eq_some found)
    rw [found] at owner
    simpa [Owns,← mine,there] using owner

theorem requiredOk {α : Type} {found : Option α} {value : α} (there : required found = .ok value) : found = some value := by
  cases found with
  | none => cases there
  | some other => exact congrArg some (Except.ok.inj there)

theorem ownsOther (same : db.members.get? (companyId,userId) = after.members.get? (companyId,userId)) :
    Owns companyId after userId ↔ Owns companyId db userId := by
  rw [Owns,Owns,same]

/-- The row of one member is written, and no other. -/
structure Writes (own memberId : String) (companyRole : CompanyRole) (db after : Db) : Prop where
  transfers : after.transfers = db.transfers
  role : ∃ row, after.members.get? (own,memberId) = some row ∧ row.companyRole = companyRole
  others : ∀ key, key ≠ (own,memberId) → after.members.get? key = db.members.get? key

theorem updateWrites {own : String} {companyRole : CompanyRole}
    (updated : db.updateMember own memberId (fun row => { row with companyRole := companyRole }) = .ok after) :
    Writes own memberId companyRole db after := by
  unfold Db.updateMember required at updated
  cases modified : db.members.modify (own,memberId) (fun row => { row with companyRole := companyRole }) (fun _ => rfl) with
  | none => rw [modified] at updated; contradiction
  | some out =>
    rw [modified] at updated
    cases updated
    obtain ⟨old,found,_,same⟩ := Table.modifyGet modified
    refine ⟨rfl,⟨{ old with companyRole := companyRole },?_,rfl⟩,fun key differs => ?_⟩
    · rw [same]
      exact Table.getUpdateSelf found (fun row => { row with companyRole := companyRole }) fun _ => rfl
    · rw [same]
      exact Table.getUpdateOther db.members differs (fun row => { row with companyRole := companyRole }) fun _ => rfl

theorem createWrites {row : CompanyMember} (created : db.createMember row = .ok after) :
    Writes row.companyId row.memberId row.companyRole db after := by
  unfold Db.createMember at created
  split at created
  · contradiction
  · split at created
    · contradiction
    · rename_i members made
      cases created
      have gets := (Table.createGet made).2.2
      refine ⟨rfl,⟨row,?_,rfl⟩,fun key differs => ?_⟩
      · exact (gets _).trans (if_pos rfl)
      · exact (gets key).trans (if_neg differs)

theorem upsertWrites {own : String} {companyRole : CompanyRole}
    (upserted : db.upsertMember { companyId := own, memberId := memberId, companyRole := companyRole }
      (fun row => { row with companyRole := companyRole }) = .ok after) : Writes own memberId companyRole db after := by
  unfold Db.upsertMember at upserted
  split at upserted
  · exact updateWrites upserted
  · exact createWrites upserted

theorem writesOwns {own : String} {companyRole : CompanyRole} (writes : Writes own memberId companyRole db after) (userId : String) :
    Owns companyId after userId ↔ if (companyId,userId) = (own,memberId) then companyRole = .owner else Owns companyId db userId := by
  split
  · rename_i same
    obtain ⟨row,found,role⟩ := writes.role
    cases same
    simp [Owns,found,role]
  · rename_i differs
    exact ownsOther (writes.others _ differs).symm

theorem ownsSame (same : after.members = db.members) (userId : String) : Owns companyId after userId ↔ Owns companyId db userId :=
  ownsOther (congrArg (fun members => members.get? (companyId,userId)) same.symm)

/-- Where the members stay and no offer comes up. -/
theorem orderlyFewer (orderly : Orderly companyId db) (same : after.members = db.members)
    (fewer : ∀ transfer, Offered companyId after transfer → Offered companyId db transfer) : Orderly companyId after := by
  obtain ⟨ownerId,owner⟩ := orderly.owner
  refine ⟨⟨ownerId,fun userId => (ownsSame same userId).trans (owner userId)⟩,fun a b first second => orderly.alone a b (fewer a first) (fewer b second),
    fun transfer offered => ?_⟩
  obtain ⟨owns,differs⟩ := orderly.offered transfer (fewer transfer offered)
  exact ⟨(ownsSame same _).mpr owns,differs⟩

theorem settledSame (same : after.transfers = db.transfers) : Settled db after := fun _ row found done => ⟨row,same ▸ found,done⟩

theorem settledTrans {db' : Db} (first : Settled db after) (second : Settled after db') : Settled db db' := by
  intro id row found done
  obtain ⟨row',found',done'⟩ := first id row found done
  exact second id row' found' done'

theorem settledCancels (own : String) :
    Settled db { db with transfers := db.transfers.updateMany (fun row => row.companyId = own && row.pending) fun row => { row with cancelledAt := some db.clock } } := by
  intro id row found done
  refine ⟨row,?_,done⟩
  simp [found,done]

theorem cancelsOffered {own : String} {transfer : OwnershipTransfer}
    (inside : transfer ∈ (db.transfers.updateMany (fun row => row.companyId = own && row.pending) fun row => { row with cancelledAt := some db.clock }).rows)
    (pending : transfer.pending = true) : transfer ∈ db.transfers.rows ∧ transfer.companyId ≠ own := by
  obtain ⟨before,stood,same⟩ := List.mem_map.mp inside
  split at same
  · subst same
    simp [OwnershipTransfer.pending] at pending
  · rename_i differs
    subst same
    exact ⟨stood,fun mine => differs (by simp [mine,pending])⟩

/-- Neither a role nor an offer is written. -/
def Quiet (db after : Db) : Prop :=
  after.transfers = db.transfers ∧ ∀ key, (after.members.get? key).map CompanyMember.companyRole = (db.members.get? key).map CompanyMember.companyRole

theorem quietSame (same : after.members = db.members) (transfers : after.transfers = db.transfers) : Quiet db after := by
  refine ⟨transfers,fun key => ?_⟩
  rw [same]

theorem quietOwns (quiet : Quiet db after) (userId : String) : Owns companyId after userId ↔ Owns companyId db userId := by
  have role := quiet.2 (companyId,userId)
  unfold Owns
  cases before : db.members.get? (companyId,userId) <;> cases now : after.members.get? (companyId,userId) <;> simp_all

theorem quietOrderly (orderly : Orderly companyId db) (quiet : Quiet db after) :
    Orderly companyId after ∧ Hands companyId db after ∧ Settled db after := by
  have same : ∀ transfer, Offered companyId after transfer ↔ Offered companyId db transfer := fun transfer => by
    rw [Offered,Offered,quiet.1]
  obtain ⟨ownerId,owner⟩ := orderly.owner
  refine ⟨⟨⟨ownerId,fun userId => (quietOwns quiet userId).trans (owner userId)⟩,
    fun a b first second => orderly.alone a b ((same a).mp first) ((same b).mp second),fun transfer its => ?_⟩,Or.inl (quietOwns quiet),settledSame quiet.1⟩
  obtain ⟨owns,differs⟩ := orderly.offered transfer ((same transfer).mp its)
  exact ⟨(quietOwns quiet _).mpr owns,differs⟩

theorem joinsOrderly (orderly : Orderly companyId db) {row : CompanyMember} (created : db.createMember row = .ok after)
    (plain : row.companyRole ≠ .owner) (other : row.memberId ≠ row.companyId) : Orderly companyId after ∧ Hands companyId db after ∧ Settled db after := by
  have writes := createWrites created
  have owns : ∀ userId, Owns companyId after userId ↔ Owns companyId db userId := by
    intro userId
    rw [writesOwns writes]
    split
    · rename_i same
      cases same
      unfold Db.createMember at created
      split at created
      · contradiction
      · split at created
        · contradiction
        · rename_i members made
          have free : db.members.get? (row.companyId,row.memberId) = none := (Table.createGet made).1
          simp [Owns,free,plain,other]
    · rfl
  obtain ⟨ownerId,owner⟩ := orderly.owner
  have same : ∀ transfer, Offered companyId after transfer ↔ Offered companyId db transfer := fun transfer => by
    rw [Offered,Offered,writes.transfers]
  refine ⟨⟨⟨ownerId,fun userId => (owns userId).trans (owner userId)⟩,
    fun a b first second => orderly.alone a b ((same a).mp first) ((same b).mp second),fun transfer its => ?_⟩,Or.inl owns,settledSame writes.transfers⟩
  obtain ⟨from',differs⟩ := orderly.offered transfer ((same transfer).mp its)
  exact ⟨(owns _).mpr from',differs⟩

/-- One offer is accepted or cancelled. -/
theorem settles {id : String} {f : OwnershipTransfer → OwnershipTransfer} {keeps : ∀ row, Keyed.key (f row) = Keyed.key row}
    {row : OwnershipTransfer} {transfers : Table OwnershipTransfer} (modified : db.transfers.modify id f keeps = some (row,transfers))
    (done : ∀ row, (f row).pending = false) :
    (∀ transfer ∈ transfers.rows, transfer.pending = true → transfer ∈ db.transfers.rows ∧ transfer.id ≠ id) ∧
      Settled db { db with transfers := transfers } ∧ ∀ row ∈ transfers.get? id, ∃ old, row = f old := by
  obtain ⟨old,found,_,rfl⟩ := Table.modifyGet modified
  refine ⟨fun transfer inside pending => ?_,fun other row there settled => ?_,fun row there => ?_⟩
  · obtain ⟨before,stood,same⟩ := List.mem_map.mp inside
    split at same
    · rw [← same,done] at pending
      cases pending
    · rename_i differs
      subst same
      exact ⟨stood,fun same => differs (decide_eq_true same)⟩
  · by_cases same : other = id
    · subst same
      exact ⟨f old,Table.getUpdateSelf found f keeps,done old⟩
    · exact ⟨row,(Table.getUpdateOther _ same f keeps).trans there,settled⟩
  · rw [Table.getUpdateSelf found f keeps] at there
    exact ⟨old,(Option.some.inj there).symm⟩

theorem consumeHands (orderly : Orderly companyId db) {transfer : OwnershipTransfer} (there : transfer ∈ db.transfers.rows)
    (pending : transfer.pending = true) (consumed : CompaniesService.consume transfer db = .ok ((),after)) :
    Orderly companyId after ∧ Hands companyId db after ∧ Settled db after := by
  obtain ⟨⟨row,transfers⟩,marked,rest⟩ := exceptBind.mp consumed
  obtain ⟨demoted,upserted,rest⟩ := exceptBind.mp rest
  obtain ⟨promoted,updated,rest⟩ := exceptBind.mp rest
  cases rest
  obtain ⟨offers,settled,accepted⟩ := settles (requiredOk marked) fun _ => rfl
  have demotes := upsertWrites upserted
  have promotes := updateWrites updated
  have kept : after.transfers = transfers := promotes.transfers.trans demotes.transfers
  have owns : ∀ userId, Owns companyId after userId ↔ if companyId = transfer.companyId ∧ userId = transfer.toMemberId then True
      else if companyId = transfer.companyId ∧ userId = transfer.fromOwnerId then False else Owns companyId db userId := by
    intro userId
    rw [writesOwns promotes,writesOwns demotes]
    simp [Owns]
  have fewer : ∀ other, Offered companyId after other → Offered companyId db other ∧ other.id ≠ transfer.id := by
    rintro other ⟨inside,own,waits⟩
    rw [kept] at inside
    exact ⟨⟨(offers other inside waits).1,own,waits⟩,(offers other inside waits).2⟩
  by_cases own : transfer.companyId = companyId
  · have offered : Offered companyId db transfer := ⟨there,own,pending⟩
    have none : ∀ other, ¬ Offered companyId after other := fun other its =>
      (fewer other its).2 (congrArg OwnershipTransfer.id (orderly.alone _ _ (fewer other its).1 offered))
    obtain ⟨ownerId,owner⟩ := orderly.owner
    obtain ⟨from',differs⟩ := orderly.offered transfer offered
    have last := (owner _).mp from'
    have next : ∀ userId, Owns companyId after userId ↔ userId = transfer.toMemberId := by
      intro userId
      rw [owns,owner,← last]
      by_cases accepts : userId = transfer.toMemberId <;> by_cases gives : userId = transfer.fromOwnerId <;> simp [own,accepts,gives]
    refine ⟨⟨⟨_,next⟩,fun a _ first _ => absurd first (none a),fun a its => absurd its (none a)⟩,
      Or.inr ⟨transfer,offered,from',(next _).mpr rfl,?_⟩,settledTrans settled (settledSame kept)⟩
    rw [kept]
    intro row' found
    obtain ⟨old,rfl⟩ := accepted row' found
    rfl
  · have same : ∀ userId, Owns companyId after userId ↔ Owns companyId db userId := fun userId => by
      rw [owns]
      simp [Ne.symm own]
    obtain ⟨ownerId,owner⟩ := orderly.owner
    refine ⟨⟨⟨ownerId,fun userId => (same userId).trans (owner userId)⟩,
      fun a b first second => orderly.alone a b (fewer a first).1 (fewer b second).1,fun other its => ?_⟩,Or.inl same,settledTrans settled (settledSame kept)⟩
    obtain ⟨from',differs⟩ := orderly.offered other (fewer other its).1
    exact ⟨(same _).mpr from',differs⟩

theorem createOffers (orderly : Orderly companyId db) {row : OwnershipTransfer} {transfers : Table OwnershipTransfer}
    (created : db.transfers.create row = some transfers) (free : ∀ transfer, ¬ Offered row.companyId db transfer)
    (owns : Owns row.companyId db row.fromOwnerId) (differs : row.toMemberId ≠ row.fromOwnerId) :
    Orderly companyId { db with transfers := transfers } ∧ Hands companyId db { db with transfers := transfers } ∧ Settled db { db with transfers := transfers } := by
  obtain ⟨new,rows,gets⟩ := Table.createGet created
  have offers : ∀ transfer, Offered companyId { db with transfers := transfers } transfer → Offered companyId db transfer ∨ transfer = row ∧ row.companyId = companyId := by
    rintro transfer ⟨inside,own,pending⟩
    rw [rows] at inside
    rcases List.mem_append.mp inside with before | now
    · exact Or.inl ⟨before,own,pending⟩
    · cases List.mem_singleton.mp now
      exact Or.inr ⟨rfl,own⟩
  refine ⟨⟨orderly.owner,fun a b first second => ?_,fun transfer its => ?_⟩,Or.inl fun _ => Iff.rfl,fun id other found done => ⟨other,?_,done⟩⟩
  · rcases offers a first with before | ⟨rfl,own⟩ <;> rcases offers b second with before' | ⟨rfl,own'⟩
    · exact orderly.alone a b before before'
    · exact absurd before (own' ▸ free a)
    · exact absurd before' (own ▸ free b)
    · rfl
  · rcases offers transfer its with before | ⟨rfl,own⟩
    · exact orderly.offered transfer before
    · exact ⟨own ▸ owns,differs⟩
  · rw [gets,if_neg]
    · exact found
    · intro same
      rw [same,new] at found
      cases found

end Rows

section Calls

variable {companyId} {self} {c : Snapshot Site Answer Db} {after : Db} {α β : Type}

theorem handedRecord (handed : Handed companyId c) {thread : Nat} {site : Site} {i : Answer}
    (step : Orderly companyId after ∧ Hands companyId c.world after ∧ Settled c.world after) :
    Handed companyId (c.record thread site i after) := by
  obtain ⟨orderly,hands,settled⟩ := step
  refine ⟨orderly,List.forall_mem_cons.mpr ⟨⟨orderly,hands⟩,handed.steps⟩,List.forall_mem_cons.mpr ⟨settledSame rfl,fun e inside => ?_⟩⟩
  exact settledTrans (handed.settled e inside) settled

theorem handedRead (handed : Handed companyId c) {thread : Nat} {site : Site} {i : Answer} :
    Handed companyId (c.record thread site i c.world) :=
  handedRecord handed ⟨handed.orderly,Or.inl fun _ => Iff.rfl,settledSame rfl⟩

abbrev Keeps (companyId : String) (p : Op α) (c : Snapshot Site Answer Db) : Prop :=
  Ensures (fun _ _ => True) (Handed companyId) (fun _ _ => True) p c

theorem keepsQuery {site : Site} {f : Answer → Db → Except Exception α} {k : α → Op β} (handed : Handed companyId c)
    (rest : ∀ i value c', f i c.world = .ok value → Handed companyId c' → c'.world = c.world → Keeps companyId (k value) c') :
    Keeps companyId (Process.query site f >>= k) c := by
  refine ensuresBind (ensuresQuery fun thread i _ => ⟨handedRead handed,?_⟩)
  split
  · rename_i value found
    exact rest i value _ found (handedRead handed) rfl
  · trivial

theorem keepsFind {model : Model} {f : Db → α} {k : α → Op β} (handed : Handed companyId c)
    (rest : ∀ c', Handed companyId c' → c'.world = c.world → Keeps companyId (k (f c.world)) c') : Keeps companyId (find model f >>= k) c := by
  refine keepsQuery handed fun i value c' found handed same => ?_
  split at found
  · cases found
  · cases found
    exact rest c' handed same

theorem keepsWrite {site : Site} {f : Answer → Db → Except Exception (α × Db)} {k : α → Op β} (handed : Handed companyId c)
    (commits : ∀ i value after, f i c.world = .ok (value,after) → Orderly companyId after ∧ Hands companyId c.world after ∧ Settled c.world after)
    (rest : ∀ i value c', f i c.world = .ok (value,c'.world) → Handed companyId c' → Keeps companyId (k value) c') :
    Keeps companyId (write site f >>= k) c := by
  refine ensuresBind (ensuresTransact (fun thread i value after ok _ => ?_) fun thread i error _ => ⟨handedRead handed,trivial⟩)
  split at ok
  · cases ok
  · exact ⟨handedRecord handed (commits i value after ok),rest i value _ ok (handedRecord handed (commits i value after ok))⟩

/-- Past the guards of an owner's route, the user owns the company of their row. -/
theorem keepsOwned {user : AuthUser} {p : Op Reply} (handed : Handed companyId c)
    (rest : ∀ c', Handed companyId c' → Owns (companyIdOf c'.world user.id) c'.world user.id → Keeps companyId p c') :
    Keeps companyId (owned user p) c := by
  unfold owned RolesGuard.canActivate CompanyRoleGuard.canActivate
  split
  · rename_i company
    rw [if_neg (not_not.mpr company)]
    change Keeps companyId ((_ >>= _) >>= fun _ => p) c
    rw [Process.bindAssoc]
    refine keepsFind handed fun c' handed' same => ?_
    split
    · trivial
    · rename_i required
      have owner : companyRoleOf c.world user.id = .owner := by simpa using required
      exact rest c' handed' (ownsCompany (same ▸ owner))
  · trivial

theorem keepsLast {site : Site} {f : Answer → Db → Except Exception (α × Db)} (handed : Handed companyId c)
    (commits : ∀ i value after, f i c.world = .ok (value,after) → Orderly companyId after ∧ Hands companyId c.world after ∧ Settled c.world after) :
    Keeps companyId (write site f) c := by
  refine ensuresTransact (fun thread i value after ok _ => ⟨handedRecord handed ?_,trivial⟩) fun thread i error _ => ⟨handedRead handed,trivial⟩
  split at ok
  · cases ok
  · exact commits i value after ok

theorem keepsEnd {p : Op α} {k : α → Op β} (keeps : Keeps companyId p c) (ends : ∀ value c', Keeps companyId (k value) c') :
    Keeps companyId (p >>= k) c := by
  refine ensuresBind (ensuresMono (fun out c' _ => ?_) keeps)
  cases out with
  | ok value => exact ends value c'
  | error error => trivial

theorem keepsInitiate {user : AuthUser} {newOwnerId : String} (handed : Handed companyId c)
    (owns : Owns (companyIdOf c.world user.id) c.world user.id) : Keeps companyId (CompaniesService.initiateTransfer user.id newOwnerId) c := by
  unfold CompaniesService.initiateTransfer
  split
  · trivial
  · rename_i differs
    refine keepsFind handed fun c₁ handed same => ?_
    refine keepsFind handed fun c₂ handed same' => ?_
    split
    · trivial
    · refine keepsWrite handed (fun i value after ok => ?_) fun i value c₃ ok handed => ?_
      · cases ok
        exact ⟨orderlyFewer handed.orderly rfl fun transfer its => ⟨(cancelsOffered its.1 its.2.2).1,its.2⟩,Or.inl fun _ => Iff.rfl,settledCancels _⟩
      · refine keepsLast handed fun i' value' after ok' => ?_
        dsimp only at ok'
        split at ok'
        · cases ok'
        · rename_i transfers created
          cases ok'
          have world := (Prod.mk.inj (Except.ok.inj ok)).2
          have free : ∀ transfer, ¬ Offered (companyIdOf c.world user.id) c₃.world transfer := by
            rintro transfer ⟨inside,own,pending⟩
            rw [← world] at inside
            exact (cancelsOffered inside pending).2 own
          have members : c₃.world.members = c.world.members := by
            rw [← world]
            exact (congrArg Db.members same').trans (congrArg Db.members same)
          exact createOffers handed.orderly created free ((ownsSame members _).mpr owns) (Ne.symm differs)

theorem keepsAccept {user : AuthUser} (handed : Handed companyId c) : Keeps companyId (CompaniesService.acceptTransfer user.id) c := by
  unfold CompaniesService.acceptTransfer
  refine keepsFind handed fun c' handed' same => ?_
  dsimp only
  split
  · trivial
  · rename_i transfer found
    split
    · trivial
    · refine keepsEnd (keepsLast handed' fun i value after ok => ?_) fun _ _ => trivial
      have inside := (List.perm_insertionSort _ _).mem_iff.mp (List.mem_of_mem_head? found)
      obtain ⟨there,its⟩ := List.mem_filter.mp inside
      rw [same] at ok ⊢
      exact consumeHands handed.orderly there (by simpa using And.right (by simpa using its)) ok

theorem keepsCancel {user : AuthUser} (handed : Handed companyId c) : Keeps companyId (CompaniesService.cancelTransfer user.id) c := by
  unfold CompaniesService.cancelTransfer
  refine keepsFind handed fun c₁ handed same => ?_
  refine keepsFind handed fun c₂ handed same' => ?_
  split
  · trivial
  · refine keepsLast handed fun i value after ok => ?_
    obtain ⟨⟨row,transfers⟩,cancelled,rest⟩ := exceptBind.mp ok
    cases rest
    obtain ⟨offers,settled,_⟩ := settles (requiredOk cancelled) fun row => by simp [OwnershipTransfer.pending]
    exact ⟨orderlyFewer handed.orderly rfl fun transfer its => ⟨(offers transfer its.1 its.2.2).1,its.2⟩,Or.inl fun _ => Iff.rfl,settled⟩

theorem keepsAdd {user : AuthUser} {memberId : String} {companyRole : CompanyRole} (plain : companyRole ≠ .owner) (handed : Handed companyId c) :
    Keeps companyId (BillingController.addMember user.id memberId companyRole) c := by
  unfold BillingController.addMember
  split
  · trivial
  · rename_i other
    refine keepsFind handed fun c' handed same => ?_
    split
    · trivial
    · refine keepsLast handed fun i value after ok => ?_
      obtain ⟨db,created,rest⟩ := exceptBind.mp ok
      cases rest
      exact joinsOrderly handed.orderly created plain other

theorem quietFind {model : Model} {f : Db → α} : Acts (fun _ => Quiet) (find model f) := actsQuery (fun _ => quietSame rfl rfl) _

theorem quietWrite {site : Site} {f : Answer → Db → Except Exception (α × Db)} (commits : ∀ i db value after, f i db = .ok (value,after) → Quiet db after) :
    Acts (fun _ => Quiet) (write site f) := by
  refine actsTransact (fun _ => quietSame rfl rfl) fun i db value after ok => ?_
  split at ok
  · cases ok
  · exact commits i db value after ok

theorem keepsQuiet {p : Op α} (handed : Handed companyId c) (quiet : Acts (fun _ => Quiet) p) : Keeps companyId p c := by
  refine ensuresMono (fun _ _ _ => trivial) (ensuresActs (fun site s' c' thread i step _ handed => ?_) (fun _ => id) quiet handed)
  exact handedRecord handed (quietOrderly handed.orderly step)

theorem quietSetMemberSpendingLimit (companyOwnerId memberId : String) (spendingLimit : Option Int) :
    Acts (fun _ => Quiet) (CompaniesService.setMemberSpendingLimit companyOwnerId memberId spendingLimit) := by
  refine actsBind quietFind fun own => actsBind quietFind fun membership => ?_
  split
  · trivial
  · refine quietWrite fun i db value after ok => ?_
    obtain ⟨updated,written,same⟩ := exceptBind.mp ok
    cases same
    unfold Db.updateMember required at written
    split at written
    · rename_i out modified
      cases written
      obtain ⟨old,found,_,same⟩ := Table.modifyGet modified
      refine ⟨rfl,fun key => ?_⟩
      dsimp only
      rw [same,Table.getUpdate]
      cases db.members.get? key with
      | none => simp
      | some row =>
        rw [Option.map_some,Option.map_some]
        split <;> rfl
    · cases written

theorem quietSendInvite (companyOwnerId email : String) : Acts (fun _ => Quiet) (TeamInvitesService.sendInvite self companyOwnerId email) := by
  refine actsBind quietFind fun owner => ?_
  split
  · trivial
  · refine actsBind quietFind fun existing => ?_
    split
    · trivial
    · refine actsBind (quietWrite fun i db value after ok => ?_) fun issued => actsBind (quietWrite fun i db value after ok => ?_) fun invite => ?_
      · cases ok
        exact quietSame rfl rfl
      · obtain ⟨created,made,same⟩ := exceptBind.mp ok
        cases same
        unfold TeamInvitesService.createInvite at made
        split at made
        · cases made
        · split at made
          · cases made
          · split at made
            · cases made
            · cases made
              exact quietSame rfl rfl
      · exact actsBind (actsQuery (fun _ => quietSame rfl rfl) _) fun _ => trivial

theorem quietAcceptInvite (token name password : String) : Acts (fun _ => Quiet) (TeamInvitesService.acceptInvite self token name password) := by
  refine actsBind quietFind fun found => ?_
  dsimp only
  split
  · trivial
  · split
    · trivial
    · split
      · trivial
      · refine actsBind (actsOfExcept _) fun _ => actsBind quietFind fun existing => ?_
        split
        · trivial
        · refine actsBind quietFind fun owner => actsBind (actsQuery (fun _ => quietSame rfl rfl) _) fun hash => actsHandle (quietWrite fun i db value after ok => ?_) fun error => ?_
          · obtain ⟨created,made,rest⟩ := exceptBind.mp ok
            obtain ⟨_,_,same⟩ := exceptBind.mp rest
            cases same
            unfold TeamInvitesService.createUser at made
            split at made
            · cases made
            · split at made
              · cases made
              · cases made
                exact quietSame rfl rfl
          · split <;> trivial

theorem keepsHandler (request : { request : Request // Ordinary request }) (handed : Handed companyId c) :
    Keeps companyId ((service self).handler request) c := by
  obtain ⟨request,ordinary⟩ := request
  cases request with
  | addMember user memberId companyRole => exact keepsOwned handed fun c' handed' _ => keepsEnd (keepsAdd ordinary handed') fun _ _ => trivial
  | removeMember user memberId => exact ordinary.elim
  | setMemberSpendingLimit user memberId spendingLimit =>
    exact keepsOwned handed fun c' handed' _ => keepsEnd (keepsQuiet handed' (quietSetMemberSpendingLimit _ _ _)) fun _ _ => trivial
  | initiateTransfer user newOwnerId => exact keepsOwned handed fun c' handed' owns => keepsEnd (keepsInitiate handed' owns) fun _ _ => trivial
  | acceptTransfer user =>
    change Keeps companyId (RolesGuard.canActivate user >>= _) c
    unfold RolesGuard.canActivate
    split
    · change Keeps companyId (CompaniesService.acceptTransfer user.id >>= _) c
      exact keepsEnd (keepsAccept handed) fun _ _ => trivial
    · trivial
  | cancelTransfer user => exact keepsOwned handed fun c' handed' _ => keepsEnd (keepsCancel handed') fun _ _ => trivial
  | sendInvite user email =>
    refine keepsQuiet handed (actsBind ?_ fun _ => actsBind (actsQuery (fun _ => quietSame rfl rfl) _) fun enabled => ?_)
    · unfold RolesGuard.canActivate
      split <;> trivial
    · split
      · trivial
      · exact actsBind (quietSendInvite _ _) fun _ => trivial
  | acceptInvite token name password => exact keepsQuiet handed (actsBind (quietAcceptInvite _ _ _) fun _ => trivial)

end Calls

variable {companyId}

theorem ownershipHandedOn {db : Db} (start : Orderly companyId db) (list : List TransferTurn) :
    Handed companyId ((service self).turns (Pool.initial db) list).snapshot := by
  refine turnsKeep (fun request c handed => ensuresMono (fun _ _ _ => trivial) (keepsHandler request handed)) (fun passed c handed => ?_) ?_ list
    (meetsAlways (fun _ _ _ _ => trivial) _)
  · have quiet : Quiet c.world ((service self).environment passed c.world) := quietSame rfl rfl
    exact ⟨(quietOrderly handed.orderly quiet).1,handed.steps,fun e inside => settledTrans (handed.settled e inside) (settledSame rfl)⟩
  · exact ⟨start,by simp [Pool.initial],by simp [Pool.initial]⟩

theorem orderlyFounded {db : Db} (alone : ∀ row ∈ db.members.rows, row.companyId ≠ companyId) (free : ∀ transfer ∈ db.transfers.rows, transfer.companyId ≠ companyId) :
    Orderly companyId db := by
  have offers : ∀ transfer, ¬ Offered companyId db transfer := fun transfer its => free transfer its.1 its.2.1
  refine ⟨⟨companyId,fun userId => ?_⟩,fun a _ first _ => absurd first (offers a),fun transfer its => absurd its (offers transfer)⟩
  have none : db.members.get? (companyId,userId) = none :=
    List.find?_eq_none.mpr fun row inside same => alone row inside (congrArg Prod.fst (of_decide_eq_true same))
  simp [Owns,none]

def offered : List TransferTurn :=
  [.serve ⟨.addMember { id := "o" } "v" .member,by simp [Ordinary]⟩ [{},{},{}],
    .serve ⟨.initiateTransfer { id := "o" } "v",trivial⟩ [{},{},{},{},{ text := "first" }],
    .serve ⟨.cancelTransfer { id := "o" },trivial⟩ [{},{},{},{}],
    .environment 5,
    .serve ⟨.acceptTransfer { id := "v" },trivial⟩ [{},{}],
    .serve ⟨.initiateTransfer { id := "o" } "v",trivial⟩ [{},{},{},{},{ text := "second" }],
    .serve ⟨.acceptTransfer { id := "v" },trivial⟩ [{},{}]]

theorem colleagueTakesOver : Handed "o" ((service plain).turns (Pool.initial registered) offered).snapshot ∧
    Owns "o" ((service plain).turns (Pool.initial registered) offered).world "v" :=
  ⟨ownershipHandedOn plain (orderlyFounded (by decide) (by decide)) offered,by decide +kernel⟩

end HireSettle.Companies.OwnerTurns
