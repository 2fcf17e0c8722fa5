import HireSettle.Companies.Members

/-! Who owns a company, over all runs. The role of a user and the company it stands
for are read off the first membership row about it, so they stay what they are as
long as nobody writes such a row. -/
namespace HireSettle.Companies
open Workflow

def Request.caller : Request → Option String
  | .addMember user _ _ => some user.id
  | .removeMember user _ => some user.id
  | .setMemberSpendingLimit user _ _ => some user.id
  | .initiateTransfer user _ => some user.id
  | .acceptTransfer user => some user.id
  | .cancelTransfer user => some user.id
  | .sendInvite user _ => some user.id
  | .acceptInvite _ _ _ => none

variable (self : Config) (u : String)

/-- The service while a user makes no request. -/
def without : System { request : Request // request.caller ≠ some u } Nat Site Answer Db Exception Reply where
  handler request := handler self request.val
  environment := (service self).environment

def StillOwner (db : Db) : Prop := companyRoleOf db u = .owner ∧ companyIdOf db u = u

instance (db : Db) : Decidable (StillOwner u db) := inferInstanceAs (Decidable (_ ∧ _))

def Unlisted (db : Db) : Prop := ∀ row ∈ db.members.rows, row.memberId ≠ u

instance (db : Db) : Decidable (Unlisted u db) := inferInstanceAs (Decidable (∀ row ∈ _, _))

/-- A membership of the user is written: another owner has added it, or a transfer it had
initiated is accepted. -/
def ListsMember (e : Event Site Answer Db) : Prop :=
  (∃ other, e.site = .createMember other u ∨ e.site = .acceptTransfer u other) ∧ e.after.members.rows ≠ e.before.members.rows

section Rows

variable {u} {db : Db}

theorem unlistedNone (unlisted : Unlisted u db) : membershipOf db u = none := by
  refine List.find?_eq_none.mpr fun row inside => ?_
  simpa using unlisted row inside

theorem unlistedOwner (unlisted : Unlisted u db) : StillOwner u db := by
  simp [StillOwner,companyRoleOf,companyIdOf,unlistedNone unlisted]

theorem unlistedCreate {after : Db} {row : CompanyMember} (unlisted : Unlisted u db) (created : db.createMember row = .ok after)
    (other : row.memberId ≠ u) : Unlisted u after := by
  unfold Db.createMember at created
  split at created
  · contradiction
  · split at created
    · contradiction
    · rename_i members made
      cases created
      intro row' inside
      obtain old | rfl := (Table.memCreate made).mp inside
      · exact unlisted row' old
      · exact other

theorem unlistedUpdate {after : Db} {companyId memberId : String} {f : CompanyMember → CompanyMember}
    {keeps : ∀ row, ((f row).companyId,(f row).memberId) = (row.companyId,row.memberId)} (unlisted : Unlisted u db)
    (updated : db.updateMember companyId memberId f keeps = .ok after) : Unlisted u after := by
  unfold Db.updateMember required at updated
  cases modified : db.members.modify (companyId,memberId) f keeps with
  | none => rw [modified] at updated; contradiction
  | some out =>
    rw [modified] at updated
    cases updated
    obtain ⟨_,_,_,same⟩ := Table.modifyGet modified
    intro row inside
    rw [same] at inside
    obtain ⟨old,there,rfl⟩ := List.mem_map.mp inside
    split
    · exact (congrArg Prod.snd (keeps old)).trans_ne (unlisted old there)
    · exact unlisted old there

theorem unlistedUpsert {after : Db} {row : CompanyMember} {f : CompanyMember → CompanyMember}
    {keeps : ∀ row, ((f row).companyId,(f row).memberId) = (row.companyId,row.memberId)} (unlisted : Unlisted u db)
    (upserted : db.upsertMember row f keeps = .ok after) (other : row.memberId ≠ u) : Unlisted u after := by
  unfold Db.upsertMember at upserted
  split at upserted
  · exact unlistedUpdate unlisted upserted
  · exact unlistedCreate unlisted upserted other

theorem listedCreate {after : Db} {row : CompanyMember} (unlisted : Unlisted u db) (created : db.createMember row = .ok after)
    (its : row.memberId = u) : membershipOf after u = some row := by
  unfold Db.createMember at created
  split at created
  · contradiction
  · split at created
    · contradiction
    · rename_i members made
      cases created
      have before : db.members.rows.find? (fun row => row.memberId = u) = none := unlistedNone unlisted
      have rows : members.rows = db.members.rows ++ [row] := (Table.createGet made).2.1
      simp [membershipOf,Table.findFirst,rows,List.find?_append,before,its]

theorem listedUpdate {after : Db} {companyId memberId : String} {f : CompanyMember → CompanyMember}
    {keeps : ∀ row, ((f row).companyId,(f row).memberId) = (row.companyId,row.memberId)} {row : CompanyMember}
    (listed : membershipOf db u = some row) (updated : db.updateMember companyId memberId f keeps = .ok after) (other : memberId ≠ u) :
    membershipOf after u = some row := by
  unfold Db.updateMember required at updated
  cases modified : db.members.modify (companyId,memberId) f keeps with
  | none => rw [modified] at updated; contradiction
  | some out =>
    rw [modified] at updated
    cases updated
    obtain ⟨_,_,_,same⟩ := Table.modifyGet modified
    have its : row.memberId = u := by simpa using List.find?_some listed
    have searched := Table.findFirstUpdateMany db.members (p := fun row => Keyed.key row = (companyId,memberId))
      (q := fun row => row.memberId = u) keeps fun row => by rw [show (f row).memberId = row.memberId from congrArg Prod.snd (keeps row)]
    unfold membershipOf at listed ⊢
    rw [same]
    refine searched.trans ?_
    rw [listed,Option.map_some,if_neg]
    simpa [Keyed.key,its] using fun _ => other.symm

theorem pendingTo {transfer : OwnershipTransfer} {userId : String} (found : CompaniesService.pendingFor db userId = some transfer) :
    transfer.toMemberId = userId := by
  have inside := (List.perm_insertionSort _ _).mem_iff.mp (List.mem_of_mem_head? found)
  have its := (List.mem_filter.mp inside).2
  simp only [Bool.and_eq_true,decide_eq_true_eq] at its
  exact its.1

theorem consumeSteps {transfer : OwnershipTransfer} {after : Db} (consumed : CompaniesService.consume transfer db = .ok ((),after)) :
    ∃ marked demoted : Db, marked.members = db.members ∧
      marked.upsertMember { companyId := transfer.companyId, memberId := transfer.fromOwnerId, companyRole := .member }
        (fun row => { row with companyRole := .member }) = .ok demoted ∧
      demoted.updateMember transfer.companyId transfer.toMemberId (fun row => { row with companyRole := .owner }) = .ok after := by
  obtain ⟨⟨_,transfers⟩,_,rest⟩ := exceptBind.mp consumed
  obtain ⟨demoted,upserted,rest⟩ := exceptBind.mp rest
  obtain ⟨promoted,updated,rest⟩ := exceptBind.mp rest
  cases rest
  exact ⟨{ db with transfers := transfers },demoted,rfl,upserted,updated⟩

theorem unlistedConsume {transfer : OwnershipTransfer} {after : Db} (unlisted : Unlisted u db)
    (consumed : CompaniesService.consume transfer db = .ok ((),after)) (other : transfer.fromOwnerId ≠ u) : Unlisted u after := by
  obtain ⟨marked,demoted,same,upserted,updated⟩ := consumeSteps consumed
  have before : Unlisted u marked := fun row inside => unlisted row (same ▸ inside)
  exact unlistedUpdate (unlistedUpsert before upserted other) updated

theorem listedConsume {transfer : OwnershipTransfer} {after : Db} (unlisted : Unlisted u db)
    (consumed : CompaniesService.consume transfer db = .ok ((),after)) (its : transfer.fromOwnerId = u) (other : transfer.toMemberId ≠ u) :
    companyRoleOf after u = .member := by
  obtain ⟨marked,demoted,same,upserted,updated⟩ := consumeSteps consumed
  have before : Unlisted u marked := fun row inside => unlisted row (same ▸ inside)
  have demotes : membershipOf demoted u = some { companyId := transfer.companyId, memberId := transfer.fromOwnerId, companyRole := .member } := by
    unfold Db.upsertMember at upserted
    split at upserted
    · rename_i row found
      have key : (row.companyId,row.memberId) = (transfer.companyId,transfer.fromOwnerId) := Table.getKey found
      exact absurd ((congrArg Prod.snd key).trans its) (before row (Table.getMem found))
    · exact listedCreate before upserted its
  rw [companyRoleOf,listedUpdate demotes updated other]
  rfl

end Rows

section Ownership

/-- In every state so far the user owned its company, and no membership of it was written. -/
def standing : Contract Site Answer Db Unit where
  inv c _ := Unlisted u c.world ∧ ∀ e ∈ c.history, StillOwner u e.after ∧ ¬ ListsMember u e
  admits _ e := StillOwner u e.after ∨ ¬ ListsMember u e

variable {u} {c : Snapshot Site Answer Db}

theorem standsOther {after : Db} (inv : (standing u).inv c ()) {site : Site} (unlisted : Unlisted u after)
    (other : ∀ v, site ≠ .createMember v u ∧ site ≠ .acceptTransfer u v) (thread : Nat) (answer : Answer) :
    (standing u).inv (c.record thread site answer after) () := by
  refine ⟨unlisted,fun e inside => ?_⟩
  obtain rfl | old := List.mem_cons.mp inside
  · refine ⟨unlistedOwner unlisted,?_⟩
    rintro ⟨⟨v,created | accepted⟩,_⟩
    · exact (other v).1 created
    · exact (other v).2 accepted
  · exact inv.2 e old

theorem standsSame {after : Db} (inv : (standing u).inv c ()) (same : after.members = c.world.members) (thread : Nat) (site : Site)
    (answer : Answer) : (standing u).inv (c.record thread site answer after) () := by
  have unlisted : Unlisted u after := fun row inside => inv.1 row (same ▸ inside)
  refine ⟨unlisted,fun e inside => ?_⟩
  obtain rfl | old := List.mem_cons.mp inside
  · exact ⟨unlistedOwner unlisted,fun lists => lists.2 (congrArg Table.rows same)⟩
  · exact inv.2 e old

theorem harmlessFind {α : Type} (model : Model) (f : Db → α) : Harmless (standing u) (find model f) :=
  fun _ => safeQuery (fun _ _ thread answer inv => standsSame inv rfl thread _ answer) fun _ _ _ inv => ⟨(),inv,trivial⟩

theorem harmlessWrite {α : Type} {site : Site} {f : Answer → Db → Except Exception (α × Db)}
    (commits : ∀ c thread answer value after, (standing u).inv c () → f answer c.world = .ok (value,after) →
      (standing u).admits c.history (c.event thread site answer after) → (standing u).inv (c.record thread site answer after) ()) :
    Harmless (standing u) (write site f) := by
  refine fun _ => safeTransact (fun c _ thread answer value after inv done meets => ?_)
    fun c _ thread answer error inv _ => ⟨standsSame inv rfl thread site answer,trivial⟩
  split at done
  · contradiction
  · exact ⟨(),commits c thread answer value after inv done meets,trivial⟩

theorem harmlessRaise {α : Type} (error : Exception) : Harmless (standing u) (.raise error : Op α) := fun _ => trivial

theorem harmlessRet {α : Type} (value : α) : Harmless (standing u) (.ret value : Op α) := fun _ => trivial

theorem harmlessOwned {user : AuthUser} {p : Op Reply} (body : Harmless (standing u) p) : Harmless (standing u) (owned user p) := by
  refine harmlessBind ?_ fun _ => harmlessBind ?_ fun _ => body
  · unfold RolesGuard.canActivate
    split
    · exact harmlessRet _
    · exact harmlessRaise _
  · unfold CompanyRoleGuard.canActivate
    split
    · exact harmlessRaise _
    · refine harmlessBind (harmlessFind _ _) fun companyRole => ?_
      split
      · exact harmlessRaise _
      · exact harmlessRet _

theorem harmlessRoles (user : AuthUser) : Harmless (standing u) (RolesGuard.canActivate user) := by
  unfold RolesGuard.canActivate
  split
  · exact harmlessRet _
  · exact harmlessRaise _

theorem createMemberStands {companyId memberId : String} {companyRole : CompanyRole} {thread : Nat} {answer : Answer} {after : Db}
    (other : companyId ≠ u) (inv : (standing u).inv c ())
    (created : c.world.createMember { companyId := companyId, memberId := memberId, companyRole := companyRole } = .ok after)
    (meets : (standing u).admits c.history (c.event thread (.createMember companyId memberId) answer after)) :
    (standing u).inv (c.record thread (.createMember companyId memberId) answer after) () := by
  by_cases about : memberId = u
  · have listed := listedCreate inv.1 created about
    obtain owner | notListed := meets
    · have company : companyIdOf after u = companyId := by simp [companyIdOf,listed]
      exact absurd (company.symm.trans owner.2) other
    · have same : after.members.rows = c.world.members.rows := by
        by_contra differs
        exact notListed ⟨⟨companyId,Or.inl (about ▸ rfl)⟩,differs⟩
      have unlisted : Unlisted u after := fun row inside => inv.1 row (same ▸ inside)
      cases listed.symm.trans (unlistedNone unlisted)
  · exact standsOther inv (unlistedCreate inv.1 created about) (by simp [about]) _ _

theorem acceptTransferStands {transfer : OwnershipTransfer} {thread : Nat} {answer : Answer} {after : Db}
    (other : transfer.toMemberId ≠ u) (inv : (standing u).inv c ()) (consumed : CompaniesService.consume transfer c.world = .ok ((),after))
    (meets : (standing u).admits c.history (c.event thread (.acceptTransfer transfer.fromOwnerId transfer.toMemberId) answer after)) :
    (standing u).inv (c.record thread (.acceptTransfer transfer.fromOwnerId transfer.toMemberId) answer after) () := by
  by_cases mine : transfer.fromOwnerId = u
  · have role := listedConsume inv.1 consumed mine other
    obtain owner | notListed := meets
    · cases role.symm.trans owner.1
    · have same : after.members.rows = c.world.members.rows := by
        by_contra differs
        exact notListed ⟨⟨transfer.toMemberId,Or.inr (mine ▸ rfl)⟩,differs⟩
      have unlisted : Unlisted u after := fun row inside => inv.1 row (same ▸ inside)
      cases role.symm.trans (unlistedOwner unlisted).1
  · exact standsOther inv (unlistedConsume inv.1 consumed mine) (by simp [mine]) _ _

theorem harmlessAddMember {companyId : String} (other : companyId ≠ u) (memberId : String) (companyRole : CompanyRole) :
    Harmless (standing u) (BillingController.addMember companyId memberId companyRole) := by
  unfold BillingController.addMember
  split
  · exact harmlessRaise _
  · refine harmlessBind (harmlessFind _ _) fun existing => ?_
    split
    · exact harmlessRaise _
    · refine harmlessWrite fun c thread answer value after inv done meets => ?_
      obtain ⟨db,created,same⟩ := exceptBind.mp done
      cases same
      exact createMemberStands other inv created meets

theorem harmlessRemoveMember (companyId memberId : String) : Harmless (standing u) (BillingController.removeMember companyId memberId) := by
  refine harmlessBind (harmlessFind _ _) fun existing => ?_
  split
  · exact harmlessRaise _
  · refine harmlessWrite fun c thread answer value after inv done meets => ?_
    obtain ⟨_,_,same⟩ := exceptBind.mp done
    cases same
    exact standsOther inv (fun row inside => inv.1 row (List.mem_of_mem_filter inside)) (by simp) _ _

theorem harmlessSetMemberSpendingLimit (companyOwnerId memberId : String) (spendingLimit : Option Int) :
    Harmless (standing u) (CompaniesService.setMemberSpendingLimit companyOwnerId memberId spendingLimit) := by
  refine harmlessBind (harmlessFind _ _) fun companyId => harmlessBind (harmlessFind _ _) fun membership => ?_
  split
  · exact harmlessRaise _
  · refine harmlessWrite fun c thread answer value after inv done meets => ?_
    obtain ⟨_,updated,same⟩ := exceptBind.mp done
    cases same
    exact standsOther inv (unlistedUpdate inv.1 updated) (by simp) _ _

theorem harmlessInitiateTransfer (currentOwnerId newOwnerId : String) :
    Harmless (standing u) (CompaniesService.initiateTransfer currentOwnerId newOwnerId) := by
  unfold CompaniesService.initiateTransfer
  split
  · exact harmlessRaise _
  · refine harmlessBind (harmlessFind _ _) fun companyId => harmlessBind (harmlessFind _ _) fun membership => ?_
    split
    · exact harmlessRaise _
    · refine harmlessBind (harmlessWrite fun c thread answer value after inv done meets => ?_) fun _ =>
        harmlessWrite fun c thread answer value after inv done meets => ?_
      · cases done
        exact standsSame inv (by rfl) _ _ _
      · dsimp only at done
        split at done
        · contradiction
        · cases done
          exact standsSame inv (by rfl) _ _ _

theorem harmlessAcceptTransfer {acceptingUserId : String} (other : acceptingUserId ≠ u) :
    Harmless (standing u) (CompaniesService.acceptTransfer acceptingUserId) := by
  refine fun _ => safeAsk (fun _ _ thread answer inv => standsSame inv rfl thread _ answer) (fun c _ answer found inv same => ?_)
    fun _ => trivial
  split at same
  · contradiction
  · cases same
    dsimp only
    split
    · trivial
    · rename_i transfer its
      split
      · trivial
      · have differs : transfer.toMemberId ≠ u := (pendingTo its).trans_ne other
        refine harmlessBind (harmlessWrite fun c thread answer value after inv done meets => ?_) (fun _ => harmlessRet _) _
        exact acceptTransferStands differs inv done meets

theorem harmlessCancelTransfer (currentOwnerId : String) : Harmless (standing u) (CompaniesService.cancelTransfer currentOwnerId) := by
  refine harmlessBind (harmlessFind _ _) fun companyId => harmlessBind (harmlessFind _ _) fun found => ?_
  split
  · exact harmlessRaise _
  · refine harmlessWrite fun c thread answer value after inv done meets => ?_
    obtain ⟨_,_,same⟩ := exceptBind.mp done
    cases same
    exact standsSame inv (by rfl) _ _ _

theorem harmlessQuery {α : Type} (site : Site) (f : Answer → Db → Except Exception α) :
    Harmless (standing u) (Process.query site f : Op α) :=
  fun _ => safeQuery (fun _ _ thread answer inv => standsSame inv rfl thread _ answer) fun _ _ _ inv => ⟨(),inv,trivial⟩

theorem createInviteSame {db after : Db} {row : TeamInvite} (created : TeamInvitesService.createInvite db row = .ok after) :
    after.members = db.members := by
  unfold TeamInvitesService.createInvite at created
  split at created
  · contradiction
  · split at created
    · contradiction
    · split at created
      · contradiction
      · cases created
        rfl

theorem harmlessSendInvite (companyOwnerId email : String) :
    Harmless (standing u) (TeamInvitesService.sendInvite self companyOwnerId email) := by
  refine harmlessBind (harmlessFind _ _) fun owner => ?_
  split
  · exact harmlessRaise _
  · refine harmlessBind (harmlessFind _ _) fun existing => ?_
    split
    · exact harmlessRaise _
    · refine harmlessBind (harmlessWrite fun c thread answer value after inv done meets => ?_) fun _ =>
        harmlessBind (harmlessWrite fun c thread answer value after inv done meets => ?_) fun _ =>
          harmlessBind (harmlessQuery _ _) fun _ => harmlessRet _
      · cases done
        exact standsSame inv (by rfl) _ _ _
      · obtain ⟨db,created,same⟩ := exceptBind.mp done
        cases same
        exact standsSame inv (createInviteSame created) _ _ _

theorem createUserSame {db after : Db} {row : User} (created : TeamInvitesService.createUser db row = .ok after) :
    after.members = db.members ∧ after.invites = db.invites ∧ db.users.create row = some after.users := by
  unfold TeamInvitesService.createUser at created
  split at created
  · contradiction
  · split at created
    · contradiction
    · rename_i users made
      cases created
      exact ⟨rfl,rfl,made⟩

theorem acceptedSteps {db after : Db} {invite : TeamInvite} {row user : User}
    (done : TeamInvitesService.accepted invite row db = .ok (user,after)) :
    user = row ∧ after.members = db.members ∧ db.users.create row = some after.users := by
  obtain ⟨created,made,rest⟩ := exceptBind.mp done
  obtain ⟨_,_,rest⟩ := exceptBind.mp rest
  cases rest
  exact ⟨rfl,(createUserSame made).1,(createUserSame made).2.2⟩

theorem harmlessAcceptInvite (token name password : String) :
    Harmless (standing u) (TeamInvitesService.acceptInvite self token name password) := by
  refine harmlessBind (harmlessFind _ _) fun found => ?_
  obtain ⟨found,now⟩ := found
  cases found with
  | none => exact harmlessRaise _
  | some invite =>
    dsimp only
    split
    · exact harmlessRaise _
    · split
      · exact harmlessRaise _
      · refine harmlessBind (fun _ => safeOfExcept trivial) fun _ => harmlessBind (harmlessFind _ _) fun existingUser => ?_
        split
        · exact harmlessRaise _
        · refine harmlessBind (harmlessFind _ _) fun owner => harmlessBind (harmlessQuery _ _) fun passwordHash =>
            harmlessHandle (harmlessWrite fun c thread answer value after inv done meets => ?_) fun error => ?_
          · exact standsSame inv (acceptedSteps done).2.1 _ _ _
          · split
            · exact harmlessRaise _
            · exact harmlessRaise _

theorem harmlessHandler (request : Request) (other : request.caller ≠ some u) : Harmless (standing u) (handler self request) := by
  cases request with
  | addMember user memberId companyRole =>
    exact harmlessOwned (harmlessBind (harmlessAddMember (fun same => other (congrArg some same)) _ _) fun _ => harmlessRet _)
  | removeMember user memberId => exact harmlessOwned (harmlessBind (harmlessRemoveMember _ _) fun _ => harmlessRet _)
  | setMemberSpendingLimit user memberId spendingLimit =>
    exact harmlessOwned (harmlessBind (harmlessSetMemberSpendingLimit _ _ _) fun _ => harmlessRet _)
  | initiateTransfer user newOwnerId => exact harmlessOwned (harmlessBind (harmlessInitiateTransfer _ _) fun _ => harmlessRet _)
  | acceptTransfer user =>
    exact harmlessBind (harmlessRoles user) fun _ =>
      harmlessBind (harmlessAcceptTransfer fun same => other (congrArg some same)) fun _ => harmlessRet _
  | cancelTransfer user => exact harmlessOwned (harmlessBind (harmlessCancelTransfer _) fun _ => harmlessRet _)
  | sendInvite user email =>
    refine harmlessBind (harmlessRoles user) fun _ => harmlessBind (harmlessQuery _ _) fun isEnabled => ?_
    split
    · exact harmlessRaise _
    · exact harmlessBind (harmlessSendInvite self _ _) fun _ => harmlessRet _
  | acceptInvite token name password => exact harmlessBind (harmlessAcceptInvite self _ _ _) fun _ => harmlessRet _

theorem standsRun {db : Db} (unlisted : Unlisted u db) (moves : List (Move { request : Request // request.caller ≠ some u } Nat Answer))
    (meets : AllMeet (standing u).admits ((without self u).run (Pool.initial db) moves).history) :
    (standing u).inv ((without self u).run (Pool.initial db) moves).snapshot () := by
  have start : Secured (standing u) (fun _ => anyEnd)
      (Pool.initial db : Pool { request : Request // request.caller ≠ some u } Site Answer Db Exception Reply) :=
    securedInitial ⟨unlisted,nofun⟩
  have run : Secured (standing u) (fun _ => anyEnd) ((without self u).run (Pool.initial db) moves) :=
    securedRun (fun request => harmlessHandler self request.val request.property ()) (fun _ _ _ inv => inv) start moves meets
  obtain ⟨_,_,inv⟩ := run
  exact inv

/-- A user stays the owner of its company in every state of a run in which it makes no request exactly if nobody
writes a membership of it. -/
theorem ownershipKept (db : Db) (unlisted : Unlisted u db)
    (moves : List (Move { request : Request // request.caller ≠ some u } Nat Answer)) :
    (StillOwner u ((without self u).run (Pool.initial db) moves).world ∧
      ∀ e ∈ ((without self u).run (Pool.initial db) moves).history, StillOwner u e.after) ↔
      ∀ e ∈ ((without self u).run (Pool.initial db) moves).history, ¬ ListsMember u e := by
  refine ⟨fun owner e inside => ?_,fun none => ?_⟩
  · have meets := meetsEach (P := (standing u).admits []) fun e inside => Or.inl (owner.2 e inside)
    exact ((standsRun self unlisted moves meets).2 e inside).2
  · have meets := meetsEach (P := (standing u).admits []) fun e inside => Or.inr (none e inside)
    have stands := standsRun self unlisted moves meets
    exact ⟨unlistedOwner stands.1,fun e inside => (stands.2 e inside).1⟩

def plain : Config where
  hmac secret message := secret ++ "/" ++ message
  scrypt password salt := salt ++ "/" ++ password

/-- Two company users and their colleague, and no membership yet. -/
def registered : Db where
  users := ⟨[{ id := "u" },{ id := "o" },{ id := "v" }],by decide⟩

def adds (memberId : String) : List (Move { request : Request // request.caller ≠ some "u" } Nat Answer) :=
  [.start ⟨.addMember { id := "o" } memberId .member,by simp [Request.caller]⟩,.answer 0 {},.answer 0 {},.answer 0 {}]

theorem colleagueAdded : StillOwner "u" ((without plain "u").run (Pool.initial registered) (adds "v")).world := by
  have sites : ((without plain "u").run (Pool.initial registered) (adds "v")).history.map Event.site =
      [.createMember "o" "v",.find .companyMember,.find .companyMember] := by decide +kernel
  have none : ∀ e ∈ ((without plain "u").run (Pool.initial registered) (adds "v")).history, ¬ ListsMember "u" e := by
    rintro e inside ⟨⟨other,its⟩,_⟩
    have site := sites ▸ List.mem_map_of_mem (f := Event.site) inside
    obtain created | accepted := its
    · simp [created] at site
    · simp [accepted] at site
  exact ((ownershipKept plain registered (by decide) (adds "v")).mpr none).1

/-- Another owner adds the user, unasked. -/
theorem strangerTakesRole : Unlisted "u" registered ∧
    companyRoleOf ((without plain "u").run (Pool.initial registered) (adds "u")).world "u" = .member ∧
    companyIdOf ((without plain "u").run (Pool.initial registered) (adds "u")).world "u" = "o" := by
  decide +kernel

end Ownership

end HireSettle.Companies
