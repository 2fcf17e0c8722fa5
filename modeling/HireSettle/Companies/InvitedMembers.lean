import HireSettle.Companies.MemberRuns
import HireSettle.Workflow.Effects
import HireSettle.Workflow.Facts
import HireSettle.Workflow.Turns

/-! What becomes of a user who accepts an invite. The account is linked to the owner
who sent the invite; membership, role and transfers look at the membership rows,
and acceptance writes none. -/
namespace HireSettle.Companies
open Workflow

/-- The foreign keys of members and invites. -/
structure Referenced (db : Db) : Prop where
  members : ∀ row ∈ db.members.rows, (db.users.get? row.memberId).isSome
  invites : ∀ row ∈ db.invites.rows, (db.users.get? row.companyOwnerId).isSome

instance (db : Db) : Decidable (Referenced db) := decidable_of_iff
  ((∀ row ∈ db.members.rows, (db.users.get? row.memberId).isSome) ∧ ∀ row ∈ db.invites.rows, (db.users.get? row.companyOwnerId).isSome)
  ⟨fun both => ⟨both.1,both.2⟩,fun referenced => ⟨referenced.members,referenced.invites⟩⟩

def Creates (e : Event Site Answer Db) (user : User) : Prop :=
  e.before.users.get? user.id = none ∧ e.after.users.get? user.id = some user

/-- The user is linked to the owner, and yet owns a company of its own. -/
structure Apart (db : Db) (user : User) (companyOwnerId : String) : Prop where
  linked : user.companyOwnerId = some companyOwnerId
  differs : user.id ≠ companyOwnerId
  owns : StillOwner user.id db
  unlisted : db.members.get? (companyIdOf db companyOwnerId,user.id) = none

section Steps

variable {db after : Db}

def Follows (db after : Db) : Prop := after.users = db.users ∧ (Referenced db → Referenced after)

theorem followsSame (db : Db) : Follows db db := ⟨rfl,id⟩

theorem followsTransfers (transfers : Table OwnershipTransfer) : Follows db { db with transfers := transfers } :=
  ⟨rfl,fun referenced => ⟨referenced.members,referenced.invites⟩⟩

theorem followsMembers {members : Table CompanyMember}
    (known : ∀ row ∈ members.rows, (∃ old ∈ db.members.rows, old.memberId = row.memberId) ∨ (db.users.get? row.memberId).isSome) :
    Follows db { db with members := members } := by
  refine ⟨rfl,fun referenced => ⟨fun row inside => ?_,referenced.invites⟩⟩
  obtain ⟨old,there,same⟩ | found := known row inside
  · exact same ▸ referenced.members old there
  · exact found

theorem followsTrans {middle : Db} (first : Follows db middle) (second : Follows middle after) : Follows db after :=
  ⟨second.1.trans first.1,fun referenced => second.2 (first.2 referenced)⟩

theorem followsCreate {row : CompanyMember} (created : db.createMember row = .ok after) : Follows db after := by
  unfold Db.createMember at created
  split at created
  · contradiction
  · rename_i known
    split at created
    · contradiction
    · rename_i members made
      cases created
      refine followsMembers fun row' inside => ?_
      obtain old | rfl := (Table.memCreate made).mp inside
      · exact Or.inl ⟨row',old,rfl⟩
      · simp only [Bool.or_eq_true,Option.isNone_iff_eq_none,not_or,← ne_eq,Option.ne_none_iff_isSome] at known
        exact Or.inr known.2

theorem followsUpdate {companyId memberId : String} {f : CompanyMember → CompanyMember}
    {keeps : ∀ row, ((f row).companyId,(f row).memberId) = (row.companyId,row.memberId)}
    (updated : db.updateMember companyId memberId f keeps = .ok after) : Follows db after := by
  unfold Db.updateMember required at updated
  cases modified : db.members.modify (companyId,memberId) f keeps with
  | none => rw [modified] at updated; contradiction
  | some out =>
    rw [modified] at updated
    cases updated
    obtain ⟨_,_,_,same⟩ := Table.modifyGet modified
    refine followsMembers fun row inside => Or.inl ?_
    rw [same] at inside
    obtain ⟨old,there,rfl⟩ := List.mem_map.mp inside
    refine ⟨old,there,?_⟩
    split
    · exact (congrArg Prod.snd (keeps old)).symm
    · rfl

theorem followsUpsert {row : CompanyMember} {f : CompanyMember → CompanyMember}
    {keeps : ∀ row, ((f row).companyId,(f row).memberId) = (row.companyId,row.memberId)}
    (upserted : db.upsertMember row f keeps = .ok after) : Follows db after := by
  unfold Db.upsertMember at upserted
  split at upserted
  · exact followsUpdate upserted
  · exact followsCreate upserted

theorem followsConsume {transfer : OwnershipTransfer} (consumed : CompaniesService.consume transfer db = .ok ((),after)) :
    Follows db after := by
  obtain ⟨⟨_,transfers⟩,_,rest⟩ := exceptBind.mp consumed
  obtain ⟨demoted,upserted,rest⟩ := exceptBind.mp rest
  obtain ⟨promoted,updated,rest⟩ := exceptBind.mp rest
  cases rest
  exact followsTrans (followsTransfers transfers) (followsTrans (followsUpsert upserted) (followsUpdate updated))

theorem followsCreateInvite {row : TeamInvite} (created : TeamInvitesService.createInvite db row = .ok after) : Follows db after := by
  unfold TeamInvitesService.createInvite at created
  split at created
  · contradiction
  · rename_i known
    split at created
    · contradiction
    · split at created
      · contradiction
      · rename_i invites made
        cases created
        refine ⟨rfl,fun referenced => ⟨referenced.members,fun row' inside => ?_⟩⟩
        obtain old | rfl := (Table.memCreate made).mp inside
        · exact referenced.invites row' old
        · simpa [Option.isSome_iff_ne_none] using known

abbrev Orderly {α : Type} (p : Op α) : Prop := Steps anySite Follows p

theorem orderlyFind {α : Type} (model : Model) (f : Db → α) : Orderly (find model f) := stepsQuery rfl followsSame _

theorem orderlyWrite {α : Type} {site : Site} {f : Answer → Db → Except Exception (α × Db)}
    (commits : ∀ answer db value after, f answer db = .ok (value,after) → Follows db after) : Orderly (write site f) := by
  refine stepsTransact rfl followsSame fun answer db value after done => ?_
  split at done
  · contradiction
  · exact commits answer db value after done

theorem orderlyOwned {user : AuthUser} {p : Op Reply} (body : Orderly p) : Orderly (owned user p) := by
  refine stepsBind ?_ fun _ => stepsBind ?_ fun _ => body
  · unfold RolesGuard.canActivate
    split
    · trivial
    · trivial
  · unfold CompanyRoleGuard.canActivate
    split
    · trivial
    · refine stepsBind (orderlyFind _ _) fun companyRole => ?_
      split
      · trivial
      · trivial

theorem orderlyAddMember (companyId memberId : String) (companyRole : CompanyRole) :
    Orderly (BillingController.addMember companyId memberId companyRole) := by
  unfold BillingController.addMember
  split
  · trivial
  · refine stepsBind (orderlyFind _ _) fun existing => ?_
    split
    · trivial
    · refine orderlyWrite fun answer db value after done => ?_
      obtain ⟨_,created,same⟩ := exceptBind.mp done
      cases same
      exact followsCreate created

theorem orderlyRemoveMember (companyId memberId : String) : Orderly (BillingController.removeMember companyId memberId) := by
  refine stepsBind (orderlyFind _ _) fun existing => ?_
  split
  · trivial
  · refine orderlyWrite fun answer db value after done => ?_
    obtain ⟨_,_,same⟩ := exceptBind.mp done
    cases same
    exact followsMembers fun row inside => Or.inl ⟨row,List.mem_of_mem_filter inside,rfl⟩

theorem orderlySetMemberSpendingLimit (companyOwnerId memberId : String) (spendingLimit : Option Int) :
    Orderly (CompaniesService.setMemberSpendingLimit companyOwnerId memberId spendingLimit) := by
  refine stepsBind (orderlyFind _ _) fun companyId => stepsBind (orderlyFind _ _) fun membership => ?_
  split
  · trivial
  · refine orderlyWrite fun answer db value after done => ?_
    obtain ⟨_,updated,same⟩ := exceptBind.mp done
    cases same
    exact followsUpdate updated

theorem orderlyInitiateTransfer (currentOwnerId newOwnerId : String) :
    Orderly (CompaniesService.initiateTransfer currentOwnerId newOwnerId) := by
  unfold CompaniesService.initiateTransfer
  split
  · trivial
  · refine stepsBind (orderlyFind _ _) fun companyId => stepsBind (orderlyFind _ _) fun membership => ?_
    split
    · trivial
    · refine stepsBind (orderlyWrite fun answer db value after done => ?_) fun _ => orderlyWrite fun answer db value after done => ?_
      · cases done
        exact followsTransfers _
      · dsimp only at done
        split at done
        · contradiction
        · cases done
          exact followsTransfers _

theorem orderlyAcceptTransfer (acceptingUserId : String) : Orderly (CompaniesService.acceptTransfer acceptingUserId) := by
  refine stepsBind (orderlyFind _ _) fun found => ?_
  obtain ⟨found,now⟩ := found
  cases found with
  | none => trivial
  | some transfer =>
    dsimp only
    split
    · trivial
    · exact stepsBind (orderlyWrite fun answer db value after done => followsConsume done) fun _ => trivial

theorem orderlyCancelTransfer (currentOwnerId : String) : Orderly (CompaniesService.cancelTransfer currentOwnerId) := by
  refine stepsBind (orderlyFind _ _) fun companyId => stepsBind (orderlyFind _ _) fun found => ?_
  split
  · trivial
  · refine orderlyWrite fun answer db value after done => ?_
    obtain ⟨_,_,same⟩ := exceptBind.mp done
    cases same
    exact followsTransfers _

theorem orderlySendInvite (self : Config) (companyOwnerId email : String) :
    Orderly (TeamInvitesService.sendInvite self companyOwnerId email) := by
  refine stepsBind (orderlyFind _ _) fun owner => ?_
  split
  · trivial
  · refine stepsBind (orderlyFind _ _) fun existing => ?_
    split
    · trivial
    · refine stepsBind (orderlyWrite fun answer db value after done => ?_) fun _ =>
        stepsBind (orderlyWrite fun answer db value after done => ?_) fun _ =>
          stepsBind (stepsQuery rfl followsSame _) fun _ => trivial
      · cases done
        exact ⟨rfl,fun referenced => ⟨referenced.members,fun row inside => referenced.invites row (List.mem_of_mem_filter inside)⟩⟩
      · obtain ⟨_,created,same⟩ := exceptBind.mp done
        cases same
        exact followsCreateInvite created

end Steps

section Acceptance

variable {c : Snapshot Site Answer Db}

/-- Whoever was created is apart from the owner that invited it; a thread knows users. -/
def invited : Knowledge Site Answer Db Unit String where
  base c _ := Referenced c.world ∧ ∀ e ∈ c.history, ∀ user, Creates e user → ∃ companyOwnerId, Apart e.after user companyOwnerId
  holds c id := (c.world.users.get? id).isSome
  admits _ _ := True

theorem sparesFollows : invited.contract.Spares anySite Follows := by
  rintro site after _ c ⟨_,known⟩ thread answer follows ⟨⟨referenced,apart⟩,facts⟩
  refine ⟨⟨follows.2 referenced,fun e inside user creates => ?_⟩,fun id inside => ?_⟩
  · obtain rfl | old := List.mem_cons.mp inside
    · have found : after.users.get? user.id = some user := creates.2
      rw [follows.1] at found
      cases creates.1.symm.trans found
    · exact apart e old user creates
  · have found := facts id inside
    exact (congrArg (fun users => (Table.get? users id).isSome) follows.1).trans found

theorem acceptedRows {db after : Db} {invite : TeamInvite} {row user : User}
    (done : TeamInvitesService.accepted invite row db = .ok (user,after)) :
    ∀ row ∈ after.invites.rows, ∃ old ∈ db.invites.rows, old.companyOwnerId = row.companyOwnerId := by
  obtain ⟨created,made,rest⟩ := exceptBind.mp done
  obtain ⟨⟨_,invites⟩,modified,rest⟩ := exceptBind.mp rest
  cases rest
  unfold required at modified
  split at modified
  · rename_i out updated
    cases modified
    obtain ⟨_,_,_,rfl⟩ := Table.modifyGet updated
    intro row inside
    obtain ⟨old,there,rfl⟩ := List.mem_map.mp inside
    refine ⟨old,(createUserSame made).2.1 ▸ there,?_⟩
    split
    · rfl
    · rfl
  · contradiction

/-- The new account has no membership, and nobody has one in its company. -/
theorem acceptedApart {db after : Db} {invite : TeamInvite} {row user : User} (referenced : Referenced db)
    (known : (db.users.get? invite.companyOwnerId).isSome) (links : row.companyOwnerId = some invite.companyOwnerId)
    (done : TeamInvitesService.accepted invite row db = .ok (user,after)) :
    Referenced after ∧ (∀ id, (db.users.get? id).isSome → (after.users.get? id).isSome) ∧
      ∀ created, db.users.get? created.id = none → after.users.get? created.id = some created →
        Apart after created invite.companyOwnerId := by
  obtain ⟨_,members,created⟩ := acceptedSteps done
  obtain ⟨free,_,get⟩ := Table.createGet created
  have grows : ∀ id, (db.users.get? id).isSome → (after.users.get? id).isSome := by
    intro id found
    rw [get]
    split
    · rfl
    · exact found
  refine ⟨⟨fun row inside => grows _ (referenced.members row (members ▸ inside)),fun row inside => ?_⟩,grows,fun other before found => ?_⟩
  · obtain ⟨old,there,same⟩ := acceptedRows done row inside
    exact grows _ (same ▸ referenced.invites old there)
  · rw [get] at found
    split at found
    · cases found
      have unlisted : Unlisted row.id after := fun m inside same => by
        have named := referenced.members m (members ▸ inside)
        rw [same,before] at named
        contradiction
      refine ⟨links,fun same => ?_,unlistedOwner unlisted,?_⟩
      · rw [← same,before] at known
        contradiction
      · cases listed : after.members.get? (companyIdOf after invite.companyOwnerId,row.id) with
        | none => rfl
        | some m => exact absurd (congrArg Prod.snd (Table.getKey listed)) (unlisted m (Table.getMem listed))
    · cases before.symm.trans found

theorem invitedQuery {α : Type} {site : Site} {f : Answer → Db → Except Exception α} : Harmless invited.contract (Process.query site f : Op α) :=
  harmlessSteps sparesFollows (stepsQuery rfl followsSame f)

theorem acceptsApart (invite : TeamInvite) (row : Answer → User) (links : ∀ answer, (row answer).companyOwnerId = some invite.companyOwnerId) :
    invited.Given invite.companyOwnerId
      (write (.acceptInvite invite.companyOwnerId) fun answer db => TeamInvitesService.accepted invite (row answer) db) := by
  intro mine known inside
  refine Knowledge.safeTransact (fun c frame thread answer user after base facts done _ => ?_)
    fun c frame thread answer error base facts _ _ => ?_
  · split at done
    · contradiction
    · obtain ⟨referenced,grows,apart⟩ := acceptedApart base.1 (facts _ inside) (links answer) done
      refine ⟨(),⟨referenced,fun e there user creates => ?_⟩,grows,Knowledge.learnsNothing trivial⟩
      obtain rfl | old := List.mem_cons.mp there
      · exact ⟨_,apart user creates.1 creates.2⟩
      · exact base.2 e old user creates
  · refine ⟨(),⟨base.1,fun e there user creates => ?_⟩,fun _ found => found,Knowledge.learnsNothing trivial⟩
    obtain rfl | old := List.mem_cons.mp there
    · cases creates.1.symm.trans creates.2
    · exact base.2 e old user creates

theorem invitedAcceptInvite (self : Config) (token name password : String) :
    Harmless invited.contract (TeamInvitesService.acceptInvite self token name password) := by
  rintro ⟨mine,known⟩
  refine safeBind (Knowledge.safeQuery fun c frame thread answer base facts _ => ?_)
  have still : invited.base (c.record thread (.find .teamInvite) answer c.world) (mine + frame) :=
    (sparesFollows _ _ rfl c (mine + frame,0) thread answer (followsSame _) ⟨base,by simp⟩).1
  refine ⟨mine,still,fun _ found => found,?_⟩
  split
  · rename_i found value same
    split at same
    · contradiction
    · cases same
      dsimp only
      split
      · exact Knowledge.learnsNothing trivial
      · rename_i invite found
        split
        · exact Knowledge.learnsNothing trivial
        · split
          · exact Knowledge.learnsNothing trivial
          · have owned : (c.world.users.get? invite.companyOwnerId).isSome :=
              base.1.invites invite (List.mem_of_find?_eq_some found)
            refine Knowledge.learnsFact invite.companyOwnerId owned ?_
            refine (?_ : invited.Given invite.companyOwnerId _) mine _ (Multiset.mem_cons_self _ _)
            refine Knowledge.givenBind (Knowledge.givenHarmless (harmlessSteps sparesFollows (stepsOfExcept _))) fun _ =>
              Knowledge.givenBind (Knowledge.givenHarmless invitedQuery) fun existingUser => ?_
            split
            · exact Knowledge.givenHarmless fun _ => trivial
            · refine Knowledge.givenBind (Knowledge.givenHarmless invitedQuery) fun owner =>
                Knowledge.givenBind (Knowledge.givenHarmless invitedQuery) fun passwordHash =>
                  Knowledge.givenHandle (acceptsApart invite _ fun _ => rfl) fun error => Knowledge.givenHarmless fun _ => ?_
              split
              · trivial
              · trivial
  · exact Knowledge.learnsNothing trivial

theorem invitedHandler (self : Config) (request : Request) : Harmless invited.contract (handler self request) := by
  have orderly : ∀ {p : Op Reply}, Orderly p → Harmless invited.contract p := harmlessSteps sparesFollows
  cases request with
  | addMember user memberId companyRole => exact orderly (orderlyOwned (stepsBind (orderlyAddMember _ _ _) fun _ => trivial))
  | removeMember user memberId => exact orderly (orderlyOwned (stepsBind (orderlyRemoveMember _ _) fun _ => trivial))
  | setMemberSpendingLimit user memberId spendingLimit =>
    exact orderly (orderlyOwned (stepsBind (orderlySetMemberSpendingLimit _ _ _) fun _ => trivial))
  | initiateTransfer user newOwnerId => exact orderly (orderlyOwned (stepsBind (orderlyInitiateTransfer _ _) fun _ => trivial))
  | acceptTransfer user =>
    refine orderly (stepsBind ?_ fun _ => stepsBind (orderlyAcceptTransfer _) fun _ => trivial)
    unfold RolesGuard.canActivate
    split
    · trivial
    · trivial
  | cancelTransfer user => exact orderly (orderlyOwned (stepsBind (orderlyCancelTransfer _) fun _ => trivial))
  | sendInvite user email =>
    refine orderly (stepsBind ?_ fun _ => stepsBind (stepsQuery rfl followsSame _) fun isEnabled => ?_)
    · unfold RolesGuard.canActivate
      split
      · trivial
      · trivial
    · split
      · trivial
      · exact stepsBind (orderlySendInvite self _ _) fun _ => trivial
  | acceptInvite token name password => exact harmlessBind (invitedAcceptInvite self _ _ _) fun _ _ => trivial

/-- The owner cannot make over the company to a user without a membership in it. -/
theorem transferRefused (self : Config) {db : Db} {owner : AuthUser} {newOwnerId : String}
    (unlisted : db.members.get? (companyIdOf db owner.id,newOwnerId) = none) (answers : List Answer) (reply : Reply) :
    ¬ (service self).Returns (Pool.initial db) (.initiateTransfer owner newOwnerId) answers reply := by
  have refused (error : Exception) (reply : Reply) : Except.error error ≠ Except.ok reply := nofun
  have ends : Ends (fun out _ => ∀ reply, out ≠ .ok reply) ((service self).handler (.initiateTransfer owner newOwnerId))
      (Pool.initial db : Pool Request Site Answer Db Exception Reply).snapshot := by
    refine ensuresBind ?_
    unfold RolesGuard.canActivate
    split
    · refine ensuresBind ?_
      unfold CompanyRoleGuard.canActivate
      split
      · exact refused _
      · refine ensuresAsk (fun _ _ => trivial) (fun _ companyRole c _ here => ?_) fun _ _ _ => refused _
        split
        · exact refused _
        · refine ensuresBind ?_
          unfold CompaniesService.initiateTransfer
          split
          · exact refused _
          · refine ensuresAsk (fun _ _ => trivial) (fun _ companyId c' resolved here' => ?_) fun _ _ _ => refused _
            refine ensuresAsk (fun _ _ => trivial) (fun _ membership c'' found here'' => ?_) fun _ _ _ => refused _
            have world : c'.world = db := here'.trans here
            split at resolved
            · contradiction
            · split at found
              · contradiction
              · cases resolved
                cases found
                rw [world,here,show (Pool.initial db : Pool Request Site Answer Db Exception Reply).snapshot.world = db from rfl]
                split
                · exact refused _
                · rename_i listed
                  exact absurd (congrArg Option.isNone unlisted) listed
    · exact refused _
  intro returned
  exact endsServe ends answers returned reply rfl

/-- Whoever accepts an invite owns a company of its own, and the owner who invited it cannot transfer the ownership to it. -/
theorem invitedOwnsItself (self : Config) (db : Db) (referenced : Referenced db) (moves : List CompanyMove)
    (e : Event Site Answer Db) (inside : e ∈ ((service self).run (Pool.initial db) moves).history) (user : User) (creates : Creates e user) :
    ∃ companyOwnerId, Apart e.after user companyOwnerId ∧
      ∀ answers reply, ¬ (service self).Returns (Pool.initial e.after) (.initiateTransfer { id := companyOwnerId } user.id) answers reply := by
  have start : Secured invited.contract (fun _ => anyEnd) (Pool.initial db : Pool Request Site Answer Db Exception Reply) :=
    securedInitial ⟨⟨referenced,fun _ inside => absurd inside List.not_mem_nil⟩,by simp⟩
  have passing (elapsed : Nat) (c : Snapshot Site Answer Db) (g) (inv : invited.contract.inv c g) :
      invited.contract.inv { c with world := (service self).environment elapsed c.world } g :=
    ⟨⟨⟨inv.1.1.members,inv.1.1.invites⟩,inv.1.2⟩,inv.2⟩
  have run : Secured invited.contract (fun _ => anyEnd) ((service self).run (Pool.initial db) moves) :=
    securedRun (fun request => invitedHandler self request 0) passing start moves (meetsAlways (fun _ _ => trivial) _)
  obtain ⟨_,base⟩ := Knowledge.securedBase run
  obtain ⟨companyOwnerId,apart⟩ := base.2 e inside user creates
  exact ⟨companyOwnerId,apart,transferRefused self apart.unlisted⟩

/-- An owner invites a colleague, who accepts. -/
def invitesColleague : List CompanyMove :=
  [.start (.sendInvite { id := "o" } "c@x"),.answer 0 { text := "true" },.answer 0 {},.answer 0 {},.answer 0 { text := "n" },
    .answer 0 { text := "i" },.answer 0 {},
    .start (.acceptInvite "n.fallback-secret/o:n" "Cleo" "Passw0rd"),.answer 1 {},.answer 1 {},.answer 1 {},.answer 1 { text := "s" },
    .answer 1 { text := "u" }]

def owning : Db where
  users := ⟨[{ id := "o" }],by decide⟩

def colleague : User where
  id := "u"
  email := some "c@x"
  name := some "Cleo"
  companyOwnerId := some "o"
  passwordHash := some "scrypt:s:s/Passw0rd"

def acceptance : Option (Event Site Answer Db) := ((service plain).run (Pool.initial owning) invitesColleague).history.head?

theorem colleagueOwnsItself : ∃ e, acceptance = some e ∧ Creates e colleague ∧ ∃ companyOwnerId, Apart e.after colleague companyOwnerId := by
  cases found : acceptance with
  | none => exact absurd found (by decide +kernel)
  | some e =>
    have creates : Creates e colleague := by
      have all : acceptance.all (fun e => (e.before.users.get? "u").isNone && e.after.users.get? "u" = some colleague) := by decide +kernel
      rw [found] at all
      simp only [Option.all_some,Bool.and_eq_true,Option.isNone_iff_eq_none,decide_eq_true_eq] at all
      exact all
    obtain ⟨companyOwnerId,apart,_⟩ := invitedOwnsItself plain owning (by decide) invitesColleague e
      (List.mem_of_mem_head? found) colleague creates
    exact ⟨e,rfl,creates,companyOwnerId,apart⟩

/-- The colleague is no member of the company, and the transfer to it is refused. -/
theorem colleagueNoMember :
    acceptance.map (fun e => (companyIdOf e.after "u",companyRoleOf e.after "u",e.after.members.get? ("o","u"))) =
      some ("u",.owner,none) ∧
    ((service plain).serve (Pool.initial ((acceptance.map Event.after).getD {})) (.initiateTransfer { id := "o" } "u") [{},{},{}]).threads.map
      (fun t => match t.process with
        | .raise error => some error
        | _ => none) = [some (.badRequest
          "The proposed new owner is not a member of your company. Invite them first via POST /team-invites.")] := by
  decide +kernel

end Acceptance

end HireSettle.Companies
