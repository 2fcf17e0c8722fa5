import HireSettle.Escrow.Recusals
import HireSettle.Escrow.ServedCalls

/-! Whom the selection of an arbiter returns, on one state of the database. An empty
id or address of a party names nobody. -/
namespace HireSettle.Escrow.ArbiterSelection
open Workflow ArbiterAssignmentService Recusals

/-- An active arbiter who may decide the disputes on the engagement. -/
structure Eligible (db : Db) (engagement : Engagement) (exclude : List String) (user : User) : Prop where
  stored : user ∈ db.users.rows
  arbiter : user.role = .arbiter
  active : user.deactivatedAt = none ∧ user.deletedAt = none
  unrecused : ∀ row ∈ db.recusals.rows, row.engagementId = engagement.id → row.arbiterId ≠ user.id
  noParty : present engagement.companyId ≠ some user.id ∧ present engagement.recruiterId ≠ some user.id
  included : user.id ∉ exclude
  noAddress : ∀ address, present user.stellarAddress = some address →
    address ≠ engagement.companyAddress ∧ address ≠ engagement.recruiterAddress

/-- The arbiters a selection chooses from, all of its queries finding `db`. -/
def arbiters (db : Db) (engagement : Engagement) (exclude : List String) : List User :=
  Selection.eligible ⟨db,db,db,db⟩ engagement exclude

variable {db : Db} {engagement : Engagement} {exclude : List String}

theorem partyAddress {user : User} : isPartyAddress engagement user = false ↔
    ∀ address, present user.stellarAddress = some address →
      address ≠ engagement.companyAddress ∧ address ≠ engagement.recruiterAddress := by
  unfold isPartyAddress
  cases present user.stellarAddress with
  | none => simp
  | some address => simp

theorem unconflicted {id : String} :
    id ∉ Selection.conflicted ⟨db,db,db,db⟩ engagement ++ exclude ↔
      (∀ row ∈ db.recusals.rows, row.engagementId = engagement.id → row.arbiterId ≠ id) ∧
      (present engagement.companyId ≠ some id ∧ present engagement.recruiterId ≠ some id) ∧ id ∉ exclude := by
  simp only [Selection.conflicted,Table.findMany,List.mem_append,List.mem_map,List.mem_filter,Option.mem_toList,
    decide_eq_true_eq,not_or,not_exists,not_and,and_assoc,ne_eq]

theorem arbitersIff {user : User} : user ∈ arbiters db engagement exclude ↔ Eligible db engagement exclude user := by
  simp only [arbiters,Selection.eligible,List.mem_filter,candidates,List.mem_insertionSort,Table.findMany,Bool.and_eq_true,
    decide_eq_true_eq,Option.isNone_iff_eq_none,unconflicted,Bool.not_eq_true',partyAddress]
  constructor
  · rintro ⟨⟨stored,⟨⟨arbiter,active⟩,kept⟩,unrecused,noParty,included⟩,noAddress⟩
    exact ⟨stored,arbiter,⟨active,kept⟩,unrecused,noParty,included,noAddress⟩
  · rintro ⟨stored,arbiter,⟨active,kept⟩,unrecused,noParty,included,noAddress⟩
    exact ⟨⟨stored,⟨⟨arbiter,active⟩,kept⟩,unrecused,noParty,included⟩,noAddress⟩

variable {respond : Site → Answer}

theorem leastLoadedNone {load : String → Nat} {users : List User} : leastLoaded load users = none ↔ users = [] := by
  cases users with
  | nil => exact ⟨fun _ => rfl,fun _ => rfl⟩
  | cons first rest => exact ⟨nofun,nofun⟩

theorem interpretConflicted : (conflictedArbiterIds engagement).interpret respond db =
    if (respond (.find .recusal)).fails then (.error .database,db)
    else (.ok (Selection.conflicted ⟨db,db,db,db⟩ engagement),db) :=
  interpretFind

/-- Alone on `db`, the selection returns the first of the least loaded or a query of it fails. -/
theorem interpretSelect (db : Db) (engagement : Engagement) (exclude : List String) (respond : Site → Answer) :
    (selectArbiter engagement exclude).interpret respond db =
      (.ok (leastLoaded (activeDisputes db) (arbiters db engagement exclude)),db) ∨
    (selectArbiter engagement exclude).interpret respond db = (.error .database,db) ∧ ∃ site, (respond site).fails = true := by
  unfold selectArbiter
  rw [interpretBind,interpretConflicted]
  by_cases failed : (respond (.find .recusal)).fails = true
  · rw [if_pos failed]
    exact .inr ⟨rfl,_,failed⟩
  · rw [if_neg failed]
    dsimp only
    rw [interpretFind]
    split
    · exact .inr ⟨rfl,_,‹_›⟩
    · rw [show List.filter _ (candidates db _) = arbiters db engagement exclude from rfl]
      split
      · rename_i empty
        rw [empty]
        exact .inl rfl
      · rw [interpretFind]
        split
        · exact .inr ⟨rfl,_,‹_›⟩
        · exact .inl rfl

/-- On any state of the database, the selection returns nobody exactly when nobody is eligible, and
else an eligible arbiter with the fewest active disputes, of these the one of the longest standing. -/
theorem selectsLeastLoaded (db : Db) (engagement : Engagement) (exclude : List String) (respond : Site → Answer) :
    ((selectArbiter engagement exclude).interpret respond db).2 = db ∧
    ((∀ site, (respond site).fails = false) →
      ∃ selected, ((selectArbiter engagement exclude).interpret respond db).1 = .ok selected) ∧
    ∀ selected, ((selectArbiter engagement exclude).interpret respond db).1 = .ok selected →
      (selected = none ↔ ¬ ∃ user, Eligible db engagement exclude user) ∧
      ∀ arbiter, selected = some arbiter → Eligible db engagement exclude arbiter ∧
        ∀ other, Eligible db engagement exclude other →
          activeDisputes db arbiter.id ≤ activeDisputes db other.id ∧
          (activeDisputes db other.id = activeDisputes db arbiter.id → standing arbiter other) := by
  rcases interpretSelect db engagement exclude respond with returns | ⟨fails,site,failed⟩
  · rw [returns]
    refine ⟨rfl,fun _ => ⟨_,rfl⟩,fun selected same => ?_⟩
    obtain rfl := Except.ok.inj same
    refine ⟨?_,fun arbiter chosen => ⟨arbitersIff.mp (AppealIndependence.leastLoadedMem chosen),fun other eligible => ?_⟩⟩
    · rw [leastLoadedNone,List.eq_nil_iff_forall_not_mem,not_exists]
      exact forall_congr' fun user => not_congr arbitersIff
    · have least := leastLoadedLeast ((candidatesStanding _ _).filter _) chosen other (arbitersIff.mpr eligible)
      constructor
      · by_contra fewer
        exact least (.inl (not_le.mp fewer))
      · intro tie
        by_contra newer
        exact least (.inr ⟨tie,newer⟩)
  · rw [fails]
    refine ⟨rfl,fun answered => ?_,fun selected same => ?_⟩
    · cases failed.symm.trans (answered site)
    · cases same

def court : Db where
  users := ⟨[{ id := "old", role := .arbiter },{ id := "new", role := .arbiter, createdAt := 1 }],by decide⟩
  disputes := ⟨[{ id := "d", engagementId := "e", milestoneId := "m", arbiterId := some "old" }],by decide⟩

theorem selectsUnburdened :
    let engagement : Engagement :=
      { id := "e", companyAddress := "GC", recruiterAddress := "GR", arbiterAddress := "GA", totalAmount := 0 }
    ∃ arbiter, ((selectArbiter engagement).interpret (fun _ => {}) court).1 = .ok (some arbiter) ∧ arbiter.id = "new" ∧
      Eligible court engagement [] arbiter ∧ activeDisputes court arbiter.id ≤ activeDisputes court "old" := by
  intro engagement
  obtain ⟨_,_,spec⟩ := selectsLeastLoaded court engagement [] fun _ => {}
  have chosen : ((selectArbiter engagement).interpret (fun _ => {}) court).1 =
      .ok (some { id := "new", role := .arbiter, createdAt := 1 }) := rfl
  obtain ⟨eligible,least⟩ := (spec _ chosen).2 _ rfl
  refine ⟨_,chosen,rfl,eligible,(least { id := "old", role := .arbiter } ?_).1⟩
  exact ⟨by decide,rfl,⟨rfl,rfl⟩,nofun,⟨nofun,nofun⟩,nofun,nofun⟩

end HireSettle.Escrow.ArbiterSelection
