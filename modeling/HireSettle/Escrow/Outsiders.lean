import HireSettle.Escrow.Engagements

/-! What a user who is no party of an engagement can do to it. The invite, the
cancellation, the replacement and the notes ask who the caller is; archiving,
restoring and tagging do not. -/
namespace HireSettle.Escrow.Outsiders
open Workflow EngagementsService

/-- The requests of one user about one engagement. -/
inductive Request where
  | archive
  | restore
  | updateTags (tags : List String)
  | cancelEngagement
  | requestReplacement
  | createNote (body : String)
  | acceptInvite
  | declineInvite

variable (user : User) (engagementId : String)

def handler : Request → Op Unit
  | .archive => do let _ ← archive engagementId
  | .restore => do let _ ← restore engagementId
  | .updateTags tags => do let _ ← updateTags engagementId tags
  | .cancelEngagement => do let _ ← cancelEngagement engagementId user.stellarAddress
  | .requestReplacement => do let _ ← requestReplacement engagementId user.stellarAddress
  | .createNote body => do let _ ← createNote engagementId user body
  | .acceptInvite => do let _ ← acceptInvite engagementId user.stellarAddress
  | .declineInvite => do let _ ← declineInvite engagementId user.stellarAddress

def service : System Request Nat Site Answer Db Exception Unit where
  handler := handler user engagementId
  environment elapsed db := { db with clock := db.clock + elapsed }

abbrev OutsiderMove := Move Request Nat Answer

structure Outsider (engagement : Engagement) : Prop where
  role : user.role ≠ .admin
  company : some engagement.companyAddress ≠ user.stellarAddress
  recruiter : some engagement.recruiterAddress ≠ user.stellarAddress
  arbiter : some engagement.arbiterAddress ≠ user.stellarAddress

/-- The engagement, its milestones and its notes are the same in both. -/
structure SameEngagement (db db' : Db) : Prop where
  engagement : db'.engagements.get? engagementId = db.engagements.get? engagementId
  milestones : db'.milestones.findMany (·.engagementId = engagementId) = db.milestones.findMany (·.engagementId = engagementId)
  notes : db'.engagementNotes.findMany (·.engagementId = engagementId) = db.engagementNotes.findMany (·.engagementId = engagementId)

/-- One of the three writes that ask for no party. -/
def alters (e : EscrowEvent) : Bool :=
  !e.answer.fails && (e.site = .archive engagementId || e.site = .restore engagementId || e.site = .updateTags engagementId)

section Runs

variable {user engagementId} {engagement : Engagement} {db : Db} {α : Type}

def keptSame (engagementId : String) (db : Db) : Contract Site Answer Db Unit where
  inv c _ := SameEngagement engagementId db c.world ∧ ∀ e ∈ c.history, SameEngagement engagementId db e.after
  admits _ e := alters engagementId e = false

theorem sameIgnores (site : Site) : (keptSame engagementId db).Ignores site := by
  intro c _ thread answer inv
  refine ⟨inv.1,fun e inside => ?_⟩
  obtain rfl | old := List.mem_cons.mp inside
  · exact inv.1
  · exact inv.2 e old

theorem harmlessAlters {site : Site} {f : Answer → Db → Except Exception (α × Db)}
    (alters' : site = .archive engagementId ∨ site = .restore engagementId ∨ site = .updateTags engagementId) :
    Harmless (keptSame engagementId db) (write site f) := by
  refine fun _ => safeTransact (fun c _ thread answer value after inv done meets => ?_)
    fun c _ thread answer error inv _ => ⟨sameIgnores site c () thread answer inv,trivial⟩
  split at done
  · contradiction
  · rename_i succeeds
    have admitted : alters engagementId (c.event thread site answer after) = false := meets
    obtain rfl | rfl | rfl := alters' <;> simp [alters,Snapshot.event,succeeds] at admitted

theorem harmlessFound {k : Option Engagement → Op α} (found : db.engagements.get? engagementId = some engagement)
    (rest : Harmless (keptSame engagementId db) (k (some engagement))) :
    Harmless (keptSame engagementId db) (find .engagement (fun db => db.engagements.get? engagementId) >>= k) := by
  refine fun _ => safeAsk (sameIgnores _) (fun c _ answer value inv same => ?_) fun _ => trivial
  split at same
  · contradiction
  · cases same
    dsimp only
    rw [inv.1.engagement,found]
    exact rest ()

theorem harmlessArchive : Harmless (keptSame engagementId db) (archive engagementId) := by
  refine harmlessBind (fun _ => safeQuery (sameIgnores _) fun _ _ _ inv => ⟨(),inv,trivial⟩) fun found => ?_
  split
  · exact fun _ => trivial
  · split
    · exact fun _ => trivial
    · exact harmlessAlters (Or.inl rfl)

theorem harmlessRestore : Harmless (keptSame engagementId db) (restore engagementId) := by
  refine harmlessBind (fun _ => safeQuery (sameIgnores _) fun _ _ _ inv => ⟨(),inv,trivial⟩) fun found => ?_
  split
  · exact fun _ => trivial
  · split
    · exact fun _ => trivial
    · exact harmlessAlters (Or.inr (Or.inl rfl))

theorem harmlessUpdateTags (tags : List String) : Harmless (keptSame engagementId db) (updateTags engagementId tags) := by
  refine harmlessBind (fun _ => safeQuery (sameIgnores _) fun _ _ _ inv => ⟨(),inv,trivial⟩) fun found => ?_
  split
  · exact fun _ => trivial
  · exact harmlessAlters (Or.inr (Or.inr rfl))

theorem notParticipant (outsider : Outsider user engagement) :
    checkParticipant engagement user = .error (.forbidden "You are not a participant of this engagement") := by
  unfold checkParticipant
  rw [if_neg outsider.role]
  cases wallet : present user.stellarAddress with
  | none => rfl
  | some address =>
    have its : user.stellarAddress = some address := (Option.filter_eq_some_iff.mp wallet).1
    refine if_neg fun party => ?_
    simp only [List.mem_cons,List.not_mem_nil,or_false] at party
    obtain same | same | same := party
    · exact outsider.company (same ▸ its.symm)
    · exact outsider.recruiter (same ▸ its.symm)
    · exact outsider.arbiter (same ▸ its.symm)

theorem harmlessHandler (outsider : Outsider user engagement) (found : db.engagements.get? engagementId = some engagement)
    (request : Request) : Harmless (keptSame engagementId db) (handler user engagementId request) := by
  cases request with
  | archive => exact harmlessBind harmlessArchive fun _ _ => trivial
  | restore => exact harmlessBind harmlessRestore fun _ _ => trivial
  | updateTags tags => exact harmlessBind (harmlessUpdateTags tags) fun _ _ => trivial
  | cancelEngagement =>
    refine harmlessBind (harmlessFound found ?_) fun _ _ => trivial
    dsimp only
    rw [if_pos outsider.company]
    exact fun _ => trivial
  | requestReplacement =>
    refine harmlessBind (harmlessFound found ?_) fun _ _ => trivial
    dsimp only
    rw [if_pos outsider.company]
    exact fun _ => trivial
  | createNote body =>
    refine harmlessBind (harmlessFound found ?_) fun _ _ => trivial
    dsimp only
    rw [notParticipant outsider]
    exact fun _ => trivial
  | acceptInvite =>
    refine harmlessBind (fun _ => safeAsk (sameIgnores _) (fun c _ answer value inv same => ?_) fun _ => trivial) fun _ _ => trivial
    split at same
    · contradiction
    · cases same
      dsimp only
      rw [inv.1.engagement,found]
      dsimp only [Option.map_some]
      rw [if_pos outsider.recruiter]
      trivial
  | declineInvite =>
    refine harmlessBind (harmlessFound found ?_) fun _ _ => trivial
    dsimp only
    rw [if_pos outsider.recruiter]
    exact fun _ => trivial

/-- Whatever an outsider asks for, in any order, the engagement with its milestones and notes is unchanged as long as nothing
is archived, restored or tagged. -/
theorem outsiderChangesNothing (db : Db) (found : db.engagements.get? engagementId = some engagement)
    (outsider : Outsider user engagement) (moves : List OutsiderMove)
    (unaltered : ∀ e ∈ ((service user engagementId).run (Pool.initial db) moves).history, alters engagementId e = false) :
    SameEngagement engagementId db ((service user engagementId).run (Pool.initial db) moves).world ∧
      ∀ e ∈ ((service user engagementId).run (Pool.initial db) moves).history, SameEngagement engagementId db e.after := by
  have start : Secured (keptSame engagementId db) (fun _ => anyEnd) (Pool.initial db : Pool Request Site Answer Db Exception Unit) :=
    securedInitial ⟨⟨rfl,rfl,rfl⟩,fun _ inside => absurd inside List.not_mem_nil⟩
  have passing (elapsed : Nat) (c : Snapshot Site Answer Db) (g : Unit) (inv : (keptSame engagementId db).inv c g) :
      (keptSame engagementId db).inv { c with world := (service user engagementId).environment elapsed c.world } g :=
    ⟨⟨inv.1.engagement,inv.1.milestones,inv.1.notes⟩,inv.2⟩
  have run : Secured (keptSame engagementId db) (fun _ => anyEnd) ((service user engagementId).run (Pool.initial db) moves) :=
    securedRun (fun request => harmlessHandler outsider found request ()) passing start moves (meetsEach unaltered)
  obtain ⟨_,_,inv⟩ := run
  exact inv

end Runs

def hiring : Db where
  engagements := .single { id := "e", companyAddress := "GC", recruiterAddress := "GR", arbiterAddress := "GA", totalAmount := 1000 }

def stranger : User := { id := "x", role := .recruiter, stellarAddress := some "GX" }

theorem strangerNoParty : Outsider stranger { id := "e", companyAddress := "GC", recruiterAddress := "GR", arbiterAddress := "GA", totalAmount := 1000 } := by
  constructor <;> decide

def asks (request : Request) : List OutsiderMove := .start request :: answered 0 [{},{}]

theorem strangerCannotCancel :
    SameEngagement "e" hiring ((service stranger "e").run (Pool.initial hiring) (asks .cancelEngagement)).world :=
  (outsiderChangesNothing hiring (by rfl) strangerNoParty (asks .cancelEngagement) (by decide +kernel)).1

/-- Anyone archives and tags the engagement. -/
theorem strangerArchives :
    (((service stranger "e").run (Pool.initial hiring) (asks .archive)).world.engagements.get? "e").map Engagement.archivedAt = some (some 0) ∧
    (((service stranger "e").run (Pool.initial hiring) (asks (.updateTags ["spam"]))).world.engagements.get? "e").map Engagement.tags =
      some ["spam"] ∧
    ¬ SameEngagement "e" hiring ((service stranger "e").run (Pool.initial hiring) (asks .archive)).world := by
  refine ⟨by decide +kernel,by decide +kernel,fun same => ?_⟩
  have row := same.engagement
  revert row
  decide +kernel

end HireSettle.Escrow.Outsiders
