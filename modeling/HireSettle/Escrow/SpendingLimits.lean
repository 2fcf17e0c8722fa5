import HireSettle.Companies.Members
import HireSettle.Escrow.MilestonePercents

/-! What the members of a company may fund. The limit is a column of the membership,
and its check is a method of its own; the creation of an engagement stores the
engagement without it. -/
namespace HireSettle.Escrow.SpendingLimits
open Workflow EngagementsService

inductive Request where
  | create (userId : String) (dto : CreateEngagementDto)
  | cancelEngagement (engagementId : String) (stellarAddress : Option String)
  | declineInvite (engagementId : String) (stellarAddress : Option String)

variable (self : Config)

def handler : Request → Op Unit
  | .create userId dto => do let _ ← create self userId dto
  | .cancelEngagement engagementId stellarAddress => do let _ ← cancelEngagement engagementId stellarAddress
  | .declineInvite engagementId stellarAddress => do let _ ← declineInvite engagementId stellarAddress

def service : System Request Nat Site Answer Db Exception Unit where
  handler := handler self
  environment elapsed db := { db with clock := db.clock + elapsed }

abbrev SpendingTurn := Turn Request Nat Answer

abbrev SpendingPool := Pool Request Site Answer Db Exception Unit

-- the check of `enforceSpendingLimit`, with the membership and the sum that it has read
def enforceSpendingLimit (membership : Option Companies.CompanyMember) (alreadySpent amountCents : Int) : Except Exception Unit :=
  match membership.bind (·.spendingLimit) with
  | none => .ok ()
  | some spendingLimit =>
      if spendingLimit < alreadySpent + amountCents then
        .error (.forbidden
          (s!"This action would exceed the member's spending limit of {spendingLimit} cents " ++
            s!"(already spent: {alreadySpent}, requested: {amountCents})."))
      else .ok ()

def stores (engagementId : String) (db db' : Db) : Bool :=
  (db.engagements.get? engagementId).isNone && (db'.engagements.get? engagementId).isSome

/-- The engagements that the member has funded after a turn: those that the member's own calls have stored. -/
def credit (memberId : String) (funded : List String) (db db' : Db) : SpendingTurn → List String
  | .serve (.create userId dto) _ =>
      if userId = memberId ∧ stores dto.engagementId db db' then dto.engagementId :: funded else funded
  | _ => funded

def funded (memberId : String) (prior : List String) (pool : SpendingPool) : List SpendingTurn → List String
  | [] => prior
  | turn :: rest =>
      let next := (service self).turn pool turn
      funded memberId (credit memberId prior pool.world next.world turn) next rest

def spent (funded : List String) (db : Db) : Int :=
  ((db.engagements.findMany fun row => row.status ≠ .cancelled && row.id ∈ funded).map Engagement.totalAmount).sum

def limitOf (company : Companies.Db) (companyId memberId : String) : Option Int :=
  (company.members.get? (companyId,memberId)).bind (·.spendingLimit)

variable {self} {memberId : String} {prior : List String} {db : Db} {dto : CreateEngagementDto} {c : EscrowSnapshot}

theorem fundedSnoc (pool : SpendingPool) (list : List SpendingTurn) (turn : SpendingTurn) :
    funded self memberId prior pool (list ++ [turn]) =
      credit memberId (funded self memberId prior pool list) ((service self).turns pool list).world
        ((service self).turn ((service self).turns pool list) turn).world turn := by
  induction list generalizing prior pool with
  | nil => rfl
  | cons first rest ih => exact ih _

/-- The engagements are as they were, or the creation has stored its own. -/
def Books (dto : CreateEngagementDto) (db : Db) (c : EscrowSnapshot) : Prop :=
  c.world.engagements = db.engagements ∨
  ∃ row, (row.id = dto.engagementId ∧ dto.totalAmount = some row.totalAmount ∧ row.status ≠ .cancelled) ∧
    db.engagements.create row = some c.world.engagements

abbrev Booking {α : Type} (dto : CreateEngagementDto) (db : Db) (p : Op α) (c : EscrowSnapshot) : Prop :=
  Ensures (fun _ _ => True) (Books dto db) (fun _ => Books dto db) p c

theorem bookingReads {α : Type} {p : Op α} (reads : Reads Site.reads p) (books : Books dto db c) : Booking dto db p c := by
  have weak : ∀ c' : EscrowSnapshot, c'.world = c.world → Books dto db c' := fun c' same => by
    rw [Books,same]
    exact books
  exact ensuresMono (fun _ c' same => weak c' same) (ensuresReads reads weak)

theorem readsFindTemplate (templateId userId : String) : Reads Site.reads (findTemplate templateId userId) := by
  refine readsBind (readsFind _ _) fun found => ?_
  split
  · trivial
  · split
    · trivial
    · exact readsFind _ _

theorem bookingCountTemplateUse (templateId : Option String) (books : Books dto db c) :
    Booking dto db (countTemplateUse templateId) c := by
  unfold countTemplateUse
  split
  · exact books
  · intro thread i _
    refine ⟨books,ensuresTransact (fun thread i value db' ok _ => ?_) fun _ _ _ _ => ⟨books,books⟩⟩
    split at ok
    · contradiction
    · obtain ⟨_,_,counted⟩ := exceptBind.mp ok
      cases counted
      exact ⟨books,books⟩

theorem bookingPersist (dto : CreateEngagementDto) (templateVersion : Option EngagementTemplateVersion) (here : c.world = db) :
    Booking dto db (persist dto templateVersion) c := by
  have weak : ∀ c' : EscrowSnapshot, c'.world = db → Books dto db c' := fun c' same => Or.inl (congrArg Db.engagements same)
  unfold persist
  dsimp only
  split
  · exact weak _ here
  · exact weak _ here
  · split
    · exact weak _ here
    · split
      · exact weak _ here
      · refine ensuresBind (ensuresWrite weak (fun _ => weak) here fun thread i value db' _ ok _ => ?_)
        have books : ∀ c' : EscrowSnapshot, c'.world = db' → Books dto db c' := by
          intro c' same
          dsimp only at ok
          split at ok
          · cases ok
          · rename_i totalAmount _ _ engagements opened
            obtain ⟨db₀,first,ok⟩ := exceptBind.mp ok
            cases first
            obtain ⟨db₁,created,done⟩ := exceptBind.mp ok
            cases done
            have kept : db'.engagements = engagements := (MilestonePercents.createdRows created).2.1
            rw [Books,same,kept]
            refine Or.inr ⟨_,?fields,opened⟩
            refine ⟨rfl,by assumption,?_⟩
            nofun
        exact ⟨books _ rfl,bookingReads (readsBind readsNotify fun _ => trivial) (books _ rfl)⟩

theorem bookingPrepare (userId : String) (dto : CreateEngagementDto) (here : c.world = db) :
    Booking dto db (prepareEngagement self userId dto) c := by
  have weak : ∀ c' : EscrowSnapshot, c'.world = db → Books dto db c' := fun c' same => Or.inl (congrArg Db.engagements same)
  refine ensuresFind weak (fun _ => weak) here fun c here => ?_
  split
  · exact weak _ here
  · split
    · exact weak _ here
    · split
      · exact bookingPersist dto none here
      · refine ensuresBind (ensuresMono ?_ (ensuresReads (readsFindTemplate _ _) fun c' same => weak c' (same.trans here)))
        intro out c' same
        cases out with
        | error error => exact weak c' (same.trans here)
        | ok templateVersion => exact bookingPersist dto templateVersion (same.trans here)

theorem bookingCreate (userId : String) (dto : CreateEngagementDto) : Booking dto c.world (create self userId dto) c := by
  refine ensuresBind (ensuresMono ?_ (bookingPrepare userId dto rfl))
  intro out c' books
  cases out with
  | error error => exact books
  | ok engagement =>
    refine ensuresBind (ensuresMono ?_ (bookingCountTemplateUse dto.templateId books))
    intro out c books
    cases out <;> exact books

theorem spentStored {ids : List String} (stored : stores dto.engagementId db c.world = true) (books : Books dto db c) :
    ∃ amount, dto.totalAmount = some amount ∧ spent (dto.engagementId :: ids) c.world = spent ids db + amount := by
  simp only [stores,Bool.and_eq_true,Option.isNone_iff_eq_none] at stored
  obtain same | ⟨row,⟨id,amount,status⟩,created⟩ := books
  · rw [same,stored.1] at stored
    cases stored.2
  · obtain ⟨free,rows,_⟩ := Table.createGet created
    refine ⟨row.totalAmount,amount,?_⟩
    have old : db.engagements.rows.filter (fun r => r.status ≠ .cancelled && r.id ∈ dto.engagementId :: ids) =
        db.engagements.rows.filter (fun r => r.status ≠ .cancelled && r.id ∈ ids) := by
      refine List.filter_congr fun r there => ?_
      have other : r.id ≠ dto.engagementId := by
        intro same
        have found : db.engagements.get? r.id = some r := Table.memGet there
        rw [same,stored.1] at found
        cases found
      simp [other]
    have new : [row].filter (fun r => r.status ≠ .cancelled && r.id ∈ dto.engagementId :: ids) = [row] := by simp [status,id]
    simp only [spent,Table.findMany,rows,List.filter_append,old,new,List.map_append,List.sum_append,List.map_cons,List.map_nil,
      List.sum_singleton]

/-- A call of the member that stores its engagement adds its amount. -/
theorem spentStep (prior : List String) {earlier : List SpendingTurn} {answers : List Answer}
    (stored : stores dto.engagementId ((service self).turns (Pool.initial db) earlier).world
      ((service self).turns (Pool.initial db) (earlier ++ [.serve (.create memberId dto) answers])).world = true) :
    ∃ amount, dto.totalAmount = some amount ∧
      spent (funded self memberId prior (Pool.initial db) (earlier ++ [.serve (.create memberId dto) answers]))
          ((service self).turns (Pool.initial db) (earlier ++ [.serve (.create memberId dto) answers])).world =
        spent (funded self memberId prior (Pool.initial db) earlier) ((service self).turns (Pool.initial db) earlier).world + amount := by
  rw [fundedSnoc]
  rw [(service self).turnsAppend] at stored ⊢
  generalize (service self).turns (Pool.initial db) earlier = pool at stored ⊢
  have booking : Booking dto pool.world ((service self).handler (.create memberId dto)) pool.snapshot := by
    refine ensuresBind (ensuresMono ?_ (bookingCreate memberId dto))
    intro out c books
    cases out <;> exact books
  have books := (ensuresServe (Or.inl rfl) booking answers (meetsAlways (fun _ _ _ => trivial) _)).1
  obtain ⟨amount,asked,total⟩ := spentStored stored books
  refine ⟨amount,asked,?_⟩
  rw [credit,if_pos ⟨rfl,stored⟩]
  exact total

theorem enforcedIff {company : Companies.Db} {companyId : String} {alreadySpent amount : Int} :
    enforceSpendingLimit (company.members.get? (companyId,memberId)) alreadySpent amount = .ok () ↔
      ∀ limit ∈ limitOf company companyId memberId, alreadySpent + amount ≤ limit := by
  unfold enforceSpendingLimit limitOf
  cases (company.members.get? (companyId,memberId)).bind Companies.CompanyMember.spendingLimit with
  | none => simp
  | some limit =>
    simp only [Option.mem_some_iff,forall_eq']
    split
    · rename_i exceeds
      exact ⟨nofun,fun within => absurd exceeds (not_lt.mpr within)⟩
    · rename_i within
      exact ⟨fun _ => not_lt.mp within,fun _ => rfl⟩

/-- The owner of the company limits the member "u" to 100. -/
def membership : Companies.Db where
  users := ⟨[{ id := "o" },{ id := "u" }],by decide⟩
  members := ⟨[{ companyId := "o", memberId := "u" }],by decide⟩

def companies : System Companies.Request Nat Companies.Site Answer Companies.Db Exception Companies.Reply :=
  Companies.service { hmac := fun _ message => message, scrypt := fun _ password => password }

def limited : Companies.Db :=
  (companies.serve (Pool.initial membership) (.setMemberSpendingLimit { id := "o" } "u" (some 100)) [{},{},{},{}]).world

def placement : CreateEngagementDto where
  engagementId := "e"
  companyAddress := "GC"
  recruiterAddress := "GR"
  arbiterAddress := "GA"
  tokenAddress := "usdc"
  totalAmount := some 1000
  jobTitle := some "engineer"
  milestones := some [{ name := "placed", kind := .placement, paymentPercent := 100 }]

def overspent : List SpendingTurn := [.serve (.create "u" placement) [{},{ text := "m" },{}]]

end HireSettle.Escrow.SpendingLimits
