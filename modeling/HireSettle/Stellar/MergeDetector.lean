import HireSettle.Escrow.Database

/-! The job that looks for merged accounts. It reads a page of operations for each
party of a live engagement, flags the engagements of a merged party, and keeps one
cursor for all accounts. Statements of the database succeed here; the fetch of any
account may fail. Horizon orders tokens as numbers, the job compares them as texts. -/
namespace HireSettle.Stellar.MergeDetector
open Workflow Escrow

structure Operation where
  type : String
  pagingToken : String
  -- a token is written in decimal digits
  numeric : pagingToken.toList.all Char.isDigit = true := by decide +kernel
  deriving DecidableEq, Repr

structure Notice where
  userId : String
  message : String
  engagementId : String
  mergedAddress : String
  deriving DecidableEq, Repr

structure Db where
  engagements : Table Engagement := .empty
  users : Table User := .empty
  notifications : List Notice := []
  -- the row of `systemConfig` that holds the cursor
  cursor : Option String := none
  -- the operations of each account, in the order of the network
  operations : String → List Operation := fun _ => []

def Db.pagingToken (db : Db) : String := db.cursor.getD "now"

def tokenValue (token : String) : Nat := token.toList.foldl (fun n c => 10 * n + (c.toNat - '0'.toNat)) 0

/-- An operation that lies at the cursor or before it. -/
def past (pagingToken : String) (op : Operation) : Bool :=
  pagingToken ≠ "now" && tokenValue op.pagingToken ≤ tokenValue pagingToken

-- `order=asc&limit=200`, with the cursor unless it is "now"
def page (db : Db) (pagingToken address : String) : List Operation :=
  ((db.operations address).filter fun op => !past pagingToken op).take 200

def isMerge (op : Operation) : Bool := op.type = "account_merge"

def isActive (row : Engagement) : Bool := row.status = .active || row.status = .replacementRequested

def parties (row : Engagement) : List String := [row.companyAddress,row.recruiterAddress,row.arbiterAddress]

def flagEngagement (mergedAddress : String) (db : Db) (engagement : Engagement) : Db :=
  match db.engagements.get? engagement.id with
  | none => db
  | some current =>
      if current.status = .accountMerged then db
      else { db with
        engagements := db.engagements.update engagement.id fun row => { row with status := .accountMerged }
        notifications := db.notifications ++
          (db.users.findMany fun row => row.role = .admin && row.deactivatedAt.isNone).map fun admin =>
            { userId := admin.id
              message := s!"Address {mergedAddress} was merged. Engagement {engagement.id} has been flagged as ACCOUNT_MERGED " ++
                "and requires review."
              engagementId := engagement.id
              mergedAddress := mergedAddress } }

def flagMergedEngagements (mergedAddress : String) (engagements : List Engagement) (db : Db) : Db :=
  (engagements.filter fun e => mergedAddress ∈ parties e).foldl (flagEngagement mergedAddress) db

-- `op.paging_token && op.paging_token > newMaxToken`
def advance (newMaxToken : String) (op : Operation) : String :=
  if op.pagingToken ≠ "" ∧ newMaxToken < op.pagingToken then op.pagingToken else newMaxToken

def checkOperation (address : String) (engagements : List Engagement) : Db × String → Operation → Db × String
  | (db,newMaxToken), op =>
      (if isMerge op then flagMergedEngagements address engagements db else db,advance newMaxToken op)

def checkAddress (failed : String → Bool) (engagements : List Engagement) (pagingToken : String) (state : Db × String)
    (address : String) : Db × String :=
  if failed address then state
  else (page state.1 pagingToken address).foldl (checkOperation address engagements) state

def activeEngagements (db : Db) : List Engagement := db.engagements.findMany isActive

def addressSet (engagements : List Engagement) : List String := (engagements.flatMap parties).eraseDups

def run (failed : String → Bool) (db : Db) : Db :=
  let engagements := activeEngagements db
  if engagements = [] then db
  else
    let (next,newMaxToken) := (addressSet engagements).foldl (checkAddress failed engagements db.pagingToken) (db,db.pagingToken)
    if newMaxToken ≠ db.pagingToken then { next with cursor := some newMaxToken } else next

/-- What may happen: a run in which some fetches fail, or an operation of an account.
The tokens of the network only grow, past the cursor too. -/
inductive Step where
  | detect (failed : String → Bool)
  | apply (address : String) (op : Operation)

def step (db : Db) : Step → Db
  | .detect failed => run failed db
  | .apply address op =>
      if past db.pagingToken op then db
      else { db with operations := fun other => if other = address then db.operations other ++ [op] else db.operations other }

/-- The operations of an account that a run reads. -/
def readOf (failed : String → Bool) (db : Db) (address : String) : List Operation :=
  if failed address then [] else page db db.pagingToken address

def reads (failed : String → Bool) (db : Db) : List Operation :=
  (addressSet (activeEngagements db)).flatMap (readOf failed db)

/-- The greatest token of a run, as texts compare. -/
def newest (failed : String → Bool) (db : Db) : String := (reads failed db).foldl advance db.pagingToken

/-- A run reads a merge of some party of the engagement. -/
def Detected (failed : String → Bool) (db : Db) (row : Engagement) : Prop :=
  ∃ address ∈ parties row, ∃ op ∈ readOf failed db address, isMerge op = true

section Flags

variable {db db' db'' : Db}

/-- Engagements become merged; nothing else that the job reads changes. -/
structure Flags (db db' : Db) : Prop where
  operations : db'.operations = db.operations
  cursor : db'.cursor = db.cursor
  rows : ∃ flagged : String → Bool, db'.engagements.rows =
    db.engagements.rows.map fun row => if flagged row.id then { row with status := .accountMerged } else row

theorem flagsRefl (db : Db) : Flags db db :=
  ⟨rfl,rfl,fun _ => false,by simp⟩

theorem flagsTrans (first : Flags db db') (second : Flags db' db'') : Flags db db'' := by
  obtain ⟨flagged,rows⟩ := first.rows
  obtain ⟨flagged',rows'⟩ := second.rows
  refine ⟨second.operations.trans first.operations,second.cursor.trans first.cursor,fun id => flagged id || flagged' id,?_⟩
  rw [rows',rows,List.map_map]
  refine List.map_congr_left fun row _ => ?_
  by_cases here : flagged row.id = true
  · simp [here]
  · simp [here]

theorem flagsEngagement (mergedAddress : String) (db : Db) (engagement : Engagement) :
    Flags db (flagEngagement mergedAddress db engagement) := by
  unfold flagEngagement
  split
  · exact flagsRefl db
  · split
    · exact flagsRefl db
    · refine ⟨rfl,rfl,fun id => id = engagement.id,?_⟩
      exact List.map_congr_left fun row _ => rfl

theorem flagsFold {δ : Type} {f : Db → δ → Db} (each : ∀ db x, Flags db (f db x)) (xs : List δ) (db : Db) : Flags db (xs.foldl f db) := by
  induction xs generalizing db with
  | nil => exact flagsRefl db
  | cons x xs ih => exact flagsTrans (each db x) (ih _)

def Merged (id : String) (db : Db) : Prop := ∀ row ∈ db.engagements.rows, row.id = id → row.status = .accountMerged

theorem mergedStays {id : String} (flags : Flags db db') (merged : Merged id db) : Merged id db' := by
  obtain ⟨flagged,rows⟩ := flags.rows
  intro row inside same
  rw [rows] at inside
  obtain ⟨old,there,rfl⟩ := List.mem_map.mp inside
  split
  · rfl
  · rename_i unflagged
    rw [if_neg unflagged] at same
    exact merged old there same

theorem mergedEngagement (mergedAddress : String) (engagement : Engagement) (db : Db) :
    Merged engagement.id (flagEngagement mergedAddress db engagement) := by
  unfold flagEngagement
  split
  · rename_i missing
    intro row inside same
    have found : db.engagements.get? row.id = some row := Table.memGet inside
    rw [same,missing] at found
    cases found
  · rename_i current found
    split
    · rename_i already
      intro row inside same
      have there : db.engagements.get? row.id = some row := Table.memGet inside
      rw [same,found] at there
      cases there
      exact already
    · intro row inside same
      obtain ⟨old,there,rfl⟩ := List.mem_map.mp inside
      by_cases here : Keyed.key old = engagement.id
      · simp only [here,decide_true,if_true]
      · rw [if_neg (by simpa using here)] at same
        exact absurd same here

theorem mergedFold {engagement : Engagement} {affected : List Engagement} (mergedAddress : String) (inside : engagement ∈ affected) (db : Db) :
    Merged engagement.id (affected.foldl (flagEngagement mergedAddress) db) := by
  induction affected generalizing db with
  | nil => cases inside
  | cons first rest ih =>
    rcases List.mem_cons.mp inside with rfl | later
    · exact mergedStays (flagsFold (flagsEngagement mergedAddress) rest _) (mergedEngagement mergedAddress engagement db)
    · exact ih later _

end Flags

section Runs

variable {failed : String → Bool} {db : Db} {engagements : List Engagement}

theorem flagsOperation (address : String) (state : Db × String) (op : Operation) :
    Flags state.1 (checkOperation address engagements state op).1 := by
  unfold checkOperation
  dsimp only
  split
  · exact flagsFold (flagsEngagement address) _ _
  · exact flagsRefl _

theorem checkedOperations (address : String) (ops : List Operation) (state : Db × String) :
    Flags state.1 (ops.foldl (checkOperation address engagements) state).1 ∧
    (ops.foldl (checkOperation address engagements) state).2 = ops.foldl advance state.2 ∧
    ∀ e ∈ engagements, address ∈ parties e → (∃ op ∈ ops, isMerge op = true) →
      Merged e.id (ops.foldl (checkOperation address engagements) state).1 := by
  induction ops generalizing state with
  | nil => exact ⟨flagsRefl _,rfl,fun _ _ _ ⟨_,absent,_⟩ => absurd absent List.not_mem_nil⟩
  | cons op ops ih =>
    obtain ⟨flags,token,merges⟩ := ih (checkOperation address engagements state op)
    refine ⟨flagsTrans (flagsOperation address state op) flags,token,fun e inside party ⟨found,there,merge⟩ => ?_⟩
    rcases List.mem_cons.mp there with rfl | later
    · refine mergedStays flags ?_
      simp only [checkOperation,merge,if_true]
      exact mergedFold address (List.mem_filter.mpr ⟨inside,decide_eq_true party⟩) state.1
    · exact merges e inside party ⟨found,later,merge⟩

theorem checkedAddresses (failed : String → Bool) (engagements : List Engagement) (addresses : List String) (state : Db × String)
    (flagged : Flags db state.1) :
    Flags state.1 (addresses.foldl (checkAddress failed engagements db.pagingToken) state).1 ∧
    (addresses.foldl (checkAddress failed engagements db.pagingToken) state).2 = (addresses.flatMap (readOf failed db)).foldl advance state.2 ∧
    ∀ address ∈ addresses, ∀ e ∈ engagements, address ∈ parties e → (∃ op ∈ readOf failed db address, isMerge op = true) →
      Merged e.id (addresses.foldl (checkAddress failed engagements db.pagingToken) state).1 := by
  induction addresses generalizing state with
  | nil => exact ⟨flagsRefl _,rfl,fun _ absent => absurd absent List.not_mem_nil⟩
  | cons address rest ih =>
    have read : checkAddress failed engagements db.pagingToken state address =
        (readOf failed db address).foldl (checkOperation address engagements) state := by
      unfold checkAddress readOf
      split
      · rfl
      · rw [page,page,flagged.operations]
    obtain ⟨here,token,merges⟩ := checkedOperations address (readOf failed db address) state
    rw [List.foldl_cons,read,List.flatMap_cons,List.foldl_append,← token]
    obtain ⟨flags,tokens,others⟩ := ih (List.foldl (checkOperation address engagements) state (readOf failed db address)) (flagsTrans flagged here)
    refine ⟨flagsTrans here flags,tokens,fun other inside e there party found => ?_⟩
    rcases List.mem_cons.mp inside with rfl | later
    · exact mergedStays flags (merges e there party found)
    · exact others other later e there party found

/-- What a run does, in terms of what it reads. -/
structure Ran (failed : String → Bool) (db db' : Db) : Prop where
  operations : db'.operations = db.operations
  rows : ∃ flagged : String → Bool, db'.engagements.rows =
    db.engagements.rows.map fun row => if flagged row.id then { row with status := .accountMerged } else row
  token : db'.pagingToken = newest failed db
  detected : ∀ row ∈ db.engagements.rows, isActive row = true → Detected failed db row → Merged row.id db'

theorem runRan (failed : String → Bool) (db : Db) : Ran failed db (run failed db) := by
  unfold run
  dsimp only
  split
  · rename_i empty
    refine ⟨rfl,(flagsRefl db).rows,?_,fun row inside active _ => ?_⟩
    · rw [newest,reads,empty]
      rfl
    · have listed : row ∈ activeEngagements db := List.mem_filter.mpr ⟨inside,active⟩
      rw [empty] at listed
      cases listed
  · obtain ⟨flags,token,merges⟩ := checkedAddresses failed (activeEngagements db) (addressSet (activeEngagements db)) (db,db.pagingToken)
      (flagsRefl db)
    generalize (addressSet (activeEngagements db)).foldl (checkAddress failed (activeEngagements db) db.pagingToken) (db,db.pagingToken) =
      out at flags token merges ⊢
    have detects : ∀ row ∈ db.engagements.rows, isActive row = true → Detected failed db row → Merged row.id out.1 := by
      rintro row inside active ⟨address,party,found⟩
      have listed : row ∈ activeEngagements db := List.mem_filter.mpr ⟨inside,active⟩
      exact merges address (List.mem_eraseDups.mpr (List.mem_flatMap.mpr ⟨row,listed,party⟩)) row listed party found
    split
    · exact ⟨flags.operations,flags.rows,token,detects⟩
    · rename_i same
      refine ⟨flags.operations,flags.rows,?_,detects⟩
      rw [Db.pagingToken,flags.cursor]
      exact (not_not.mp same).symm.trans token

end Runs

/-- No live engagement names the account any more. -/
def Flagged (db : Db) (address : String) : Prop := ∀ row ∈ db.engagements.rows, address ∈ parties row → isActive row = false

/-- Of the merges after `start`, those up to the stored cursor have been flagged. -/
def Covered (start : String) (db : Db) : Prop :=
  ∀ address, ∀ op ∈ db.operations address, isMerge op = true → past start op = false → past db.pagingToken op = true → Flagged db address

/-- A merge after the cursor, of a party of a live engagement of which the run reads none. -/
structure Left (failed : String → Bool) (db : Db) (row : Engagement) (address : String) (op : Operation) : Prop where
  stored : row ∈ db.engagements.rows
  active : isActive row = true
  undetected : ¬ Detected failed db row
  party : address ∈ parties row
  applied : op ∈ db.operations address
  merge : isMerge op = true
  ahead : past db.pagingToken op = false

/-- What a run leaves lies after the greatest token that it reads. -/
def Skipless (failed : String → Bool) (db : Db) : Prop :=
  ∀ row address op, Left failed db row address op → past (newest failed db) op = false

/-- As long as a run leaves a merge, it reads a token greater than the cursor, as texts compare. -/
def Moves (db : Db) : Prop :=
  (∃ row address op, Left (fun _ => false) db row address op) → newest (fun _ => false) db ≠ db.pagingToken

def Careful (db : Db) : List Step → Prop
  | [] => True
  | .detect failed :: rest => Skipless failed db ∧ Careful (run failed db) rest
  | .apply address op :: rest => Careful (step db (.apply address op)) rest

section Coverage

variable {failed : String → Bool} {db db' : Db} {start p q : String} {op : Operation}

/-- An engagement that is live after a run was live before it, and the run has read no merge of its parties. -/
theorem ranActive (ran : Ran failed db db') {row : Engagement} (inside : row ∈ db'.engagements.rows) (active : isActive row = true) :
    row ∈ db.engagements.rows ∧ ¬ Detected failed db row := by
  obtain ⟨flagged,rows⟩ := ran.rows
  have inside' := inside
  rw [rows] at inside'
  obtain ⟨old,there,same⟩ := List.mem_map.mp inside'
  split at same
  · subst same
    cases active
  · subst same
    refine ⟨there,fun detected => ?_⟩
    have merged := ran.detected old there active detected old inside rfl
    simp [isActive,merged] at active

theorem leftAfter (ran : Ran failed db db') (covered : Covered start db) {row : Engagement} {address : String}
    (inside : row ∈ db'.engagements.rows) (active : isActive row = true) (party : address ∈ parties row)
    (applied : op ∈ db'.operations address) (merge : isMerge op = true) (later : past start op = false) : Left failed db row address op := by
  obtain ⟨stored,undetected⟩ := ranActive ran inside active
  rw [ran.operations] at applied
  refine ⟨stored,active,undetected,party,applied,merge,?_⟩
  refine Bool.eq_false_iff.mpr fun behind => ?_
  rw [covered address op applied merge later behind row stored party] at active
  cases active

theorem coveredRun (skipless : Skipless failed db) (covered : Covered start db) : Covered start (run failed db) := by
  have ran := runRan failed db
  intro address op applied merge later behind row inside party
  refine Bool.eq_false_iff.mpr fun active => ?_
  have ahead := skipless row address op (leftAfter ran covered inside active party applied merge later)
  rw [ran.token,ahead] at behind
  cases behind

theorem coveredApply (address : String) (covered : Covered start db) : Covered start (step db (.apply address op)) := by
  simp only [step]
  split
  · exact covered
  · rename_i ahead
    intro other op' applied merge later behind
    dsimp only at applied
    split at applied
    · rcases List.mem_append.mp applied with old | new
      · exact covered other op' old merge later behind
      · rw [List.mem_singleton.mp new] at behind
        exact absurd behind ahead
    · exact covered other op' applied merge later behind

theorem coveredSteps {steps : List Step} (careful : Careful db steps) (covered : Covered start db) : Covered start (steps.foldl step db) := by
  induction steps generalizing db with
  | nil => exact covered
  | cons s rest ih =>
    cases s with
    | detect failed => exact ih careful.2 (coveredRun careful.1 covered)
    | apply address op => exact ih careful (coveredApply address covered)

theorem coveredStart (db : Db) : Covered db.pagingToken db := by
  intro address op _ _ later behind
  rw [later] at behind
  cases behind

/-- The operations of live engagements after the cursor. -/
def unread (db : Db) : Nat :=
  (db.engagements.rows.map fun row =>
    if isActive row then ((parties row).flatMap db.operations).countP fun op => !past db.pagingToken op else 0).sum

theorem newestCases (ops : List Operation) (p : String) :
    ops.foldl advance p = p ∨ ∃ op ∈ ops, op.pagingToken = ops.foldl advance p := by
  induction ops generalizing p with
  | nil => exact Or.inl rfl
  | cons op ops ih =>
    rw [List.foldl_cons]
    rcases ih (advance p op) with same | ⟨found,inside,token⟩
    · unfold advance at same ⊢
      split
      · rename_i greater
        rw [if_pos greater] at same
        exact Or.inr ⟨op,List.mem_cons_self,same.symm⟩
      · rename_i smaller
        rw [if_neg smaller] at same
        exact Or.inl same
    · exact Or.inr ⟨found,List.mem_cons_of_mem _ inside,token⟩

theorem pastSelf (read : Operation) : past read.pagingToken read = true := by
  have numeric : read.pagingToken ≠ "now" := by
    intro now
    have letter := List.all_eq_true.mp read.numeric 'n' (by rw [now]; decide +kernel)
    exact absurd letter (by decide)
  simp [past,numeric]

theorem pastMoves {read : Operation} (ahead : past p read = false) (behind : past p op = true) : past read.pagingToken op = true := by
  have self := pastSelf read
  simp only [past,Bool.and_eq_true,decide_eq_true_eq,Bool.and_eq_false_iff,decide_eq_false_iff_not] at ahead behind self ⊢
  refine ⟨self.1,?_⟩
  rcases ahead with now | less
  · exact absurd behind.1 now
  · omega

theorem countLess {l : List Operation} {f g : Operation → Bool} (weaker : ∀ op, f op = true → g op = true) (inside : op ∈ l)
    (counted : g op = true) (dropped : f op = false) : l.countP f < l.countP g := by
  have kept : l.countP f = (l.filter g).countP f := by
    rw [List.countP_filter]
    refine List.countP_congr fun x _ => ?_
    simp only [Bool.and_eq_true]
    exact ⟨fun here => ⟨here,weaker x here⟩,fun both => both.1⟩
  rw [kept,@List.countP_eq_length_filter _ g]
  exact List.countP_lt_length_iff.mpr ⟨op,List.mem_filter.mpr ⟨inside,counted⟩,dropped⟩

theorem unreadLess (moved : newest failed db ≠ db.pagingToken) : unread (run failed db) < unread db := by
  have ran := runRan failed db
  obtain same | ⟨read,inside,token⟩ := newestCases (reads failed db) db.pagingToken
  · exact absurd same moved
  obtain ⟨address,listed,there⟩ := List.mem_flatMap.mp inside
  obtain ⟨row,live,party⟩ := List.mem_flatMap.mp (List.mem_eraseDups.mp listed)
  obtain ⟨stored,active⟩ := List.mem_filter.mp live
  have readAhead : past db.pagingToken read = false ∧ read ∈ db.operations address := by
    unfold readOf at there
    split at there
    · cases there
    · obtain ⟨applied,ahead⟩ := List.mem_filter.mp (List.mem_of_mem_take there)
      exact ⟨by simpa using ahead,applied⟩
  have newToken : (run failed db).pagingToken = read.pagingToken := ran.token.trans token.symm
  have weaker : ∀ op, (!past read.pagingToken op) = true → (!past db.pagingToken op) = true := by
    intro op ahead
    refine Bool.not_eq_true' _ |>.mpr (Bool.eq_false_iff.mpr fun behind => ?_)
    rw [pastMoves readAhead.1 behind] at ahead
    cases ahead
  obtain ⟨flagged,rows⟩ := ran.rows
  rw [unread,unread,rows,List.map_map,ran.operations,newToken]
  refine List.sum_lt_sum _ _ (fun other _ => ?_) ⟨row,stored,?_⟩
  · simp only [Function.comp_apply]
    by_cases here : flagged other.id = true
    · simp [here,isActive]
    · simp only [if_neg here]
      split
      · exact List.countP_mono_left fun op _ => weaker op
      · exact le_refl _
  · have listed : read ∈ (parties row).flatMap db.operations := List.mem_flatMap.mpr ⟨address,party,readAhead.2⟩
    simp only [Function.comp_apply,active,if_true]
    by_cases here : flagged row.id = true
    · simp only [here,if_true,isActive]
      exact List.countP_pos_iff.mpr ⟨read,listed,by simp [readAhead.1]⟩
    · simp only [if_neg here,active,if_true]
      exact countLess weaker listed (by simp [readAhead.1]) (by simp [pastSelf])

/-- A merge after `start` whose account is still named by a live engagement. -/
def Missed (start : String) (db : Db) : Prop :=
  ∃ address, ∃ op ∈ db.operations address, isMerge op = true ∧ past start op = false ∧ ¬ Flagged db address

/-- What the job does when every fetch succeeds and nothing new is applied. -/
def runs (db : Db) (n : Nat) : Db := (run fun _ => false)^[n] db

theorem flaggedAfter {n : Nat} (room : unread db < n) (covered : Covered start db)
    (careful : ∀ n, Skipless (fun _ => false) (runs db n) ∧ Moves (runs db n)) : ∃ n, ¬ Missed start (runs db n) := by
  induction n generalizing db with
  | zero => exact absurd room (Nat.not_lt_zero _)
  | succ n ih =>
    by_cases missed : Missed start (run (fun _ => false) db)
    · obtain ⟨address,op,applied,merge,later,named⟩ := missed
      simp only [Flagged,not_forall] at named
      obtain ⟨row,inside,party,active⟩ := named
      have left := leftAfter (runRan _ db) covered inside (Bool.not_eq_false _ |>.mp active) party applied merge later
      have less : unread (run (fun _ => false) db) < unread db := unreadLess ((careful 0).2 ⟨row,address,op,left⟩)
      obtain ⟨k,flagged⟩ := @ih (run (fun _ => false) db) (by omega) (coveredRun (careful 0).1 covered) fun k => careful (k + 1)
      exact ⟨k + 1,flagged⟩
    · exact ⟨1,missed⟩

/-- Where no run skips a merge, every merge up to the cursor has been flagged; where
runs also move on as long as they leave one, finitely many of them flag all. -/
theorem noMergeMissed (db : Db) (steps : List Step) (careful : Careful db steps) :
    Covered db.pagingToken (steps.foldl step db) ∧
    ((∀ n, Skipless (fun _ => false) (runs (steps.foldl step db) n) ∧ Moves (runs (steps.foldl step db) n)) →
      ∃ n, ¬ Missed db.pagingToken (runs (steps.foldl step db) n)) :=
  ⟨coveredSteps careful (coveredStart db),flaggedAfter (Nat.lt_succ_self _) (coveredSteps careful (coveredStart db))⟩

def hired : Db where
  engagements := .single { id := "e", companyAddress := "GC", recruiterAddress := "GR", arbiterAddress := "GA", totalAmount := 1000 }
  cursor := some "100"
  operations := fun address => if address = "GC" then [⟨"payment","120",by decide +kernel⟩] else []

def merge : Operation := ⟨"account_merge","150",by decide +kernel⟩

def applied : List Step := [.apply "GR" merge,.detect fun _ => false]

theorem idleRuns (quiet : ∀ row ∈ db.engagements.rows, isActive row = false) (n : Nat) : runs db n = db := by
  have empty : activeEngagements db = [] := List.filter_eq_nil_iff.mpr fun row inside => by simp [quiet row inside]
  have idle : run (fun _ => false) db = db := by
    simp only [run,empty,if_true]
  exact Function.iterate_fixed idle n

theorem mergeDetected :
    Covered "100" (applied.foldl step hired) ∧ (∃ n, ¬ Missed "100" (runs (applied.foldl step hired) n)) ∧
    (applied.foldl step hired).engagements.rows.map Engagement.status = [.accountMerged] := by
  have rows : (applied.foldl step hired).engagements.rows.map isActive = [false] := by decide +kernel
  have quiet : ∀ row ∈ (applied.foldl step hired).engagements.rows, isActive row = false := by
    intro row inside
    have listed := List.mem_map_of_mem (f := isActive) inside
    rw [rows] at listed
    exact List.mem_singleton.mp listed
  have careful : Careful hired applied := by
    refine ⟨fun row address op left => absurd ?_ left.undetected,trivial⟩
    cases List.mem_singleton.mp left.stored
    exact ⟨"GR",by decide +kernel,merge,by decide +kernel,by decide +kernel⟩
  have missed := noMergeMissed hired applied careful
  refine ⟨missed.1,missed.2 fun n => ?_,by decide +kernel⟩
  rw [idleRuns quiet]
  have none : ∀ row address op, ¬ Left (fun _ => false) (applied.foldl step hired) row address op := by
    intro row address op left
    have active := left.active
    rw [quiet row left.stored] at active
    cases active
  exact ⟨fun row address op left => absurd left (none row address op),fun ⟨row,address,op,left⟩ => absurd left (none row address op)⟩

/-- The fetch of the merged account fails, and another account moves the cursor past it. -/
def overtaken : List Step := [.apply "GR" merge,.apply "GA" ⟨"payment","200",by decide +kernel⟩,.detect fun address => address = "GR"]

theorem mergeSkipped : (overtaken.foldl step hired).cursor = some "200" ∧ ¬ Covered hired.pagingToken (overtaken.foldl step hired) := by
  refine ⟨by decide +kernel,fun covered => ?_⟩
  have flagged := covered "GR" merge (by decide +kernel) (by decide +kernel) (by decide +kernel) (by decide +kernel)
  have rows : (overtaken.foldl step hired).engagements.rows.map (fun row => decide ("GR" ∈ parties row) && isActive row) = [true] := by
    decide +kernel
  obtain ⟨row,inside,live⟩ := List.mem_map.mp (rows ▸ List.mem_singleton_self true)
  simp only [Bool.and_eq_true,decide_eq_true_eq] at live
  rw [flagged row inside live.1] at live
  cases live.2

end Coverage

end HireSettle.Stellar.MergeDetector
