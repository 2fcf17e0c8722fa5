import HireSettle.Escrow.ActivityFeed

/-! Following the cursor from the first page to the last. The walk always ends,
keeps the order and repeats nothing; whether it loses rows depends on how many rows
of one source stand between the cursor and the page. -/
namespace HireSettle.Escrow.ActivityFeed
open Workflow ActivityFeedService

theorem dropBar (front rest : List Char) (plain : '|' ∉ front) :
    (front ++ '|' :: rest).takeWhile (· ≠ '|') = front ∧ (front ++ '|' :: rest).dropWhile (· ≠ '|') = '|' :: rest := by
  have passes : ∀ c ∈ front, decide (c ≠ '|') = true := fun c inside => decide_eq_true fun bar => plain (bar ▸ inside)
  rw [List.takeWhile_append_of_pos passes,List.dropWhile_append_of_pos passes]
  exact ⟨List.append_nil front,rfl⟩

theorem decodeEncode (runtime : Runtime) (item : Cursor) : decodeCursor runtime (encodeCursor item) = .ok item := by
  have split := dropBar item.timestamp.toISOString.toList item.id.toList (Date.isoWithoutBar item.timestamp)
  have text : (item.timestamp.toISOString ++ "|" ++ item.id).toList =
      item.timestamp.toISOString.toList ++ '|' :: item.id.toList := by
    rw [String.toList_append,String.toList_append,List.append_assoc]
    rfl
  unfold decodeCursor encodeCursor
  dsimp only
  rw [Base64Url.bytesWrite _ (utf8Small _),readUtf8Utf8,Option.getD_some,text,split.1,split.2,String.ofList_toList,
    Date.parseToISOString,Option.some_or]
  dsimp only
  rw [String.ofList_toList]

theorem presentEncode (item : Cursor) : present (some (encodeCursor item)) = some (encodeCursor item) := by
  have filled : encodeCursor item ≠ "" := by
    intro empty
    have bytes := Base64Url.bytesWrite _ (utf8Small (item.timestamp.toISOString ++ "|" ++ item.id))
    rw [← encodeCursor,empty] at bytes
    have read := readUtf8Utf8 (item.timestamp.toISOString ++ "|" ++ item.id)
    rw [← bytes] at read
    have blank : readUtf8 (Base64Url.bytes "") = some "" := readUtf8Utf8 ""
    have length := congrArg String.length (Option.some.inj (blank.symm.trans read))
    rw [String.length_append,String.length_append] at length
    have bar : "|".length = 1 := rfl
    have blank : "".length = 0 := rfl
    omega
  rw [present,Option.filter_some,if_pos (decide_eq_true filled)]

def itemTime (item : ActivityItem) : Int := item.timestamp.ms

def Before (a b : ActivityItem) : Prop := ActivityFeedService.compare a.toCursor b.toCursor < 0

instance : DecidableRel Before := fun _ _ => inferInstanceAs (Decidable (_ < _))

theorem compareNegative (a b : Cursor) : ActivityFeedService.compare a b < 0 ↔
    b.timestamp.ms < a.timestamp.ms ∨ (a.timestamp.ms = b.timestamp.ms ∧ textBefore b.id a.id = true) := by
  unfold ActivityFeedService.compare
  dsimp only
  split_ifs <;> grind

theorem beforeIrrefl (a : ActivityItem) : ¬ Before a a := by
  rw [Before,compareNegative]
  rintro (later | ⟨_,same⟩)
  · exact lt_irrefl _ later
  · cases (textAsymm same).symm.trans same

theorem beforeAsymm {a b : ActivityItem} (first : Before a b) : ¬ Before b a := by
  rw [Before,compareNegative] at first ⊢
  rintro (later | ⟨same,text⟩)
  · obtain newer | ⟨same,_⟩ := first <;> omega
  · obtain newer | ⟨_,before⟩ := first
    · omega
    · cases (textAsymm text).symm.trans before

instance : Std.Irrefl Before := ⟨beforeIrrefl⟩

instance : Std.Antisymm Before := ⟨fun _ _ first second => (beforeAsymm first second).elim⟩

theorem beforeNewest (a b : ActivityItem) (first : Before a b) : itemTime b ≤ itemTime a := by
  obtain newer | ⟨same,_⟩ := (compareNegative a.toCursor b.toCursor).mp first
  · exact newer.le
  · exact same.ge

theorem beforeTotal {a b : ActivityItem} (apart : a.id ≠ b.id) : Before a b ∨ Before b a := by
  rw [Before,compareNegative,Before,compareNegative]
  obtain less | same | more := lt_trichotomy a.timestamp.ms b.timestamp.ms
  · exact Or.inr (Or.inl less)
  · obtain before | equal | after := textTrichotomy a.id b.id
    · exact Or.inr (Or.inr ⟨same.symm,before⟩)
    · cases apart equal
    · exact Or.inl (Or.inr ⟨same,after⟩)
  · exact Or.inl (Or.inl more)

/-- The order that the service sorts by. -/
def NotAfter (a b : ActivityItem) : Prop := ActivityFeedService.compare a.toCursor b.toCursor ≤ 0

instance : DecidableRel NotAfter := fun _ _ => inferInstanceAs (Decidable (_ ≤ _))

theorem compareNonpositive (a b : Cursor) : ActivityFeedService.compare a b ≤ 0 ↔
    b.timestamp.ms < a.timestamp.ms ∨ (a.timestamp.ms = b.timestamp.ms ∧ textBefore a.id b.id = false) := by
  unfold ActivityFeedService.compare
  dsimp only
  have asymm := @textAsymm
  split_ifs <;> grind

theorem notAfterTotal (a b : ActivityItem) : NotAfter a b ∨ NotAfter b a := by
  rw [NotAfter,compareNonpositive,NotAfter,compareNonpositive]
  obtain less | same | more := lt_trichotomy a.timestamp.ms b.timestamp.ms
  · exact Or.inr (Or.inl less)
  · cases before : textBefore a.id b.id with
    | false => exact Or.inl (Or.inr ⟨same,rfl⟩)
    | true => exact Or.inr (Or.inr ⟨same.symm,textAsymm before⟩)
  · exact Or.inl (Or.inl more)

theorem notAfterTrans (a b c : ActivityItem) (first : NotAfter a b) (second : NotAfter b c) : NotAfter a c := by
  rw [NotAfter,compareNonpositive] at first second ⊢
  obtain newer | ⟨same,text⟩ := first <;> obtain newer' | ⟨same',text'⟩ := second
  · exact Or.inl (by omega)
  · exact Or.inl (by omega)
  · exact Or.inl (by omega)
  · exact Or.inr ⟨same.trans same',textNotBefore text text'⟩

theorem notAfterNewest (a b : ActivityItem) (first : NotAfter a b) : itemTime b ≤ itemTime a := by
  obtain newer | ⟨same,_⟩ := (compareNonpositive a.toCursor b.toCursor).mp first
  · exact newer.le
  · exact same.ge

theorem notAfterApart {a b : ActivityItem} (first : NotAfter a b) (apart : a.id ≠ b.id) : Before a b := by
  refine (beforeTotal apart).resolve_right fun second => ?_
  rw [NotAfter,compareNonpositive] at first
  rw [Before,compareNegative] at second
  obtain newer | ⟨same,text⟩ := first <;> obtain newer' | ⟨same',text'⟩ := second
  · omega
  · omega
  · omega
  · cases text.symm.trans text'

def types : List ActivityType := [.statusChange,.note,.milestoneAudit,.proofVersion,.partialRelease,.milestoneComment]

section Sources
variable (store : Store) (engagementId : String)

/-- The items of one source, all of them. -/
def source : ActivityType → List ActivityItem
  | .statusChange => (store.engagementAuditLogs.findMany (·.engagementId = engagementId)).map statusChange
  | .note => (store.engagementNotes.findMany (·.engagementId = engagementId)).map note
  | .milestoneAudit => (store.milestoneAuditLogs.findMany (·.milestone.engagementId = engagementId)).map milestoneAudit
  | .proofVersion => (store.milestoneProofVersions.findMany (·.milestone.engagementId = engagementId)).map proofVersion
  | .partialRelease => (store.milestonePartialReleases.findMany (·.engagementId = engagementId)).map partialRelease
  | .milestoneComment => (store.milestoneComments.findMany (·.engagementId = engagementId)).map milestoneComment

def activity : List ActivityItem := types.flatMap (source store engagementId)

-- the whole history in the order of the service
def history : List ActivityItem := (activity store engagementId).insertionSort NotAfter

def window (orders : Orders) (after : Option Cursor) (take : Nat) : ActivityType → List ActivityItem
  | .statusChange => (findMany orders.engagementAuditLogs store.engagementAuditLogs (·.engagementId = engagementId) after take).map
      statusChange
  | .note => (findMany orders.engagementNotes store.engagementNotes (·.engagementId = engagementId) after take).map note
  | .milestoneAudit => (findMany orders.milestoneAuditLogs store.milestoneAuditLogs (·.milestone.engagementId = engagementId)
      after take).map milestoneAudit
  | .proofVersion => (findMany orders.milestoneProofVersions store.milestoneProofVersions
      (·.milestone.engagementId = engagementId) after take).map proofVersion
  | .partialRelease => (findMany orders.milestonePartialReleases store.milestonePartialReleases (·.engagementId = engagementId)
      after take).map partialRelease
  | .milestoneComment => (findMany orders.milestoneComments store.milestoneComments (·.engagementId = engagementId) after
      take).map milestoneComment

-- the rows a request has before it cuts the page
def fetched (orders : Orders) (after : Option Cursor) (take : Nat) : List ActivityItem :=
  ((types.flatMap (window store engagementId orders after (take + 1))).filter
    fun item => after.all fun cursor => ActivityFeedService.compare cursor item.toCursor < 0).insertionSort NotAfter

end Sources

section Rows
variable {ρ : Type} [Keyed ρ String] {time : ρ → Int} {toItem : ρ → ActivityItem}

def reach (after : Option Cursor) (item : ActivityItem) : Bool := after.all fun cursor => itemTime item ≤ cursor.timestamp.ms

theorem rowsReach (timed : ∀ r, itemTime (toItem r) = time r) (table : Table ρ) (selects : ρ → Bool) (after : Option Cursor) :
    ((table.findMany selects).map toItem).filter (reach after) =
      (table.findMany fun r => selects r && after.all fun cursor => time r ≤ cursor.timestamp.ms).map toItem := by
  rw [List.filter_map,Table.findMany,Table.findMany,List.filter_filter]
  refine congrArg (List.map toItem) (List.filter_congr fun r _ => ?_)
  rw [Bool.and_comm,Function.comp_apply,reach,timed]

theorem rowsWindowed (timed : ∀ r, itemTime (toItem r) = time r) (order : Arrangement ρ time) (table : Table ρ)
    (selects : ρ → Bool) (after : Option Cursor) (n : Nat) :
    Windowed itemTime n (((table.findMany selects).map toItem).filter (reach after))
      ((findMany order table selects after n).map toItem) := by
  rw [rowsReach timed]
  refine ⟨(order.arrange _).map toItem,(order.perm _).map toItem,?_,List.map_take⟩
  rw [List.pairwise_map]
  exact (order.newestFirst _).imp fun older => by rwa [timed,timed]

theorem rowsDistinct (label : String) (labelled : ∀ r, (toItem r).id = label ++ Keyed.key r) (table : Table ρ) (selects : ρ → Bool) :
    (((table.findMany selects).map toItem).map (·.id)).Nodup := by
  have keys : ((table.findMany selects).map Keyed.key).Nodup := table.unique.sublist (List.filter_sublist.map _)
  have ids : ((table.findMany selects).map toItem).map (·.id) = ((table.findMany selects).map Keyed.key).map (label ++ ·) := by
    rw [List.map_map,List.map_map]
    exact List.map_congr_left fun r _ => labelled r
  rw [ids]
  exact keys.map fun s t same => by simpa using same

theorem rowsBy (timed : ∀ r, itemTime (toItem r) = time r) (le : ActivityItem → ActivityItem → Prop) [DecidableRel le]
    (order : Arrangement ρ time) (sorts : ∀ rows, order.arrange rows = rows.insertionSort fun a b => le (toItem a) (toItem b))
    (table : Table ρ) (selects : ρ → Bool) (after : Option Cursor) (n : Nat) :
    (findMany order table selects after n).map toItem =
      ((((table.findMany selects).map toItem).filter (reach after)).insertionSort le).take n := by
  rw [rowsReach timed,findMany,List.map_take,sorts]
  exact congrArg (List.take n) (List.map_insertionSort _ le toItem _ fun _ _ _ _ => Iff.rfl)

end Rows

section Merged
variable {store : Store} {engagementId : String}

-- the part of an id before the first colon
def tag (id : String) : List Char := id.toList.takeWhile (· ≠ ':')

def tagOf : ActivityType → List Char
  | .statusChange => "status_change".toList
  | .note => "note".toList
  | .milestoneAudit => "milestone_audit".toList
  | .proofVersion => "proof_version".toList
  | .partialRelease => "partial_release".toList
  | .milestoneComment => "milestone_comment".toList

theorem tagPrefixed {label : String} {name : List Char} (split : label.toList = name ++ [':']) (plain : ':' ∉ name) (id : String) :
    tag (label ++ id) = name := by
  have passes : ∀ c ∈ name, decide (c ≠ ':') = true := fun c inside => decide_eq_true fun colon => plain (colon ▸ inside)
  rw [tag,String.toList_append,split,List.append_assoc,List.takeWhile_append_of_pos passes]
  exact List.append_nil name

theorem sourceItem {t : ActivityType} {item : ActivityItem} (inside : item ∈ source store engagementId t) :
    item.type = t ∧ tag item.id = tagOf t := by
  cases t <;> obtain ⟨r,_,rfl⟩ := List.mem_map.mp inside <;> exact ⟨rfl,tagPrefixed rfl (by decide) _⟩

variable (store engagementId) in
theorem sourceDistinct (t : ActivityType) : ((source store engagementId t).map (·.id)).Nodup := by
  cases t with
  | statusChange => exact rowsDistinct "status_change:" (fun _ => rfl) _ _
  | note => exact rowsDistinct "note:" (fun _ => rfl) _ _
  | milestoneAudit => exact rowsDistinct "milestone_audit:" (fun _ => rfl) _ _
  | proofVersion => exact rowsDistinct "proof_version:" (fun _ => rfl) _ _
  | partialRelease => exact rowsDistinct "partial_release:" (fun _ => rfl) _ _
  | milestoneComment => exact rowsDistinct "milestone_comment:" (fun _ => rfl) _ _

variable (store engagementId) in
theorem windowWindowed (orders : Orders) (after : Option Cursor) (n : Nat) (t : ActivityType) :
    Windowed itemTime n ((source store engagementId t).filter (reach after)) (window store engagementId orders after n t) := by
  cases t <;> exact rowsWindowed (fun _ => rfl) _ _ _ _ _

theorem distinctIds {f : ActivityType → List ActivityItem} (each : ∀ t, ((f t).map (·.id)).Nodup)
    (tags : ∀ t, ∀ item ∈ f t, tag item.id = tagOf t) : ((types.flatMap f).map (·.id)).Nodup := by
  rw [List.map_flatMap,List.nodup_flatMap]
  refine ⟨fun t _ => each t,?_⟩
  have apart : types.Pairwise fun s t => tagOf s ≠ tagOf t := by decide
  refine apart.imp fun {s t} differ => ?_
  intro id first second
  obtain ⟨a,here,rfl⟩ := List.mem_map.mp first
  obtain ⟨b,there,same⟩ := List.mem_map.mp second
  exact differ ((tags s a here).symm.trans (same ▸ tags t b there))

theorem strictlySorted {items : List ActivityItem} (distinct : (items.map (·.id)).Nodup) :
    (items.insertionSort NotAfter).Pairwise Before := by
  have : Std.Total NotAfter := ⟨notAfterTotal⟩
  have : IsTrans ActivityItem NotAfter := ⟨notAfterTrans⟩
  have apart := List.pairwise_map.mp (((List.perm_insertionSort NotAfter items).map (·.id)).nodup_iff.mpr distinct)
  exact ((List.pairwise_insertionSort NotAfter items).and apart).imp fun both => notAfterApart both.1 both.2

theorem memTypes (t : ActivityType) : t ∈ types := by cases t <;> decide

theorem memActivity {item : ActivityItem} :
    item ∈ activity store engagementId ↔ item ∈ source store engagementId item.type := by
  rw [activity,List.mem_flatMap]
  refine ⟨fun ⟨t,_,inside⟩ => ?_,fun inside => ⟨item.type,memTypes _,inside⟩⟩
  rwa [(sourceItem inside).1]

theorem historySorted : (history store engagementId).Pairwise Before :=
  strictlySorted (distinctIds (sourceDistinct _ _) fun _ _ inside => (sourceItem inside).2)

theorem historyPerm : (history store engagementId).Perm (activity store engagementId) :=
  List.perm_insertionSort NotAfter _

theorem sourceOnly (s t : ActivityType) (p : ActivityItem → Bool) :
    (source store engagementId t).filter (fun item => item.type = s && p item) =
      if t = s then (source store engagementId s).filter p else [] := by
  split
  · rename_i same
    rw [same]
    refine List.filter_congr fun item inside => ?_
    rw [decide_eq_true (sourceItem inside).1,Bool.true_and]
  · rename_i apart
    rw [List.filter_eq_nil_iff]
    intro item inside chosen
    exact apart ((sourceItem inside).1.symm.trans (of_decide_eq_true (Bool.and_eq_true_iff.mp chosen).1))

theorem activityOnly (s : ActivityType) (p : ActivityItem → Bool) :
    (activity store engagementId).filter (fun item => item.type = s && p item) = (source store engagementId s).filter p := by
  simp only [activity,types,List.flatMap_cons,List.flatMap_nil,List.filter_append,sourceOnly,List.filter_nil]
  cases s <;> simp

def cursorAt (store : Store) (engagementId : String) (k : Nat) : Option Cursor :=
  (resume (history store engagementId) k).map (·.toCursor)

theorem peersPerm (k : Nat) (s : ActivityType) : (peers itemTime (·.type) (history store engagementId) k s).Perm
    ((source store engagementId s).filter (reach (cursorAt store engagementId k))) := by
  have same : reach (cursorAt store engagementId k) = reaches itemTime (resume (history store engagementId) k) := by
    funext item
    rw [cursorAt,reach,reaches,Option.all_map]
    rfl
  rw [same,← activityOnly]
  exact historyPerm.filter _

variable (store engagementId) in
theorem windowDistinct (orders : Orders) (after : Option Cursor) (n : Nat) (t : ActivityType) :
    ((window store engagementId orders after n t).map (·.id)).Nodup := by
  obtain ⟨all,same,_,taken⟩ := windowWindowed store engagementId orders after n t
  have distinct := (same.map (·.id)).nodup_iff.mpr ((sourceDistinct _ _ t).sublist (List.filter_sublist.map _))
  rw [taken]
  exact distinct.sublist ((List.take_sublist n all).map _)

theorem windowItem {orders : Orders} {after : Option Cursor} {n : Nat} {t : ActivityType} {item : ActivityItem}
    (inside : item ∈ window store engagementId orders after n t) : item ∈ source store engagementId t :=
  (List.mem_filter.mp (windowSubset (windowWindowed _ _ orders after n t) inside)).1

theorem fetchedSorted (orders : Orders) (after : Option Cursor) (take : Nat) :
    (fetched store engagementId orders after take).Pairwise Before := by
  have distinct := distinctIds (windowDistinct store engagementId orders after (take + 1))
    fun _ _ inside => (sourceItem (windowItem inside)).2
  exact strictlySorted (distinct.sublist (List.filter_sublist.map _))

theorem fetchedMem (orders : Orders) (k take : Nat) (item : ActivityItem) :
    item ∈ fetched store engagementId orders (cursorAt store engagementId k) take ↔
      item ∈ window store engagementId orders (cursorAt store engagementId k) (take + 1) item.type ∧
        item ∈ (history store engagementId).drop k := by
  have after : item ∈ history store engagementId → ((cursorAt store engagementId k).all
      (fun cursor => ActivityFeedService.compare cursor item.toCursor < 0) = true ↔ item ∈ (history store engagementId).drop k) := by
    intro inside
    rw [laterIff historySorted inside,cursorAt,Option.all_map]
    cases resume (history store engagementId) k with
    | none => simp
    | some c => simp [Before]
  rw [fetched,(List.perm_insertionSort NotAfter _).mem_iff,List.mem_filter,List.mem_flatMap]
  refine ⟨fun ⟨⟨t,_,seen⟩,passed⟩ => ?_,fun ⟨seen,later⟩ => ⟨⟨item.type,memTypes _,seen⟩,?_⟩⟩
  · have kind := (sourceItem (windowItem seen)).1
    rw [kind]
    refine ⟨seen,(after ?_).mp passed⟩
    exact historyPerm.mem_iff.mpr (memActivity.mpr (kind ▸ windowItem seen))
  · exact (after (List.mem_of_mem_drop later)).mpr later

theorem requestWindowed (orders : Orders) (k take : Nat) (s : ActivityType) : Windowed itemTime (take + 1)
    (peers itemTime (·.type) (history store engagementId) k s)
    (window store engagementId orders (cursorAt store engagementId k) (take + 1) s) := by
  obtain ⟨all,same,sorted,taken⟩ := windowWindowed store engagementId orders
    (cursorAt store engagementId k) (take + 1) s
  exact ⟨all,same.trans (peersPerm k s).symm,sorted,taken⟩

theorem requestPart (orders : Orders) (k take : Nat) :
    (fetched store engagementId orders (cursorAt store engagementId k) take).Sublist ((history store engagementId).drop k) :=
  fetchedSublist historySorted (fetchedSorted _ _ _) (fetchedMem orders k take)

end Merged

section Ordered
variable {store : Store} {engagementId : String} (le : ActivityItem → ActivityItem → Prop) [DecidableRel le]
  (total : ∀ a b, le a b ∨ le b a) (trans : ∀ a b c, le a b → le b c → le a c) (newest : ∀ a b, le a b → itemTime b ≤ itemTime a)

def orderedBy : Orders where
  engagementAuditLogs := .by (fun a b => le (statusChange a) (statusChange b)) (fun _ _ => total _ _) (fun _ _ _ => trans _ _ _)
    fun _ _ => newest _ _
  engagementNotes := .by (fun a b => le (note a) (note b)) (fun _ _ => total _ _) (fun _ _ _ => trans _ _ _) fun _ _ => newest _ _
  milestoneAuditLogs := .by (fun a b => le (milestoneAudit a) (milestoneAudit b)) (fun _ _ => total _ _)
    (fun _ _ _ => trans _ _ _) fun _ _ => newest _ _
  milestoneProofVersions := .by (fun a b => le (proofVersion a) (proofVersion b)) (fun _ _ => total _ _)
    (fun _ _ _ => trans _ _ _) fun _ _ => newest _ _
  milestonePartialReleases := .by (fun a b => le (partialRelease a) (partialRelease b)) (fun _ _ => total _ _)
    (fun _ _ _ => trans _ _ _) fun _ _ => newest _ _
  milestoneComments := .by (fun a b => le (milestoneComment a) (milestoneComment b)) (fun _ _ => total _ _)
    (fun _ _ _ => trans _ _ _) fun _ _ => newest _ _

theorem windowBy (after : Option Cursor) (n : Nat) (t : ActivityType) :
    window store engagementId (orderedBy le total trans newest) after n t =
      (((source store engagementId t).filter (reach after)).insertionSort le).take n := by
  cases t <;> exact rowsBy (fun _ => rfl) le _ (fun _ => rfl) _ _ _ _

end Ordered

/-- Follows the cursor until there is none, the request count telling the orders apart:
nothing when a request is refused or the fuel runs out. -/
def walk (runtime : Runtime) (orders : Nat → Orders) (store : Store) (engagementId : String) (user : PartyUser) (limit : Option Int) :
    Nat → Nat → Option String → Option (List ActivityItem)
  | 0, _, _ => none
  | fuel + 1, request, cursor =>
      match getActivity runtime (orders request) store engagementId user cursor limit with
      | .error _ => none
      | .ok page =>
          match page.nextCursor with
          | none => some page.items
          | some next => (walk runtime orders store engagementId user limit fuel (request + 1) (some next)).map (page.items ++ ·)

section Requests
variable {store : Store} {engagementId : String} {user : PartyUser}

def Reads (store : Store) (engagementId : String) (user : PartyUser) : Prop :=
  ∃ engagement, store.engagements.get? engagementId = some engagement ∧
    (user.role = some .admin ∨ engagementPartyRole engagement user ≠ none)

theorem getActivityPage (runtime : Runtime) (orders : Orders) (limit : Option Int) (reads : Reads store engagementId user)
    (after : Option Cursor) : getActivity runtime orders store engagementId user (after.map encodeCursor) limit =
      .ok ⟨(fetched store engagementId orders after (pageSize limit)).take (pageSize limit),
        if pageSize limit < (fetched store engagementId orders after (pageSize limit)).length then
          ((fetched store engagementId orders after (pageSize limit)).take (pageSize limit)).getLast?.map
            fun item => encodeCursor item.toCursor
        else none⟩ := by
  obtain ⟨engagement,found,allowed⟩ := reads
  have decoded : (present (after.map encodeCursor)).mapM (decodeCursor runtime) = .ok after := by
    cases after with
    | none => rfl
    | some cursor =>
        rw [Option.map_some,presentEncode,Option.mapM_some,decodeEncode]
        rfl
  unfold getActivity
  rw [found]
  dsimp only
  rw [if_neg (by tauto),decoded]
  simp only [fetched,types,window,List.flatMap_cons,List.flatMap_nil,List.append_nil,List.append_assoc]
  rfl

theorem stoppedRequest {k take : Nat} (many : ∀ x ∈ (history store engagementId).drop (k + take),
    take < (((history store engagementId).take (k + take)).filter fun y => y.type = x.type &&
      reaches itemTime (resume (history store engagementId) k) y).length) :
    (fetched store engagementId (orderedBy NotAfter notAfterTotal notAfterTrans notAfterNewest) (cursorAt store engagementId k)
      take).length ≤ take := by
  refine stoppedPage historySorted (fetchedSorted _ _ _) (fetchedMem _ k take) (fun s => ?_) many
  have distinct := (sourceDistinct store engagementId s).sublist
    ((List.filter_sublist (p := reach (cursorAt store engagementId k))).map _)
  rw [windowBy]
  exact congrArg (List.take (take + 1)) (((List.perm_insertionSort NotAfter _).trans (peersPerm k s).symm).eq_of_pairwise'
    (strictlySorted distinct) (historySorted.filter _))

theorem crowdedRequest {k take : Nat} {x : ActivityItem} (present : x ∈ ((history store engagementId).drop k).take take)
    (many : take + 1 < (peers itemTime (·.type) (history store engagementId) k x.type).countP (fun y => itemTime x ≤ itemTime y)) :
    ∃ orders, (fetched store engagementId orders (cursorAt store engagementId k) take).take take ≠
      ((history store engagementId).drop k).take take := by
  classical
  refine ⟨orderedBy (Behind itemTime x) (behindTotal x) (behindTrans x) (behindNewest x),?_⟩
  have : Std.Total (Behind itemTime x) := ⟨behindTotal x⟩
  have : IsTrans ActivityItem (Behind itemTime x) := ⟨behindTrans x⟩
  exact crowdedPage historySorted present (fetchedMem _ k take) ((List.perm_insertionSort _ _).trans (peersPerm k x.type).symm)
    (List.pairwise_insertionSort (Behind itemTime x) _) (windowBy _ _ _ _ _ _ _) many

theorem brokenPage {k take : Nat} (broken : ¬ WholePage itemTime (·.type) take (history store engagementId) k) : ∃ orders,
    ¬ RightPage take (history store engagementId) k (fetched store engagementId orders (cursorAt store engagementId k) take) := by
  obtain ⟨x,present,many⟩ | ⟨left,many⟩ := notWholePage broken
  · obtain ⟨orders,wrong⟩ := crowdedRequest present many
    exact ⟨orders,fun right => wrong right.page⟩
  · exact ⟨_,fun right => Nat.not_lt.mpr (stoppedRequest many) (right.more.mpr left)⟩

theorem pageSizePos (limit : Option Int) : 0 < pageSize limit := by
  unfold pageSize
  omega

def pagesOf (store : Store) (engagementId : String) (orders : Nat → Orders) (take : Nat) (request : Nat)
    (cursor : Option ActivityItem) : List ActivityItem :=
  fetched store engagementId (orders request) (cursor.map (·.toCursor)) take

theorem walkPages (runtime : Runtime) (orders : Nat → Orders) (limit : Option Int) (reads : Reads store engagementId user)
    (fuel request : Nat) (cursor : Option ActivityItem) :
    walk runtime orders store engagementId user limit fuel request (cursor.map fun item => encodeCursor item.toCursor) =
      pages (pagesOf store engagementId orders (pageSize limit)) (pageSize limit) fuel request cursor := by
  induction fuel generalizing request cursor with
  | zero => rfl
  | succ fuel ih =>
      have read := getActivityPage runtime (orders request) limit reads (cursor.map fun item => item.toCursor)
      simp only [Option.map_map,Function.comp_def] at read
      rw [walk,pages,read,pagesOf]
      by_cases full : pageSize limit <
          (fetched store engagementId (orders request) (cursor.map fun item => item.toCursor) (pageSize limit)).length
      · dsimp only
        rw [if_pos full,if_pos full]
        obtain none | ⟨front,last,page⟩ := List.eq_nil_or_concat
          ((fetched store engagementId (orders request) (cursor.map fun item => item.toCursor) (pageSize limit)).take (pageSize limit))
        · have wide := congrArg List.length none
          rw [List.length_take,List.length_nil] at wide
          have := pageSizePos limit
          omega
        · rw [page,List.concat_eq_append,List.getLast?_append,List.getLast?_singleton]
          exact congrArg (Option.map _) (ih (request + 1) (some last))
      · dsimp only
        rw [if_neg full,if_neg full]

variable (store engagementId) in
theorem pagePart (orders : Nat → Orders) (take request k : Nat) :
    (pagesOf store engagementId orders take request (resume (history store engagementId) k)).Sublist
      ((history store engagementId).drop k) := requestPart (orders request) k take

theorem requestRight (orders : Nat → Orders) {take request k : Nat}
    (whole : k < (history store engagementId).length → WholePage itemTime (·.type) take (history store engagementId) k) :
    RightPage take (history store engagementId) k (pagesOf store engagementId orders take request (resume (history store engagementId) k)) := by
  by_cases left : k < (history store engagementId).length
  · obtain ⟨page,more⟩ := wholePage historySorted beforeNewest (requestWindowed (orders request) k take)
      (fetchedSorted _ _ _) (fetchedMem (orders request) k take) (whole left)
    exact ⟨page,more⟩
  · have part := pagePart store engagementId orders take request k
    rw [List.drop_of_length_le (Nat.not_lt.mp left)] at part
    rw [List.sublist_nil.mp part]
    refine ⟨by rw [List.drop_of_length_le (Nat.not_lt.mp left)],?_⟩
    rw [List.length_nil]
    omega

theorem pagesWhole (runtime : Runtime) (orders : Nat → Orders) {limit : Option Int} (reads : Reads store engagementId user)
    (whole : ∀ page, page * pageSize limit < (history store engagementId).length →
      WholePage itemTime (·.type) (pageSize limit) (history store engagementId) (page * pageSize limit)) :
    ∃ fuel, walk runtime orders store engagementId user limit fuel 0 none = some (history store engagementId) := by
  have walked := walkPages runtime orders limit reads ((history store engagementId).length + 1) 0 none
  have enough : (history store engagementId).length < 0 + ((history store engagementId).length + 1) := by omega
  have right : ∀ request k, pageSize limit ∣ k → RightPage (pageSize limit) (history store engagementId) k
      (pagesOf store engagementId orders (pageSize limit) request (resume (history store engagementId) k)) := by
    intro request k apart
    obtain ⟨page,rfl⟩ := apart
    rw [Nat.mul_comm]
    exact requestRight orders (whole page)
  exact ⟨_,walked.trans (pagesRight (pageSizePos limit) right _ 0 0 (Nat.dvd_zero _) enough (Nat.succ_pos _))⟩

theorem walkEnds (runtime : Runtime) (orders : Nat → Orders) (limit : Option Int) (reads : Reads store engagementId user) :
    ∃ fuel items, walk runtime orders store engagementId user limit fuel 0 none = some items ∧
      items.Sublist (history store engagementId) := by
  have walked := walkPages runtime orders limit reads ((history store engagementId).length + 1) 0 none
  have enough : (history store engagementId).length < 0 + ((history store engagementId).length + 1) := by omega
  obtain ⟨items,ended,part⟩ := pagesEnd (pageSizePos limit) historySorted (pagePart _ _ orders (pageSize limit))
    _ 0 0 enough (Nat.zero_le _)
  exact ⟨_,items,walked.trans ended,part⟩

theorem pageBroken (runtime : Runtime) {limit : Option Int} (reads : Reads store engagementId user) {page : Nat}
    (left : page * pageSize limit < (history store engagementId).length)
    (broken : ¬ WholePage itemTime (·.type) (pageSize limit) (history store engagementId) (page * pageSize limit)) :
    ∃ orders : Nat → Orders, ∀ fuel, walk runtime orders store engagementId user limit fuel 0 none ≠ some (history store engagementId) := by
  obtain ⟨orders,wrong⟩ := brokenPage broken
  refine ⟨fun _ => orders,fun fuel delivered => wrong ?_⟩
  have walked := walkPages runtime (fun _ => orders) limit reads fuel 0 none
  exact everyPageRight (pageSizePos limit) (pagePart _ _ (fun _ => orders) (pageSize limit)) (walked.symm.trans delivered) page
    (Or.inl left)

theorem onlyHistory {items : List ActivityItem} (same : items.Perm (activity store engagementId)) (sorted : items.Pairwise Before) :
    items = history store engagementId :=
  (same.trans historyPerm.symm).eq_of_pairwise' sorted historySorted

/-- Every walk ends, in order and without a repetition, and it yields everything however
the database orders rows of one time exactly when every page is whole. -/
theorem feedComplete (runtime : Runtime) (store : Store) (engagementId : String) (user : PartyUser) (limit : Option Int)
    (reads : Reads store engagementId user) :
    (∀ orders : Nat → Orders, ∃ fuel items, walk runtime orders store engagementId user limit fuel 0 none = some items ∧
      items.Sublist (history store engagementId)) ∧
    ((∀ orders : Nat → Orders, ∃ fuel items, walk runtime orders store engagementId user limit fuel 0 none = some items ∧
      items.Perm (activity store engagementId) ∧ items.Pairwise Before) ↔
    ∀ page, page * pageSize limit < (history store engagementId).length →
      WholePage itemTime (·.type) (pageSize limit) (history store engagementId) (page * pageSize limit)) := by
  refine ⟨fun orders => walkEnds runtime orders limit reads,fun delivered page left => ?_,fun whole orders => ?_⟩
  · by_contra broken
    obtain ⟨orders,loses⟩ := pageBroken runtime reads left broken
    obtain ⟨fuel,items,ended,same,sorted⟩ := delivered orders
    exact loses fuel (onlyHistory same sorted ▸ ended)
  · obtain ⟨fuel,ended⟩ := pagesWhole runtime orders reads whole
    exact ⟨fuel,_,ended,historyPerm,historySorted⟩

end Requests

section Notes

def company : PartyUser := {id := some "company-1",role := some .company}

def hired : Engagement where
  id := "ENG-001"
  companyAddress := "GCOMPANY"
  recruiterAddress := "GRECRUITER"
  arbiterAddress := "GARBITER"
  companyId := some "company-1"
  totalAmount := 1000

def day (n : Nat) (valid : ((n : Int) * 86400000).natAbs ≤ 8640000000000000 := by decide) : Date := ⟨n * 86400000,valid⟩

def noteOn (id : String) (date : Date) : EngagementNote := ⟨id,"ENG-001","company-1","kick-off",date⟩

def noted (notes : List EngagementNote) (unique : (notes.map Keyed.key).Nodup := by decide) : Store where
  engagements := ⟨[hired],by decide⟩
  engagementNotes := ⟨notes,unique⟩

def fiveNotes : Store := noted [noteOn "n1" (day 1),noteOn "n2" (day 2),noteOn "n3" (day 3),noteOn "n4" (day 4),noteOn "n5" (day 5)]

theorem notesRead (notes : List EngagementNote) (unique : (notes.map Keyed.key).Nodup) : Reads (noted notes unique) "ENG-001" company :=
  ⟨hired,rfl,Or.inr (by decide)⟩

def isoOnly : Runtime := ⟨fun _ => none,fun _ => "\ufffd"⟩

def threeNotes : Store := noted [noteOn "n1" (day 1),noteOn "n2" (day 2),noteOn "n3" (day 3)]

theorem threeNotesDelivered : Reads threeNotes "ENG-001" company ∧ ∀ orders : Nat → Orders, ∃ fuel items,
    walk isoOnly orders threeNotes "ENG-001" company (some 2) fuel 0 none = some items ∧
      items.Perm (activity threeNotes "ENG-001") ∧ items.Pairwise Before := by
  refine ⟨notesRead _ _,(feedComplete isoOnly threeNotes "ENG-001" company (some 2) (notesRead _ _)).2.mpr fun page left => ?_⟩
  have three : (history threeNotes "ENG-001").length = 3 := by decide +kernel
  have two : pageSize (some 2) = 2 := rfl
  rw [three,two] at left
  obtain rfl | rfl : page = 0 ∨ page = 1 := by omega
  · exact ⟨by decide +kernel,fun _ => by decide +kernel⟩
  · exact ⟨by decide +kernel,fun more => by omega⟩

/-- Five notes of one source in pages of two: the second page has only two rows left in its window
and names no cursor. -/
theorem oldestNoteLost : ¬ ∀ orders : Nat → Orders, ∃ fuel items,
    walk isoOnly orders fiveNotes "ENG-001" company (some 2) fuel 0 none = some items ∧
      items.Perm (activity fiveNotes "ENG-001") ∧ items.Pairwise Before := by
  intro delivered
  have left : 1 * pageSize (some 2) < (history fiveNotes "ENG-001").length := by decide +kernel
  have broken : ¬ WholePage itemTime (·.type) (pageSize (some 2)) (history fiveNotes "ENG-001") (1 * pageSize (some 2)) :=
    fun whole => absurd (whole.resumes (by decide +kernel)) (by decide +kernel)
  obtain ⟨orders,loses⟩ := pageBroken isoOnly (notesRead _ _) left broken
  obtain ⟨fuel,items,ended,same,sorted⟩ := delivered orders
  exact loses fuel (onlyHistory same sorted ▸ ended)

end Notes

end HireSettle.Escrow.ActivityFeed
