import HireSettle.Workflow.Listings

/-! The daily clean-up of uploads that no row refers to. -/
namespace HireSettle.S3Cleanup
open Workflow

structure S3Object where
  key : String
  lastModified : Int
  size : Nat := 0
  deriving DecidableEq, Repr

def earlierKey (a b : S3Object) : Bool := a.key < b.key

/-- The objects of a bucket, in the order of their keys. -/
structure Bucket where
  objects : List S3Object
  ordered : objects.Pairwise fun a b => earlierKey a b = true

structure Database where
  avatarUrls : List (Option String)
  evidencePaths : List String
  kycPaths : List String

def startsWith (start key : String) : Bool := start.toList.isPrefixOf key.toList

def endsWith (url key : String) : Bool := key.toList.isSuffixOf url.toList

def includes (url key : String) : Bool := decide (key.toList <:+: url.toList)

namespace S3Service

-- one response has at most 1000 keys, and `IsTruncated` is not read
def listObjects (bucket : Bucket) (start : String) : List S3Object := (bucket.objects.filter fun o => startsWith start o.key).take 1000

def deleteObject (bucket : Bucket) (key : String) : Bucket :=
  ⟨bucket.objects.filter fun o => o.key ≠ key,bucket.ordered.filter _⟩

end S3Service

namespace S3CleanupService
open S3Service

def getReferencedAvatarPaths (db : Database) : List (Option String) := db.avatarUrls.filter Option.isSome

-- the loop of the three clean-ups over the objects that were listed
def deleteOrphans (referenced : String → Bool) (cutoffDate : Int) : List S3Object → Nat × Bucket → Nat × Bucket
  | [], s => s
  | obj :: rest, (deleted,bucket) =>
      if obj.lastModified > cutoffDate then deleteOrphans referenced cutoffDate rest (deleted,bucket)
      else if referenced obj.key then deleteOrphans referenced cutoffDate rest (deleted,bucket)
      else deleteOrphans referenced cutoffDate rest (deleted + 1,deleteObject bucket obj.key)

def avatarReferenced (db : Database) (key : String) : Bool :=
  (getReferencedAvatarPaths db).any fun avatarUrl => (avatarUrl.filter (· ≠ "")).any fun avatarUrl => includes avatarUrl key

def cleanupOrphanedAvatars (db : Database) (cutoffDate : Int) (bucket : Bucket) : Nat × Bucket :=
  deleteOrphans (avatarReferenced db) cutoffDate (listObjects bucket "avatars/") (0,bucket)

def cleanupOrphanedEvidence (db : Database) (cutoffDate : Int) (bucket : Bucket) : Nat × Bucket :=
  deleteOrphans (fun key => key ∈ db.evidencePaths) cutoffDate (listObjects bucket "evidence/") (0,bucket)

def cleanupOrphanedKyc (db : Database) (cutoffDate : Int) (bucket : Bucket) : Nat × Bucket :=
  deleteOrphans (fun key => key ∈ db.kycPaths) cutoffDate (listObjects bucket "kyc/") (0,bucket)

-- a run that holds the lock
def cleanupOrphanedUploads (db : Database) (cutoffDate : Int) (bucket : Bucket) : Nat × Bucket :=
  let (deletedAvatars,bucket) := cleanupOrphanedAvatars db cutoffDate bucket
  let (deletedEvidence,bucket) := cleanupOrphanedEvidence db cutoffDate bucket
  let (deletedKyc,bucket) := cleanupOrphanedKyc db cutoffDate bucket
  (deletedAvatars + deletedEvidence + deletedKyc,bucket)

end S3CleanupService

open S3Service S3CleanupService

variable {db : Database} {cutoffDate : Int} {bucket : Bucket} {o : S3Object}

theorem earlierAsymm (a b : S3Object) (earlier : earlierKey a b = true) : earlierKey b a = false :=
  decide_eq_false (lt_asymm (of_decide_eq_true earlier))

theorem keyInjective {a b : S3Object} (first : a ∈ bucket.objects) (second : b ∈ bucket.objects) (same : a.key = b.key) : a = b := by
  have apart {a b : S3Object} (earlier : earlierKey a b = true) : a.key ≠ b.key := (of_decide_eq_true earlier : a.key < b.key).ne
  have forward : bucket.objects.Pairwise fun a b => a.key = b.key → a = b :=
    bucket.ordered.imp fun earlier same => absurd same (apart earlier)
  have backward : bucket.objects.Pairwise fun a b => b.key = a.key → b = a :=
    bucket.ordered.imp fun earlier same => absurd same.symm (apart earlier)
  exact List.Pairwise.forall_of_forall_of_flip (fun _ _ _ => rfl) forward backward first second same

/-- The clean-up of one prefix takes away the listed objects that are old and not referenced. -/
theorem deleteOrphansObjects (referenced : String → Bool) (listed : List S3Object) (count : Nat) (bucket : Bucket) :
    (deleteOrphans referenced cutoffDate listed (count,bucket)).2.objects =
      bucket.objects.filter fun o => !listed.any fun p => p.key = o.key && (p.lastModified ≤ cutoffDate && !referenced p.key) := by
  induction listed generalizing count bucket with
  | nil => simp [deleteOrphans]
  | cons obj rest ih =>
      rw [deleteOrphans]
      split
      · rename_i recent
        rw [ih]
        simp [not_le.mpr recent]
      · rename_i old
        split
        · rename_i found
          rw [ih]
          simp [found]
        · rename_i missing
          rw [ih,deleteObject,List.filter_filter]
          refine List.filter_congr fun o _ => ?_
          simp [not_lt.mp old,missing,Bool.not_or,eq_comm,Bool.and_comm]

inductive Kind where
  | avatar
  | evidence
  | kyc
  deriving DecidableEq, Repr

namespace Kind

def start : Kind → String
  | .avatar => "avatars/"
  | .evidence => "evidence/"
  | .kyc => "kyc/"

-- what the clean-up of the kind asks of a key
def tested (db : Database) : Kind → String → Bool
  | .avatar, key => avatarReferenced db key
  | .evidence, key => key ∈ db.evidencePaths
  | .kyc, key => key ∈ db.kycPaths

/-- A row of the kind refers to the key. -/
def Refers (db : Database) : Kind → String → Prop
  | .avatar, key => ∃ url, some url ∈ db.avatarUrls ∧ endsWith url key = true
  | .evidence, key => key ∈ db.evidencePaths
  | .kyc, key => key ∈ db.kycPaths

end Kind

def under (kind : Kind) (o : S3Object) : Bool := startsWith kind.start o.key

/-- An old upload to which no row refers. -/
structure Orphan (db : Database) (cutoffDate : Int) (o : S3Object) : Prop where
  upload : ∃ kind, under kind o = true
  old : o.lastModified ≤ cutoffDate
  unreferenced : ∀ kind : Kind, ¬ kind.Refers db o.key

/-- The objects of the kind that are listed before this one. -/
def rank (bucket : Bucket) (kind : Kind) (o : S3Object) : Nat :=
  (bucket.objects.filter fun p => under kind p && earlierKey p o).length

/-- What the clean-up of the kind deletes. -/
structure Deletes (db : Database) (cutoffDate : Int) (bucket : Bucket) (kind : Kind) (o : S3Object) : Prop where
  under : under kind o = true
  listed : rank bucket kind o < 1000
  old : o.lastModified ≤ cutoffDate
  untested : kind.tested db o.key = false

def cleanup (db : Database) (cutoffDate : Int) (kind : Kind) (bucket : Bucket) : Bucket :=
  (deleteOrphans (kind.tested db) cutoffDate (listObjects bucket kind.start) (0,bucket)).2

theorem memListed (kind : Kind) (stored : o ∈ bucket.objects) :
    o ∈ listObjects bucket kind.start ↔ under kind o = true ∧ rank bucket kind o < 1000 := by
  have sorted : (bucket.objects.filter fun p => under kind p).Pairwise fun a b => earlierKey a b = true := bucket.ordered.filter _
  constructor
  · intro listed
    have inside : o ∈ bucket.objects.filter fun p => under kind p := List.mem_of_mem_take listed
    have counted := (Listings.memTakeIff sorted earlierAsymm inside 1000).mp listed
    rw [List.filter_filter] at counted
    exact ⟨(List.mem_filter.mp inside).2,by simpa only [rank,Bool.and_comm] using counted⟩
  · intro ⟨start,few⟩
    have inside : o ∈ bucket.objects.filter fun p => under kind p := List.mem_filter.mpr ⟨stored,start⟩
    refine (Listings.memTakeIff sorted earlierAsymm inside 1000).mpr ?_
    rw [List.filter_filter]
    simpa only [rank,Bool.and_comm] using few

theorem memCleanup (kind : Kind) : o ∈ (cleanup db cutoffDate kind bucket).objects ↔
    o ∈ bucket.objects ∧ ¬ Deletes db cutoffDate bucket kind o := by
  rw [cleanup,deleteOrphansObjects,List.mem_filter,and_congr_right_iff]
  intro stored
  rw [Bool.not_eq_true',Bool.eq_false_iff,not_iff_not,List.any_eq_true]
  constructor
  · intro ⟨p,listed,hit⟩
    obtain ⟨same,old,untested⟩ : p.key = o.key ∧ p.lastModified ≤ cutoffDate ∧ kind.tested db p.key = false := by simpa using hit
    have inside : p ∈ bucket.objects := List.mem_of_mem_filter (List.mem_of_mem_take listed)
    obtain rfl := keyInjective inside stored same
    obtain ⟨start,few⟩ := (memListed kind stored).mp listed
    exact ⟨start,few,old,untested⟩
  · intro deletes
    exact ⟨o,(memListed kind stored).mpr ⟨deletes.under,deletes.listed⟩,by simp [deletes.old,deletes.untested]⟩

-- the first letters of the prefixes are different
def letter : Kind → Char
  | .avatar => 'a'
  | .evidence => 'e'
  | .kyc => 'k'

theorem underLetter {kind : Kind} (start : under kind o = true) : o.key.toList.head? = some (letter kind) := by
  obtain ⟨rest,same⟩ := List.isPrefixOf_iff_prefix.mp start
  rw [← same]
  cases kind <;> rfl

theorem underOne {kind other : Kind} (apart : kind ≠ other) (first : under kind o = true) : under other o = false := by
  refine Bool.eq_false_iff.mpr fun second => apart ?_
  have letters : letter kind = letter other := Option.some.inj ((underLetter first).symm.trans (underLetter second))
  cases kind <;> cases other <;> first | rfl | cases letters

theorem othersKept {kind other : Kind} (apart : kind ≠ other) :
    (cleanup db cutoffDate kind bucket).objects.filter (fun p => under other p) = bucket.objects.filter fun p => under other p := by
  rw [cleanup,deleteOrphansObjects,List.filter_filter]
  refine List.filter_congr fun o stored => ?_
  cases inside : under other o with
  | false => rfl
  | true =>
      rw [Bool.true_and,Bool.not_eq_true',Bool.eq_false_iff]
      intro hit
      obtain ⟨p,listed,found⟩ := List.any_eq_true.mp hit
      have same : p.key = o.key := by
        have both := found
        simp only [Bool.and_eq_true,decide_eq_true_eq] at both
        exact both.1
      have start : under kind p = true := (List.mem_filter.mp (List.mem_of_mem_take listed)).2
      have outside : under other p = false := underOne apart start
      rw [under,same,← under,inside] at outside
      cases outside

theorem deletesKept {kind other : Kind} (apart : kind ≠ other) :
    Deletes db cutoffDate (cleanup db cutoffDate kind bucket) other o ↔ Deletes db cutoffDate bucket other o := by
  have same : rank (cleanup db cutoffDate kind bucket) other o = rank bucket other o := by
    have kept := congrArg (List.filter fun p => earlierKey p o) (@othersKept db cutoffDate bucket kind other apart)
    rw [List.filter_filter,List.filter_filter] at kept
    simp only [rank,Bool.and_comm (under other _),kept]
  constructor
  · exact fun deletes => ⟨deletes.under,same ▸ deletes.listed,deletes.old,deletes.untested⟩
  · exact fun deletes => ⟨deletes.under,same ▸ deletes.listed,deletes.old,deletes.untested⟩

theorem memUploads : o ∈ (cleanupOrphanedUploads db cutoffDate bucket).2.objects ↔
    o ∈ bucket.objects ∧ ∀ kind, ¬ Deletes db cutoffDate bucket kind o := by
  have kinds (p : Kind → Prop) : (∀ kind, p kind) ↔ p .avatar ∧ p .evidence ∧ p .kyc :=
    ⟨fun each => ⟨each _,each _,each _⟩,fun ⟨avatar,evidence,kyc⟩ kind => by cases kind <;> assumption⟩
  have run : (cleanupOrphanedUploads db cutoffDate bucket).2 =
      cleanup db cutoffDate .kyc (cleanup db cutoffDate .evidence (cleanup db cutoffDate .avatar bucket)) := rfl
  have evidence : Kind.evidence ≠ .kyc := by decide
  have first : Kind.avatar ≠ .kyc := by decide
  have second : Kind.avatar ≠ .evidence := by decide
  rw [run,memCleanup,memCleanup,memCleanup,deletesKept evidence,deletesKept first,deletesKept second,kinds,and_assoc,and_assoc]

/-- The run deletes the orphans and nothing else. -/
def DeletesOrphans (db : Database) (cutoffDate : Int) (bucket : Bucket) : Prop :=
  ∀ o, o ∈ (cleanupOrphanedUploads db cutoffDate bucket).2.objects ↔ o ∈ bucket.objects ∧ ¬ Orphan db cutoffDate o

/-- Every orphan is listed and passes the test of its kind, and no row of another kind refers to what is deleted. -/
structure Clean (db : Database) (cutoffDate : Int) (bucket : Bucket) : Prop where
  listed : ∀ o ∈ bucket.objects, Orphan db cutoffDate o → ∀ kind, under kind o = true → rank bucket kind o < 1000
  contained : ∀ o ∈ bucket.objects, Orphan db cutoffDate o → under .avatar o = true → avatarReferenced db o.key = false
  own : ∀ o ∈ bucket.objects, ∀ kind, under kind o = true → rank bucket kind o < 1000 → o.lastModified ≤ cutoffDate →
    kind.tested db o.key = false → ∀ other : Kind, ¬ other.Refers db o.key

theorem orphanDeletes (clean : Clean db cutoffDate bucket) (stored : o ∈ bucket.objects) :
    Orphan db cutoffDate o ↔ ∃ kind, Deletes db cutoffDate bucket kind o := by
  constructor
  · intro orphan
    obtain ⟨kind,start⟩ := orphan.upload
    refine ⟨kind,start,clean.listed o stored orphan kind start,orphan.old,?_⟩
    cases kind with
    | avatar => exact clean.contained o stored orphan start
    | evidence => exact decide_eq_false (orphan.unreferenced .evidence)
    | kyc => exact decide_eq_false (orphan.unreferenced .kyc)
  · intro ⟨kind,deletes⟩
    exact ⟨⟨kind,deletes.under⟩,deletes.old,clean.own o stored kind deletes.under deletes.listed deletes.old deletes.untested⟩

theorem deletesOrphansIff (db : Database) (cutoffDate : Int) (bucket : Bucket) :
    DeletesOrphans db cutoffDate bucket ↔ Clean db cutoffDate bucket := by
  constructor
  · intro exactly
    have orphans {o : S3Object} (stored : o ∈ bucket.objects) :
        Orphan db cutoffDate o ↔ ∃ kind, Deletes db cutoffDate bucket kind o := by
      have kept := exactly o
      rw [memUploads,and_congr_right_iff] at kept
      have same := kept stored
      rw [← not_exists,not_iff_not] at same
      exact same.symm
    have deleted {o : S3Object} (stored : o ∈ bucket.objects) (orphan : Orphan db cutoffDate o) {kind : Kind}
        (start : under kind o = true) : Deletes db cutoffDate bucket kind o := by
      obtain ⟨other,deletes⟩ := (orphans stored).mp orphan
      have same : kind = other := by
        by_contra apart
        have outside : under other o = false := underOne apart start
        rw [deletes.under] at outside
        cases outside
      exact same ▸ deletes
    refine ⟨fun o stored orphan kind start => (deleted stored orphan start).listed,
      fun o stored orphan start => (deleted stored orphan start).untested,
      fun o stored kind start few old untested => ?_⟩
    exact ((orphans stored).mpr ⟨kind,start,few,old,untested⟩).unreferenced
  · intro clean o
    rw [memUploads,and_congr_right_iff]
    intro stored
    rw [orphanDeletes clean stored,not_exists]

section Crowded

def numbered (i : Nat) : S3Object := { key := "evidence/" ++ String.ofList (List.replicate i 'a'), lastModified := 0 }

theorem prefixed (front : List Char) {first second : List Char} (less : first < second) : front ++ first < front ++ second := by
  induction front with
  | nil => exact less
  | cons c front ih => exact List.cons_lt_cons_self.mpr ih

theorem numberedEarlier {i j : Nat} (less : i < j) : earlierKey (numbered i) (numbered j) = true := by
  have letters : ∀ i j, i < j → List.replicate i 'a' < List.replicate j 'a' := by
    intro i
    induction i with
    | zero =>
        intro j less
        obtain ⟨j,rfl⟩ := Nat.exists_eq_add_of_lt less
        exact List.nil_lt_cons _ _
    | succ i ih =>
        intro j less
        obtain ⟨j,rfl⟩ := Nat.exists_eq_add_of_le' (Nat.one_le_of_lt less)
        exact List.cons_lt_cons_self.mpr (ih j (by omega))
  refine decide_eq_true (String.lt_iff.mpr ?_)
  simp only [numbered,String.toList_append,String.toList_ofList]
  exact prefixed "evidence/".toList (letters i j less)

/-- More uploads than one response lists. -/
def crowded (count : Nat) : Bucket where
  objects := (List.range (count + 1)).map numbered
  ordered := List.pairwise_map.mpr (List.pairwise_lt_range.imp numberedEarlier)

def noRows : Database := ⟨[],[],[]⟩

theorem underNumbered (i : Nat) : under .evidence (numbered i) = true := by
  refine List.isPrefixOf_iff_prefix.mpr ?_
  rw [numbered,String.toList_append]
  exact List.prefix_append _ _

theorem crowdedRank (count : Nat) :
    numbered count ∈ (crowded count).objects ∧ count ≤ rank (crowded count) .evidence (numbered count) := by
  have before : ((List.range count).map numbered).filter (fun p => under .evidence p && earlierKey p (numbered count)) =
      (List.range count).map numbered := by
    refine List.filter_eq_self.mpr (List.forall_mem_map.mpr fun i inside => ?_)
    rw [underNumbered,numberedEarlier (List.mem_range.mp inside)]
    rfl
  have objects : (crowded count).objects = (List.range count).map numbered ++ [numbered count] := by
    show (List.range (count + 1)).map numbered = _
    rw [List.range_succ,List.map_append,List.map_singleton]
  rw [rank,objects,List.filter_append,before,List.length_append,List.length_map,List.length_range]
  exact ⟨List.mem_append_right _ (List.mem_singleton.mpr rfl),Nat.le_add_right _ _⟩

-- the address of a picture with the size it is shown in
def sized : Database := ⟨[some "https://cdn/avatars/u/1.png?size=64"],[],[]⟩

def picture : S3Object := { key := "avatars/u/1.png", lastModified := 0 }

def pictures : Bucket := ⟨[picture],List.pairwise_singleton _ _⟩

theorem crowdedOrphan {count : Nat} (many : 1000 ≤ count) : ¬ DeletesOrphans noRows 0 (crowded count) := by
  intro exactly
  obtain ⟨stored,listed⟩ := crowdedRank count
  have orphan : Orphan noRows 0 (numbered count) := by
    refine ⟨⟨.evidence,underNumbered _⟩,le_rfl,fun kind => ?_⟩
    cases kind with
    | avatar => exact fun ⟨_,stored,_⟩ => absurd stored List.not_mem_nil
    | evidence => exact List.not_mem_nil
    | kyc => exact List.not_mem_nil
  have kept : numbered count ∈ (cleanupOrphanedUploads noRows 0 (crowded count)).2.objects := by
    refine memUploads.mpr ⟨stored,fun kind deletes => ?_⟩
    have same : kind = .evidence := by
      by_contra apart
      have outside : under .evidence (numbered count) = false := underOne apart deletes.under
      rw [underNumbered] at outside
      cases outside
    subst same
    exact absurd deletes.listed (not_lt.mpr (many.trans listed))
  exact ((exactly _).mp kept).2 orphan

theorem sizedOrphan : ¬ DeletesOrphans sized 0 pictures := by
  intro exactly
  have orphan : Orphan sized 0 picture := by
    refine ⟨⟨.avatar,by decide⟩,le_rfl,fun kind => ?_⟩
    cases kind with
    | avatar =>
        intro ⟨url,stored,ends⟩
        obtain rfl := Option.some.inj (List.mem_singleton.mp stored)
        exact absurd ends (by decide)
    | evidence => exact List.not_mem_nil
    | kyc => exact List.not_mem_nil
  have found : includes "https://cdn/avatars/u/1.png?size=64" picture.key = true := by
    refine decide_eq_true ⟨"https://cdn/".toList,"?size=64".toList,?_⟩
    rfl
  have kept : picture ∈ (cleanupOrphanedUploads sized 0 pictures).2.objects := by
    refine memUploads.mpr ⟨List.mem_singleton.mpr rfl,fun kind deletes => ?_⟩
    cases kind with
    | avatar =>
        have untested : avatarReferenced sized picture.key = false := deletes.untested
        simp [avatarReferenced,getReferencedAvatarPaths,sized,found] at untested
    | evidence => exact absurd deletes.under (by decide)
    | kyc => exact absurd deletes.under (by decide)
  exact ((exactly _).mp kept).2 orphan

/-- The last upload is not listed, and the picture is kept for an address that does not end in its key. -/
theorem orphansKept : ¬ DeletesOrphans noRows 0 (crowded 1000) ∧ ¬ DeletesOrphans sized 0 pictures :=
  ⟨crowdedOrphan le_rfl,sizedOrphan⟩

end Crowded

end HireSettle.S3Cleanup
