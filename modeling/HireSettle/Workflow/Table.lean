import Mathlib

/-! Database tables with a unique key. A table cannot hold two rows of one key:
the key of a row survives every update, and `create` yields nothing when the key
is taken. -/
namespace Workflow

class Keyed (ρ : Type) (κ : outParam Type) where
  key : ρ → κ

structure Table (ρ : Type) {κ : Type} [Keyed ρ κ] where
  rows : List ρ
  unique : (rows.map Keyed.key).Nodup

namespace Table

variable {ρ κ : Type} [Keyed ρ κ]

def empty : Table ρ := ⟨[],List.nodup_nil⟩

abbrev single (row : ρ) : Table ρ := ⟨[row],List.nodup_singleton _⟩

def findMany (t : Table ρ) (p : ρ → Bool) : List ρ := t.rows.filter p

def findFirst (t : Table ρ) (p : ρ → Bool) : Option ρ := t.rows.find? p

def count (t : Table ρ) (p : ρ → Bool) : Nat := t.rows.countP p

theorem keyMap {f : ρ → ρ} (keeps : ∀ r, Keyed.key (f r) = Keyed.key r) (rows : List ρ) :
    (rows.map f).map Keyed.key = rows.map Keyed.key := by
  simp only [List.map_map,List.map_inj_left,Function.comp_apply]
  exact fun r _ => keeps r

def updateMany (t : Table ρ) (p : ρ → Bool) (f : ρ → ρ)
    (keeps : ∀ r, Keyed.key (f r) = Keyed.key r := by intro _; rfl) : Table ρ :=
  ⟨t.rows.map (fun r => if p r then f r else r), by
    rw [keyMap (fun r => by split; exact keeps r; rfl)]
    exact t.unique⟩

def deleteMany (t : Table ρ) (p : ρ → Bool) : Table ρ :=
  ⟨t.rows.filter (fun r => !p r),(t.unique.sublist (List.filter_sublist.map _))⟩

theorem memUpdateMany {t : Table ρ} {p : ρ → Bool} {f : ρ → ρ}
    (keeps : ∀ r, Keyed.key (f r) = Keyed.key r) {r' : ρ} :
    r' ∈ (t.updateMany p f keeps).rows ↔ ∃ r ∈ t.rows, (if p r then f r else r) = r' := by
  simp only [updateMany,List.mem_map]

theorem findFirstUpdateMany (t : Table ρ) {p q : ρ → Bool} {f : ρ → ρ}
    (keeps : ∀ r, Keyed.key (f r) = Keyed.key r) (same : ∀ r, q (f r) = q r) :
    (t.updateMany p f keeps).findFirst q = (t.findFirst q).map (fun r => if p r then f r else r) := by
  have kept : ∀ r, q (if p r then f r else r) = q r := by
    intro r
    split
    · exact same r
    · rfl
  simp only [findFirst,updateMany,List.find?_map,Function.comp_def,kept]

theorem findManyUpdateOther (t : Table ρ) {p q : ρ → Bool} {f : ρ → ρ}
    (keeps : ∀ r, Keyed.key (f r) = Keyed.key r) (same : ∀ r, q (f r) = q r) (apart : ∀ r ∈ t.rows, p r = true → q r = false) :
    (t.updateMany p f keeps).findMany q = t.findMany q := by
  have kept : (fun r => q (if p r then f r else r)) = q := by
    funext r
    split
    · exact same r
    · rfl
  simp only [findMany,updateMany,List.filter_map,Function.comp_def,kept]
  refine (List.map_congr_left fun r inside => ?_).trans (List.map_id' _)
  obtain ⟨there,matched⟩ := List.mem_filter.mp inside
  split
  · rename_i updated
    cases matched.symm.trans (apart r there updated)
  · rfl

theorem countUpdateMany (t : Table ρ) {p q : ρ → Bool} {f : ρ → ρ} (keeps : ∀ r, Keyed.key (f r) = Keyed.key r)
    (same : ∀ r, q (f r) = q r) : (t.updateMany p f keeps).count q = t.count q := by
  simp only [count,updateMany,List.countP_map]
  refine List.countP_congr fun r _ => ?_
  simp only [Function.comp_apply]
  split
  · rw [same]
  · rfl

theorem rowsSame {t t' : Table ρ} (same : t.rows = t'.rows) : t = t' := by
  cases t
  cases same
  rfl

/-- An update that is seen nowhere. -/
theorem mapSame {rows : List ρ} {p : ρ → Bool} {f : ρ → ρ} :
    rows.map (fun r => if p r then f r else r) = rows ↔ ∀ r ∈ rows, p r = true → f r = r := by
  have each : ∀ r, (if p r then f r else r) = r ↔ (p r = true → f r = r) := fun r => by
    cases p r <;> simp
  constructor
  · intro same r inside
    exact (each r).mp (List.map_inj_left.mp (same.trans (List.map_id _).symm) r inside)
  · intro all
    exact (List.map_congr_left fun r inside => (each r).mpr (all r inside)).trans (List.map_id _)

theorem updateManySame {t : Table ρ} {p : ρ → Bool} {f : ρ → ρ} {keeps : ∀ r, Keyed.key (f r) = Keyed.key r} :
    t.updateMany p f keeps = t ↔ ∀ r ∈ t.rows, p r = true → f r = r :=
  ⟨fun same => mapSame.mp (congrArg rows same),fun all => rowsSame (mapSame.mpr all)⟩

theorem deleteManySame {t : Table ρ} {p : ρ → Bool} : t.deleteMany p = t ↔ ∀ r ∈ t.rows, p r = false := by
  constructor
  · intro same r inside
    have kept : r ∈ (t.deleteMany p).rows := same.symm ▸ inside
    simpa using (List.mem_filter.mp kept).2
  · exact fun none => rowsSame (List.filter_eq_self.mpr fun r inside => by rw [none r inside]; rfl)

variable [DecidableEq κ]

def get? (t : Table ρ) (k : κ) : Option ρ := t.rows.find? (fun r => Keyed.key r = k)

def update (t : Table ρ) (k : κ) (f : ρ → ρ)
    (keeps : ∀ r, Keyed.key (f r) = Keyed.key r := by intro _; rfl) : Table ρ :=
  t.updateMany (fun r => Keyed.key r = k) f keeps

def modify (t : Table ρ) (k : κ) (f : ρ → ρ)
    (keeps : ∀ r, Keyed.key (f r) = Keyed.key r := by intro _; rfl) : Option (ρ × Table ρ) :=
  (t.get? k).map fun r => (f r,t.update k f keeps)

theorem freeKey {t : Table ρ} {k : κ} (free : t.get? k = none) : k ∉ t.rows.map Keyed.key := by
  intro taken
  obtain ⟨r,inside,same⟩ := List.mem_map.mp taken
  simpa [same] using List.find?_eq_none.mp free r inside

def create (t : Table ρ) (r : ρ) : Option (Table ρ) :=
  if free : t.get? (Keyed.key r) = none then
    some ⟨t.rows ++ [r], by
      simp only [List.map_append,List.map_cons,List.map_nil]
      refine List.nodup_append.mpr ⟨t.unique,by simp,?_⟩
      intro k taken l last
      rw [List.mem_singleton.mp last]
      exact fun same => freeKey free (same ▸ taken)⟩
  else none

def upsert (t : Table ρ) (r : ρ) (f : ρ → ρ)
    (keeps : ∀ r, Keyed.key (f r) = Keyed.key r := by intro _; rfl) : Table ρ :=
  match t.get? (Keyed.key r) with
  | some _ => t.update (Keyed.key r) f keeps
  | none => (t.create r).getD t

theorem getKey {t : Table ρ} {k : κ} {r : ρ} (found : t.get? k = some r) : Keyed.key r = k := by
  simpa using List.find?_some found

theorem getMem {t : Table ρ} {k : κ} {r : ρ} (found : t.get? k = some r) : r ∈ t.rows :=
  List.mem_of_find?_eq_some found

theorem findUnique {rows : List ρ} (unique : (rows.map Keyed.key).Nodup) {r : ρ} (inside : r ∈ rows) :
    rows.find? (fun r' => Keyed.key r' = Keyed.key r) = some r := by
  induction rows with
  | nil => simp at inside
  | cons head tail ih =>
    obtain ⟨fresh,unique⟩ := List.nodup_cons.mp unique
    rcases List.mem_cons.mp inside with rfl | later
    · simp
    · have other : Keyed.key head ≠ Keyed.key r :=
        fun same => fresh (same ▸ List.mem_map.mpr ⟨r,later,rfl⟩)
      simpa [other] using ih unique later

theorem countUnique {rows : List ρ} (unique : (rows.map Keyed.key).Nodup) (k : κ) (q : ρ → Bool) :
    rows.countP (fun r => Keyed.key r = k && q r) =
      if (rows.find? (fun r => Keyed.key r = k)).any q then 1 else 0 := by
  induction rows with
  | nil => rfl
  | cons head tail ih =>
    obtain ⟨fresh,unique⟩ := List.nodup_cons.mp unique
    by_cases here : Keyed.key head = k
    · have none : tail.countP (fun r => Keyed.key r = k && q r) = 0 := by
        refine List.countP_eq_zero.mpr fun r inside same => ?_
        simp only [Bool.and_eq_true,decide_eq_true_eq] at same
        exact fresh (here ▸ same.1 ▸ List.mem_map.mpr ⟨r,inside,rfl⟩)
      cases holds : q head <;> simp [here,holds,none]
    · simpa [List.countP_cons,List.find?_cons,here] using ih unique

theorem countKey (t : Table ρ) (k : κ) (q : ρ → Bool) :
    t.count (fun r => Keyed.key r = k && q r) = if (t.get? k).any q then 1 else 0 :=
  countUnique t.unique k q

theorem memGet {t : Table ρ} {r : ρ} (inside : r ∈ t.rows) : t.get? (Keyed.key r) = some r :=
  findUnique t.unique inside

@[simp] theorem getEmpty (k : κ) : (empty : Table ρ).get? k = none := rfl

@[simp] theorem getUpdateMany (t : Table ρ) (p : ρ → Bool) (f : ρ → ρ)
    (keeps : ∀ r, Keyed.key (f r) = Keyed.key r) (k : κ) :
    (t.updateMany p f keeps).get? k = (t.get? k).map (fun r => if p r then f r else r) := by
  have kept : ∀ r, Keyed.key (if p r then f r else r) = Keyed.key r := by
    intro r
    split
    · exact keeps r
    · rfl
  simp only [get?,updateMany,List.find?_map,Function.comp_def,kept]

/-- What the change of a row keeps, it keeps for every key. -/
theorem getUpdateManyMap {β : Type} (t : Table ρ) {p : ρ → Bool} {f : ρ → ρ} {g : ρ → β}
    (keeps : ∀ r, Keyed.key (f r) = Keyed.key r) (same : ∀ r, g (f r) = g r) (k : κ) :
    ((t.updateMany p f keeps).get? k).map g = (t.get? k).map g := by
  rw [getUpdateMany]
  cases t.get? k with
  | none => rfl
  | some r =>
    simp only [Option.map_some]
    split
    · rw [same]
    · rfl

@[simp] theorem getUpdate (t : Table ρ) (k : κ) (f : ρ → ρ)
    (keeps : ∀ r, Keyed.key (f r) = Keyed.key r) (k' : κ) :
    (t.update k f keeps).get? k' = if k' = k then (t.get? k').map f else t.get? k' := by
  simp only [update,getUpdateMany]
  cases found : t.get? k' with
  | none => simp
  | some r =>
    have same := getKey found
    by_cases h : k' = k
    · simp [same,h]
    · simp [same,h]

theorem getUpdateSelf {t : Table ρ} {k : κ} {r : ρ} (found : t.get? k = some r) (f : ρ → ρ)
    (keeps : ∀ r, Keyed.key (f r) = Keyed.key r) : (t.update k f keeps).get? k = some (f r) := by
  simp [found]

theorem getUpdateOther (t : Table ρ) {k other : κ} (differs : other ≠ k) (f : ρ → ρ)
    (keeps : ∀ r, Keyed.key (f r) = Keyed.key r) : (t.update k f keeps).get? other = t.get? other := by
  simp [differs]

theorem getDeleteMany (t : Table ρ) (p : ρ → Bool) (k : κ) :
    (t.deleteMany p).get? k = (t.get? k).filter (fun r => !p r) := by
  cases found : t.get? k with
  | none =>
    have absent : ∀ r ∈ t.rows, ¬ Keyed.key r = k := by simpa using List.find?_eq_none.mp found
    simp only [get?,deleteMany,Option.filter_none,List.find?_eq_none]
    intro r inside
    simpa using absent r (List.mem_of_mem_filter inside)
  | some r =>
    cases h : p r with
    | false =>
      have inside : r ∈ (t.deleteMany p).rows := List.mem_filter.mpr ⟨getMem found,by simp [h]⟩
      rw [Option.filter_some,if_pos (by simp [h]),← getKey found]
      exact memGet inside
    | true =>
      simp only [Option.filter_some,h,Bool.not_true,Bool.false_eq_true,if_false]
      refine List.find?_eq_none.mpr ?_
      intro r' inside same
      obtain ⟨kept,notP⟩ := List.mem_filter.mp inside
      have key : Keyed.key r' = k := by simpa using same
      have equal : some r' = some r := (memGet kept).symm.trans (key ▸ found)
      rw [Option.some.inj equal,h] at notP
      simp at notP

theorem createGet {t t' : Table ρ} {r : ρ} (created : t.create r = some t') :
    t.get? (Keyed.key r) = none ∧ t'.rows = t.rows ++ [r] ∧
      ∀ k, t'.get? k = if k = Keyed.key r then some r else t.get? k := by
  unfold create at created
  split at created
  · rename_i free
    cases Option.some.inj created
    refine ⟨free,rfl,fun k => ?_⟩
    by_cases h : k = Keyed.key r
    · subst h
      have absent : t.rows.find? (fun r' => Keyed.key r' = Keyed.key r) = none := free
      simp [get?,List.find?_append,absent]
    · have other : ¬ Keyed.key r = k := fun same => h same.symm
      simp [get?,List.find?_append,h,other]
  · contradiction

theorem createMap {β : Type} {t t' : Table ρ} {r : ρ} (created : t.create r = some t') (g : ρ → β) (k : κ) :
    (t'.get? k).map g = if k = Keyed.key r then some (g r) else (t.get? k).map g := by
  rw [(createGet created).2.2]
  split <;> rfl

theorem deleteMap {β : Type} (t : Table ρ) {p : ρ → Bool} {k : κ} (byKey : ∀ r ∈ t.rows, p r = decide (Keyed.key r = k)) (g : ρ → β)
    (other : κ) : ((t.deleteMany p).get? other).map g = if other = k then none else (t.get? other).map g := by
  rw [getDeleteMany]
  cases found : t.get? other with
  | none => simp
  | some r =>
    have key := getKey found
    have here := byKey r (getMem found)
    by_cases same : other = k <;> simp [here,key,same]

theorem createTaken {t : Table ρ} {r : ρ} (refused : t.create r = none) : (t.get? (Keyed.key r)).isSome := by
  refine Option.isSome_iff_ne_none.mpr fun free => ?_
  unfold create at refused
  rw [dif_pos free] at refused
  cases refused

theorem modifyGet {t t' : Table ρ} {k : κ} {f : ρ → ρ} {keeps : ∀ r, Keyed.key (f r) = Keyed.key r} {r' : ρ}
    (modified : t.modify k f keeps = some (r',t')) : ∃ r, t.get? k = some r ∧ r' = f r ∧ t' = t.update k f keeps := by
  obtain ⟨r,found,same⟩ := Option.map_eq_some_iff.mp modified
  cases same
  exact ⟨r,found,rfl,rfl⟩

theorem upsertGet (t : Table ρ) (r : ρ) (f : ρ → ρ) (keeps : ∀ r, Keyed.key (f r) = Keyed.key r) (k : κ) :
    (t.upsert r f keeps).get? k =
      if k = Keyed.key r then some ((t.get? k).elim r f) else t.get? k := by
  unfold upsert
  split
  · rename_i old found
    rw [getUpdate]
    split
    · rename_i same
      simp [same,found]
    · rfl
  · rename_i free
    cases made : t.create r with
    | none => simp [create,free] at made
    | some t' =>
      rw [Option.getD_some,(createGet made).2.2]
      split
      · rename_i same
        simp [same,free]
      · rfl

theorem createFree {t : Table ρ} {r : ρ} (free : t.get? (Keyed.key r) = none) : ∃ t', t.create r = some t' := ⟨_,dif_pos free⟩

theorem upsertNew {t : Table ρ} {r : ρ} (free : t.get? (Keyed.key r) = none) (f : ρ → ρ) (keeps : ∀ r, Keyed.key (f r) = Keyed.key r) :
    t.create r = some (t.upsert r f keeps) := by
  obtain ⟨t',made⟩ := createFree free
  unfold upsert
  split
  · rename_i taken
    cases free.symm.trans taken
  · rw [made]
    rfl

theorem findManyGet {t : Table ρ} {p : ρ → Bool} {r : ρ} (inside : r ∈ t.findMany p) :
    t.get? (Keyed.key r) = some r ∧ p r = true := by
  obtain ⟨row,holds⟩ := List.mem_filter.mp inside
  exact ⟨memGet row,holds⟩

theorem findFirstGet {t : Table ρ} {p : ρ → Bool} {r : ρ} (found : t.findFirst p = some r) :
    t.get? (Keyed.key r) = some r ∧ p r = true :=
  ⟨memGet (List.mem_of_find?_eq_some found),by simpa using List.find?_some found⟩

theorem findFirstNone {t : Table ρ} {p : ρ → Bool} (absent : t.findFirst p = none)
    {k : κ} {r : ρ} (found : t.get? k = some r) : p r = false := by
  simpa using List.find?_eq_none.mp absent r (getMem found)

theorem memCreate {t t' : Table ρ} {r : ρ} (created : t.create r = some t') {r' : ρ} :
    r' ∈ t'.rows ↔ r' ∈ t.rows ∨ r' = r := by
  simp only [(createGet created).2.1,List.mem_append,List.mem_singleton]

theorem findFirstCreate {t t' : Table ρ} {r : ρ} (created : t.create r = some t') (q : ρ → Bool) :
    t'.findFirst q = (t.findFirst q).or (if q r then some r else none) := by
  simp only [findFirst,(createGet created).2.1,List.find?_append,List.find?_singleton]

theorem countPos {t : Table ρ} {p : ρ → Bool} :
    0 < t.count p ↔ ∃ k r, t.get? k = some r ∧ p r = true := by
  rw [count,List.countP_pos_iff]
  constructor
  · rintro ⟨r,inside,holds⟩
    exact ⟨_,r,memGet inside,holds⟩
  · rintro ⟨k,r,found,holds⟩
    exact ⟨r,getMem found,holds⟩

/-- The sum over some rows changes with the one row that is updated. -/
theorem sumUpdate (t : Table ρ) {k : κ} {r : ρ} (found : t.get? k = some r) {f : ρ → ρ} (keeps : ∀ r, Keyed.key (f r) = Keyed.key r)
    {q : ρ → Bool} (same : ∀ r, q (f r) = q r) (g : ρ → Int) :
    (((t.update k f keeps).findMany q).map g).sum = ((t.findMany q).map g).sum + if q r then g (f r) - g r else 0 := by
  obtain ⟨before,after,rows⟩ := List.append_of_mem (getMem found)
  have key := getKey found
  have unique := t.unique
  rw [rows,List.map_append,List.map_cons] at unique
  have other : ∀ other ∈ before ++ after, ¬ Keyed.key other = k := by
    intro other inside here
    have taken : Keyed.key r ∈ before.map Keyed.key ++ after.map Keyed.key := by
      rw [← List.map_append,key,← here]
      exact List.mem_map_of_mem inside
    exact (List.nodup_middle.mp unique).notMem taken
  have kept : ∀ part : List ρ, (∀ other ∈ part, other ∈ before ++ after) →
      part.map (fun r => if decide (Keyed.key r = k) then f r else r) = part := by
    intro part inside
    refine (List.map_congr_left fun r' there => ?_).trans (List.map_id part)
    rw [if_neg (by simpa using other r' (inside r' there))]
    rfl
  simp only [update,updateMany,findMany,rows,List.map_append,List.map_cons,List.filter_append,List.filter_cons,List.sum_append,
    kept before fun r' there => List.mem_append_left _ there,kept after fun r' there => List.mem_append_right _ there,key,decide_true,if_true,same]
  split
  · simp only [List.map_cons,List.sum_cons]
    omega
  · omega

theorem updateManyElsewhere (t : Table ρ) {k : κ} {p : ρ → Bool} (f : ρ → ρ) (keeps : ∀ r, Keyed.key (f r) = Keyed.key r)
    (byKey : ∀ r, p r = true → Keyed.key r = k) {other : κ} (differs : other ≠ k) :
    (t.updateMany p f keeps).get? other = t.get? other := by
  rw [getUpdateMany]
  cases found : t.get? other with
  | none => rfl
  | some r =>
    have misses : p r = false := by
      by_contra matched
      exact differs ((getKey found).symm.trans (byKey r (by simpa using matched)))
    simp [misses]

theorem updateManyNowhere {t : Table ρ} {p : ρ → Bool} (nothing : t.count p = 0) (f : ρ → ρ)
    (keeps : ∀ r, Keyed.key (f r) = Keyed.key r) (k : κ) : (t.updateMany p f keeps).get? k = t.get? k := by
  rw [getUpdateMany]
  cases found : t.get? k with
  | none => rfl
  | some r =>
    have misses : p r = false := by
      by_contra matched
      have pos := countPos.mpr ⟨k,r,found,by simpa using matched⟩
      omega
    simp [misses]

/-- A conditional update of one key that its row meets is the update by that key. -/
theorem updateManyKey {t : Table ρ} {k : κ} {r : ρ} {p : ρ → Bool} {f : ρ → ρ} {keeps : ∀ r, Keyed.key (f r) = Keyed.key r}
    (byKey : ∀ r, p r = true → Keyed.key r = k) (found : t.get? k = some r) (meets : p r = true) :
    t.updateMany p f keeps = t.update k f keeps := by
  simp only [update,updateMany,mk.injEq]
  refine List.map_congr_left fun other inside => ?_
  by_cases here : Keyed.key other = k
  · have there := memGet inside
    rw [here,found] at there
    cases there
    simp [meets,here]
  · have misses : p other = false := by
      by_contra matched
      exact here (byKey other (by simpa using matched))
    simp [misses,here]

/-- A conditional update of one key meets its row, or changes nothing. -/
theorem updateManyCases (t : Table ρ) {k : κ} {p : ρ → Bool} (f : ρ → ρ) (keeps : ∀ r, Keyed.key (f r) = Keyed.key r)
    (byKey : ∀ r, p r = true → Keyed.key r = k) :
    (t.count p ≠ 0 ∧ ∃ r, t.get? k = some r ∧ p r = true ∧ (t.updateMany p f keeps).get? k = some (f r) ∧
      ∀ other, other ≠ k → (t.updateMany p f keeps).get? other = t.get? other) ∨
    (t.count p = 0 ∧ ∀ other, (t.updateMany p f keeps).get? other = t.get? other) := by
  by_cases nothing : t.count p = 0
  · exact Or.inr ⟨nothing,updateManyNowhere nothing f keeps⟩
  · obtain ⟨key,r,found,matched⟩ := countPos.mp (Nat.pos_of_ne_zero nothing)
    have same : key = k := (getKey found).symm.trans (byKey r matched)
    subst same
    exact Or.inl ⟨nothing,r,found,matched,by simp [found,matched],
      fun other differs => updateManyElsewhere t f keeps byKey differs⟩

theorem updateSame {t : Table ρ} {k : κ} {r : ρ} {f : ρ → ρ} (found : t.get? k = some r) (keeps : ∀ r, Keyed.key (f r) = Keyed.key r) :
    t.update k f keeps = t ↔ f r = r := by
  refine updateManySame.trans ⟨fun all => all r (getMem found) (decide_eq_true (getKey found)),fun same r' inside matched => ?_⟩
  have its : Keyed.key r' = k := of_decide_eq_true matched
  cases found.symm.trans (its ▸ memGet inside)
  exact same

theorem createDiffers {t t' : Table ρ} {r : ρ} (created : t.create r = some t') : t' ≠ t := by
  intro same
  subst same
  have inside := (memCreate created).mpr (Or.inr rfl)
  cases (createGet created).1.symm.trans (memGet inside)

theorem upsertSame {t : Table ρ} {r : ρ} {f : ρ → ρ} {keeps : ∀ r, Keyed.key (f r) = Keyed.key r} :
    t.upsert r f keeps = t ↔ ∃ old, t.get? (Keyed.key r) = some old ∧ f old = old := by
  cases found : t.get? (Keyed.key r) with
  | some old =>
    have updated : t.upsert r f keeps = t.update (Keyed.key r) f keeps := by
      unfold upsert
      split
      · rfl
      · rename_i none
        cases none.symm.trans found
    rw [updated,updateSame found keeps]
    exact ⟨fun same => ⟨old,rfl,same⟩,fun ⟨_,its,same⟩ => by cases its; exact same⟩
  | none =>
    have made := upsertNew found f keeps
    exact ⟨fun same => absurd same (createDiffers made),fun ⟨_,its,_⟩ => by cases its⟩

theorem keyLeft [Infinite κ] (t : Table ρ) : ∃ k, t.get? k = none := by
  obtain ⟨k,free⟩ := Infinite.exists_notMem_finset (t.rows.map Keyed.key).toFinset
  refine ⟨k,List.find?_eq_none.mpr fun r inside taken => free ?_⟩
  exact List.mem_toFinset.mpr (List.mem_map.mpr ⟨r,inside,of_decide_eq_true taken⟩)

end Table

/-- A table that never gives a key twice, not even the key of a row it has deleted. -/
structure IssuedTable (ρ : Type) {κ : Type} [Keyed ρ κ] extends Table ρ where
  issued : List κ
  known : ∀ r ∈ rows, Keyed.key r ∈ issued

namespace IssuedTable

variable {ρ κ : Type} [Keyed ρ κ]

def empty : IssuedTable ρ := ⟨Table.empty,[],nofun⟩

def deleteMany (t : IssuedTable ρ) (p : ρ → Bool) : IssuedTable ρ :=
  ⟨t.toTable.deleteMany p,t.issued,fun r inside => t.known r (List.mem_of_mem_filter inside)⟩

variable [DecidableEq κ]

def create (t : IssuedTable ρ) (r : ρ) : Option (IssuedTable ρ) :=
  if taken : Keyed.key r ∈ t.issued then none
  else (t.toTable.create r).pmap (fun t' made => ⟨t',Keyed.key r :: t.issued,fun r' inside => by
    rcases (Table.memCreate made).mp inside with old | rfl
    · exact List.mem_cons_of_mem _ (t.known r' old)
    · exact List.mem_cons_self⟩) fun _ made => made

def update (t : IssuedTable ρ) (k : κ) (f : ρ → ρ) (keeps : ∀ r, Keyed.key (f r) = Keyed.key r := by intro _; rfl) : IssuedTable ρ :=
  ⟨t.toTable.update k f keeps,t.issued,fun r' inside => by
    obtain ⟨r,there,rfl⟩ := (Table.memUpdateMany keeps).mp inside
    have known := t.known r there
    split
    · rwa [keeps]
    · exact known⟩

/-- A row that is there under a key once given was there before. -/
structure Continues (t t' : IssuedTable ρ) : Prop where
  issued : ∀ k ∈ t.issued, k ∈ t'.issued
  rows : ∀ k ∈ t.issued, ∀ r, t'.get? k = some r → t.get? k = some r

theorem continuesRefl (t : IssuedTable ρ) : Continues t t := ⟨fun _ there => there,fun _ _ _ found => found⟩

theorem continuesTrans {t t' t'' : IssuedTable ρ} (first : Continues t t') (second : Continues t' t'') : Continues t t'' :=
  ⟨fun k there => second.issued k (first.issued k there),
    fun k there r found => first.rows k there r (second.rows k (first.issued k there) r found)⟩

theorem continuesDeleteMany (t : IssuedTable ρ) (p : ρ → Bool) : Continues t (t.deleteMany p) := by
  refine ⟨fun _ there => there,fun k _ r found => ?_⟩
  have kept : (t.get? k).filter (fun r => !p r) = some r := (Table.getDeleteMany t.toTable p k) ▸ found
  exact (Option.filter_eq_some_iff.mp kept).1

theorem issuedCreate {t t' : IssuedTable ρ} {r : ρ} (made : t.create r = some t') :
    Continues t t' ∧ ∀ k old, t.get? k = some old → t'.get? k = some old := by
  unfold create at made
  split at made
  · contradiction
  · rename_i fresh
    obtain ⟨table,_,created,rfl⟩ := Option.pmap_eq_some_iff.mp made
    have gets := (Table.createGet created).2.2
    refine ⟨⟨fun k there => List.mem_cons_of_mem _ there,fun k there row found => ?_⟩,fun k old found => ?_⟩
    · have other : k ≠ Keyed.key r := fun same => fresh (same ▸ there)
      rwa [show Table.get? table k = t.get? k by rw [gets,if_neg other]] at found
    · have other : k ≠ Keyed.key r := fun same => fresh (same ▸ Table.getKey found ▸ t.known old (Table.getMem found))
      rwa [show Table.get? table k = t.get? k by rw [gets,if_neg other]]

end IssuedTable

end Workflow
