import Mathlib

/-! A store that remembers of each of its rows only the last event that has written it,
and takes an event for new when no row remembers it. When do replays of older events
leave the store as the first deliveries have left it. -/
namespace Workflow

structure Feed (δ κ ι ρ : Type) where
  target : δ → κ
  id : δ → ι
  -- what the event stores, unless it is refused
  row : δ → Option ρ
  mark : ρ → Option ι

namespace Feed

variable {δ κ ι ρ : Type}

/-- Events of one id are one event, also where the store remembers its id. -/
structure Coherent (feed : Feed δ κ ι ρ) (store : κ → Option ρ) (ds : List δ) : Prop where
  same : ∀ d ∈ ds, ∀ d' ∈ ds, feed.id d = feed.id d' → feed.target d = feed.target d' ∧ feed.row d = feed.row d'
  marked : ∀ d r, feed.row d = some r → feed.mark r = some (feed.id d)
  remembered : ∀ k r, store k = some r → ∀ d ∈ ds, feed.mark r = some (feed.id d) → feed.target d = k

theorem coherentSubset {feed : Feed δ κ ι ρ} {store : κ → Option ρ} {ds ds' : List δ} (coherent : feed.Coherent store ds)
    (inside : ds' ⊆ ds) : feed.Coherent store ds' where
  same d here d' here' := coherent.same d (inside here) d' (inside here')
  marked := coherent.marked
  remembered k r found d here := coherent.remembered k r found d (inside here)

variable [DecidableEq ι] (feed : Feed δ κ ι ρ)

def firsts (ds : List δ) : List δ :=
  ds.foldl (fun kept d => if feed.id d ∈ kept.map feed.id then kept else kept ++ [d]) []

/-- One row, as the events of its own leave it. -/
def settle (row : Option ρ) (ds : List δ) : Option ρ :=
  ds.foldl (fun row d => if row.bind feed.mark = some (feed.id d) then row else feed.row d) row

section Rows

variable {feed} {row : Option ρ} {ds : List δ} {d : δ}

theorem firstsAppend : feed.firsts (ds ++ [d]) =
    if feed.id d ∈ (feed.firsts ds).map feed.id then feed.firsts ds else feed.firsts ds ++ [d] := by
  rw [firsts,List.foldl_append]
  rfl

theorem firstsSubset (feed : Feed δ κ ι ρ) (ds : List δ) : feed.firsts ds ⊆ ds := by
  induction ds using List.reverseRecOn with
  | nil => exact List.Subset.refl _
  | append_singleton ds d ih =>
    rw [firstsAppend]
    split
    · exact List.subset_append_of_subset_left _ ih
    · exact List.append_subset.mpr ⟨List.subset_append_of_subset_left _ ih,List.subset_append_right _ _⟩

theorem firstsCover (feed : Feed δ κ ι ρ) (inside : d ∈ ds) : ∃ d' ∈ feed.firsts ds, feed.id d' = feed.id d := by
  induction ds using List.reverseRecOn with
  | nil => cases inside
  | append_singleton ds latest ih =>
    rw [firstsAppend]
    rcases List.mem_append.mp inside with earlier | here
    · obtain ⟨d',kept,same⟩ := ih earlier
      refine ⟨d',?_,same⟩
      split
      · exact kept
      · exact List.mem_append_left _ kept
    · obtain rfl := List.mem_singleton.mp here
      split
      · rename_i known
        exact List.mem_map.mp known
      · exact ⟨d,by simp,rfl⟩

theorem settleAppend : feed.settle row (ds ++ [d]) =
    if (feed.settle row ds).bind feed.mark = some (feed.id d) then feed.settle row ds else feed.row d := by
  rw [settle,List.foldl_append]
  rfl

theorem settleKept (each : ∀ d ∈ ds, row.bind feed.mark = some (feed.id d)) : feed.settle row ds = row := by
  induction ds using List.reverseRecOn with
  | nil => rfl
  | append_singleton ds d ih =>
    rw [settleAppend,ih fun d' inside => each d' (List.mem_append_left _ inside),if_pos (each d (by simp))]

/-- A stored event leaves its id on the row. -/
theorem settleMarks (marked : ∀ d r, feed.row d = some r → feed.mark r = some (feed.id d))
    (stores : ∀ d ∈ ds, (feed.row d).isSome) (latest : ds.getLast? = some d) :
    (feed.settle row ds).bind feed.mark = some (feed.id d) := by
  obtain ⟨older,rfl⟩ := List.getLast?_eq_some_iff.mp latest
  rw [settleAppend]
  split
  · assumption
  · obtain ⟨r,found⟩ := Option.isSome_iff_exists.mp (stores d (by simp))
    rw [found,Option.bind_some,marked d r found]

/-- When an event is new to the row, the latest one has written it. -/
theorem settleLatest (same : ∀ d ∈ ds, ∀ d' ∈ ds, feed.id d = feed.id d' → feed.row d = feed.row d')
    (marked : ∀ d r, feed.row d = some r → feed.mark r = some (feed.id d)) (stores : ∀ d ∈ ds, (feed.row d).isSome)
    (fresh : ∃ d' ∈ ds, row.bind feed.mark ≠ some (feed.id d')) (latest : ds.getLast? = some d) :
    feed.settle row ds = feed.row d := by
  induction ds using List.reverseRecOn generalizing d with
  | nil => cases latest
  | append_singleton ds last ih =>
    obtain rfl : last = d := by simpa using latest
    rw [settleAppend]
    by_cases before : ∃ d' ∈ ds, row.bind feed.mark ≠ some (feed.id d')
    · obtain ⟨d',inside,differs⟩ := before
      obtain ⟨previous,there⟩ : ∃ previous, ds.getLast? = some previous :=
        Option.ne_none_iff_exists'.mp fun none => by simp [List.getLast?_eq_none_iff.mp none] at inside
      have older : previous ∈ ds := List.mem_of_getLast? there
      have written := ih (fun d here d' here' => same d (List.mem_append_left _ here) d' (List.mem_append_left _ here'))
        (fun d here => stores d (List.mem_append_left _ here)) ⟨d',inside,differs⟩ there
      rw [settleMarks marked (fun d here => stores d (List.mem_append_left _ here)) there]
      split
      · rename_i id
        rw [written]
        exact same previous (List.mem_append_left _ older) last (by simp) (Option.some.inj id)
      · rfl
    · have kept : ∀ d' ∈ ds, row.bind feed.mark = some (feed.id d') :=
        fun d' inside => not_not.mp fun differs => before ⟨d',inside,differs⟩
      rw [settleKept kept]
      obtain ⟨d',inside,differs⟩ := fresh
      have here : d' = last := by
        rcases List.mem_append.mp inside with older | only
        · exact absurd (kept d' older) differs
        · exact List.mem_singleton.mp only
      rw [if_neg (here ▸ differs)]

theorem settleCases (feed : Feed δ κ ι ρ) (row : Option ρ) (ds : List δ) : feed.settle row ds = row ∨ ∃ d ∈ ds, feed.settle row ds = feed.row d := by
  induction ds using List.reverseRecOn with
  | nil => exact Or.inl rfl
  | append_singleton ds d ih =>
    rw [settleAppend]
    split
    · rcases ih with same | ⟨d',inside,written⟩
      · exact Or.inl same
      · exact Or.inr ⟨d',List.mem_append_left _ inside,written⟩
    · exact Or.inr ⟨d,by simp,rfl⟩

/-- Two lists of the same events leave the same row iff they end in the same event. -/
theorem settleIff {fs : List δ} (same : ∀ d ∈ ds, ∀ d' ∈ ds, feed.id d = feed.id d' → feed.row d = feed.row d')
    (marked : ∀ d r, feed.row d = some r → feed.mark r = some (feed.id d)) (stores : ∀ d ∈ ds, (feed.row d).isSome)
    (fewer : fs ⊆ ds) (cover : ∀ d ∈ ds, ∃ d' ∈ fs, feed.id d' = feed.id d) :
    feed.settle row ds = feed.settle row fs ↔ (ds.map feed.id).getLast? = (fs.map feed.id).getLast? := by
  have stores' : ∀ d ∈ fs, (feed.row d).isSome := fun d inside => stores d (fewer inside)
  rw [List.getLast?_map,List.getLast?_map]
  cases latest : ds.getLast? with
  | none =>
    obtain rfl := List.getLast?_eq_none_iff.mp latest
    obtain rfl := List.subset_nil.mp fewer
    simp
  | some d =>
    obtain ⟨d',inside',_⟩ := cover d (List.mem_of_getLast? latest)
    obtain ⟨f,latest'⟩ : ∃ f, fs.getLast? = some f :=
      Option.ne_none_iff_exists'.mp fun none => by simp [List.getLast?_eq_none_iff.mp none] at inside'
    rw [latest',Option.map_some,Option.map_some]
    constructor
    · intro settled
      rw [← settleMarks marked stores latest,← settleMarks marked stores' latest',settled]
    · intro ids
      by_cases fresh : ∃ x ∈ ds, row.bind feed.mark ≠ some (feed.id x)
      · have fresh' : ∃ x ∈ fs, row.bind feed.mark ≠ some (feed.id x) := by
          obtain ⟨x,inside,differs⟩ := fresh
          obtain ⟨x',there,id⟩ := cover x inside
          exact ⟨x',there,id ▸ differs⟩
        have same' : ∀ d ∈ fs, ∀ d' ∈ fs, feed.id d = feed.id d' → feed.row d = feed.row d' :=
          fun d here d' here' => same d (fewer here) d' (fewer here')
        rw [settleLatest same marked stores fresh latest,settleLatest same' marked stores' fresh' latest']
        exact same d (List.mem_of_getLast? latest) f (fewer (List.mem_of_getLast? latest')) (Option.some.inj ids)
      · have kept : ∀ x ∈ ds, row.bind feed.mark = some (feed.id x) :=
          fun x inside => not_not.mp fun differs => fresh ⟨x,inside,differs⟩
        rw [settleKept kept,settleKept fun x inside => kept x (fewer inside)]

end Rows

section Store

variable [DecidableEq κ]

def put (store : κ → Option ρ) (d : δ) : κ → Option ρ :=
  match feed.row d with
  | none => store
  | some r => Function.update store (feed.target d) (some r)

open Classical in
noncomputable def deliver (store : κ → Option ρ) (d : δ) : κ → Option ρ :=
  if ∃ k, (store k).bind feed.mark = some (feed.id d) then store else feed.put store d

noncomputable def deliverAll (store : κ → Option ρ) (ds : List δ) : κ → Option ρ := ds.foldl feed.deliver store

/-- The events that are stored in `k`. -/
def stored (k : κ) (ds : List δ) : List δ := ds.filter fun d => feed.target d = k ∧ (feed.row d).isSome

variable {feed} {store : κ → Option ρ} {ds : List δ} {d : δ} {k : κ}

omit [DecidableEq ι] in
theorem memStored : d ∈ feed.stored k ds ↔ d ∈ ds ∧ feed.target d = k ∧ (feed.row d).isSome := by
  simp [stored]

omit [DecidableEq ι] in
theorem storedAppend : feed.stored k (ds ++ [d]) =
    if feed.target d = k ∧ (feed.row d).isSome then feed.stored k ds ++ [d] else feed.stored k ds := by
  simp only [stored,List.filter_append,List.filter_cons,List.filter_nil,decide_eq_true_eq]
  split <;> simp

/-- An event is remembered by its own row only. -/
theorem remembersTarget (coherent : feed.Coherent store (ds ++ [d]))
    (remembers : (feed.settle (store k) (feed.stored k ds)).bind feed.mark = some (feed.id d)) : feed.target d = k := by
  obtain ⟨r,found,mark⟩ := Option.bind_eq_some_iff.mp remembers
  have last : d ∈ ds ++ [d] := by simp
  rcases settleCases feed (store k) (feed.stored k ds) with same | ⟨d',inside,written⟩
  · exact coherent.remembered k r (same ▸ found) d last mark
  · obtain ⟨earlier,here,_⟩ := memStored.mp inside
    have id := (coherent.marked d' r (written ▸ found)).symm.trans mark
    exact (coherent.same d' (List.mem_append_left _ earlier) d last (Option.some.inj id)).1 ▸ here

theorem deliverAllSettles (coherent : feed.Coherent store ds) (k : κ) :
    feed.deliverAll store ds k = feed.settle (store k) (feed.stored k ds) := by
  induction ds using List.reverseRecOn generalizing k with
  | nil => rfl
  | append_singleton ds d ih =>
    have before := ih (coherentSubset coherent (List.subset_append_left _ _))
    have latest : feed.deliverAll store (ds ++ [d]) = feed.deliver (feed.deliverAll store ds) d := by
      simp only [deliverAll,List.foldl_append,List.foldl_cons,List.foldl_nil]
    rw [latest,storedAppend]
    unfold deliver
    by_cases known : ∃ k', (feed.deliverAll store ds k').bind feed.mark = some (feed.id d)
    · rw [if_pos known]
      obtain ⟨k',remembers⟩ := known
      rw [before k'] at remembers
      obtain rfl := remembersTarget coherent remembers
      split
      · rename_i mine
        obtain rfl := mine.1
        rw [settleAppend,if_pos remembers]
        exact before _
      · exact before k
    · rw [if_neg known,put]
      cases row : feed.row d with
      | none =>
        rw [if_neg (by simp)]
        exact before k
      | some r =>
        dsimp only
        by_cases mine : feed.target d = k
        · subst mine
          have unknown := fun remembers => known ⟨feed.target d,remembers⟩
          rw [Function.update_self,if_pos (by simp),settleAppend,← before,if_neg unknown,row]
        · rw [Function.update_of_ne (Ne.symm mine),if_neg (by simp [mine])]
          exact before k

/-- Replays leave the store as it is iff for each row the event delivered last is the one
that has first been delivered last. -/
theorem replaysIff (coherent : feed.Coherent store ds) :
    (∀ k, feed.deliverAll store ds k = feed.deliverAll store (feed.firsts ds) k) ↔
      ∀ k, ((feed.stored k ds).map feed.id).getLast? = ((feed.stored k (feed.firsts ds)).map feed.id).getLast? := by
  refine forall_congr' fun k => ?_
  rw [deliverAllSettles coherent,deliverAllSettles (coherentSubset coherent (firstsSubset feed ds))]
  refine settleIff ?_ coherent.marked (fun d inside => (memStored.mp inside).2.2) ?_ ?_
  · exact fun d here d' here' id => (coherent.same d (memStored.mp here).1 d' (memStored.mp here').1 id).2
  · intro d inside
    obtain ⟨kept,rest⟩ := memStored.mp inside
    exact memStored.mpr ⟨firstsSubset feed ds kept,rest⟩
  · intro d inside
    obtain ⟨here,target,stores⟩ := memStored.mp inside
    obtain ⟨d',kept,id⟩ := firstsCover feed here
    obtain ⟨target',row'⟩ := coherent.same d' (firstsSubset feed ds kept) d here id
    exact ⟨d',memStored.mpr ⟨kept,target'.trans target,row' ▸ stores⟩,id⟩

end Store

end Feed

end Workflow
