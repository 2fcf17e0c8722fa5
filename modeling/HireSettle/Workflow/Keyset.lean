import Mathlib

/-! Reading a list page by page when it is merged from several sources, each cut
to a window of its newest rows. The order of rows of one time is the database's
own choice, so a window is the start of any arrangement that is newest first. -/
namespace Workflow

structure Arrangement (ρ : Type) (time : ρ → Int) where
  arrange : List ρ → List ρ
  perm : ∀ rows, (arrange rows).Perm rows
  newestFirst : ∀ rows, (arrange rows).Pairwise (fun a b => time b ≤ time a)

def Arrangement.by {ρ : Type} {time : ρ → Int} (le : ρ → ρ → Prop) [DecidableRel le] (total : ∀ a b, le a b ∨ le b a)
    (trans : ∀ a b c, le a b → le b c → le a c) (newest : ∀ a b, le a b → time b ≤ time a) : Arrangement ρ time where
  arrange rows := rows.insertionSort le
  perm rows := List.perm_insertionSort le rows
  newestFirst rows :=
    have : Std.Total le := ⟨total⟩
    have : IsTrans ρ le := ⟨trans⟩
    (List.pairwise_insertionSort le rows).imp (newest _ _)

section Window
variable {α : Type} {time : α → Int}

def Windowed (time : α → Int) (n : Nat) (rows answer : List α) : Prop :=
  ∃ all : List α, all.Perm rows ∧ all.Pairwise (fun a b => time b ≤ time a) ∧ answer = all.take n

theorem windowSubset {n : Nat} {rows answer : List α} (window : Windowed time n rows answer) {x : α} (inside : x ∈ answer) :
    x ∈ rows := by
  obtain ⟨all,same,_,rfl⟩ := window
  exact same.subset (List.mem_of_mem_take inside)

theorem windowNodup {n : Nat} {rows answer : List α} (window : Windowed time n rows answer) (distinct : rows.Nodup) :
    answer.Nodup := by
  obtain ⟨all,same,_,rfl⟩ := window
  exact (same.nodup_iff.mpr distinct).sublist (List.take_sublist n all)

theorem windowLength {n : Nat} {rows answer : List α} (window : Windowed time n rows answer) :
    answer.length = min n rows.length := by
  obtain ⟨all,same,_,rfl⟩ := window
  rw [List.length_take,same.length_eq]

theorem windowKeeps {n : Nat} {rows answer : List α} (window : Windowed time n rows answer) {x : α} (inside : x ∈ rows)
    (few : rows.countP (fun y => time x ≤ time y) ≤ n) : x ∈ answer := by
  obtain ⟨all,same,sorted,rfl⟩ := window
  by_contra missed
  have later : x ∈ all.drop n := by
    rw [← same.mem_iff,← List.take_append_drop n all] at inside
    exact (List.mem_append.mp inside).resolve_left missed
  rw [← List.take_append_drop n all,List.pairwise_append] at sorted
  have full : (all.take n).length = n := by
    have := List.length_pos_of_mem later
    rw [List.length_drop] at this
    rw [List.length_take]
    omega
  have early : (all.take n).countP (fun y => time x ≤ time y) = n := by
    rw [List.countP_eq_length.mpr fun y here => decide_eq_true (sorted.2.2 y here x later),full]
  have late : 0 < (all.drop n).countP (fun y => time x ≤ time y) :=
    List.countP_pos_iff.mpr ⟨x,later,decide_eq_true (le_refl _)⟩
  rw [← same.countP_eq,← List.take_append_drop n all,List.countP_append,early] at few
  omega

-- x stands behind all other rows of its time
def Behind (time : α → Int) (x a b : α) : Prop := time b < time a ∨ (time a = time b ∧ (a = x → b = x))

theorem behindTotal (x a b : α) : Behind time x a b ∨ Behind time x b a := by
  unfold Behind
  obtain less | same | more := lt_trichotomy (time a) (time b)
  · exact Or.inr (Or.inl less)
  · grind
  · exact Or.inl (Or.inl more)

theorem behindTrans (x a b c : α) (first : Behind time x a b) (second : Behind time x b c) : Behind time x a c := by
  unfold Behind at *
  grind

theorem behindNewest (x a b : α) (first : Behind time x a b) : time b ≤ time a := by
  obtain older | ⟨same,_⟩ := first
  · exact older.le
  · exact same.ge

theorem windowMisses {n : Nat} {rows all : List α} {x : α} (distinct : rows.Nodup) (same : all.Perm rows)
    (sorted : all.Pairwise (Behind time x)) (many : n < rows.countP (fun y => time x ≤ time y)) : x ∉ all.take n := by
  intro inside
  obtain ⟨early,late,split⟩ := List.append_of_mem inside
  have whole : all = early ++ x :: (late ++ all.drop n) := by
    rw [← List.cons_append,← List.append_assoc,← split,List.take_append_drop]
  have short : early.length < n := by
    have := congrArg List.length split
    rw [List.length_take,List.length_append,List.length_cons] at this
    omega
  have only : (late ++ all.drop n).countP (fun y => time x ≤ time y) = 0 := by
    rw [List.countP_eq_zero]
    intro y there above
    have distinct := (whole ▸ same.nodup_iff.mpr distinct : (early ++ x :: (late ++ all.drop n)).Nodup)
    have apart : y ≠ x := fun equal => (List.nodup_cons.mp (List.nodup_append.mp distinct).2.1).1 (equal ▸ there)
    rw [whole,List.pairwise_append,List.pairwise_cons] at sorted
    obtain older | ⟨_,moved⟩ := sorted.2.1.1 y there
    · exact absurd (of_decide_eq_true above) (not_le.mpr older)
    · exact apart (moved rfl)
  rw [← same.countP_eq,whole,List.countP_append,List.countP_cons,only] at many
  have bound := List.countP_le_length (p := fun y => decide (time x ≤ time y)) (l := early)
  split_ifs at many <;> omega

end Window

section Merged
variable {α S : Type}

theorem filterSplit (n : Nat) (rows : List α) (p : α → Bool) :
    rows.filter p = (rows.take n).filter p ++ (rows.drop n).filter p := by
  rw [← List.filter_append,List.take_append_drop]

theorem takeOfSublist {part whole : List α} (n : Nat) (inside : part.Sublist whole) (distinct : whole.Nodup)
    (covers : ∀ x ∈ whole.take n, x ∈ part) : part.take n = whole.take n := by
  induction n generalizing part whole with
  | zero => rw [List.take_zero,List.take_zero]
  | succ n ih =>
      cases inside with
      | slnil => rfl
      | cons a rest => cases (List.nodup_cons.mp distinct).1 (rest.subset (covers a List.mem_cons_self))
      | cons_cons a rest =>
          obtain ⟨fresh,distinct⟩ := List.nodup_cons.mp distinct
          simp only [List.take_succ_cons]
          refine congrArg (a :: ·) (ih rest distinct fun x here => ?_)
          have present := covers x (List.mem_cons_of_mem a here)
          refine (List.mem_cons.mp present).resolve_left fun equal => ?_
          exact fresh (equal ▸ List.mem_of_mem_take here)

def reaches (time : α → Int) (cursor : Option α) (x : α) : Bool := cursor.all fun c => time x ≤ time c

def resume (rows : List α) (k : Nat) : Option α := (rows.take k).getLast?

variable [DecidableEq S]

def peers (time : α → Int) (kind : α → S) (rows : List α) (k : Nat) (s : S) : List α :=
  rows.filter fun y => kind y = s && reaches time (resume rows k) y

structure WholePage (time : α → Int) (kind : α → S) (take : Nat) (rows : List α) (k : Nat) : Prop where
  seen : ∀ x ∈ (rows.drop k).take take, (peers time kind rows k (kind x)).countP (fun y => time x ≤ time y) ≤ take + 1
  resumes : k + take < rows.length → ∃ x ∈ rows.drop (k + take),
    ((rows.take (k + take)).filter fun y => kind y = kind x && reaches time (resume rows k) y).length ≤ take

variable {time : α → Int} {kind : α → S} {lt : α → α → Prop} {rows : List α} {take k : Nat} {windows : S → List α}
  {fetched : List α}

theorem laterReaches (sorted : rows.Pairwise lt) (newest : ∀ a b, lt a b → time b ≤ time a) {x : α} (later : x ∈ rows.drop k) :
    reaches time (resume rows k) x = true := by
  rw [← List.take_append_drop k rows,List.pairwise_append] at sorted
  unfold reaches
  cases last : resume rows k with
  | none => rfl
  | some c => exact decide_eq_true (newest c x (sorted.2.2 c (List.mem_of_getLast? last) x later))

theorem peersLater (sorted : rows.Pairwise lt) (newest : ∀ a b, lt a b → time b ≤ time a) {x : α} (later : x ∈ rows.drop k) :
    x ∈ peers time kind rows k (kind x) :=
  List.mem_filter.mpr ⟨List.mem_of_mem_drop later,by rw [laterReaches sorted newest later,decide_eq_true rfl]; rfl⟩

variable [Std.Irrefl lt]

theorem windowAhead (sorted : rows.Pairwise lt) (newest : ∀ a b, lt a b → time b ≤ time a) {x : α}
    (window : Windowed time (take + 1) (peers time kind rows k (kind x)) (windows (kind x))) (later : x ∈ rows.drop (k + take))
    (few : ((rows.take (k + take)).filter fun y => kind y = kind x && reaches time (resume rows k) y).length ≤ take) :
    ∃ y ∈ windows (kind x), y ∈ rows.drop (k + take) := by
  by_contra unseen
  have distinct : (peers time kind rows k (kind x)).Nodup := sorted.nodup.filter _
  have wide := windowLength window
  have early : windows (kind x) ⊆ (rows.take (k + take)).filter fun y => kind y = kind x && reaches time (resume rows k) y := by
    intro y here
    obtain ⟨inside,same⟩ := List.mem_filter.mp (windowSubset window here)
    refine List.mem_filter.mpr ⟨?_,same⟩
    rw [← List.take_append_drop (k + take) rows] at inside
    exact (List.mem_append.mp inside).resolve_right fun later => unseen ⟨y,here,later⟩
  have narrow := (List.subperm_of_subset (windowNodup window distinct) early).length_le
  have more : ((rows.take (k + take)).filter fun y => kind y = kind x && reaches time (resume rows k) y).length <
      (peers time kind rows k (kind x)).length := by
    rw [peers,filterSplit (k + take) rows,List.length_append]
    refine Nat.lt_add_of_pos_right (List.length_pos_of_mem (a := x) (List.mem_filter.mpr ⟨later,?_⟩))
    exact (List.mem_filter.mp (peersLater sorted newest (List.drop_subset_drop_left rows (Nat.le_add_right k take) later))).2
  omega

theorem crowdedPage {x : α} {all : List α} (sorted : rows.Pairwise lt) (present : x ∈ (rows.drop k).take take)
    (fetches : ∀ x, x ∈ fetched ↔ x ∈ windows (kind x) ∧ x ∈ rows.drop k) (same : all.Perm (peers time kind rows k (kind x)))
    (behind : all.Pairwise (Behind time x)) (window : windows (kind x) = all.take (take + 1))
    (many : take + 1 < (peers time kind rows k (kind x)).countP (fun y => time x ≤ time y)) :
    fetched.take take ≠ (rows.drop k).take take := by
  intro page
  have missed := windowMisses (sorted.nodup.filter _) same behind many
  have found := List.mem_of_mem_take (page ▸ present : x ∈ fetched.take take)
  exact missed (window ▸ ((fetches x).mp found).1)

theorem stoppedPage (sorted : rows.Pairwise lt) (merged : fetched.Pairwise lt)
    (fetches : ∀ x, x ∈ fetched ↔ x ∈ windows (kind x) ∧ x ∈ rows.drop k)
    (window : ∀ s, windows s = (peers time kind rows k s).take (take + 1))
    (many : ∀ x ∈ rows.drop (k + take),
      take < ((rows.take (k + take)).filter fun y => kind y = kind x && reaches time (resume rows k) y).length) :
    fetched.length ≤ take := by
  have within : fetched ⊆ (rows.drop k).take take := by
    intro x here
    obtain ⟨seen,later⟩ := (fetches x).mp here
    rw [← List.take_append_drop take (rows.drop k),List.drop_drop] at later
    refine (List.mem_append.mp later).resolve_right fun ahead => ?_
    rw [window,peers,filterSplit (k + take),List.take_append_of_le_length (many x ahead)] at seen
    have early := (List.mem_filter.mp (List.mem_of_mem_take seen)).1
    have distinct := sorted.nodup
    rw [← List.take_append_drop (k + take) rows,List.nodup_append] at distinct
    exact distinct.2.2 x early x ahead rfl
  have bound := (List.subperm_of_subset merged.nodup within).length_le
  rw [List.length_take] at bound
  omega

variable [Std.Antisymm lt]

omit [Std.Irrefl lt] in
theorem notWholePage (broken : ¬ WholePage time kind take rows k) :
    (∃ x ∈ (rows.drop k).take take, take + 1 < (peers time kind rows k (kind x)).countP (fun y => time x ≤ time y)) ∨
      (k + take < rows.length ∧ ∀ x ∈ rows.drop (k + take),
        take < ((rows.take (k + take)).filter fun y => kind y = kind x && reaches time (resume rows k) y).length) := by
  by_contra neither
  obtain ⟨seen,resumes⟩ := not_or.mp neither
  refine broken ⟨fun x present => ?_,fun left => ?_⟩
  · exact Nat.not_lt.mp fun many => seen ⟨x,present,many⟩
  · by_contra none
    exact resumes ⟨left,fun x later => Nat.not_le.mp fun few => none ⟨x,later,few⟩⟩

omit [DecidableEq S] in
theorem laterIff (sorted : rows.Pairwise lt) {x : α} (inside : x ∈ rows) :
    x ∈ rows.drop k ↔ ∀ c ∈ resume rows k, lt c x := by
  rw [← List.take_append_drop k rows] at sorted inside
  have ordered := List.pairwise_append.mp sorted
  refine ⟨fun later c last => ordered.2.2 c (List.mem_of_getLast? last) x later,fun after => ?_⟩
  refine (List.mem_append.mp inside).resolve_left fun early => ?_
  obtain none | ⟨front,c,split⟩ := List.eq_nil_or_concat (rows.take k)
  · cases none ▸ early
  · rw [List.concat_eq_append] at split
    have above : lt c x := after c (by rw [resume,split,List.getLast?_append,List.getLast?_singleton]; rfl)
    rw [split] at early ordered
    obtain before | same := List.mem_append.mp early
    · cases antisymm above ((List.pairwise_append.mp ordered.1).2.2 x before c List.mem_cons_self)
      exact irrefl _ above
    · cases List.mem_singleton.mp same
      exact irrefl _ above

omit [DecidableEq S] in
theorem fetchedSublist (sorted : rows.Pairwise lt) (merged : fetched.Pairwise lt)
    (fetches : ∀ x, x ∈ fetched ↔ x ∈ windows (kind x) ∧ x ∈ rows.drop k) : fetched.Sublist (rows.drop k) :=
  List.sublist_of_subperm_of_pairwise (List.subperm_of_subset merged.nodup fun x here => ((fetches x).mp here).2) merged
    (sorted.sublist (List.drop_sublist k rows))

theorem wholePage (sorted : rows.Pairwise lt) (newest : ∀ a b, lt a b → time b ≤ time a)
    (window : ∀ s, Windowed time (take + 1) (peers time kind rows k s) (windows s)) (merged : fetched.Pairwise lt)
    (fetches : ∀ x, x ∈ fetched ↔ x ∈ windows (kind x) ∧ x ∈ rows.drop k) (whole : WholePage time kind take rows k) :
    fetched.take take = (rows.drop k).take take ∧ (take < fetched.length ↔ k + take < rows.length) := by
  have part := fetchedSublist sorted merged fetches
  have distinct : (rows.drop k).Nodup := (sorted.sublist (List.drop_sublist k rows)).nodup
  have page : fetched.take take = (rows.drop k).take take := takeOfSublist take part distinct fun x here => by
    have later := List.mem_of_mem_take here
    exact (fetches x).mpr ⟨windowKeeps (window (kind x)) (peersLater sorted newest later) (whole.seen x here),later⟩
  refine ⟨page,fun more => ?_,fun left => ?_⟩
  · have := part.length_le
    rw [List.length_drop] at this
    omega
  · obtain ⟨x,later,few⟩ := whole.resumes left
    obtain ⟨y,seen,ahead⟩ := windowAhead sorted newest (window (kind x)) later few
    have same : kind y = kind x := by
      have chosen := (List.mem_filter.mp (windowSubset (window (kind x)) seen)).2
      exact of_decide_eq_true (Bool.and_eq_true_iff.mp chosen).1
    have present : y ∈ fetched :=
      (fetches y).mpr ⟨same ▸ seen,List.drop_subset_drop_left rows (Nat.le_add_right k take) ahead⟩
    by_contra short
    rw [List.take_of_length_le (Nat.le_of_not_lt short)] at page
    rw [← List.drop_drop] at ahead
    rw [← List.take_append_drop take (rows.drop k),List.nodup_append] at distinct
    exact distinct.2.2 y (page ▸ present) y ahead rfl

end Merged

section Walk
variable {α S : Type} [DecidableEq S]

def pages (fetch : Nat → Option α → List α) (take : Nat) : Nat → Nat → Option α → Option (List α)
  | 0, _, _ => none
  | fuel + 1, request, cursor =>
      let page := (fetch request cursor).take take
      if take < (fetch request cursor).length then
        (pages fetch take fuel (request + 1) page.getLast?).map (page ++ ·)
      else some page

structure RightPage (take : Nat) (rows : List α) (k : Nat) (fetched : List α) : Prop where
  page : fetched.take take = (rows.drop k).take take
  more : take < fetched.length ↔ k + take < rows.length

theorem resumeNext {take k : Nat} {rows : List α} (some : 0 < take) (left : k < rows.length) :
    ((rows.drop k).take take).getLast? = resume rows (k + take) := by
  have filled : (rows.drop k).take take ≠ [] := by
    rw [← List.length_pos_iff,List.length_take,List.length_drop]
    omega
  rw [resume,List.take_add,List.getLast?_append,List.getLast?_eq_some_getLast filled,Option.some_or]

theorem pagesRight {fetch : Nat → Option α → List α} {take : Nat} {rows : List α} (some : 0 < take)
    (right : ∀ request k, take ∣ k → RightPage take rows k (fetch request (resume rows k))) (fuel request k : Nat) (whole : take ∣ k)
    (enough : rows.length < k + fuel) (started : 0 < fuel) :
    pages fetch take fuel request (resume rows k) = .some (rows.drop k) := by
  induction fuel generalizing request k with
  | zero => omega
  | succ fuel ih =>
      obtain ⟨page,more⟩ := right request k whole
      rw [pages]
      split
      · rename_i full
        have left := more.mp full
        rw [page,resumeNext some (by omega),ih (request + 1) (k + take) (Nat.dvd_add whole (Nat.dvd_refl take)) (by omega) (by omega),
          Option.map_some,← List.drop_drop,List.take_append_drop]
      · rename_i last
        rw [page,List.take_of_length_le]
        have := more.not.mp last
        rw [List.length_drop]
        omega

theorem pagesOnwards {fetch : Nat → Option α → List α} {take : Nat} {rows : List α} {fuel request k : Nat} (some : 0 < take)
    (part : (fetch request (resume rows k)).Sublist (rows.drop k))
    (delivered : pages fetch take fuel request (resume rows k) = .some (rows.drop k)) :
    RightPage take rows k (fetch request (resume rows k)) ∧
      (k + take < rows.length → ∃ rest, pages fetch take rest (request + 1) (resume rows (k + take)) = .some (rows.drop (k + take))) := by
  cases fuel with
  | zero => cases delivered
  | succ fuel =>
      rw [pages] at delivered
      split at delivered
      · rename_i full
        obtain ⟨rest,continued,joined⟩ := Option.map_eq_some_iff.mp delivered
        have short := part.length_le
        rw [List.length_drop] at short
        have wide : ((fetch request (resume rows k)).take take).length = take := by
          rw [List.length_take]
          omega
        have page : (fetch request (resume rows k)).take take = (rows.drop k).take take := by
          rw [← joined,List.take_left' wide]
        have after : rest = rows.drop (k + take) := by
          rw [← List.drop_drop,← joined,List.drop_left' wide]
        rw [page,resumeNext some (by omega)] at continued
        exact ⟨⟨page,⟨fun _ => by omega,fun _ => full⟩⟩,fun _ => ⟨fuel,after ▸ continued⟩⟩
      · rename_i last
        have final : (fetch request (resume rows k)).take take = rows.drop k := Option.some.inj delivered
        have all : rows.length ≤ k + take := by
          have := congrArg List.length final
          rw [List.length_take,List.length_drop] at this
          omega
        refine ⟨⟨?_,⟨fun more => absurd more last,fun more => by omega⟩⟩,fun more => by omega⟩
        rw [final,List.take_of_length_le]
        rw [List.length_drop]
        omega

theorem everyPageRight {fetch : Nat → Option α → List α} {take : Nat} {rows : List α} {fuel : Nat} (some : 0 < take)
    (part : ∀ request k, (fetch request (resume rows k)).Sublist (rows.drop k))
    (delivered : pages fetch take fuel 0 none = .some rows) (j : Nat) (left : j * take < rows.length ∨ j = 0) :
    RightPage take rows (j * take) (fetch j (resume rows (j * take))) := by
  have reached : ∀ j, j * take < rows.length ∨ j = 0 →
      ∃ fuel, pages fetch take fuel j (resume rows (j * take)) = .some (rows.drop (j * take)) := by
    intro j
    induction j with
    | zero =>
        intro _
        rw [Nat.zero_mul]
        exact ⟨fuel,delivered⟩
    | succ j ih =>
        intro left
        rw [Nat.succ_mul] at left ⊢
        obtain ⟨fuel,onwards⟩ := ih (by omega)
        exact (pagesOnwards some (part j (j * take)) onwards).2 (by omega)
  obtain ⟨fuel,onwards⟩ := reached j left
  exact (pagesOnwards some (part j (j * take)) onwards).1

variable {lt : α → α → Prop} [Std.Irrefl lt] [Std.Antisymm lt]

theorem sublistUpTo {front early late : List α} {last : α} (part : (front ++ [last]).Sublist (early ++ last :: late))
    (sorted : (early ++ last :: late).Pairwise lt) : (front ++ [last]).Sublist (early ++ [last]) := by
  have ordered := sorted.sublist part
  have within : front ++ [last] ⊆ early ++ [last] := by
    intro x here
    obtain before | same := List.mem_append.mp here
    · obtain there | there := List.mem_append.mp (part.subset here)
      · exact List.mem_append_left _ there
      · have lower : lt x last := (List.pairwise_append.mp ordered).2.2 x before last List.mem_cons_self
        obtain rfl | after := List.mem_cons.mp there
        · cases irrefl _ lower
        · have upper : lt last x := (List.pairwise_cons.mp (List.pairwise_append.mp sorted).2.1).1 x after
          cases antisymm lower upper
          cases irrefl _ lower
    · exact List.mem_append_right _ same
  have base : (early ++ [last]).Pairwise lt :=
    sorted.sublist ((List.Sublist.refl early).append (List.cons_sublist_cons.mpr (List.nil_sublist late)))
  exact List.sublist_of_subperm_of_pairwise (List.subperm_of_subset ordered.nodup within) ordered base

theorem pagesEnd {fetch : Nat → Option α → List α} {take : Nat} {rows : List α} (some : 0 < take) (sorted : rows.Pairwise lt)
    (part : ∀ request k, (fetch request (resume rows k)).Sublist (rows.drop k)) (fuel request k : Nat)
    (enough : rows.length < k + fuel) (inside : k ≤ rows.length) :
    ∃ items, pages fetch take fuel request (resume rows k) = .some items ∧ items.Sublist (rows.drop k) := by
  induction fuel generalizing request k with
  | zero => omega
  | succ fuel ih =>
      rw [pages]
      split
      · rename_i full
        obtain none | ⟨front,last,page⟩ := List.eq_nil_or_concat ((fetch request (resume rows k)).take take)
        · have wide := congrArg List.length none
          rw [List.length_take,List.length_nil] at wide
          omega
        have taken := (List.take_sublist take _).trans (part request k)
        rw [List.concat_eq_append] at page
        rw [page] at taken ⊢
        obtain ⟨early,late,split⟩ := List.append_of_mem (taken.subset (List.mem_append_right front List.mem_cons_self))
        have next : rows = (rows.take k ++ early ++ [last]) ++ late := by
          rw [List.append_assoc,List.append_assoc,List.singleton_append,← split,List.take_append_drop]
        have length : (rows.take k ++ early ++ [last]).length = k + early.length + 1 := by
          rw [List.length_append,List.length_append,List.length_take,List.length_singleton]
          omega
        have total := congrArg List.length next
        rw [List.length_append,length] at total
        have onwards := ih (request + 1) (k + early.length + 1) (by omega) (by omega)
        have after : resume rows (k + early.length + 1) = .some last := by
          rw [resume,next,List.take_left' length,List.getLast?_append,List.getLast?_singleton,Option.some_or]
        obtain ⟨rest,ended,tail⟩ := onwards
        have base : (rows.drop k).Pairwise lt := sorted.sublist (List.drop_sublist k rows)
        rw [split] at taken base ⊢
        rw [after] at ended
        rw [next,List.drop_left' length] at tail
        refine ⟨front ++ [last] ++ rest,?_,?_⟩
        · rw [List.getLast?_append,List.getLast?_singleton,Option.some_or,ended,Option.map_some]
        · rw [List.append_cons early last late]
          exact (sublistUpTo taken base).append tail
      · exact ⟨_,rfl,(List.take_sublist _ _).trans (part request k)⟩

end Walk
end Workflow
