import Mathlib

/-! Amounts collected under names: entries in the order in which the names came first,
as an ordered map holds them, and their totals. -/
namespace Workflow.Buckets

variable {κ U ρ : Type} [DecidableEq κ]

def get? (name : κ) : List (κ × Int) → Option Int
  | [] => none
  | (key,amount) :: rest => if key = name then some amount else get? name rest

def set (name : κ) (amount : Int) : List (κ × Int) → List (κ × Int)
  | [] => [(name,amount)]
  | (key,old) :: rest => if key = name then (key,amount) :: rest else (key,old) :: set name amount rest

def table (name : U → κ) (units : List U) (amount : U → Int) : List (κ × Int) := units.map fun u => (name u,amount u)

section Table
variable {name : U → κ}

theorem setFresh (injective : Function.Injective name) {units : List U} (amount : U → Int) {u : U} (fresh : u ∉ units) (new : Int) :
    set (name u) new (table name units amount) = table name units amount ++ [(name u,new)] := by
  induction units with
  | nil => rfl
  | cons v units ih =>
      obtain ⟨other,rest⟩ := not_or.mp (mt List.mem_cons.mpr fresh)
      rw [table,List.map_cons,set,if_neg fun same => other (injective same).symm,← table,ih rest]
      rfl

theorem getTable (injective : Function.Injective name) {units : List U} (amount : U → Int) {u : U} (inside : u ∈ units) :
    get? (name u) (table name units amount) = some (amount u) := by
  induction units with
  | nil => cases inside
  | cons v units ih =>
      rw [table,List.map_cons,get?]
      split
      · rename_i same
        rw [injective same]
      · rename_i other
        exact ih ((List.mem_cons.mp inside).resolve_left fun same => other (same ▸ rfl))

variable [DecidableEq U]

theorem setTable (injective : Function.Injective name) {units : List U} (distinct : units.Nodup) (amount : U → Int) {u : U} (inside : u ∈ units) (new : Int) :
    set (name u) new (table name units amount) = table name units fun v => if v = u then new else amount v := by
  induction units with
  | nil => cases inside
  | cons v units ih =>
      obtain ⟨fresh,distinct⟩ := List.nodup_cons.mp distinct
      rw [table,List.map_cons,set]
      split
      · rename_i same
        obtain rfl := injective same
        rw [table,List.map_cons,if_pos rfl]
        refine congrArg _ (List.map_congr_left fun w here => ?_)
        rw [if_neg fun same : w = v => fresh (same ▸ here)]
      · rename_i other
        have apart : v ≠ u := fun same => other (same ▸ rfl)
        rw [← table,ih distinct ((List.mem_cons.mp inside).resolve_left apart.symm),table,table,List.map_cons,if_neg apart]

end Table

section Tally
variable [DecidableEq U] (unit : ρ → U) (value : ρ → Int)

def sumOf (rows : List ρ) (u : U) : Int := ((rows.filter fun r => unit r = u).map value).sum

def add (name : κ) (amount : Int) (entries : List (κ × Int)) : List (κ × Int) :=
  set name ((get? name entries).getD 0 + amount) entries

variable {unit value}

theorem sumCons (r : ρ) (rows : List ρ) (u : U) : sumOf unit value (r :: rows) u = (if u = unit r then value r else 0) + sumOf unit value rows u := by
  rw [sumOf,List.filter_cons,sumOf]
  by_cases same : unit r = u
  · rw [if_pos (decide_eq_true same),if_pos same.symm,List.map_cons,List.sum_cons]
  · rw [if_neg (by simpa using same),if_neg fun eq => same eq.symm,Int.zero_add]

/-- Rows whose units are all in the table add up there, each at its own entry. -/
theorem tallyTable {name : U → κ} (injective : Function.Injective name) {units : List U} (distinct : units.Nodup) {rows : List ρ}
    (covered : ∀ r ∈ rows, unit r ∈ units) (amount : U → Int) :
    rows.foldl (fun entries r => add (name (unit r)) (value r) entries) (table name units amount) =
      table name units fun u => amount u + sumOf unit value rows u := by
  induction rows generalizing amount with
  | nil => simp [sumOf]
  | cons r rows ih =>
      obtain ⟨here,rest⟩ := List.forall_mem_cons.mp covered
      rw [List.foldl_cons,add,getTable injective amount here,setTable injective distinct amount here,ih rest]
      refine congrArg (table name units) (funext fun u => ?_)
      rw [sumCons,Option.getD_some]
      split
      · rename_i same
        rw [same,Int.add_assoc]
      · rw [Int.zero_add]

theorem indicatorSum {units : List U} (distinct : units.Nodup) {u : U} (inside : u ∈ units) (amount : Int) :
    (units.map fun v => if v = u then amount else 0).sum = amount := by
  induction units with
  | nil => cases inside
  | cons v units ih =>
      obtain ⟨fresh,distinct⟩ := List.nodup_cons.mp distinct
      rw [List.map_cons,List.sum_cons]
      obtain rfl | later := List.mem_cons.mp inside
      · have none : (units.map fun v => if v = u then amount else 0).sum = 0 := by
          refine List.sum_eq_zero fun x here => ?_
          obtain ⟨w,there,rfl⟩ := List.mem_map.mp here
          exact if_neg fun same : w = u => fresh (same ▸ there)
        rw [none,if_pos rfl,Int.add_zero]
      · rw [ih distinct later,if_neg fun same : v = u => fresh (same ▸ later),Int.zero_add]

/-- The sums over the units are the sum over the rows. -/
theorem sumUnits {units : List U} (distinct : units.Nodup) {rows : List ρ} (covered : ∀ r ∈ rows, unit r ∈ units) :
    (units.map (sumOf unit value rows)).sum = (rows.map value).sum := by
  induction rows with
  | nil =>
      refine List.sum_eq_zero fun x here => ?_
      obtain ⟨u,_,rfl⟩ := List.mem_map.mp here
      rfl
  | cons r rows ih =>
      obtain ⟨here,rest⟩ := List.forall_mem_cons.mp covered
      rw [List.map_cons,List.sum_cons,← ih rest,← indicatorSum distinct here (value r),← List.sum_map_add]
      exact congrArg List.sum (List.map_congr_left fun u _ => sumCons r rows u)

end Tally
end Workflow.Buckets
