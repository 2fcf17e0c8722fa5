import Mathlib

/-! Bits in groups of one width. A number of that many bits is the group it is written
as, and the groups of a text of bits, with zeros behind the last one, join to the text. -/
namespace Workflow.BitGroups

variable {w : Nat}

/-- The lowest bits of a number, the highest of them first. -/
def bits : Nat → Nat → List Bool
  | 0, _ => []
  | w + 1, n => n.testBit w :: bits w n

def number (group : List Bool) : Nat := group.foldl (fun n bit => 2 * n + bit.toNat) 0

def padded (w : Nat) (group : List Bool) : List Bool := group ++ List.replicate (w - group.length) false

/-- The groups of the pending bits and of those that follow. -/
def groups (w : Nat) : List Bool → List Bool → List (List Bool)
  | [], [] => []
  | pending, [] => [padded w pending]
  | pending, bit :: rest =>
      if pending.length + 1 = w then (pending ++ [bit]) :: groups w [] rest else groups w (pending ++ [bit]) rest

@[simp] theorem bitsLength (n : Nat) : (bits w n).length = w := by
  induction w with
  | zero => rfl
  | succ w ih => simp [bits,ih]

theorem foldNumber (group : List Bool) (start : Nat) :
    group.foldl (fun n bit => 2 * n + bit.toNat) start = start * 2 ^ group.length + number group := by
  induction group generalizing start with
  | nil => simp [number]
  | cons bit group ih =>
      rw [number,List.foldl_cons,ih,List.foldl_cons,ih (2 * 0 + _),List.length_cons,pow_succ]
      ring

theorem numberCons (bit : Bool) (group : List Bool) : number (bit :: group) = bit.toNat * 2 ^ group.length + number group := by
  rw [number,List.foldl_cons,foldNumber,mul_zero,zero_add]

theorem numberAppend (front group : List Bool) : number (front ++ group) = number front * 2 ^ group.length + number group := by
  rw [number,List.foldl_append,foldNumber]
  rfl

theorem numberBits (n : Nat) : number (bits w n) = n % 2 ^ w := by
  induction w with
  | zero => simp [bits,number,Nat.mod_one]
  | succ w ih =>
      rw [bits,numberCons,bitsLength,ih,Nat.toNat_testBit,Nat.mod_pow_succ]
      ring

theorem numberLess (group : List Bool) : number group < 2 ^ group.length := by
  induction group with
  | nil => simp [number]
  | cons bit group ih =>
      rw [numberCons,List.length_cons,pow_succ]
      cases bit with
      | false => simp; omega
      | true => simp; omega

theorem bitsCongr {n m : Nat} (same : ∀ i < w, n.testBit i = m.testBit i) : bits w n = bits w m := by
  induction w with
  | zero => rfl
  | succ w ih => rw [bits,bits,same w (by omega),ih fun i less => same i (by omega)]

/-- A group is read back from its number. -/
theorem bitsNumber (group : List Bool) : bits group.length (number group) = group := by
  induction group with
  | nil => rfl
  | cons bit group ih =>
      have less : number group < 2 ^ group.length := numberLess group
      have parts : number (bit :: group) = 2 ^ group.length * bit.toNat + number group := by rw [numberCons,mul_comm]
      have low : bits group.length (number (bit :: group)) = bits group.length (number group) :=
        bitsCongr fun i inside => by rw [parts,Nat.testBit_two_pow_mul_add _ less,if_pos inside]
      have high : (number (bit :: group)).testBit group.length = bit := by
        rw [parts,Nat.testBit_two_pow_mul_add _ less,if_neg (by omega),Nat.sub_self]
        cases bit <;> rfl
      rw [List.length_cons,bits,high,low,ih]

section Groups

variable {pending group rest : List Bool}

theorem groupsCons (bit : Bool) : groups w pending (bit :: rest) =
    if pending.length + 1 = w then (pending ++ [bit]) :: groups w [] rest else groups w (pending ++ [bit]) rest := by
  cases pending <;> rfl

theorem groupsFull (width : pending.length + group.length = w) (short : pending.length < w) :
    groups w pending (group ++ rest) = (pending ++ group) :: groups w [] rest := by
  induction group generalizing pending with
  | nil => exact absurd width short.ne
  | cons bit group ih =>
      rw [List.length_cons] at width
      rw [List.cons_append,groupsCons]
      split
      · rename_i full
        have last : group = [] := List.eq_nil_of_length_eq_zero (by omega)
        rw [last,List.nil_append]
      · rename_i more
        rw [ih (by simp; omega) (by simp; omega),List.append_assoc,List.singleton_append]

theorem groupsShort (short : pending.length + group.length < w) :
    groups w pending (group ++ rest) = groups w (pending ++ group) rest := by
  induction group generalizing pending with
  | nil => rw [List.nil_append,List.append_nil]
  | cons bit group ih =>
      rw [List.length_cons] at short
      rw [List.cons_append,groupsCons,if_neg (by omega),ih (by simp; omega),List.append_assoc,List.singleton_append]

/-- The groups join to the bits, with fewer zeros than one group behind them. -/
theorem groupsJoin (short : pending.length < w) :
    ∃ zeros < w, (groups w pending rest).flatten = pending ++ rest ++ List.replicate zeros false := by
  induction rest generalizing pending with
  | nil =>
      cases pending with
      | nil => exact ⟨0,short,rfl⟩
      | cons bit pending =>
          refine ⟨w - (pending.length + 1),by omega,?_⟩
          simp [groups,padded]
  | cons bit rest ih =>
      rw [groupsCons]
      split
      · obtain ⟨zeros,less,joined⟩ := @ih [] (by simp; omega)
        exact ⟨zeros,less,by simp [joined]⟩
      · obtain ⟨zeros,less,joined⟩ := @ih (pending ++ [bit]) (by simp; omega)
        exact ⟨zeros,less,by simp [joined]⟩

theorem groupsWidth (short : pending.length < w) : ∀ group ∈ groups w pending rest, group.length = w := by
  induction rest generalizing pending with
  | nil =>
      cases pending with
      | nil => exact nofun
      | cons bit pending =>
          refine List.forall_mem_singleton.mpr ?_
          rw [padded,List.length_append,List.length_replicate]
          omega
  | cons bit rest ih =>
      rw [groupsCons]
      split
      · rename_i full
        refine List.forall_mem_cons.mpr ⟨by simp [full],ih (by simp; omega)⟩
      · exact ih (by simp; omega)

theorem groupsAppend (whole : w ∣ pending.length + group.length) (short : pending.length < w) :
    groups w pending (group ++ rest) = groups w pending group ++ groups w [] rest := by
  induction group generalizing pending with
  | nil =>
      have none : pending = [] := List.eq_nil_of_length_eq_zero (Nat.eq_zero_of_dvd_of_lt whole short)
      subst none
      rfl
  | cons bit group ih =>
      rw [List.cons_append,groupsCons,groupsCons]
      split
      · rename_i full
        have rest : w ∣ group.length := by
          rw [List.length_cons,← Nat.add_assoc,Nat.add_right_comm,full] at whole
          exact (Nat.dvd_add_right (Nat.dvd_refl w)).mp whole
        rw [ih (by simpa using rest) (by simp; omega),List.cons_append]
      · exact ih (by simpa [Nat.add_assoc,Nat.add_comm 1] using whole) (by simp; omega)

theorem groupsFlatten {parts : List (List Bool)} (positive : 0 < w) (width : ∀ part ∈ parts, part.length = w) :
    groups w [] parts.flatten = parts := by
  induction parts with
  | nil => rfl
  | cons part parts ih =>
      obtain ⟨first,others⟩ := List.forall_mem_cons.mp width
      rw [List.flatten_cons,groupsFull (by simpa using first) positive,List.nil_append,ih others]

end Groups

end Workflow.BitGroups
