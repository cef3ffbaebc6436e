import Mathlib
import FilterAssist.Text.LowerCase

set_option autoImplicit false

/-!
Lower case is final: a text in lower case is its own lower-case form, and it is as long as what it was
made from unless that had a dotted capital.
-/
namespace FilterAssist

def Settled (c : Char) : Prop :=
  c ≠ 'Σ' ∧ lowerChar c = [c]

instance (c : Char) : Decidable (Settled c) :=
  inferInstanceAs (Decidable (_ ∧ _))

def changedRuns : List CaseRun :=
  ⟨0x41, 0x5a, 1, 32⟩ :: ⟨0x130, 0x130, 1, 0⟩ :: ⟨0x3a3, 0x3a3, 1, 32⟩ :: lowerRuns

-- Codes from `low` to `high` that lie beside a run, or between its characters where both take every second code; a
-- single code is of either kind. In natural numbers throughout, since the table is evaluated.
def CaseRun.spares (low high stride : Nat) (other : CaseRun) : Bool :=
  Nat.blt high other.first || Nat.blt other.last low ||
    ((stride == 2 || low == high) && other.stride == 2 && (low + other.first) % 2 == 1)

def CaseRun.misses (run other : CaseRun) : Bool :=
  other.spares (run.first + run.shift).toNat (run.last + run.shift).toNat run.stride

theorem missed_not_covered (run other : CaseRun) (code : Nat) (missed : run.misses other = true)
    (covered : run.covers code = true) (positive : 0 ≤ run.first + run.shift) :
    other.covers (code + run.shift).toNat = false := by
  simp only [CaseRun.covers, Bool.and_eq_true, decide_eq_true_eq, beq_iff_eq] at covered
  obtain ⟨⟨first, last⟩, aligned⟩ := covered
  by_contra hit
  simp only [CaseRun.covers, Bool.not_eq_false, Bool.and_eq_true, decide_eq_true_eq, beq_iff_eq] at hit
  obtain ⟨⟨otherFirst, otherLast⟩, otherAligned⟩ := hit
  simp only [CaseRun.misses, CaseRun.spares, Nat.blt_eq, Bool.or_eq_true, Bool.and_eq_true, beq_iff_eq] at missed
  rcases missed with (before | after) | ⟨⟨stride, otherStride⟩, odd⟩
  · omega
  · omega
  · rw [otherStride] at otherAligned
    rcases stride with two | single
    · rw [two] at aligned
      omega
    · omega

theorem runs_missed : lowerRuns.all (fun run => changedRuns.all run.misses) = true := by
  decide +kernel

theorem runs_positive : lowerRuns.all (fun run => decide (0 ≤ run.first + run.shift)) = true := by
  decide +kernel

theorem small_unchanged (c : Char) (outside : CaseRun.covers ⟨0x41, 0x5a, 1, 32⟩ c.toNat = false) : c.toLower = c := by
  unfold Char.toLower
  split
  · rename_i capital
    have first : 65 ≤ c.toNat := capital.1
    have last : c.toNat ≤ 90 := capital.2
    simp [CaseRun.covers, Nat.mod_one] at outside
    omega
  · rfl

theorem unchanged_settled (c : Char) (outside : ∀ run ∈ changedRuns, run.covers c.toNat = false) : Settled c := by
  obtain ⟨letter, others⟩ := List.forall_mem_cons.mp outside
  obtain ⟨dotted, others⟩ := List.forall_mem_cons.mp others
  obtain ⟨sigma, table⟩ := List.forall_mem_cons.mp others
  have none : lowerRuns.find? (fun run => run.covers c.toNat) = none := by
    rw [List.find?_eq_none]
    intro run member
    simp [table run member]
  constructor
  · rintro rfl
    exact absurd sigma (by decide)
  · unfold lowerChar
    split
    · rw [small_unchanged c letter]
    · split
      · rename_i same
        rw [same] at dotted
        exact absurd dotted (by decide)
      · rw [none]

theorem run_form_settled (run : CaseRun) (code : Nat) (member : run ∈ lowerRuns) (covered : run.covers code = true) :
    Settled (Char.ofNat (code + run.shift).toNat) := by
  have missed := List.all_eq_true.mp (List.all_eq_true.mp runs_missed run member)
  have low := List.all_eq_true.mp runs_positive run member
  rw [decide_eq_true_eq] at low
  by_cases valid : (code + run.shift).toNat.isValidChar
  · apply unchanged_settled
    intro other changed
    rw [Char.toNat_ofNat, if_pos valid]
    exact missed_not_covered run other code (missed other changed) covered low
  · -- A code that is no character stands for the null character.
    rw [Char.ofNat, dif_neg valid]
    decide

theorem lower_char_settled (c d : Char) (other : c ≠ 'Σ') (member : d ∈ lowerChar c) : Settled d := by
  unfold lowerChar at member
  split at member
  · rename_i ascii
    have every : ∀ code, code < 0x80 → Settled (Char.ofNat code).toLower := by decide +kernel
    have small := every c.toNat ascii
    rw [Char.ofNat_toNat] at small
    rwa [List.mem_singleton.mp member]
  · rename_i high
    split at member
    · simp only [List.mem_cons, List.not_mem_nil, or_false] at member
      rcases member with rfl | rfl <;> decide
    · rename_i undotted
      cases found : lowerRuns.find? (fun run => run.covers c.toNat) with
      | some run =>
          rw [found] at member
          obtain rfl := List.mem_singleton.mp member
          exact run_form_settled run c.toNat (List.mem_of_find?_eq_some found)
            (List.find?_some (p := fun run : CaseRun => run.covers c.toNat) found)
      | none =>
          rw [found] at member
          obtain rfl := List.mem_singleton.mp member
          refine ⟨other, ?_⟩
          rw [lowerChar, if_neg high, if_neg undotted, found]

theorem lower_from_settled (before text : Text) : ∀ d ∈ lowerFrom before text, Settled d := by
  induction text generalizing before with
  | nil => exact fun d member => (by cases member)
  | cons c rest ih =>
      intro d member
      rw [lowerFrom] at member
      rcases List.mem_append.mp member with first | later
      · split at first
        · split at first <;> (obtain rfl := List.mem_singleton.mp first; decide)
        · rename_i other
          exact lower_char_settled c d other first
      · exact ih _ d later

theorem settled_unchanged (before text : Text) (settled : ∀ c ∈ text, Settled c) : lowerFrom before text = text := by
  induction text generalizing before with
  | nil => rfl
  | cons c rest ih =>
      obtain ⟨⟨other, same⟩, later⟩ := List.forall_mem_cons.mp settled
      rw [lowerFrom, if_neg other, same, ih _ later]
      rfl

theorem lower_case_final (text : Text) : lowerCase (lowerCase text) = lowerCase text :=
  settled_unchanged [] _ (lower_from_settled [] text)

theorem lower_char_length (c : Char) : c = '\u0130' ∨ (lowerChar c).length = 1 := by
  unfold lowerChar
  split
  · exact .inr rfl
  · split
    · rename_i dotted
      exact .inl dotted
    · split <;> exact .inr rfl

theorem lower_from_length (before text : Text) (undotted : '\u0307' ∉ lowerFrom before text) :
    (lowerFrom before text).length = text.length := by
  induction text generalizing before with
  | nil => rfl
  | cons c rest ih =>
      simp only [lowerFrom, List.mem_append, not_or] at undotted ⊢
      obtain ⟨first, later⟩ := undotted
      have single : (if c = '\u03a3' then if startsCased before && !startsCased rest then ['\u03c2'] else ['\u03c3']
          else lowerChar c).length = 1 := by
        split
        · split <;> rfl
        · rcases lower_char_length c with rfl | single
          · simp [lowerChar] at first
          · exact single
      rw [List.length_append, single, ih _ later, List.length_cons, Nat.add_comm]

end FilterAssist
