/-!
# Reading a numeral with an overflow check

`read` goes through the characters of a numeral from the left and gives up at the first that is no digit,
or as soon as the number reaches the bound. It accepts the numerals of the numbers below the bound.
-/

namespace Radix

section Reading
variable {χ : Type} (digit : χ → Option Nat) (base bound : Nat)

def read : List χ → Nat → Option Nat
  | [], total => some total
  | c :: rest, total =>
      match digit c with
      | none => none
      | some value => if total * base + value < bound then read rest (total * base + value) else none

def number (digits : List Nat) (total : Nat) : Nat :=
  digits.foldl (fun total value => total * base + value) total

variable {digit base bound}

theorem le_number (positive : 0 < base) (digits : List Nat) (total : Nat) : total ≤ number base digits total := by
  induction digits generalizing total with
  | nil => exact Nat.le_refl _
  | cons value rest ih =>
      have grows : total ≤ total * base := Nat.le_mul_of_pos_right _ positive
      exact Nat.le_trans (Nat.le_trans grows (Nat.le_add_right _ _)) (ih _)

theorem read_eq_some_iff (positive : 0 < base) {chars : List χ} {total n : Nat} (start : total < bound) :
    read digit base bound chars total = some n ↔
      ∃ digits, chars.map digit = digits.map some ∧ number base digits total = n ∧ n < bound := by
  induction chars generalizing total with
  | nil =>
      simp only [read, Option.some.injEq, List.map_nil]
      constructor
      · intro same
        exact ⟨[], rfl, same, same ▸ start⟩
      · intro ⟨digits, none_left, same, _⟩
        have empty : digits = [] := List.map_eq_nil_iff.mp none_left.symm
        subst empty
        exact same
  | cons c rest ih =>
      cases value : digit c with
      | none =>
          simp only [read, value, List.map_cons]
          refine iff_of_false (by simp) ?_
          intro ⟨digits, all, _⟩
          cases digits with
          | nil => contradiction
          | cons first others => simp at all
      | some first =>
          simp only [read, value]
          constructor
          · intro result
            by_cases fits : total * base + first < bound
            · rw [if_pos fits, ih fits] at result
              obtain ⟨digits, all, same, below⟩ := result
              exact ⟨first :: digits, by rw [List.map_cons, List.map_cons, value, all], same, below⟩
            · rw [if_neg fits] at result
              contradiction
          · intro ⟨digits, all, same, below⟩
            cases digits with
            | nil => contradiction
            | cons other others =>
                rw [List.map_cons, List.map_cons, value, List.cons.injEq, Option.some.injEq] at all
                obtain ⟨rfl, all⟩ := all
                have fits : total * base + first < bound := by
                  refine Nat.lt_of_le_of_lt ?_ below
                  rw [← same]
                  exact le_number positive others _
                rw [if_pos fits, ih fits]
                exact ⟨others, all, same, below⟩

end Reading

/-! ## Written numerals -/

variable {base : Nat}

theorem number_append (digits others : List Nat) (total : Nat) :
    number base (digits ++ others) total = number base others (number base digits total) :=
  List.foldl_append

theorem number_zeros (count : Nat) : number base (List.replicate count 0) 0 = 0 := by
  induction count with
  | zero => rfl
  | succ count ih =>
      have first : number base (List.replicate (count + 1) 0) 0 =
          number base (List.replicate count 0) (0 * base + 0) := rfl
      rw [first, Nat.zero_mul, ih]

theorem exists_digits (between : 1 < base) (n : Nat) : ∃ digits, Nat.toDigits base n = digits.map Nat.digitChar ∧
    digits ≠ [] ∧ (∀ value ∈ digits, value < base) ∧ number base digits 0 = n := by
  induction n using Nat.strongRecOn with
  | ind n ih =>
      by_cases small : n < base
      · refine ⟨[n], Nat.toDigits_of_lt_base small, by simp, by simpa using small, ?_⟩
        simp [number]
      · have large := Nat.le_of_not_lt small
        obtain ⟨digits, written, some_digit, below, same⟩ :=
          ih (n / base) (Nat.div_lt_self (by omega) between)
        refine ⟨digits ++ [n % base], ?_, by simp, ?_, ?_⟩
        · rw [Nat.toDigits_of_base_le between large, written, List.map_append]
          rfl
        · intro value listed
          rcases List.mem_append.mp listed with earlier | last
          · exact below value earlier
          · rw [List.mem_singleton.mp last]
            exact Nat.mod_lt n (by omega)
        · rw [number_append, same]
          exact Nat.div_add_mod' n base

end Radix
