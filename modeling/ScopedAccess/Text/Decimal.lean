/-!
# ScopedAccess.Text.Decimal

Natural numbers in decimal.

* `digits` writes a number without leading zeros.
* `value?` reads a non-empty run of digits; leading zeros are allowed.
* `valueFrom_digits`: a written number reads back.
-/

namespace ScopedAccess.Text.Decimal

/-- Whether a character is one of `0`..`9`. -/
def isDigit (c : Char) : Bool := '0' ≤ c && c ≤ '9'

def digitValue (c : Char) : Nat := c.toNat - '0'.toNat

/-- The character of a digit below ten. -/
def digitChar (d : Nat) : Char := Char.ofNat ('0'.toNat + d)

/-- Decimal digits of a number, most significant first. -/
def digits (n : Nat) : List Char :=
  if n < 10 then [digitChar n] else digits (n / 10) ++ [digitChar (n % 10)]
termination_by n

/-- Text of a number. -/
def text (n : Nat) : String := String.ofList (digits n)

/-- Value of a run of digits read after `acc`. -/
def valueFrom (acc : Nat) (cs : List Char) : Nat :=
  cs.foldl (fun n c => n * 10 + digitValue c) acc

/-- Value of a non-empty run of digits. -/
def value? (cs : List Char) : Option Nat :=
  if cs.isEmpty || !cs.all isDigit then none else some (valueFrom 0 cs)

theorem digit_facts : ∀ d, d < 10 → isDigit (digitChar d) = true ∧ digitValue (digitChar d) = d := by
  decide

theorem digits_ne_nil (n : Nat) : digits n ≠ [] := by
  rw [digits]; split <;> simp

theorem all_isDigit_digits (n : Nat) : (digits n).all isDigit = true := by
  induction n using Nat.strongRecOn with
  | ind n ih =>
    rw [digits]
    split
    · rename_i h; simp [(digit_facts n h).1]
    · rename_i h
      rw [List.all_append, ih (n / 10) (by omega)]
      simp [(digit_facts (n % 10) (Nat.mod_lt _ (by omega))).1]

theorem valueFrom_digits (n : Nat) : valueFrom 0 (digits n) = n := by
  induction n using Nat.strongRecOn with
  | ind n ih =>
    rw [digits]
    split
    · rename_i h; simp [valueFrom, (digit_facts n h).2]
    · rename_i h
      have hd := (digit_facts (n % 10) (Nat.mod_lt _ (by omega))).2
      have := ih (n / 10) (by omega)
      simp only [valueFrom, List.foldl_append, List.foldl_cons, List.foldl_nil] at this ⊢
      rw [this, hd]; omega

end ScopedAccess.Text.Decimal
