import ActiveResponse.Core.Values
import Mathlib.Data.Prod.Lex

namespace larp

/-- A Python float. -/
inductive PyFloat where
  | finite (value : ℚ)
  | inf (negative : Bool)
  | nan
deriving DecidableEq

namespace PyFloat

instance : Coe ℚ PyFloat := ⟨.finite⟩

instance (n : ℕ) : OfNat PyFloat n := ⟨.finite n⟩

def sql_rank : PyFloat → ℤ ×ₗ ℚ
  | .inf true => toLex (0, 0)
  | .finite value => toLex (1, value)
  | .inf false => toLex (2, 0)
  | .nan => toLex (3, 0)

theorem sql_rank_injective : Function.Injective sql_rank := by
  rintro (p | (_ | _) | _) (q | (_ | _) | _) h <;> simp_all [sql_rank]

/-- The order of the database, in which NaN is above all other floats. -/
instance : LinearOrder PyFloat := LinearOrder.lift' sql_rank sql_rank_injective

/-- `self == other`. -/
def py_eq (self other : PyFloat) : Bool := self ≠ .nan ∧ self = other

/-- `self <= other`. -/
def py_le (self other : PyFloat) : Bool := self ≠ .nan ∧ other ≠ .nan ∧ self ≤ other

/-- `self < other`. -/
def py_lt (self other : PyFloat) : Bool := self ≠ .nan ∧ other ≠ .nan ∧ self < other

theorem py_le_of_not_py_lt {self other : PyFloat} (hself : self ≠ .nan) (hother : other ≠ .nan)
    (h : ¬ self.py_lt other) : other.py_le self := by
  have hle : other ≤ self := by
    rw [← not_lt]
    intro hlt
    exact h (by simp [py_lt, hself, hother, hlt])
  simp [py_le, hself, hother, hle]

end PyFloat

/-- A value as `json.loads` returns it: integers are told apart from floats, and `Infinity` and `NaN` are accepted. -/
inductive LoadedJson where
  | null
  | bool (value : Bool)
  | int (value : ℤ)
  | float (value : PyFloat)
  | str (value : String)
  | arr (values : List LoadedJson)
  | obj (entries : List (String × LoadedJson))

end larp
