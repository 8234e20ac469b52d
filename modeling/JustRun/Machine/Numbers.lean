import Mathlib.Algebra.Order.Floor.Ring
import Mathlib.Data.Rat.Floor

/-!
# Numbers of JavaScript

The order of the numbers with the infinities and `NaN`, as far as `Math.floor`, `Math.max` and
`<` go.
-/
namespace JustRun.Machine

inductive JsNumber where
  | finite (q : ℚ)
  | posInf
  | negInf
  | nan
  deriving DecidableEq

namespace JsNumber

/-- `Math.floor`. -/
def floor : JsNumber → JsNumber
  | finite q => finite ⌊q⌋
  | x => x

/-- `Math.max`. -/
def max : JsNumber → JsNumber → JsNumber
  | nan, _ | _, nan => nan
  | posInf, _ | _, posInf => posInf
  | negInf, y => y
  | x, negInf => x
  | finite p, finite q => finite (Max.max p q)

/-- `x < y`. -/
def lt : JsNumber → JsNumber → Bool
  | nan, _ | _, nan => false
  | _, negInf => false
  | negInf, _ => true
  | posInf, _ => false
  | _, posInf => true
  | finite p, finite q => p < q

def ofNat (n : ℕ) : JsNumber := finite n

end JsNumber
end JustRun.Machine
