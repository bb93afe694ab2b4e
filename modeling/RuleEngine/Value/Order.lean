import RuleEngine.Value.Basic

/-!
# Order of values

Values of one scalar kind are ordered, and so are integers and floating point numbers among each
other: the integer is rounded to the nearest floating point number first.  All other pairs, and a
NaN with anything, have no order.
-/

namespace RuleEngine
namespace Value

def compare? : Value → Value → Option Ordering
  | nil, nil => some .eq
  | bool a, bool b => some (compare a b)
  | int a, int b => some (compare a.toInt b.toInt)
  | float a, float b => a.compare? b
  | int a, float b => (Binary64.ofInt a.toInt).compare? b
  | float a, int b => a.compare? (Binary64.ofInt b.toInt)
  | string a, string b => some (compare a b)
  | handle a, handle b => some (a.order b)
  | _, _ => none

end Value
end RuleEngine
