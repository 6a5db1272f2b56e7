import Stencil.Helper.Builtin
import Stencil.Proofs.Dictionary

/-!
# What the built-in helpers answer

The registry of the built-in helpers holds every one of them under its name, and each answers all
lists of arguments with a value.
-/

namespace Stencil
namespace Builtin

/-- What the built-in helper of a name answers. -/
def answer? (name : Text) (arguments : List Value) : Option HelperAnswer :=
  (Dictionary.get? name Registry.builtin).map fun helper => helper arguments

/-- Whether the built-in helper of a name answers two values with a truth value. -/
def Decides (name : Text) (left right : Value) (verdict : Bool) : Prop :=
  answer? name [left, right] = some (.value (.bool verdict))

theorem Decides.unique
    {name : Text}
    {left right : Value}
    {verdict other : Bool}
    (decides : Decides name left right verdict)
    (decidesOther : Decides name left right other) : verdict = other := by
  unfold Decides at decides decidesOther
  rw [decides] at decidesOther
  exact Value.bool.inj (HelperAnswer.value.inj (Option.some.inj decidesOther))

/-- No name stands for two helpers. -/
theorem names_nodup : (functions.map Prod.fst).Nodup := by decide

/-- A built-in helper is asked under its name. -/
theorem answer?_eq
    {name : Text}
    {function : List Value → Value}
    (listed : (name, function) ∈ functions)
    (arguments : List Value) : answer? name arguments = some (.value (function arguments)) := by
  let answering (entry : Text × (List Value → Value)) : Text × Helper :=
    (entry.1, fun arguments => .value (entry.2 arguments))
  have distinct : (Dictionary.keys (functions.map answering)).Nodup := by
    rw [Dictionary.keys, List.map_map]
    exact names_nodup
  have known : Dictionary.get? name Registry.builtin = some (answering (name, function)).2 := by
    change Dictionary.get? name (Dictionary.insertAll [] (functions.map answering)) = _
    rw [Dictionary.get?_insertAll distinct, Dictionary.get?_nil, Option.or_none]
    exact Dictionary.get?_of_mem distinct (List.mem_map_of_mem listed)
  rw [answer?, known]
  rfl

/-- A built-in helper decides on two values as its function says. -/
theorem decides_of_mem
    {name : Text}
    {function : List Value → Value}
    (listed : (name, function) ∈ functions)
    {left right : Value}
    {verdict : Bool}
    (answers : function [left, right] = .bool verdict) : Decides name left right verdict := by
  rw [Decides, answer?_eq listed, answers]

end Builtin
end Stencil
