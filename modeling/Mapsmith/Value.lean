import Mapsmith.Number.Binary64
import Mapsmith.Text.Quoted

/-!
# Dynamic values

The values of configuration files, of declarations before they are checked and of rows that a
projection reads. Tables keep the order of their entries. `Mapsmith.Value.literal` is a value as
messages and generated code spell it.
-/

namespace Mapsmith

/-- A value of a configuration file or a message. -/
inductive Value
  /-- No value. -/
  | null
  /-- A truth value. -/
  | bool (b : Bool)
  /-- An integer of any size. -/
  | int (n : Int)
  /-- A floating-point number. -/
  | float (x : Binary64)
  /-- A text. -/
  | str (s : String)
  /-- A date, a time of day or both, as it was written. -/
  | moment (text : String)
  /-- Values in a row. -/
  | list (items : List Value)
  /-- A table, in the order of its entries. -/
  | dict (entries : List (String × Value))
  deriving Repr, Inhabited

namespace Value

/-! ### Equality -/

mutual

/-- Are two values the same? -/
def decEq : (v w : Value) → Decidable (v = w)
  | null, null => isTrue rfl
  | bool a, bool b => if h : a = b then isTrue (h ▸ rfl) else isFalse fun e => h (by injection e)
  | int a, int b => if h : a = b then isTrue (h ▸ rfl) else isFalse fun e => h (by injection e)
  | float a, float b => if h : a = b then isTrue (h ▸ rfl) else isFalse fun e => h (by injection e)
  | str a, str b => if h : a = b then isTrue (h ▸ rfl) else isFalse fun e => h (by injection e)
  | moment a, moment b =>
    if h : a = b then isTrue (h ▸ rfl) else isFalse fun e => h (by injection e)
  | list a, list b => match decEqs a b with
    | isTrue h => isTrue (h ▸ rfl)
    | isFalse h => isFalse fun e => h (by injection e)
  | dict a, dict b => match decEqEntries a b with
    | isTrue h => isTrue (h ▸ rfl)
    | isFalse h => isFalse fun e => h (by injection e)
  | null, bool _ | null, int _ | null, float _ | null, str _ | null, moment _ | null, list _
  | null, dict _ | bool _, null | bool _, int _ | bool _, float _ | bool _, str _
  | bool _, moment _ | bool _, list _ | bool _, dict _ | int _, null | int _, bool _
  | int _, float _ | int _, str _ | int _, moment _ | int _, list _ | int _, dict _
  | float _, null | float _, bool _ | float _, int _ | float _, str _ | float _, moment _
  | float _, list _ | float _, dict _ | str _, null | str _, bool _ | str _, int _
  | str _, float _ | str _, moment _ | str _, list _ | str _, dict _ | moment _, null
  | moment _, bool _ | moment _, int _ | moment _, float _ | moment _, str _ | moment _, list _
  | moment _, dict _ | list _, null | list _, bool _ | list _, int _ | list _, float _
  | list _, str _ | list _, moment _ | list _, dict _ | dict _, null | dict _, bool _
  | dict _, int _ | dict _, float _ | dict _, str _ | dict _, moment _ | dict _, list _ =>
    isFalse (by intro h; cases h)

/-- Are two rows of values the same? -/
def decEqs : (vs ws : List Value) → Decidable (vs = ws)
  | [], [] => isTrue rfl
  | v :: vs, w :: ws => match decEq v w, decEqs vs ws with
    | isTrue h, isTrue t => isTrue (h ▸ t ▸ rfl)
    | isFalse h, _ => isFalse fun e => h (by injection e)
    | _, isFalse t => isFalse fun e => t (by injection e)
  | [], _ :: _ | _ :: _, [] => isFalse (by intro h; cases h)

/-- Are the entries of two tables the same, in the same order? -/
def decEqEntries : (es fs : List (String × Value)) → Decidable (es = fs)
  | [], [] => isTrue rfl
  | (k, v) :: es, (l, w) :: fs =>
    if hk : k = l then
      match decEq v w, decEqEntries es fs with
      | isTrue h, isTrue t => isTrue (hk ▸ h ▸ t ▸ rfl)
      | isFalse h, _ => isFalse fun e => h (by simp_all)
      | _, isFalse t => isFalse fun e => t (by simp_all)
    else isFalse fun e => hk (by simp_all)
  | [], _ :: _ | _ :: _, [] => isFalse (by intro h; cases h)

end

instance : DecidableEq Value := decEq

/-! ### Wording -/

mutual

/-- A value as a literal. -/
def literal : Value → String
  | null => "None"
  | bool b => if b then "True" else "False"
  | int n => toString n
  | float x => x.text
  | str s => Text.quote s
  | moment s => s
  | list items => "[" ++ ", ".intercalate (literals items) ++ "]"
  | dict entries => "\x7b" ++ ", ".intercalate (entryLiterals entries) ++ "\x7d"

/-- The literals of values in a row. -/
def literals : List Value → List String
  | [] => []
  | v :: vs => literal v :: literals vs

/-- The entries of a table, each as its key and its value. -/
def entryLiterals : List (String × Value) → List String
  | [] => []
  | (key, v) :: rest => (Text.quote key ++ ": " ++ literal v) :: entryLiterals rest

end

/-- The text of a value: a text stands for itself, all else for its literal. -/
def display : Value → String
  | str s => s
  | v => v.literal

/-- Does the value count as true? -/
def isTruthy : Value → Bool
  | null => false
  | bool b => b
  | int n => n ≠ 0
  | float x => x.isNonzero
  | str s => s ≠ ""
  | moment _ => true
  | list items => !items.isEmpty
  | dict entries => !entries.isEmpty

/-- The entry of a table, the last one if the key is repeated. -/
def get? (key : String) : Value → Option Value
  | dict entries => (entries.reverse.find? (·.1 == key)).map (·.2)
  | _ => none

end Value

end Mapsmith
