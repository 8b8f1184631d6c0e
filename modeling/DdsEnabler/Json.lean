import Mathlib

/-!
JSON values and the accesses the enabler makes to them, after `nlohmann::json`.

An object is a list of members with distinct keys. Numbers of any integer type are integers;
a floating point number is the rational it denotes. An access that the library refuses
throws.
-/

namespace DdsEnabler

/-- A `std::string`. -/
abbrev Str := List Char

/-- The exceptions that cross the modelled code, by their C++ class; `assertion` stands for the
undefined behaviour behind a failed assertion of the JSON library. -/
inductive Exc
  | jsonParseError | jsonTypeError | invalidArgument | badCast | inconsistency | runtimeError
  | cdrException | assertion
  deriving DecidableEq

/-- The classes derived from `nlohmann::json::exception`. -/
def Exc.isJson : Exc → Bool
  | .jsonParseError | .jsonTypeError => true
  | _ => false

inductive Json
  | null
  | bool (b : Bool)
  | int (n : Int)
  | real (q : Rat)
  | str (s : Str)
  | arr (l : List Json)
  | obj (l : List (Str × Json))

namespace Json

/-- Set a member of an object. -/
def setKey (l : List (Str × Json)) (k : Str) (v : Json) : List (Str × Json) :=
  (k, v) :: l.filter fun m => m.1 ≠ k

@[simp] lemma lookup_setKey_self (l : List (Str × Json)) (k : Str) (v : Json) :
    (setKey l k v).lookup k = some v := by
  simp [setKey]

/-- `operator[]` on a mutable value: null turns into an object, and a missing member into a
null one; the other values have no members. -/
def index (j : Json) (k : Str) : Except Exc Json :=
  match j with
  | .null => .ok .null
  | .obj l => .ok ((l.lookup k).getD .null)
  | _ => .error .jsonTypeError

/-- `operator[]` on a constant value: the member must be there. -/
def indexConst (j : Json) (k : Str) : Except Exc Json :=
  match j with
  | .obj l =>
    match l.lookup k with
    | some v => .ok v
    | none => .error .assertion
  | _ => .error .jsonTypeError

/-- `at`, none where it throws. -/
def at? (j : Json) (k : Str) : Option Json :=
  match j with
  | .obj l => l.lookup k
  | _ => none

/-- What a range-based loop over a value visits. -/
def elements : Json → List Json
  | .null => []
  | .arr l => l
  | .obj l => l.map (·.2)
  | j => [j]

/-- The integer a number is cast to, before it is cut to the width of its type. -/
def toInt? : Json → Option Int
  | .int n => some n
  | .real q => some (if 0 ≤ q then q.floor else q.ceil)
  | _ => none

/-- `get_arithmetic_value` into a signed type of `w` bits. -/
def getArithmetic (w : Nat) (j : Json) : Except Exc Int :=
  match j.toInt? with
  | some n => .ok (n.bmod (2 ^ w))
  | none => .error .jsonTypeError

/-- `get<int>()`: a boolean counts as a number. -/
def getInt32 (j : Json) : Except Exc Int :=
  match j with
  | .bool b => .ok b.toNat
  | j => j.getArithmetic 32

/-- `get<uint8_t>()` and `get<uint32_t>()`: a boolean counts as a number. -/
def getUnsigned (w : Nat) (j : Json) : Except Exc Nat :=
  match j with
  | .bool b => .ok b.toNat
  | j =>
    match j.toInt? with
    | some n => .ok (n % 2 ^ w).toNat
    | none => .error .jsonTypeError

/-- `get<int64_t>()`. -/
def getInt64 (j : Json) : Except Exc Int := j.getArithmetic 64

/-- The conversion to `bool`. -/
def getBool (j : Json) : Except Exc Bool :=
  match j with
  | .bool b => .ok b
  | _ => .error .jsonTypeError

end Json

/-- A string read as a JSON text, up to the layout of the text: the document it parses to, or
the string itself where it is not a JSON text. -/
inductive JsonText
  | doc (j : Json)
  | other (s : Str)

namespace JsonText

def isEmpty : JsonText → Bool
  | .other [] => true
  | _ => false

/-- `nlohmann::json::parse`. -/
def parse : JsonText → Except Exc Json
  | .doc j => .ok j
  | .other _ => .error .jsonParseError

end JsonText

end DdsEnabler
