import RingBallot.Number

/-!
Data documents as values. Objects keep their members in order, and whole numbers of any size are
kept apart from those of double precision.
-/

namespace RingBallot

inductive Json
  | null
  | bool (b : Bool)
  | int (n : Int)
  /-- A number that is written with a fraction or an exponent. -/
  | real (x : Binary64)
  | str (s : String)
  | arr (items : List Json)
  | obj (members : List (String × Json))
  deriving Inhabited

namespace Json

mutual

/-- Equality of documents; the order of members counts. -/
def same : Json → Json → Bool
  | .null, .null => true
  | .bool a, .bool b => a == b
  | .int m, .int n => m == n
  | .real x, .real y => x == y
  | .str s, .str t => s == t
  | .arr vs, .arr ws => sameItems vs ws
  | .obj vs, .obj ws => sameMembers vs ws
  | _, _ => false

def sameItems : List Json → List Json → Bool
  | [], [] => true
  | v :: vs, w :: ws => same v w && sameItems vs ws
  | _, _ => false

def sameMembers : List (String × Json) → List (String × Json) → Bool
  | [], [] => true
  | (k, v) :: vs, (l, w) :: ws => k == l && same v w && sameMembers vs ws
  | _, _ => false

end

instance : BEq Json := ⟨same⟩

inductive Kind
  | null
  | bool
  | int
  | real
  | str
  | arr
  | obj
  deriving DecidableEq

def kind : Json → Kind
  | .null => .null
  | .bool _ => .bool
  | .int _ => .int
  | .real _ => .real
  | .str _ => .str
  | .arr _ => .arr
  | .obj _ => .obj

def Kind.text : Kind → String
  | null => "NoneType"
  | bool => "bool"
  | int => "int"
  | real => "float"
  | str => "str"
  | arr => "list"
  | obj => "dict"

/-- Sets a member: a new name goes last, a known one keeps its place. -/
def put (name : String) (v : Json) : List (String × Json) → List (String × Json)
  | [] => [(name, v)]
  | (k, w) :: rest => if k = name then (k, v) :: rest else (k, w) :: put name v rest

/-- The object with these members in turn: of equal names the last value counts. -/
def ofMembers (members : List (String × Json)) : Json :=
  obj (members.foldl (fun ms m => put m.1 m.2 ms) [])

def get? (name : String) : Json → Option Json
  | obj members => members.lookup name
  | _ => none

def number? : Json → Option Number
  | bool b => some (.bool b)
  | int n => some (.int n)
  | real x => some (.real x)
  | _ => none

def ofNumber : Number → Json
  | .bool b => bool b
  | .int n => int n
  | .real x => real x

def within (low high : Int) (v : Json) : Bool :=
  match v.number?.bind Number.whole? with
  | some n => decide (low ≤ n ∧ n ≤ high)
  | none => false

end Json

end RingBallot
