import Mathlib.Data.String.Basic
import Zrm.Core.Result

/-!
# Values and exceptions of the repository tools

What `json.loads` returns, and the checks of `tools/delegation_plan_model.py`
on it. A check that returns its argument returns it with the proof of its form,
so that a later read of the same value needs no second check.
-/
namespace Zrm.L6.Value

open Result

/-! ## Exceptions -/

inductive ExceptionType
  | checkFailed  -- `DelegationPlanError`, `ConformanceError`, `BomError`
  | typeError
  | keyError
  | attributeError
  | osError
  deriving DecidableEq

/-- A raised exception: its text, up to the list that Python prints at its end. -/
structure Raised where
  type : ExceptionType
  text : String
  listed : List String
  deriving DecidableEq

/-- `raise DelegationPlanError(text)` -/
def failed (text : String) : Raised := ⟨.checkFailed, text, []⟩

/-- mirrors tools/delegation_plan_model.py:28-31 -/
def require (condition : Bool) (raised : Raised) : Except Raised Unit :=
  if condition then .ok () else .error raised

/-- A `require` whose condition later steps rely on. -/
def requireThat (P : Prop) [Decidable P] (raised : Raised) : Except Raised (PLift P) :=
  if h : P then .ok ⟨h⟩ else .error raised

theorem require_eq_ok {condition : Bool} {raised : Raised} :
    require condition raised = .ok () ↔ condition = true := by
  cases condition <;> simp [require]

/-! ## Values -/

/-- A value of `json.loads`; a float is its exact value, `none` if infinite or
not a number. -/
inductive Json
  | null
  | bool (b : Bool)
  | int (n : Int)
  | float (x : Option Rat)
  | str (s : String)
  | list (items : List Json)
  | dict (items : List (String × Json))

abbrev JsonDict := List (String × Json)

/-- `d.get(key)`: `None` for an absent key -/
def get (d : JsonDict) (key : String) : Json := (d.lookup key).getD .null

/-- `d[key]` -/
def subscript (d : JsonDict) (key : String) : Except Raised Json :=
  match d.lookup key with
  | some value => .ok value
  | none => .error ⟨.keyError, key, []⟩

theorem get_of_subscript {d : JsonDict} {key : String} {value : Json}
    (h : subscript d key = .ok value) : get d key = value := by
  unfold subscript at h
  unfold get
  cases hd : d.lookup key with
  | none =>
    rw [hd] at h
    cases h
  | some v =>
    rw [hd] at h
    cases h
    rfl

def Json.isNull : Json → Bool
  | .null => true
  | _ => false

/-- The number that Python compares; `True` is 1. -/
def Json.number? : Json → Option Rat
  | .bool b => some (if b then 1 else 0)
  | .int n => some n
  | .float x => x
  | _ => none

/-- `value == n` -/
def Json.eqInt (value : Json) (n : Int) : Bool := value.number? == some (n : Rat)

/-- `value == b` -/
def Json.eqBool (value : Json) (b : Bool) : Bool := value.eqInt (if b then 1 else 0)

/-- `value == s` -/
def Json.eqStr : Json → String → Bool
  | .str t, s => t == s
  | _, _ => false

mutual

/-- `value == other`: numbers by what they are, dictionaries whatever the order of their members.
An infinite float equals nothing here. -/
def Json.equals : Json → Json → Bool
  | .null, .null => true
  | .str s, .str t => s == t
  | .list items, .list items' => equalItems items items'
  | .dict d, .dict d' => d.length == d'.length && equalMembers d d'
  | value, value' => value.number?.isSome && value.number? == value'.number?

def equalItems : List Json → List Json → Bool
  | [], [] => true
  | item :: items, item' :: items' => item.equals item' && equalItems items items'
  | _, _ => false

/-- The members of a dictionary are in the other one, with equal values. -/
def equalMembers : JsonDict → JsonDict → Bool
  | [], _ => true
  | (key, value) :: d, d' =>
    (match d'.lookup key with
      | some value' => value.equals value'
      | none => false) && equalMembers d d'

end

theorem eqStr_iff {value : Json} {s : String} : value.eqStr s = true ↔ value = .str s := by
  cases value <;> simp [Json.eqStr]

/-- `set(d) == set(keys)` -/
def keysAre (d : JsonDict) (keys : List String) : Bool :=
  d.all (fun x => keys.contains x.1) && keys.all fun k => (d.lookup k).isSome

/-! ## Text -/

/-- The characters that `str.strip()` removes. -/
def isSpace (c : Char) : Bool :=
  let n := c.toNat
  (9 ≤ n && n ≤ 13) || (28 ≤ n && n ≤ 32) || n == 0x85 || n == 0xA0 || n == 0x1680 ||
    (0x2000 ≤ n && n ≤ 0x200A) || n == 0x2028 || n == 0x2029 || n == 0x202F || n == 0x205F ||
    n == 0x3000

/-- `bool(s.strip())` -/
def hasText (s : String) : Bool := s.toList.any fun c => !isSpace c

/-- A `PurePosixPath`: its names without empty and `.` ones. -/
structure Path where
  absolute : Bool
  names : List String
  deriving DecidableEq

def Path.ofString (s : String) : Path where
  absolute := s.toList.head? == some '/'
  names := ((s.toList.splitOn '/').filter fun name => name != [] && name != ['.']).map String.ofList

/-- `bool(path.parts)`; the root of an absolute path is a part. -/
def Path.hasParts (p : Path) : Bool := p.absolute || !p.names.isEmpty

/-- `value.partition("#")[0]` -/
def beforeAnchor (value : String) : String := String.ofList (value.toList.takeWhile (· != '#'))

/-! ## Checks that return their argument -/

/-- mirrors tools/delegation_plan_model.py:34-37 -/
def nonempty (value : Json) (label : String) : Except Raised {s : String // value = .str s} :=
  match value with
  | .str s =>
    if hasText s then .ok ⟨s, rfl⟩ else .error (failed s!"{label} must be a nonempty string")
  | _ => .error (failed s!"{label} must be a nonempty string")

def asDict (value : Json) (raised : Raised) : Except Raised {d : JsonDict // value = .dict d} :=
  match value with
  | .dict d => .ok ⟨d, rfl⟩
  | _ => .error raised

def asBool (value : Json) (raised : Raised) : Except Raised {b : Bool // value = .bool b} :=
  match value with
  | .bool b => .ok ⟨b, rfl⟩
  | _ => .error raised

/-- The items as strings, if all are. -/
def strings : (items : List Json) → Option {l : List String // items = l.map .str}
  | [] => some ⟨[], rfl⟩
  | .str s :: items =>
    (strings items).map fun l => ⟨s :: l.1, by rw [List.map_cons, ← l.2]⟩
  | _ :: _ => none

/-- mirrors tools/delegation_plan_model.py:40-49 -/
def stringList (value : Json) (label : String) (allowEmpty : Bool) :
    Except Raised {l : List String // value = .list (l.map .str)} :=
  match value with
  | .list items =>
    match strings items with
    | none => .error (failed s!"{label} must contain only nonempty strings")
    | some l => do
      require (l.1.all hasText) (failed s!"{label} must contain only nonempty strings")
      require (allowEmpty || !l.1.isEmpty) (failed s!"{label} must not be empty")
      require (decide l.1.Nodup) (failed s!"{label} must not contain duplicates")
      pure ⟨l.1, by rw [← l.2]⟩
  | _ => .error (failed s!"{label} must be a list")

/-- mirrors tools/delegation_plan_model.py:52-58 -/
def safePath (value : String) (label : String) : Except Raised Path := do
  require (hasText value) (failed s!"{label} must be a nonempty string")
  let path := Path.ofString (beforeAnchor value)
  require (!path.absolute) (failed s!"{label} must be repository-relative")
  require (!path.names.contains "..") (failed s!"{label} must not escape the repository")
  require path.hasParts (failed s!"{label} must name a repository path")
  pure path

/-- `value in {...}` for a set of spellings: the member spelled so. A list or a
dictionary is not hashable. -/
def memberOf {ε : Type} (all : List ε) (spelling : ε → String) (value : Json) (raised : Raised) :
    Except Raised {e : ε // value = .str (spelling e)} :=
  match value with
  | .str s =>
    match h : all.find? (fun e => spelling e == s) with
    | some e =>
      have he : (spelling e == s) = true := List.find?_some (p := fun e => spelling e == s) h
      .ok ⟨e, by rw [eq_of_beq he]⟩
    | none => .error raised
  | .list _ => .error ⟨.typeError, "unhashable type: 'list'", []⟩
  | .dict _ => .error ⟨.typeError, "unhashable type: 'dict'", []⟩
  | _ => .error raised

end Zrm.L6.Value
