import Mathlib.Data.List.Sort
import Mathlib.Data.String.Basic
import Zrm.Core.BigEndian

/-!
# Canonical JSON text and the roots over it (`arm_zrm_frontier_v1.py`)

`json.dumps` as the model calls it (`sort_keys=True, separators=(",", ":"),
ensure_ascii=True`), on the values it is given there, and the hex digest of a
domain-separated payload.

A `str` is a `String`: a sequence of Unicode scalar values, that is, a text with a UTF-8
encoding. Python's `str` also holds lone surrogate code points, and on those
`ensure_ascii` is not injective: `"\ud800\udc00"` (two surrogates) and `"\U00010000"`
(one character) are both dumped as the escape `\ud800\udc00`. So nothing said here about
texts extends to texts with surrogates.

* `Payload.dumps`: the text of a payload.
* `payloadRoot`: the root of a payload under a domain.
-/
namespace Zrm.L5.CanonicalJson

open Zrm.BigEndian

/-- What `json.dumps` is called on. The texts are those that have a UTF-8 encoding; a Python
`str` with a surrogate code point is no value here. -/
inductive Payload
  | str (s : String)
  | int (n : Int)
  | list (items : List Payload)
  | dict (items : List (String × Payload))

/-! ## Text -/

def hexDigit (n : Nat) : Char := "0123456789abcdef".toList.getD (n % 16) '0'

/-- `"\\u{0:04x}".format(n)` -/
def unicodeEscape (n : Nat) : String :=
  "\\u" ++ String.ofList
    [hexDigit (n / 4096), hexDigit (n / 256), hexDigit (n / 16), hexDigit n]

/-- One character of a string literal, in ASCII. -/
def escapeChar (c : Char) : String :=
  let n := c.toNat
  if n = 0x5c then "\\\\"
  else if n = 0x22 then "\\\""
  else if n = 0x08 then "\\b"
  else if n = 0x0c then "\\f"
  else if n = 0x0a then "\\n"
  else if n = 0x0d then "\\r"
  else if n = 0x09 then "\\t"
  else if 0x20 ≤ n ∧ n ≤ 0x7e then String.ofList [c]
  else if n < 0x10000 then unicodeEscape n
  else
    -- a surrogate pair
    unicodeEscape (0xd800 + (n - 0x10000) / 1024) ++ unicodeEscape (0xdc00 + (n - 0x10000) % 1024)

def dumpsStr (s : String) : String :=
  "\"" ++ String.join (s.toList.map escapeChar) ++ "\""

mutual

def Payload.dumps : Payload → String
  | .str s => dumpsStr s
  | .int n => toString n
  | .list items => "[" ++ ",".intercalate (dumpsItems items) ++ "]"
  | .dict items =>
    let members := (dumpsMembers items).insertionSort fun x y => x.1 ≤ y.1
    "\x7b" ++ ",".intercalate (members.map fun x => dumpsStr x.1 ++ ":" ++ x.2) ++ "\x7d"

def dumpsItems : List Payload → List String
  | [] => []
  | item :: items => item.dumps :: dumpsItems items

def dumpsMembers : List (String × Payload) → List (String × String)
  | [] => []
  | (key, value) :: items => (key, value.dumps) :: dumpsMembers items

end

/-! ## Roots -/

/-- `text.encode("ascii")`, of an ASCII text -/
def encodeAscii (text : String) : List UInt8 := text.toList.map fun c => UInt8.ofNat c.toNat

/-- `digest.hex()` -/
def hexText (digest : Bytes 32) : String :=
  String.ofList (digest.toList.flatMap fun b => [hexDigit (b.toNat / 16), hexDigit b.toNat])

/-- `hashlib.sha256(domain + b"\0" + payload).hexdigest()` -/
def payloadRoot (sha256 : List UInt8 → Bytes 32) (domain : String) (payload : Payload) : String :=
  hexText (sha256 (encodeAscii domain ++ 0 :: encodeAscii payload.dumps))

example : (Payload.dict [("b", .list [.int (-2)]), ("a", .str "x\"")]).dumps =
    "\x7b\"a\":\"x\\\"\",\"b\":[-2]\x7d" := by
  decide +kernel

end Zrm.L5.CanonicalJson
