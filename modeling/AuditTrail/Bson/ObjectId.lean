/-!
# Document identifiers

An object id is twelve bytes, written as 24 hexadecimal digits. Ids read from outside are kept
as the 96-bit number their bytes spell. Ids that this store mints for new documents are
numbered in minting order instead: their bytes would hold the wall clock and a process-random
value, which nothing observes except their order, so only the order is kept.

Stored ids compare as numbers, big-endian, so their leading four bytes (a creation time in
seconds) dominate. A minted id carries the time of minting, which lies after every stored id
whose first byte is below `0xf0` and before every stored id from `0xf0` on; minted ids follow
one another in minting order.

## Main definitions

* `ObjectId` — a stored or a minted id
* `ObjectId.parse?`, `ObjectId.toHex` — the 24-digit text form
* `ObjectId.order` — the total order of ids
-/

namespace AuditTrail

/-- A document identifier. -/
inductive ObjectId where
  /-- An id given from outside, as the number its twelve bytes spell. -/
  | stored (value : Fin (Nat.pow 2 96))
  /-- The `serial`-th id minted by this store, counting from 1. -/
  | minted (serial : Nat)
  deriving DecidableEq, Repr

namespace ObjectId

def hexDigit (n : Nat) : Char :=
  if n < 10 then Char.ofNat ('0'.toNat + n) else Char.ofNat ('a'.toNat + n - 10)

/-- `n` as exactly `width` lowercase hexadecimal digits. -/
def hexDigits : Nat → Nat → List Char
  | 0, _ => []
  | width + 1, n => hexDigits width (n / 16) ++ [hexDigit (n % 16)]

/-- The text form: 24 lowercase hexadecimal digits, or `@k` for the `k`-th minted id. -/
def toHex : ObjectId → String
  | .stored v => String.ofList (hexDigits 24 v.val)
  | .minted k => "@" ++ toString k

def hexValue? (c : Char) : Option Nat :=
  if c.isDigit then some (c.toNat - '0'.toNat)
  else if 'a' ≤ c ∧ c ≤ 'f' then some (c.toNat - 'a'.toNat + 10)
  else if 'A' ≤ c ∧ c ≤ 'F' then some (c.toNat - 'A'.toNat + 10)
  else none

/-- The number spelled by hexadecimal digits of either case. -/
def hexNumber? (cs : List Char) : Option Nat :=
  cs.foldlM (fun acc c => (hexValue? c).map fun d => acc * 16 + d) 0

/-- An id from its text: exactly 24 hexadecimal digits, of either case. -/
def parse? (s : String) : Option ObjectId :=
  let cs := s.toList
  if cs.length = 24 then
    match hexNumber? cs with
    | some n => if h : n < Nat.pow 2 96 then some (.stored ⟨n, h⟩) else none
    | none => none
  else none

/-- The first byte of a stored id. -/
def leadingByte (v : Fin (Nat.pow 2 96)) : Nat := v.val / Nat.pow 2 88

/-- The order of ids: stored ids by value, minted ids by serial, and a minted id after a stored
id exactly when that stored id's first byte is below `0xf0`. -/
def order : ObjectId → ObjectId → Ordering
  | .stored a, .stored b => compare a.val b.val
  | .minted j, .minted k => compare j k
  | .stored a, .minted _ => if leadingByte a < 0xf0 then .lt else .gt
  | .minted _, .stored b => if leadingByte b < 0xf0 then .gt else .lt

end ObjectId

end AuditTrail
