import FilterAssist.Text.Basic

set_option autoImplicit false

/-!
Texts from bytes in UTF-8, either refusing bytes that are none or putting a replacement character
for them.
-/
namespace FilterAssist.Utf8

def shape (b : UInt8) : Option (Nat × UInt8 × UInt8) :=
  if b < 0x80 then some (1, 0x80, 0xbf)
  else if b < 0xc2 then none
  else if b < 0xe0 then some (2, 0x80, 0xbf)
  else if b = 0xe0 then some (3, 0xa0, 0xbf)
  else if b = 0xed then some (3, 0x80, 0x9f)
  else if b < 0xf0 then some (3, 0x80, 0xbf)
  else if b = 0xf0 then some (4, 0x90, 0xbf)
  else if b < 0xf4 then some (4, 0x80, 0xbf)
  else if b = 0xf4 then some (4, 0x80, 0x8f)
  else none

def leadBits (length : Nat) (b : UInt8) : Nat :=
  if length = 1 then b.toNat
  else if length = 2 then b.toNat % 0x20
  else if length = 3 then b.toNat % 0x10
  else b.toNat % 0x08

def fitting (wanted : Nat) (low high : UInt8) : List UInt8 → Nat
  | [] => 0
  | b :: rest =>
    match wanted with
    | 0 => 0
    | more + 1 => if low ≤ b ∧ b ≤ high then 1 + fitting more 0x80 0xbf rest else 0

-- One character and how many bytes after the first it takes; no character, with the bytes to pass
-- over, where the bytes are none.
def decodeOne (b : UInt8) (rest : List UInt8) : Option Char × Nat :=
  match shape b with
  | none => (none, 0)
  | some (length, low, high) =>
    let count := fitting (length - 1) low high rest
    if count = length - 1 then
      let code := (rest.take count).foldl (fun total c => total * 0x40 + c.toNat % 0x40)
        (leadBits length b)
      (some (Char.ofNat code), count)
    else (none, count)

def decodeAll : List UInt8 → List (Option Char)
  | [] => []
  | b :: rest =>
    let found := decodeOne b rest
    found.1 :: decodeAll (rest.drop found.2)
termination_by bytes => bytes.length
decreasing_by
  simp only [List.length_drop, List.length_cons]
  omega

def decode? (bytes : List UInt8) : Option Text :=
  (decodeAll bytes).mapM id

def decodeLossy (bytes : List UInt8) : Text :=
  (decodeAll bytes).map fun char => char.getD '�'

end FilterAssist.Utf8
