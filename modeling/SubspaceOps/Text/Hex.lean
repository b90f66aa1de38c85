import SubspaceOps.Text.Blank

/-!
# Hexadecimal text

Bytes are written as two lowercase digits each. Reading takes digits of either case and allows
ASCII blanks before, between and after the pairs, but not inside one.
-/
namespace SubspaceOps.Text

/-- The value of a hexadecimal digit of either case. -/
def hexValue? (c : Char) : Option Nat :=
  if '0' ≤ c ∧ c ≤ '9' then some (c.toNat - 48)
  else if 'a' ≤ c ∧ c ≤ 'f' then some (c.toNat - 87)
  else if 'A' ≤ c ∧ c ≤ 'F' then some (c.toNat - 55)
  else none

def isHexDigit (c : Char) : Bool := (hexValue? c).isSome

/-- Every character is a hexadecimal digit. -/
def isHex (s : String) : Bool := s.toList.all isHexDigit

/-- The last `width` hexadecimal digits of a number, the most significant first. -/
def hexPadded : Nat → Nat → List Char
  | 0, _ => []
  | width + 1, n => hexPadded width (n / 16) ++ [Nat.digitChar (n % 16)]

theorem length_hexPadded (width n : Nat) : (hexPadded width n).length = width := by
  induction width generalizing n with
  | zero => rfl
  | succ w ih => simp [hexPadded, ih]

theorem hexValue?_digitChar : ∀ {d : Nat}, d < 16 → hexValue? (Nat.digitChar d) = some d := by
  decide

theorem isHexDigit_of_mem_hexPadded {width n : Nat} {c : Char} (h : c ∈ hexPadded width n) :
    isHexDigit c = true := by
  induction width generalizing n with
  | zero => simp [hexPadded] at h
  | succ w ih =>
    rcases List.mem_append.1 h with h | h
    · exact ih h
    · rw [List.mem_singleton.1 h, isHexDigit, hexValue?_digitChar (Nat.mod_lt _ (by decide))]
      rfl

namespace Hex

def encodeChars (bs : List UInt8) : List Char := bs.flatMap fun b => hexPadded 2 b.toNat

def encode (bs : List UInt8) : String := String.ofList (encodeChars bs)

def decodeChars : List Char → Option (List UInt8)
  | [] => some []
  | c :: cs =>
    if isAsciiBlank c then decodeChars cs
    else
      match cs with
      | [] => none
      | d :: ds =>
        match hexValue? c, hexValue? d with
        | some x, some y => (decodeChars ds).map (UInt8.ofNat (16 * x + y) :: ·)
        | _, _ => none

def decode (s : String) : Option (List UInt8) := decodeChars s.toList

theorem length_encodeChars (bs : List UInt8) : (encodeChars bs).length = 2 * bs.length := by
  induction bs with
  | nil => rfl
  | cons b bs ih =>
    simp only [encodeChars, List.flatMap_cons, List.length_append, length_hexPadded,
      List.length_cons] at ih ⊢
    omega

theorem isHexDigit_of_mem_encodeChars {bs : List UInt8} {c : Char} (h : c ∈ encodeChars bs) :
    isHexDigit c = true := by
  obtain ⟨b, _, hc⟩ := List.mem_flatMap.1 h
  exact isHexDigit_of_mem_hexPadded hc

theorem isAsciiBlank_digitChar : ∀ {d : Nat}, d < 16 → isAsciiBlank (Nat.digitChar d) = false := by
  decide

theorem decodeChars_encodeChars (bs : List UInt8) : decodeChars (encodeChars bs) = some bs := by
  induction bs with
  | nil => rfl
  | cons b bs ih =>
    have hb := b.toNat_lt
    have hx : b.toNat / 16 % 16 < 16 := Nat.mod_lt _ (by decide)
    have hy : b.toNat % 16 < 16 := Nat.mod_lt _ (by decide)
    have : encodeChars (b :: bs) =
        Nat.digitChar (b.toNat / 16 % 16) :: Nat.digitChar (b.toNat % 16) :: encodeChars bs := rfl
    rw [this, decodeChars]
    simp only [isAsciiBlank_digitChar hx, hexValue?_digitChar hx, hexValue?_digitChar hy, ih]
    have : 16 * (b.toNat / 16 % 16) + b.toNat % 16 = b.toNat := by omega
    simp [this]

theorem decode_encode (bs : List UInt8) : decode (encode bs) = some bs := by
  simp [decode, encode, decodeChars_encodeChars]

theorem encode_inj {bs cs : List UInt8} : encode bs = encode cs ↔ bs = cs := by
  constructor
  · intro h
    exact Option.some.inj ((decode_encode bs).symm.trans (h ▸ decode_encode cs))
  · exact congrArg encode

end Hex

end SubspaceOps.Text
