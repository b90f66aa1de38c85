/-!
# Code points

A text in a JSON document may hold unpaired surrogates. A surrogate is a code point but no
character, so these texts are sequences of code points.
-/
namespace SubspaceOps

/-- A 16-bit unit that is half of a pair. -/
structure Surrogate where
  unit : Nat
  lower : 0xd800 ≤ unit
  upper : unit < 0xe000
  deriving DecidableEq, Repr

/-- The first half of a pair is high, the second one is not. -/
def Surrogate.isHigh (s : Surrogate) : Bool := s.unit < 0xdc00

/-- The character of a pair. -/
def Surrogate.pair (high low : Surrogate) : Char :=
  Char.ofNat (0x10000 + (high.unit - 0xd800) * 0x400 + (low.unit - 0xdc00))

inductive CodePoint
  | char (c : Char)
  | surrogate (s : Surrogate)
  deriving DecidableEq, Repr

namespace CodePoint

/-- What a 16-bit unit stands for on its own. -/
def ofUnit (n : Nat) : CodePoint :=
  if h : 0xd800 ≤ n ∧ n < 0xe000 then .surrogate ⟨n, h.1, h.2⟩ else .char (Char.ofNat n)

/-- Put a code point before others; a high surrogate joins a low one behind it. -/
def cons : CodePoint → List CodePoint → List CodePoint
  | .surrogate s, .surrogate t :: ps =>
    if s.isHigh && !t.isHigh then .char (s.pair t) :: ps else .surrogate s :: .surrogate t :: ps
  | p, ps => p :: ps

def char? : CodePoint → Option Char
  | .char c => some c
  | .surrogate _ => none

end CodePoint

/-- A text that may hold surrogates. -/
structure CodeText where
  points : List CodePoint
  deriving DecidableEq, Repr

namespace CodeText

def ofString (s : String) : CodeText := ⟨s.toList.map .char⟩

instance : Coe String CodeText := ⟨ofString⟩

/-- The same text, if it holds no surrogates. -/
def toString? (t : CodeText) : Option String := (t.points.mapM CodePoint.char?).map String.ofList

theorem toString?_ofString (s : String) : (s : CodeText).toString? = some s := by
  have chars (cs : List Char) : (cs.map CodePoint.char).mapM CodePoint.char? = some cs := by
    induction cs with
    | nil => rfl
    | cons c cs ih => simp [List.mapM_cons, CodePoint.char?, ih]
  rw [toString?, ofString, chars, Option.map_some, String.ofList_toList]

theorem ofString_inj {s t : String} : (s : CodeText) = t ↔ s = t := by
  refine ⟨fun h => ?_, congrArg ofString⟩
  have same := congrArg toString? h
  rw [toString?_ofString, toString?_ofString] at same
  exact Option.some.inj same

end CodeText

end SubspaceOps
