import Mathlib

/-!
# Reading bytes as text

UTF-8 with replacement: a byte sequence that encodes no character is read as U+FFFD, one for
each longest beginning of an encoding.
-/

namespace ArkKvm.Lib.Utf8

def replacement : Char := '\uFFFD'

def isContinuation (b : UInt8) : Bool := 0x80 ≤ b && b ≤ 0xBF

def isSecond (first b : UInt8) : Bool :=
  if first = 0xE0 then 0xA0 ≤ b && b ≤ 0xBF
  else if first = 0xED then 0x80 ≤ b && b ≤ 0x9F
  else if first = 0xF0 then 0x90 ≤ b && b ≤ 0xBF
  else if first = 0xF4 then 0x80 ≤ b && b ≤ 0x8F
  else isContinuation b

/-- Read the bytes of a character behind its first one; `acc` is the value read so far. -/
def readTail (acc : Nat) : List (UInt8 → Bool) → List UInt8 → Char × List UInt8
  | [], rest => (Char.ofNat acc, rest)
  | _ :: _, [] => (replacement, [])
  | p :: ps, b :: rest =>
      if p b then readTail (acc * 64 + b.toNat % 64) ps rest else (replacement, b :: rest)

def nextChar (first : UInt8) (rest : List UInt8) : Char × List UInt8 :=
  if first < 0x80 then readTail first.toNat [] rest
  else if 0xC2 ≤ first ∧ first ≤ 0xDF then readTail (first.toNat % 32) [isContinuation] rest
  else if 0xE0 ≤ first ∧ first ≤ 0xEF then
    readTail (first.toNat % 16) [isSecond first, isContinuation] rest
  else if 0xF0 ≤ first ∧ first ≤ 0xF4 then
    readTail (first.toNat % 8) [isSecond first, isContinuation, isContinuation] rest
  else (replacement, rest)

def readChars : Nat → List UInt8 → List Char
  | 0, _ => []
  | _ + 1, [] => []
  | n + 1, first :: rest => (nextChar first rest).1 :: readChars n (nextChar first rest).2

def fromUtf8Lossy (bytes : List UInt8) : List Char := readChars bytes.length bytes

example : fromUtf8Lossy [0x61, 0xC3, 0xA9, 0xE2, 0x82, 0xFF] =
    ['a', 'é', replacement, replacement] := by decide

end ArkKvm.Lib.Utf8
