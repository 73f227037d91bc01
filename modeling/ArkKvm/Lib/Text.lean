import Mathlib

/-!
# Header text

The small part of string handling that header and request parsers need, over
lists of characters: trimming blanks, splitting at a separator and reading a
signed 64-bit decimal number.
-/

namespace ArkKvm.Lib.Text

def isWhiteSpace (c : Char) : Bool :=
  (0x9 ≤ c.toNat && c.toNat ≤ 0xD) || (0x2000 ≤ c.toNat && c.toNat ≤ 0x200A) ||
    [0x20, 0x85, 0xA0, 0x1680, 0x2028, 0x2029, 0x202F, 0x205F, 0x3000].contains c.toNat

/-- Remove leading and trailing white space. -/
def trim (s : List Char) : List Char :=
  ((s.dropWhile isWhiteSpace).reverse.dropWhile isWhiteSpace).reverse

def splitOnce (sep : Char) : List Char → Option (List Char × List Char)
  | [] => none
  | c :: cs =>
      if c = sep then some ([], cs)
      else (splitOnce sep cs).map fun parts => (c :: parts.1, parts.2)

def readDigits (acc : Nat) : List Char → Option Nat
  | [] => some acc
  | c :: cs =>
      if c.isDigit then readDigits (acc * 10 + (c.toNat - '0'.toNat)) cs else none

def parseDigits : List Char → Option Nat
  | [] => none
  | cs => readDigits 0 cs

def parseI64 : List Char → Option Int
  | '-' :: cs => (parseDigits cs).bind fun n => if n ≤ 2 ^ 63 then some (-(n : Int)) else none
  | '+' :: cs => (parseDigits cs).bind fun n => if n < 2 ^ 63 then some (n : Int) else none
  | cs => (parseDigits cs).bind fun n => if n < 2 ^ 63 then some (n : Int) else none

end ArkKvm.Lib.Text
