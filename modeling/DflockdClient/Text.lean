import Mathlib.Data.List.DropRight
import DflockdClient.Numerals.Positional

/-!
The parts of Python's `str`, `bytes` and `int` that the client relies on. A `str`
is its list of code points (surrogates included), a `bytes` its list of octets.
-/

namespace DflockdClient

abbrev Str := List Nat

abbrev Bytes := List UInt8

def str (literal : String) : Str := literal.toList.map Char.toNat

/-- The white space of `str.split()` and `str.isspace()`. -/
def isSpace (c : Nat) : Bool :=
  (9 ≤ c && c ≤ 13) || (0x1c ≤ c && c ≤ 0x20) || c == 0x85 || c == 0xa0 || c == 0x1680 ||
    (0x2000 ≤ c && c ≤ 0x200a) || c == 0x2028 || c == 0x2029 || c == 0x202f || c == 0x205f ||
    c == 0x3000

def split (text : Str) : List Str :=
  (text.splitOnP isSpace).filter (· ≠ [])

def startswith (text start : Str) : Bool := start.isPrefixOf text

def rstripNewlines (text : Str) : Str := text.rdropWhile fun c => c == 13 || c == 10

def joinSpaces (parts : List Str) : Str := (str " ").intercalate parts

def encodeChar (c : Nat) : Option Bytes :=
  if c < 0x80 then some [.ofNat c]
  else if c < 0x800 then some [.ofNat (0xc0 + c / 64), .ofNat (0x80 + c % 64)]
  else if 0xd800 ≤ c ∧ c < 0xe000 then none
  else if c < 0x10000 then
    some [.ofNat (0xe0 + c / 4096), .ofNat (0x80 + c / 64 % 64), .ofNat (0x80 + c % 64)]
  else if c < 0x110000 then
    some [.ofNat (0xf0 + c / 262144), .ofNat (0x80 + c / 4096 % 64),
      .ofNat (0x80 + c / 64 % 64), .ofNat (0x80 + c % 64)]
  else none

/-- `text.encode("utf-8")`; `none` stands for `UnicodeEncodeError`. -/
def encode (text : Str) : Option Bytes :=
  match text with
  | [] => some []
  | c :: rest => do
      let first ← encodeChar c
      let later ← encode rest
      pure (first ++ later)

def isContinuation (b : UInt8) : Bool := 0x80 ≤ b.toNat && b.toNat < 0xc0

def decodeChar (bytes : Bytes) : Option (Nat × Bytes) :=
  match bytes with
  | [] => none
  | b :: rest =>
      if b.toNat < 0x80 then some (b.toNat, rest)
      else if b.toNat < 0xc2 then none
      else if b.toNat < 0xe0 then
        match rest with
        | b₁ :: rest =>
            if isContinuation b₁ then
              some ((b.toNat - 0xc0) * 64 + (b₁.toNat - 0x80), rest)
            else none
        | _ => none
      else if b.toNat < 0xf0 then
        match rest with
        | b₁ :: b₂ :: rest =>
            let c := (b.toNat - 0xe0) * 4096 + (b₁.toNat - 0x80) * 64 + (b₂.toNat - 0x80)
            if isContinuation b₁ && isContinuation b₂ && 0x800 ≤ c && !(0xd800 ≤ c && c < 0xe000)
            then some (c, rest)
            else none
        | _ => none
      else
        match rest with
        | b₁ :: b₂ :: b₃ :: rest =>
            let c := (b.toNat - 0xf0) * 262144 + (b₁.toNat - 0x80) * 4096 +
              (b₂.toNat - 0x80) * 64 + (b₃.toNat - 0x80)
            if isContinuation b₁ && isContinuation b₂ && isContinuation b₃ &&
              0x10000 ≤ c && c < 0x110000
            then some (c, rest)
            else none
        | _ => none

def decodeFrom (fuel : Nat) (bytes : Bytes) : Option Str :=
  match fuel, bytes with
  | _, [] => some []
  | 0, _ :: _ => none
  | fuel + 1, bytes => do
      let (c, rest) ← decodeChar bytes
      let later ← decodeFrom fuel rest
      pure (c :: later)

/-- `raw.decode("utf-8")`; `none` stands for `UnicodeDecodeError`. Each code point takes at
least one octet, so the length is enough fuel. -/
def decode (raw : Bytes) : Option Str := decodeFrom raw.length raw

/-- The zeros of the decimal digit ranges of Unicode 15.0. -/
def decimalZeros : List Nat :=
  [0x30, 0x660, 0x6f0, 0x7c0, 0x966, 0x9e6, 0xa66, 0xae6, 0xb66, 0xbe6, 0xc66, 0xce6, 0xd66,
    0xde6, 0xe50, 0xed0, 0xf20, 0x1040, 0x1090, 0x17e0, 0x1810, 0x1946, 0x19d0, 0x1a80, 0x1a90,
    0x1b50, 0x1bb0, 0x1c40, 0x1c50, 0xa620, 0xa8d0, 0xa900, 0xa9d0, 0xa9f0, 0xaa50, 0xabf0,
    0xff10, 0x104a0, 0x10d30, 0x11066, 0x110f0, 0x11136, 0x111d0, 0x112f0, 0x11450, 0x114d0,
    0x11650, 0x116c0, 0x11730, 0x118e0, 0x11950, 0x11c50, 0x11d50, 0x11da0, 0x11f50, 0x16a60,
    0x16ac0, 0x16b50, 0x1d7ce, 0x1d7d8, 0x1d7e2, 0x1d7ec, 0x1d7f6, 0x1e140, 0x1e2f0, 0x1e4f0,
    0x1e950, 0x1fbf0]

def digitValue (c : Nat) : Option Nat :=
  decimalZeros.findSome? fun first =>
    if first ≤ c ∧ c < first + 10 then some (c - first) else none

/-- Digits, with single underscores allowed between them. -/
def digitRun (text : Str) : Option (List Nat) :=
  match text with
  | [] => none
  | [c] => (digitValue c).map fun digit => [digit]
  | c :: separator :: rest =>
      match digitValue c with
      | none => none
      | some digit =>
          if separator = 0x5f then (digitRun rest).map (digit :: ·)
          else (digitRun (separator :: rest)).map (digit :: ·)

/-- CPython's default limit on the digits of an integer literal. -/
def maxIntDigits : Nat := 4300

def unsignedInt (text : Str) : Option Nat := do
  let digits ← digitRun text
  if digits.length ≤ maxIntDigits then some (digits.foldl (fun value digit => 10 * value + digit) 0)
  else none

/-- `int()` skips the ASCII white space of C and every other white space above it. -/
def isIntSpace (c : Nat) : Bool := (9 ≤ c && c ≤ 13) || c == 32 || (127 ≤ c && isSpace c)

/-- `int(text)`; `none` stands for `ValueError`. -/
def parseInt (text : Str) : Option Int :=
  match (text.dropWhile isIntSpace).rdropWhile isIntSpace with
  | [] => none
  | sign :: rest =>
      if sign = 0x2b then (unsignedInt rest).map fun value => (value : Int)
      else if sign = 0x2d then (unsignedInt rest).map fun value => -(value : Int)
      else (unsignedInt (sign :: rest)).map fun value => (value : Int)

def hexValue (c : Nat) : Option Nat :=
  if 0x61 ≤ c ∧ c ≤ 0x66 then some (c - 0x57)
  else if 0x41 ≤ c ∧ c ≤ 0x46 then some (c - 0x37)
  else digitValue c

def hexRun (text : Str) : Option (List Nat) :=
  match text with
  | [] => none
  | [c] => (hexValue c).map fun digit => [digit]
  | c :: separator :: rest =>
      match hexValue c with
      | none => none
      | some digit =>
          if separator = 0x5f then (hexRun rest).map (digit :: ·)
          else (hexRun (separator :: rest)).map (digit :: ·)

/-- Base 16 allows `0x` before the digits and has no limit on their number. -/
def unsignedHexInt (text : Str) : Option Nat :=
  let digits := match text with
    | first :: marker :: rest =>
        if first = 0x30 ∧ (marker = 0x78 ∨ marker = 0x58) then
          match rest with
          | separator :: rest' => if separator = 0x5f then rest' else rest
          | [] => rest
        else text
    | _ => text
  (hexRun digits).map (Numerals.value 16)

def parseHexInt (text : Str) : Option Int :=
  match (text.dropWhile isIntSpace).rdropWhile isIntSpace with
  | [] => none
  | sign :: rest =>
      if sign = 0x2b then (unsignedHexInt rest).map Int.ofNat
      else if sign = 0x2d then (unsignedHexInt rest).map Int.negOfNat
      else (unsignedHexInt (sign :: rest)).map Int.ofNat

def decimalNat (n : Nat) : Str := (Nat.toDigits 10 n).map Char.toNat

def decimal (i : Int) : Option Str :=
  if (decimalNat i.natAbs).length ≤ maxIntDigits then
    some (if i < 0 then 0x2d :: decimalNat i.natAbs else decimalNat i.natAbs)
  else none

example : split (str " ok  abc\t33 ") = [str "ok", str "abc", str "33"] := by decide

example : parseInt (str "+1_0") = some 10 ∧ parseInt (str "1__0") = none := by decide

example : parseHexInt (str " 0x_fF") = some 255 ∧ parseHexInt (str "f_") = none := by decide

end DflockdClient
