import Iec61850South.Config.Json
import Iec61850South.Config.Data
import Iec61850South.Lib.Stateful

/-! # Reading selectors and addresses out of texts

`parseOsiSelector` walks through the tokens of a text with `strtok_r` and reads
each of them with `std::stoul`. It stores byte after byte through a pointer
into the array of a selector: the stores are the state of the computation, so
that they are known also when it throws. `isValidIPAddress` is `inet_pton`.
-/

namespace Iec61850South

open Lib

/-! ## `strtok_r` and `std::stoul` -/

/-- The delimiters `" ,.-"`. -/
def isDelimiter (c : Char) : Bool :=
  c = ' ' || c = ',' || c = '.' || c = '-'

/-- The tokens that successive calls of `strtok_r` return: the maximal runs of
characters that are not delimiters. -/
def tokens (s : List Char) : List (List Char) :=
  (s.splitOnP isDelimiter).filter (· ≠ [])

/-- `isspace` in the C locale. -/
def isSpace (c : Char) : Bool :=
  c = ' ' || c = '\t' || c = '\n' || c = '\x0b' || c = '\x0c' || c = '\r'

/-- The value of a digit in the given base. -/
def digitValue (base : Nat) (c : Char) : Option Nat :=
  let v :=
    if '0' ≤ c ∧ c ≤ '9' then some (c.toNat - '0'.toNat)
    else if 'a' ≤ c ∧ c ≤ 'z' then some (c.toNat - 'a'.toNat + 10)
    else if 'A' ≤ c ∧ c ≤ 'Z' then some (c.toNat - 'A'.toNat + 10)
    else none
  v.filter (· < base)

/-- The values of the longest run of digits at the front. -/
def leadingDigits (base : Nat) : List Char → List Nat
  | [] => []
  | c :: cs =>
    match digitValue base c with
    | some d => d :: leadingDigits base cs
    | none => []

/-- A `0x` in front of a hexadecimal digit is skipped in base 16. -/
def skipHexPrefix (base : Nat) : List Char → List Char
  | '0' :: x :: c :: cs =>
    if base = 16 ∧ (x = 'x' ∨ x = 'X') ∧ (digitValue 16 c).isSome then c :: cs
    else '0' :: x :: c :: cs
  | s => s

def ULONG_MAX : Nat := 18446744073709551615

/-- `std::stoul(str, nullptr, base)`: white space, an optional sign, an optional
`0x`, and the longest run of digits. The errors are the two exceptions. -/
inductive StoulError where
  | invalid_argument
  | out_of_range
deriving DecidableEq

def stoul (base : Nat) (str : List Char) : Except StoulError Nat :=
  let s := str.dropWhile isSpace
  let negative := s.head? = some '-'
  let s := if s.head? = some '-' ∨ s.head? = some '+' then s.tail else s
  match leadingDigits base (skipHexPrefix base s) with
  | [] => .error .invalid_argument
  | digits =>
    let n := digits.foldl (fun acc d => acc * base + d) 0
    if ULONG_MAX < n then .error .out_of_range
    else if negative then .ok ((ULONG_MAX + 1 - n) % (ULONG_MAX + 1))
    else .ok n

/-! ## The selectors -/

/-- Computations that store bytes at positions of an array. -/
abbrev StoreM := EStateM ImportStop (List (Nat × UInt8))

/-- The number that a token is read as. -/
def readToken (nextToken : List Char) : Except ImportStop Nat :=
  let base := if ['0', 'x'].isPrefixOf nextToken then 16 else 10
  match stoul base nextToken with
  | .error .invalid_argument =>
    .error (.configurationException "bad format for 'OSI Selector' (not a byte)")
  | .error .out_of_range =>
    .error (.configurationException "bad format for 'OSI Selector (exceed an int)'")
  | .ok ul =>
    if ul > 255 then
      .error (.configurationException "bad format for 'OSI Selector' (exceed a byte)")
    else .ok ul

/-- The `while` loop of `parseOsiSelector`, from the given count on. -/
def parseTokens (selectorSize : Nat) : List (List Char) → Nat → StoreM Nat
  | [], count => pure count
  | nextToken :: rest, count => do
    if count ≥ selectorSize then
      throw (.configurationException "bad format for 'OSI Selector' (too many bytes)")
    let ul ← liftExcept (readToken nextToken)
    modify (· ++ [(count, UInt8.ofNat ul)])
    parseTokens selectorSize rest (count + 1)

/-- Returns the number of bytes stored through the pointer. -/
def parseOsiSelector (inputOsiSelector : String) (selectorSize : Nat) : StoreM Nat :=
  parseTokens selectorSize (tokens inputOsiSelector.toList) 0

/-- An array after the given stores; a store past the end is not in the array. -/
def applyStores {n : Nat} (value : Vector UInt8 n) (stores : List (Nat × UInt8)) :
    Vector UInt8 n :=
  stores.foldl (fun v s => v.setIfInBounds s.1 s.2) value

/-- `selector.size = parseOsi?Selector(input, &selector)` for a selector of the
given capacity. -/
def parseOsiSelectorInto {capacity : Nat} (inputOsiSelector : String)
    (selector : OsiSelector capacity) : Except ImportStop (OsiSelector capacity) :=
  match parseOsiSelector inputOsiSelector capacity [] with
  | .ok count stores => .ok ⟨UInt8.ofNat count, applyStores selector.value stores⟩
  | .error e _ => .error e

def parseOsiPSelector (inputOsiSelector : String) (pselector : PSelector) :
    Except ImportStop PSelector :=
  parseOsiSelectorInto inputOsiSelector pselector

def parseOsiSSelector (inputOsiSelector : String) (sselector : SSelector) :
    Except ImportStop SSelector :=
  parseOsiSelectorInto inputOsiSelector sselector

def parseOsiTSelector (inputOsiSelector : String) (tselector : TSelector) :
    Except ImportStop TSelector :=
  parseOsiSelectorInto inputOsiSelector tselector

/-! ## IP addresses -/

/-- The loop of `inet_pton(AF_INET)`: dotted decimal notation, four numbers of at
most 255 without leading zeros. `octet` is the number being read. -/
def inetPton4 : List Char → (octets : Nat) → (sawDigit : Bool) → (octet : Nat) → Bool
  | [], octets, _, _ => octets = 4
  | c :: cs, octets, sawDigit, octet =>
    if '0' ≤ c ∧ c ≤ '9' then
      let new := octet * 10 + (c.toNat - '0'.toNat)
      if sawDigit ∧ octet = 0 then false
      else if new > 255 then false
      else if sawDigit then inetPton4 cs octets true new
      else if octets = 4 then false
      else inetPton4 cs (octets + 1) true new
    else if c = '.' ∧ sawDigit then
      if octets = 4 then false else inetPton4 cs octets false 0
    else false

def isValidIPAddress (addrStr : String) : Bool :=
  inetPton4 addrStr.toList 0 false 0

example : isValidIPAddress "192.168.0.10" = true := by decide

end Iec61850South
