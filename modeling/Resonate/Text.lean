import Mathlib

set_option autoImplicit false

/-! String operations by characters: search, splitting, prefixes, substitution and decimal
integers. -/

namespace Text

def contains (text : String) (char : Char) : Bool := text.toList.elem char

/-- The text before and after the first `char`. -/
def splitOnce (text : String) (char : Char) : Option (String × String) :=
  match text.toList.dropWhile (· ≠ char) with
  | [] => none
  | _ :: after => some (String.ofList (text.toList.takeWhile (· ≠ char)), String.ofList after)

def stripPrefix (text pre : String) : Option String :=
  if pre.toList <+: text.toList then
    some (String.ofList (text.toList.drop pre.toList.length))
  else none

def startsWith (text : String) (char : Char) : Bool := text.toList.head? == some char

/-- Substitute left to right. `skip` counts the characters of a match not yet passed. -/
def replaceChars (pattern new : List Char) : Nat → List Char → List Char
  | _, [] => []
  | skip + 1, _ :: rest => replaceChars pattern new skip rest
  | 0, char :: rest =>
      if pattern <+: char :: rest then
        new ++ replaceChars pattern new (pattern.length - 1) rest
      else char :: replaceChars pattern new 0 rest

/-- Every occurrence of a non-empty `pattern` replaced by `new`. -/
def replace (text pattern new : String) : String :=
  String.ofList (replaceChars pattern.toList new.toList 0 text.toList)

def digit (char : Char) : Option Nat :=
  if '0' ≤ char ∧ char ≤ '9' then some (char.toNat - '0'.toNat) else none

def decimal (acc : Nat) : List Char → Option Nat
  | [] => some acc
  | char :: rest => (digit char).bind fun value => decimal (acc * 10 + value) rest

/-- At least one digit. -/
def digits : List Char → Option Nat
  | [] => none
  | chars => decimal 0 chars

def i64Min : Int := -2 ^ 63
def i64Max : Int := 2 ^ 63 - 1

/-- A decimal integer with an optional sign, within 64 bits. -/
def parseI64 (text : String) : Option Int :=
  let value : Option Int :=
    match text.toList with
    | '-' :: rest => (digits rest).map fun magnitude => -(magnitude : Int)
    | '+' :: rest => (digits rest).map fun magnitude => (magnitude : Int)
    | chars => (digits chars).map fun magnitude => (magnitude : Int)
  value.filter fun value => i64Min ≤ value ∧ value ≤ i64Max

def saturatingAdd (left right : Int) : Int := max i64Min (min i64Max (left + right))

example : replace "{{.id}}-{{.timestamp}}" "{{.id}}" "tick" = "tick-{{.timestamp}}" := by decide

example : parseI64 "-12" = some (-12) ∧ parseI64 "+7" = some 7 ∧ parseI64 "1a" = none ∧
    parseI64 "" = none := by decide

end Text
