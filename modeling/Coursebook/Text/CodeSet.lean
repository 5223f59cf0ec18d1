import Coursebook.Text.Blank

/-!
# Coursebook — sets of code points

A set of code points kept as ranges, and the written form in which the tables of this library give
one: words such as `41-5a` or `b7`, in hexadecimal, smallest first.
-/

namespace Coursebook.Text

/-- The value of a hexadecimal digit of either case. -/
def hexDigit? (c : Char) : Option Nat :=
  if '0' ≤ c ∧ c ≤ '9' then some (c.toNat - '0'.toNat)
  else if 'a' ≤ c ∧ c ≤ 'f' then some (c.toNat - 'a'.toNat + 10)
  else if 'A' ≤ c ∧ c ≤ 'F' then some (c.toNat - 'A'.toNat + 10)
  else none

/-- The number that the hexadecimal digits of a text write; anything else in it is passed over. -/
def hexNumber (s : List Char) : Nat :=
  s.foldl (fun n c => match hexDigit? c with | some d => 16 * n + d | none => n) 0

/-- The two parts of a text around the first `sep`; the second is `none` where there is no `sep`. -/
def cut (sep : Char) (s : List Char) : List Char × Option (List Char) :=
  match s.dropWhile (· != sep) with
  | [] => (s, none)
  | _ :: r => (s.takeWhile (· != sep), some r)

/-- A text cut at every `sep`. -/
def splitAll (sep : Char) (s : List Char) : List (List Char) :=
  let (w, ws) := s.foldr
    (fun c (w, ws) => if c = sep then ([], w :: ws) else (c :: w, ws)) ([], [])
  w :: ws

/-- First and last code point of a range word: `41-5a`, or `b7` for a single one. -/
def rangeWord (w : List Char) : Nat × Nat :=
  match cut '-' w with
  | (a, some b) => (hexNumber a, hexNumber b)
  | (a, none) => (hexNumber a, hexNumber a)

/-- A set of code points, as ranges with both ends included. -/
structure CodeSet where
  /-- First and last member of each range. -/
  ranges : List (Nat × Nat)

/-- Reads the written form of a set. -/
def CodeSet.ofText (s : String) : CodeSet := ⟨(words s.toList).map rangeWord⟩

/-- Membership of a code point. -/
def CodeSet.hasCode (s : CodeSet) (n : Nat) : Bool := s.ranges.any fun r => r.1 ≤ n && n ≤ r.2

/-- Membership of a character. -/
def CodeSet.has (s : CodeSet) (c : Char) : Bool := s.hasCode c.toNat

end Coursebook.Text
