import Coursebook.Text.CodeSet

/-!
# Coursebook — digits and numerals

The decimal digits of all scripts, and the other characters that count as digits or as numbers.
-/

namespace Coursebook.Text

/-- The zeros; the digits of a script follow its zero. -/
def zeros : List Nat :=
  (words (
  "30 660 6f0 7c0 966 9e6 a66 ae6 b66 be6 c66 ce6 d66 de6 e50 ed0 f20 1040 1090 17e0 1810 1946
   19d0 1a80 1a90 1b50 1bb0 1c40 1c50 a620 a8d0 a900 a9d0 a9f0 aa50 abf0 ff10 104a0 10d30 11066
   110f0 11136 111d0 112f0 11450 114d0 11650 116c0 11730 118e0 11950 11c50 11d50 11da0 16a60 16ac0
   16b50 1d7ce 1d7d8 1d7e2 1d7ec 1d7f6 1e140 1e2f0 1e950 1fbf0").toList).map hexNumber

/-- The value of a decimal digit. -/
def decimalDigit? (c : Char) : Option Nat :=
  (zeros.find? fun z => z ≤ c.toNat && c.toNat < z + 10).map (c.toNat - ·)

/-- Digits that have no place in a decimal number, such as superscripts. -/
def otherDigits : CodeSet := .ofText
  "b2-b3 b9 1369-1371 19da 2070 2074-2079 2080-2089 2460-2468 2474-247c 2488-2490 24ea 24f5-24fd
   24ff 2776-277e 2780-2788 278a-2792 10a40-10a43 10e60-10e68 11052-1105a 1f100-1f10a"

/-- Characters that write a number but are no digits, such as fractions. -/
def otherNumbers : CodeSet := .ofText
  "bc-be 9f4-9f9 b72-b77 bf0-bf2 c78-c7e d58-d5e d70-d78 f2a-f33 1372-137c 16ee-16f0 17f0-17f9
   2150-2182 2185-2189 2469-2473 247d-2487 2491-249b 24eb-24f4 24fe 277f 2789 2793 2cfd 3007
   3021-3029 3038-303a 3192-3195 3220-3229 3248-324f 3251-325f 3280-3289 32b1-32bf 3405 3483 382a
   3b4d 4e00 4e03 4e07 4e09 4e5d 4e8c 4e94 4e96 4ebf-4ec0 4edf 4ee8 4f0d 4f70 5104 5146 5169 516b
   516d 5341 5343-5345 534c 53c1-53c4 56db 58f1 58f9 5e7a 5efe-5eff 5f0c-5f0e 5f10 62fe 634c 67d2
   6f06 7396 767e 8086 842c 8cae 8cb3 8d30 9621 9646 964c 9678 96f6 a6e6-a6ef a830-a835 f96b f973
   f978 f9b2 f9d1 f9d3 f9fd 10107-10133 10140-10178 1018a-1018b 102e1-102fb 10320-10323 10341 1034a
   103d1-103d5 10858-1085f 10879-1087f 108a7-108af 108fb-108ff 10916-1091b 109bc-109bd 109c0-109cf
   109d2-109ff 10a44-10a48 10a7d-10a7e 10a9d-10a9f 10aeb-10aef 10b58-10b5f 10b78-10b7f 10ba9-10baf
   10cfa-10cff 10e69-10e7e 10f1d-10f26 10f51-10f54 10fc5-10fcb 1105b-11065 111e1-111f4 1173a-1173b
   118ea-118f2 11c5a-11c6c 11fc0-11fd4 12400-1246e 16b5b-16b61 16e80-16e96 1d2e0-1d2f3 1d360-1d378
   1e8c7-1e8cf 1ec71-1ecab 1ecad-1ecaf 1ecb1-1ecb4 1ed01-1ed2d 1ed2f-1ed3d 1f10b-1f10c 20001 20064
   200e2 20121 2092a 20983 2098c 2099c 20aea 20afd 20b19 22390 22998 23b1b 2626d 2f890"

/-- Whether a character is a digit. -/
def isDigit (c : Char) : Bool := (decimalDigit? c).isSome || otherDigits.has c

/-- Whether a character writes a number. -/
def isNumber (c : Char) : Bool := isDigit c || otherNumbers.has c

/-- The number that decimal digits write, if a text consists of such. -/
def decimal? (s : List Char) : Option Nat :=
  if s = [] then none
  else s.foldlM (fun n c => (decimalDigit? c).map (10 * n + ·)) 0

end Coursebook.Text
