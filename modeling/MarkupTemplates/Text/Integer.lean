import MarkupTemplates.Text.Blank

/-!
# Integers in decimal notation

`readInt32?` reads an optional sign and decimal digits, as long as the value has 32 bits.
-/

namespace MarkupTemplates.Text

/-- The value of decimal digits; `none` if there are none or something else is among them. -/
def readNat? (cs : List Char) : Option Nat :=
  if cs.isEmpty || !cs.all Char.isDigit then none
  else some (cs.foldl (fun n c => 10 * n + (c.toNat - '0'.toNat)) 0)

/-- The value of a signed decimal numeral. -/
def readInt? : List Char → Option Int
  | [] => none
  | c :: cs =>
    if c = '-' then (readNat? cs).map fun n => -(n : Int)
    else if c = '+' then (readNat? cs).map fun n => (n : Int)
    else (readNat? (c :: cs)).map fun n => (n : Int)

/-- The value of a signed decimal numeral, if it fits into 32 bits with a sign. -/
def readInt32? (cs : List Char) : Option Int :=
  (readInt? cs).filter fun n => -2147483648 ≤ n && n ≤ 2147483647

example : readInt32? "+2147483647".toList = some 2147483647 := by decide
example : readInt32? "-2147483649".toList = none := by decide
example : readInt32? "-".toList = none := by decide

end MarkupTemplates.Text
