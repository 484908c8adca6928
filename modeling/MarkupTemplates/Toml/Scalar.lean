import MarkupTemplates.Text.Integer
import MarkupTemplates.Toml.Basic

/-!
# Strings, numbers and times of TOML

Strings are read from the text up to their closing quotes.  The other scalars are words: `ofWord?`
says what a word stands for.
-/

namespace MarkupTemplates.Toml

/-! ### Strings -/

/-- Whether a character may stand in a comment or a literal string: a tab or no control
character. -/
def isPrintable (c : Char) : Bool := c == '\t' || (' ' ≤ c && c ≠ '\x7F')

/-- Whether a character is a space or tab. -/
def isGap (c : Char) : Bool := c == ' ' || c == '\t'

/-- Whether the text begins with a line break. -/
def beginsWithBreak : List Char → Bool
  | '\n' :: _ => true
  | '\r' :: '\n' :: _ => true
  | _ => false

/-- The text without the line break it begins with. -/
def dropBreak : List Char → List Char
  | '\n' :: rest => rest
  | '\r' :: '\n' :: rest => rest
  | cs => cs

/-- The escapes of one letter. -/
def escapes : List (Char × Char) :=
  [('b', '\x08'), ('t', '\t'), ('n', '\n'), ('f', '\x0C'), ('r', '\r'), ('"', '"'), ('\\', '\\')]

/-- The character that hexadecimal digits give. -/
def hexChar? (digits : List Char) : Option Char :=
  if digits.all (fun c => (Text.hexDigit? c).isSome) then
    let n := Text.hexValue digits
    if n.isValidChar then some (Char.ofNat n) else none
  else none

/-- A string and what it leaves of the text. -/
abbrev StringRead := Option (List Char × List Char)

/-- The string with a character before it. -/
def before (c : Char) (r : StringRead) : StringRead := r.map fun (s, rest) => (c :: s, rest)

/-- Reads the rest of a string between quotes. -/
def readBasic : List Char → StringRead
  | [] => none
  | '"' :: rest => some ([], rest)
  | '\\' :: 'u' :: a :: b :: c :: d :: rest => do before (← hexChar? [a, b, c, d]) (readBasic rest)
  | '\\' :: 'U' :: a :: b :: c :: d :: e :: f :: g :: h :: rest => do
    before (← hexChar? [a, b, c, d, e, f, g, h]) (readBasic rest)
  | '\\' :: c :: rest => do before (← escapes.lookup c) (readBasic rest)
  | c :: rest => if isPrintable c then before c (readBasic rest) else none

/-- Reads the rest of a string between threefold quotes.  After a backslash at the end of a line,
`skipping`, white space is left out. -/
def readLongBasic (skipping : Bool) : List Char → StringRead
  | [] => none
  | '"' :: '"' :: '"' :: '"' :: '"' :: rest => some (['"', '"'], rest)
  | '"' :: '"' :: '"' :: '"' :: rest => some (['"'], rest)
  | '"' :: '"' :: '"' :: rest => some ([], rest)
  | '\r' :: '\n' :: rest =>
    if skipping then readLongBasic true rest else before '\n' (readLongBasic false rest)
  | '\\' :: 'u' :: a :: b :: c :: d :: rest => do
    before (← hexChar? [a, b, c, d]) (readLongBasic false rest)
  | '\\' :: 'U' :: a :: b :: c :: d :: e :: f :: g :: h :: rest => do
    before (← hexChar? [a, b, c, d, e, f, g, h]) (readLongBasic false rest)
  | '\\' :: c :: rest =>
    match escapes.lookup c with
    | some d => before d (readLongBasic false rest)
    | none =>
      if beginsWithBreak ((c :: rest).dropWhile isGap) && (isGap c || c == '\n' || c == '\r') then
        readLongBasic true rest
      else none
  | c :: rest =>
    if skipping && (isGap c || c == '\n') then readLongBasic true rest
    else if c == '\n' || isPrintable c then before c (readLongBasic false rest)
    else none

/-- Reads the rest of a string between apostrophes. -/
def readLiteral : List Char → StringRead
  | [] => none
  | '\'' :: rest => some ([], rest)
  | c :: rest => if isPrintable c then before c (readLiteral rest) else none

/-- Reads the rest of a string between threefold apostrophes. -/
def readLongLiteral : List Char → StringRead
  | [] => none
  | '\'' :: '\'' :: '\'' :: '\'' :: '\'' :: rest => some (['\'', '\''], rest)
  | '\'' :: '\'' :: '\'' :: '\'' :: rest => some (['\''], rest)
  | '\'' :: '\'' :: '\'' :: rest => some ([], rest)
  | '\r' :: '\n' :: rest => before '\n' (readLongLiteral rest)
  | c :: rest =>
    if c == '\n' || isPrintable c then before c (readLongLiteral rest) else none

/-- Reads a string of one line. -/
def readShortString : List Char → StringRead
  | '"' :: rest => readBasic rest
  | '\'' :: rest => readLiteral rest
  | _ => none

/-- Reads a string of any kind. -/
def readString : List Char → StringRead
  | '"' :: '"' :: '"' :: rest => readLongBasic false (dropBreak rest)
  | '\'' :: '\'' :: '\'' :: rest => readLongLiteral (dropBreak rest)
  | cs => readShortString cs

/-! ### Numbers -/

/-- Digits of a class without the underscores between them; `none` if one is not between digits. -/
def digits? (isDigit : Char → Bool) : List Char → Option (List Char)
  | [] => none
  | [c] => if isDigit c then some [c] else none
  | c :: '_' :: rest => if isDigit c then (digits? isDigit rest).map (c :: ·) else none
  | c :: rest => if isDigit c then (digits? isDigit rest).map (c :: ·) else none

/-- The word without a sign in front. -/
def dropSign : List Char → List Char
  | '+' :: cs => cs
  | '-' :: cs => cs
  | cs => cs

/-- Whether a word is a decimal integer without sign and without needless zeros. -/
def isDecimal (cs : List Char) : Bool :=
  (digits? Char.isDigit cs).isSome && (cs == ['0'] || cs.head? != some '0')

/-- The value of digits in a base. -/
def valueOf (base : Nat) (cs : List Char) : Nat :=
  cs.foldl (fun n c => base * n + (Text.hexDigit? c).getD 0) 0

/-- Whether a character is a digit of a base. -/
def isDigitOf (base : Nat) (c : Char) : Bool := ((Text.hexDigit? c).filter (· < base)).isSome

/-- An integer that fits into 64 bits with a sign. -/
def integer? (n : Int) : Option Value :=
  if -9223372036854775808 ≤ n ∧ n ≤ 9223372036854775807 then some (.integer n) else none

/-- The integer that a word stands for. -/
def ofIntegerWord? (cs : List Char) : Option Value :=
  let based (base : Nat) (cs : List Char) : Option Value := do
    integer? (valueOf base (← digits? (isDigitOf base) cs))
  match cs with
  | '0' :: 'x' :: rest => based 16 rest
  | '0' :: 'o' :: rest => based 8 rest
  | '0' :: 'b' :: rest => based 2 rest
  | _ =>
    let unsigned := dropSign cs
    if isDecimal unsigned then do
      let n : Int := valueOf 10 (← digits? Char.isDigit unsigned)
      integer? (if cs.head? = some '-' then -n else n)
    else none

/-- Whether a character begins an exponent. -/
def isExponentMark (c : Char) : Bool := c == 'e' || c == 'E'

/-- Whether a word is a floating point number: a decimal integer with a fraction or an exponent or
both, or one of the numbers that have a name. -/
def isFloatWord (cs : List Char) : Bool :=
  let cs := dropSign cs
  if cs == ['i', 'n', 'f'] || cs == ['n', 'a', 'n'] then true
  else
    let mantissa := cs.takeWhile (!isExponentMark ·)
    let exponent := cs.dropWhile (!isExponentMark ·)
    let whole := mantissa.takeWhile (· != '.')
    let fraction := mantissa.dropWhile (· != '.')
    isDecimal whole && !(exponent.isEmpty && fraction.isEmpty) &&
      (fraction.isEmpty || (digits? Char.isDigit (fraction.drop 1)).isSome) &&
      (exponent.isEmpty || (digits? Char.isDigit (dropSign (exponent.drop 1))).isSome)

/-- The least number that is rounded to infinity when it is read with 64 bits. -/
def leastInfinite : Nat := Nat.pow 2 1024 - Nat.pow 2 970

/-- Whether a floating point word without a sign is rounded to infinity.  The place of its first
digit decides, unless there are 309 digits before the point. -/
def isTooLarge (cs : List Char) : Bool :=
  let cs := cs.filter (· != '_')
  let mantissa := cs.takeWhile (!isExponentMark ·)
  let exponent := (cs.dropWhile (!isExponentMark ·)).drop 1
  let digits := valueOf 10 (mantissa.filter (· != '.'))
  let size : Int := valueOf 10 (dropSign exponent)
  let power : Int := (if exponent.head? = some '-' then -size else size) -
    ((mantissa.dropWhile (· != '.')).drop 1).length
  let reach : Int := (toString digits).length + power
  if digits = 0 ∨ reach < 309 then false
  else if 309 < reach then true
  else leastInfinite * Nat.pow 10 (-power).toNat ≤ digits * Nat.pow 10 power.toNat

/-- Whether a word is a floating point number that is not rounded to plus infinity. -/
def isFiniteWord (cs : List Char) : Bool :=
  isFloatWord cs && (cs.head? == some '-' || !isTooLarge (dropSign cs))

/-! ### Dates and times -/

/-- The value of two decimal digits. -/
def two? (a b : Char) : Option Nat := Text.readNat? [a, b]

/-- The number of days of a month. -/
def daysIn (year month : Nat) : Nat :=
  if month = 2 then
    if year % 4 = 0 ∧ (year % 100 ≠ 0 ∨ year % 400 = 0) then 29 else 28
  else if month = 4 ∨ month = 6 ∨ month = 9 ∨ month = 11 then 30
  else 31

/-- What comes after the date that a word begins with. -/
def afterDate? : List Char → Option (List Char)
  | a :: b :: c :: d :: '-' :: e :: f :: '-' :: g :: h :: rest => do
    let year ← Text.readNat? [a, b, c, d]
    let month ← two? e f
    let day ← two? g h
    if 1 ≤ month ∧ month ≤ 12 ∧ 1 ≤ day ∧ day ≤ daysIn year month then some rest else none
  | _ => none

/-- What comes after the time that a word begins with. -/
def afterTime? : List Char → Option (List Char)
  | a :: b :: ':' :: c :: d :: ':' :: e :: f :: rest => do
    let hour ← two? a b
    let minute ← two? c d
    let second ← two? e f
    if 23 < hour ∨ 59 < minute ∨ 60 < second then none
    else
      match rest with
      | '.' :: fraction =>
        if (fraction.head?).any Char.isDigit then some (fraction.dropWhile Char.isDigit) else none
      | _ => some rest
  | _ => none

/-- Whether a word is a distance from universal time, or empty. -/
def isOffset : List Char → Bool
  | [] => true
  | ['Z'] => true
  | ['z'] => true
  | [sign, a, b, ':', c, d] =>
    (sign == '+' || sign == '-') && (two? a b).any (· ≤ 23) && (two? c d).any (· ≤ 59)
  | _ => false

/-- Whether a word is a time with or without its distance from universal time. -/
def isTimeOfDate (cs : List Char) : Bool :=
  match afterTime? cs with
  | some rest => isOffset rest
  | none => false

/-- Whether a word is a date. -/
def isDate (cs : List Char) : Bool := afterDate? cs == some []

/-- Whether a word is a date, a time, or both. -/
def isTimeWord (cs : List Char) : Bool :=
  match afterDate? cs with
  | some [] => true
  | some (c :: rest) => (c == 'T' || c == 't') && isTimeOfDate rest
  | none => afterTime? cs == some []

/-! ### Words -/

/-- Whether a character can be part of a word. -/
def isWordChar (c : Char) : Bool :=
  c.isAlphanum || c == '+' || c == '-' || c == '.' || c == ':' || c == '_'

/-- What a word stands for. -/
def ofWord? (cs : List Char) : Option Value :=
  if cs = ['t', 'r', 'u', 'e'] then some (.boolean true)
  else if cs = ['f', 'a', 'l', 's', 'e'] then some (.boolean false)
  else if isTimeWord cs then some .time
  else if isFiniteWord cs then some .float
  else ofIntegerWord? cs

/-- Reads a word; a date may be followed by a blank and a time. -/
def readWord (cs : List Char) : Option (Value × List Char) :=
  let word := cs.takeWhile isWordChar
  let rest := cs.dropWhile isWordChar
  let time := (rest.drop 1).takeWhile isWordChar
  if isDate word && rest.head? == some ' ' && isTimeOfDate time then
    some (.time, (rest.drop 1).dropWhile isWordChar)
  else (ofWord? word).map fun value => (value, rest)

end MarkupTemplates.Toml
