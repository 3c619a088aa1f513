import Roster.Json.Fault

/-!
# The pieces of a JSON text

White space, string literals, numbers and the three words. Each reader takes the unread text and
answers what it read with the text behind it, or the fault it met.

* `readString` reads the characters of a string literal up to its closing quote.
* `readNumber` keeps whole numbers that fit a machine word and rounds all others to doubles.
* `readScalar` reads any value that is not an array or an object.

Loops have a text as `clock`: each round takes a character off it. The text that is read is long
enough for that, because a round reads a character at least.
-/

namespace Roster.Json

/-- A reader takes the unread text and answers a value with the text behind it, or a fault. -/
abbrev Reader (α : Type) := Text → Except Fault (α × Text)

/-- A fault reported so many bytes past the start of the unread text. -/
def fail {α : Type} (complaint : Complaint) (unread : Text) (past : Nat) : Except Fault α :=
  .error ⟨complaint, unread, past⟩

/-- White space between the pieces of a JSON text. -/
def isSpace (c : Char) : Bool := c = ' ' || c = '\n' || c = '\t' || c = '\r'

/-- The text behind the white space at its start. -/
def skipSpace (t : Text) : Text := t.dropWhile isSpace

/-! ## Words -/

/-- Reads the letters of a word. -/
def readWord : (word : Text) → Text → Except Fault (Unit × Text)
  | [], t => .ok ((), t)
  | _ :: _, [] => fail .endInValue [] 0
  | w :: ws, c :: cs => if w = c then readWord ws cs else fail .expectedWord (c :: cs) 1

/-! ## Strings -/

/-- The character behind a backslash that stands for another one, and what it stands for. -/
def shortEscape? (c : Char) : Option Char :=
  if c = '"' || c = '\\' || c = '/' then some c
  else if c = 'b' then some '\x08'
  else if c = 'f' then some '\x0c'
  else if c = 'n' then some '\n'
  else if c = 'r' then some '\r'
  else if c = 't' then some '\t'
  else none

/-- Four bytes are left at least. -/
def hasFourBytes (t : Text) : Bool := 4 ≤ Text.byteSize (t.take 4)

/-- Reads the four hexadecimal digits of a code unit. -/
def readUnit (t : Text) : Except Fault (Nat × Text) :=
  match t with
  | a :: b :: c :: d :: rest =>
    match Text.hexValue? a, Text.hexValue? b, Text.hexValue? c, Text.hexValue? d with
    | some a, some b, some c, some d => .ok (4096 * a + 256 * b + 16 * c + d, rest)
    | _, _, _, _ => fail .invalidEscape t 4
  | _ => if hasFourBytes t then fail .invalidEscape t 4 else fail .endInString [] 0

/-- A code unit that opens a pair. -/
def isHighSurrogate (unit : Nat) : Bool := 0xD800 ≤ unit && unit ≤ 0xDBFF

/-- A code unit that closes a pair. -/
def isLowSurrogate (unit : Nat) : Bool := 0xDC00 ≤ unit && unit ≤ 0xDFFF

/-- Reads the character behind a backslash and a `u`: one code unit, or a pair of surrogates. -/
def readUnitEscape (t : Text) : Except Fault (Char × Text) := do
  let (unit, rest) ← readUnit t
  if isLowSurrogate unit then fail .loneSurrogate rest 0
  else if isHighSurrogate unit then
    match rest with
    | [] => fail .endInString [] 0
    | '\\' :: [] => fail .endInString [] 0
    | '\\' :: 'u' :: next =>
      let (low, after) ← readUnit next
      if isLowSurrogate low then
        .ok (Char.ofNat (0x10000 + 0x400 * (unit - 0xD800) + (low - 0xDC00)), after)
      else fail .loneSurrogate after 0
    | '\\' :: next => fail .missingLowSurrogate next 1
    | _ => fail .missingLowSurrogate rest 1
  else .ok (Char.ofNat unit, rest)

/-- Reads the character behind a backslash. -/
def readEscape (t : Text) : Except Fault (Char × Text) :=
  match t with
  | [] => fail .endInString [] 0
  | 'u' :: rest => readUnitEscape rest
  | c :: rest =>
    match shortEscape? c with
    | some meant => .ok (meant, rest)
    | none => fail .invalidEscape t 1

/-- Reads the characters of a string literal behind its opening quote. Each round reads a character
at least and takes one off `clock`, which bounds how many rounds there are. -/
def readCharacters : (clock : Text) → Text → Except Fault (Text × Text)
  | [], t => fail .endInString t 0
  | _ :: clock, t =>
    match t with
    | [] => fail .endInString [] 0
    | '"' :: rest => .ok ([], rest)
    | '\\' :: rest => do
      let (c, after) ← readEscape rest
      let (cs, after) ← readCharacters clock after
      .ok (c :: cs, after)
    | c :: rest =>
      if c.toNat < 0x20 then fail .controlCharacter t 1
      else do
        let (cs, after) ← readCharacters clock rest
        .ok (c :: cs, after)

/-- Reads a string literal behind its opening quote. -/
def readString (t : Text) : Except Fault (Text × Text) := readCharacters ('"' :: t) t

/-! ## Numbers -/

/-- The largest whole number that is kept as one. -/
def maxWhole : Nat := 0xFFFFFFFFFFFFFFFF

/-- The distance below zero of the smallest whole number that is kept as one. -/
def maxBelowZero : Nat := 0x8000000000000000

/-- The largest exponent that is read digit by digit. -/
def maxExponent : Nat := 0x7FFFFFFF

/-- Appends digits to a significand as long as it stays within a machine word; answers the
significand with the digits that were left over. -/
def gather (significand : Nat) : Text → Nat × Text
  | [] => (significand, [])
  | d :: ds =>
    let more := 10 * significand + (d.toNat - '0'.toNat)
    if more ≤ maxWhole then gather more ds else (significand, d :: ds)

/-- Divides by a power of ten, in steps of at most `10 ^ 308`. -/
def scaleDown (x : Double) (k : Nat) : Option Double :=
  if k ≤ 308 then (Double.powerOfTen? k).bind x.div?
  else if x.isZero then some x
  else do
    let y ← (Double.powerOfTen? 308).bind x.div?
    scaleDown y (k - 308)
termination_by k

/-- The double for a significand and an exponent of ten: the significand is rounded first, then the
power of ten, then their product or quotient. -/
def toDouble? (significand : Nat) (exponent : Int) : Option Double := do
  let x ← Double.ofNat? significand
  if exponent < 0 then scaleDown x (-exponent).toNat
  else if exponent ≤ 308 then (Double.powerOfTen? exponent.toNat).bind x.mul?
  else if x.isZero then some x
  else none

/-- A double behind an optional minus sign, with the text behind it. -/
def signedDouble (negative : Bool) (significand : Nat) (exponent : Int) (rest : Text) :
    Except Fault (Number × Text) :=
  (toDouble? significand exponent).elim (fail .numberOutOfRange rest 0) fun x =>
    .ok (.double (if negative then x.neg else x), rest)

/-- Appends digits to an exponent as long as it stays readable; answers the exponent with the
digits that were left over. -/
def gatherExponent (exponent : Nat) : Text → Nat × Text
  | [] => (exponent, [])
  | d :: ds =>
    let more := 10 * exponent + (d.toNat - '0'.toNat)
    if more ≤ maxExponent then gatherExponent more ds else (exponent, d :: ds)

/-- Whether an exponent is below zero, and its text behind the sign, if it has one. -/
def exponentSign (t : Text) : Bool × Text :=
  match t with
  | '+' :: rest => (false, rest)
  | '-' :: rest => (true, rest)
  | _ => (false, t)

/-- Finishes a number with the digits of its exponent. -/
def finishExponent (negative : Bool) (significand : Nat) (scale : Int) (below : Bool)
    (digits rest : Text) : Except Fault (Number × Text) :=
  match gatherExponent 0 digits with
  | (exponent, []) =>
    signedDouble negative significand (if below then scale - exponent else scale + exponent) rest
  | (_, _ :: left) =>
    if significand ≠ 0 && !below then fail .numberOutOfRange (left ++ rest) 0
    else .ok (.double ⟨negative, 0⟩, rest)

/-- Reads an exponent behind its `e` and finishes the number. -/
def readExponent (negative : Bool) (significand : Nat) (scale : Int) (t : Text) :
    Except Fault (Number × Text) :=
  let (below, t) := exponentSign t
  match t with
  | [] => fail .endInValue [] 0
  | c :: _ =>
    if !Text.isDigit c then fail .invalidNumber t 1
    else
      finishExponent negative significand scale below (t.takeWhile Text.isDigit)
        (t.dropWhile Text.isDigit)

/-- Reads what may stand behind the digits of a number and finishes it. -/
def readScaled (negative : Bool) (significand : Nat) (scale : Int) (t : Text) :
    Except Fault (Number × Text) :=
  match t with
  | 'e' :: rest => readExponent negative significand scale rest
  | 'E' :: rest => readExponent negative significand scale rest
  | _ => signedDouble negative significand scale t

/-- Reads a fraction behind its point and finishes the number. -/
def readFraction (negative : Bool) (significand : Nat) (scale : Int) (t : Text) :
    Except Fault (Number × Text) :=
  let digits := t.takeWhile Text.isDigit
  let rest := t.dropWhile Text.isDigit
  match digits, rest with
  | [], [] => fail .endInValue [] 0
  | [], _ => fail .invalidNumber rest 1
  | _, _ =>
    let (more, left) := gather significand digits
    readScaled negative more (scale - (digits.length - left.length : Nat)) rest

/-- A whole number, or a double when it does not fit a machine word or is minus zero. -/
def wholeNumber (negative : Bool) (n : Nat) (rest : Text) : Except Fault (Number × Text) :=
  if !negative then .ok (.whole n, rest)
  else if n ≠ 0 && n ≤ maxBelowZero then .ok (.whole (-n), rest)
  else signedDouble true n 0 rest

/-- Reads a number behind its minus sign, if it has one. -/
def readNumber (negative : Bool) (t : Text) : Except Fault (Number × Text) :=
  match t with
  | [] => fail .endInValue [] 0
  | c :: after =>
    if !Text.isDigit c then fail .invalidNumber t 1
    else if c = '0' && (after.head?.map Text.isDigit).getD false then fail .invalidNumber after 1
    else
      let digits := t.takeWhile Text.isDigit
      let rest := t.dropWhile Text.isDigit
      let (significand, left) := gather 0 digits
      match rest with
      | '.' :: rest => readFraction negative significand left.length rest
      | _ =>
        if left.isEmpty && !(rest.head? = some 'e' || rest.head? = some 'E') then
          wholeNumber negative significand rest
        else readScaled negative significand left.length rest

/-! ## Scalars -/

/-- Reads a value that is neither an array nor an object. -/
def readScalar (t : Text) : Except Fault (Value × Text) :=
  match t with
  | 'n' :: rest => do
    let (_, rest) ← readWord "ull".toList rest
    .ok (.null, rest)
  | 't' :: rest => do
    let (_, rest) ← readWord "rue".toList rest
    .ok (.bool true, rest)
  | 'f' :: rest => do
    let (_, rest) ← readWord "alse".toList rest
    .ok (.bool false, rest)
  | '"' :: rest => do
    let (s, rest) ← readString rest
    .ok (.text s, rest)
  | '-' :: rest => do
    let (n, rest) ← readNumber true rest
    .ok (.number n, rest)
  | c :: _ =>
    if Text.isDigit c then do
      let (n, rest) ← readNumber false t
      .ok (.number n, rest)
    else fail .expectedValue t 1
  | [] => fail .expectedValue t 1

end Roster.Json
