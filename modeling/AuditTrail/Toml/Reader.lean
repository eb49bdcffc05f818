import AuditTrail.Toml.Basic
import AuditTrail.Json.Reader
import AuditTrail.Time.Instant

/-!
# Reading TOML

The reader takes TOML 1.0 text to a `TomlValue` table, or to `none` when the text is not a
TOML document.

A document is a sequence of lines, each blank, a comment, a table header `[key]`, an
array-of-tables header `[[key]]` or a key-value pair `key = value`, any of them followed by a
comment. Blanks within a line are spaces and tabs; a line ends with a line feed, which a
carriage return may precede. Comments and strings may hold any character but the controls other
than the tab.

Keys are bare (ASCII letters, digits, `-` and `_`) or quoted, and dotted keys join several with
`.`. Values are

* strings: basic `"…"` with the escapes `\b \t \n \f \r \" \\ \uXXXX \UXXXXXXXX`, literal `'…'`
  without escapes, and both in multi-line form between three quotes, where a line feed right
  after the opening quotes is dropped, up to two quotes may stand before the closing ones, and in
  the basic form a backslash at the end of a line drops the line break and the blanks after it;
* integers: decimal with an optional sign and no leading zero, or unsigned hexadecimal `0x`,
  octal `0o` and binary `0b`, all with single underscores between digits, within 64 bits;
* floats: a decimal integer part with a fraction, an exponent or both, and `inf` and `nan`
  with an optional sign;
* `true` and `false`;
* date-times: a date `YYYY-MM-DD`, a time `HH:MM:SS[.fraction]`, or a date with a time after
  `T`, `t` or a space, and then an optional offset `Z`, `z` or `±HH:MM`; each field must lie in
  its range, a day within its month and a second up to 60;
* arrays `[…]`, whose items may be spread over lines with comments between them, and which
  may end with a comma;
* inline tables `{ k = v, … }` on one line, without a trailing comma.

Where the text starts with a byte order mark it is skipped. The tables a document may build, and
what it may not add to them, are the rules of `Item`.

## Main definitions

* `TomlValue.parse?` — read a document
-/

namespace AuditTrail

namespace Toml

/-! ### Lines, blanks and comments -/

/-- Blank within a line: space and tab. -/
def isBlankInLine (c : Char) : Bool := c == ' ' || c == '\t'

def skipBlanks (cs : List Char) : List Char := cs.dropWhile isBlankInLine

/-- A character that comments and strings may hold: the tab and all but the controls. -/
def isTextChar (c : Char) : Bool := c == '\t' || (0x20 ≤ c.toNat && c.toNat != 0x7F)

/-- The rest after the end of a line: blanks, an optional comment, and a line break or the end
of the text. -/
def endLine (cs : List Char) : Option (List Char) :=
  let cs := skipBlanks cs
  let cs := match cs with
    | '#' :: rest => rest.dropWhile isTextChar
    | _ => cs
  match cs with
  | [] => some []
  | '\n' :: rest => some rest
  | '\r' :: '\n' :: rest => some rest
  | _ => none

/-- Drop blanks, line breaks and comments, as between the items of an array. -/
def skipSpaceAndComments : Nat → List Char → Option (List Char)
  | 0, _ => none
  | fuel + 1, cs =>
    match skipBlanks cs with
    | '\n' :: rest => skipSpaceAndComments fuel rest
    | '\r' :: '\n' :: rest => skipSpaceAndComments fuel rest
    | '#' :: rest =>
      match rest.dropWhile isTextChar with
      | [] => some []
      | '\n' :: more => skipSpaceAndComments fuel more
      | '\r' :: '\n' :: more => skipSpaceAndComments fuel more
      | _ => none
    | rest => some rest

/-- Drop a line break that directly follows the opening quotes of a multi-line string. -/
def dropFirstBreak : List Char → List Char
  | '\n' :: rest => rest
  | '\r' :: '\n' :: rest => rest
  | cs => cs

/-! ### Strings -/

/-- The character of a `\u` or `\U` escape: a Unicode scalar value. -/
def scalar? (n : Nat) : Option Char :=
  if n < 0xD800 ∨ (0xDFFF < n ∧ n < 0x110000) then some (Char.ofNat n) else none

/-- The character of a one-letter escape. -/
def shortEscape? : Char → Option Char
  | 'b' => some '\x08'
  | 't' => some '\t'
  | 'n' => some '\n'
  | 'f' => some '\x0c'
  | 'r' => some '\r'
  | '"' => some '"'
  | '\\' => some '\\'
  | _ => none

/-- The body of a basic string after its opening quote, through the closing quote. -/
def readBasic (acc : List Char) : List Char → Option (String × List Char)
  | '"' :: rest => some (String.ofList acc.reverse, rest)
  | '\\' :: 'u' :: a :: b :: c :: d :: rest => do
    let ch ← Json.hex4? a b c d >>= scalar?
    readBasic (ch :: acc) rest
  | '\\' :: 'U' :: a :: b :: c :: d :: e :: f :: g :: h :: rest => do
    let hi ← Json.hex4? a b c d
    let lo ← Json.hex4? e f g h
    let ch ← scalar? (hi * 0x10000 + lo)
    readBasic (ch :: acc) rest
  | '\\' :: c :: rest => do
    let ch ← shortEscape? c
    readBasic (ch :: acc) rest
  | c :: rest => if isTextChar c then readBasic (c :: acc) rest else none
  | [] => none

/-- The body of a literal string after its opening quote, through the closing quote. -/
def readLiteral (acc : List Char) : List Char → Option (String × List Char)
  | '\'' :: rest => some (String.ofList acc.reverse, rest)
  | c :: rest => if isTextChar c then readLiteral (c :: acc) rest else none
  | [] => none

/-- The end of a multi-line string: the closing three quotes, with up to two more quotes before
them belonging to the string. -/
def closeMultiline (q : Char) (acc : List Char) (rest : List Char) : String × List Char :=
  match rest with
  | a :: b :: more => if a == q && b == q then (String.ofList (q :: q :: acc).reverse, more)
      else if a == q then (String.ofList (q :: acc).reverse, b :: more)
      else (String.ofList acc.reverse, rest)
  | [a] => if a == q then (String.ofList (q :: acc).reverse, []) else (String.ofList acc.reverse, rest)
  | [] => (String.ofList acc.reverse, [])

/-- Whether a backslash ends its line: blanks and then a line break follow it. -/
def endsLine (cs : List Char) : Bool :=
  match skipBlanks cs with
  | '\n' :: _ => true
  | '\r' :: '\n' :: _ => true
  | _ => false

/-- Drop blanks and line breaks. -/
def dropSpaceAndBreaks (cs : List Char) : List Char :=
  cs.dropWhile fun c => c == ' ' || c == '\t' || c == '\n' || c == '\r'

/-- The body of a multi-line basic string after its opening quotes and first line break. -/
def readMultiBasic : Nat → List Char → List Char → Option (String × List Char)
  | 0, _, _ => none
  | fuel + 1, acc, cs =>
    match cs with
    | '"' :: '"' :: '"' :: rest => some (closeMultiline '"' acc rest)
    | '\\' :: 'u' :: a :: b :: c :: d :: rest => do
      let ch ← Json.hex4? a b c d >>= scalar?
      readMultiBasic fuel (ch :: acc) rest
    | '\\' :: 'U' :: a :: b :: c :: d :: e :: f :: g :: h :: rest => do
      let hi ← Json.hex4? a b c d
      let lo ← Json.hex4? e f g h
      let ch ← scalar? (hi * 0x10000 + lo)
      readMultiBasic fuel (ch :: acc) rest
    | '\\' :: rest =>
      if endsLine rest then readMultiBasic fuel acc (dropSpaceAndBreaks rest)
      else
        match rest with
        | c :: more => do
          let ch ← shortEscape? c
          readMultiBasic fuel (ch :: acc) more
        | [] => none
    | '\r' :: '\n' :: rest => readMultiBasic fuel ('\n' :: acc) rest
    | '\n' :: rest => readMultiBasic fuel ('\n' :: acc) rest
    | c :: rest => if isTextChar c then readMultiBasic fuel (c :: acc) rest else none
    | [] => none

/-- The body of a multi-line literal string after its opening quotes and first line break. -/
def readMultiLiteral (acc : List Char) : List Char → Option (String × List Char)
  | '\'' :: '\'' :: '\'' :: rest => some (closeMultiline '\'' acc rest)
  | '\r' :: '\n' :: rest => readMultiLiteral ('\n' :: acc) rest
  | '\n' :: rest => readMultiLiteral ('\n' :: acc) rest
  | c :: rest => if isTextChar c then readMultiLiteral (c :: acc) rest else none
  | [] => none

/-! ### Keys -/

def isBareKeyChar (c : Char) : Bool := c.isAlphanum || c == '-' || c == '_'

/-- One part of a key: bare, or a one-line basic or literal string. -/
def readSimpleKey : List Char → Option (String × List Char)
  | '"' :: rest => readBasic [] rest
  | '\'' :: rest => readLiteral [] rest
  | cs =>
    let k := cs.takeWhile isBareKeyChar
    if k.isEmpty then none else some (String.ofList k, cs.drop k.length)

/-- A key and its dotted parts; blanks may stand around the dots. -/
def readKeyParts : Nat → List Char → Option (List String × List Char)
  | 0, _ => none
  | fuel + 1, cs => do
    let (k, rest) ← readSimpleKey cs
    match skipBlanks rest with
    | '.' :: more => do
      let (ks, rest) ← readKeyParts fuel (skipBlanks more)
      pure (k :: ks, rest)
    | _ => pure ([k], rest)

def readKey (cs : List Char) : Option (List String × List Char) := readKeyParts (cs.length + 1) cs

/-! ### Numbers -/

/-- Digits with single underscores between them; the digits, or `none` when the text breaks
that form or holds a character that is not a digit. -/
def underscored (isDigit : Char → Bool) (cs : List Char) : Option (List Char) :=
  let parts := cs.splitOn '_'
  if parts.all fun p => !p.isEmpty && p.all isDigit then some parts.flatten else none

/-- The value of digits in a base. -/
def digitsValue (base : Nat) (ds : List Char) : Nat :=
  ds.foldl (fun n c => n * base + ((Json.hexValue? c).getD 0)) 0

/-- Digits of a decimal integer part: one zero, or digits that do not start with a zero. -/
def integerPart? (cs : List Char) : Option (List Char) := do
  let ds ← underscored Char.isDigit cs
  match ds with
  | '0' :: _ :: _ => none
  | _ => pure ds

def isSignedWord (n : Int) : Bool := -Nat.pow 2 63 ≤ n && n < Nat.pow 2 63

/-- The double nearest to `digits * 10^exponent`. -/
def decimalDouble (negative : Bool) (digits : Nat) (exponent : Int) : Binary64 :=
  let width : Int := (Nat.toDigits 10 digits).length
  if digits = 0 then Binary64.zero negative
  else if exponent > 400 then Binary64.infinity negative
  else if exponent + width < -400 then Binary64.zero negative
  else if 0 ≤ exponent then Binary64.round negative (digits * Nat.pow 10 exponent.toNat) 1 0
  else Binary64.round negative digits (Nat.pow 10 (-exponent).toNat) 0

/-- A signed exponent after `e`. -/
def exponent? : List Char → Option Int
  | '+' :: cs => (fun ds => (digitsValue 10 ds : Int)) <$> underscored Char.isDigit cs
  | '-' :: cs => (fun ds => -(digitsValue 10 ds : Int)) <$> underscored Char.isDigit cs
  | cs => (fun ds => (digitsValue 10 ds : Int)) <$> underscored Char.isDigit cs

/-- An unsigned decimal number: an integer, or a float with a fraction, an exponent or both. -/
def unsignedNumber? (negative : Bool) (cs : List Char) : Option TomlValue :=
  let isMark (c : Char) : Bool := c == '.' || c == 'e' || c == 'E'
  let whole := cs.takeWhile (!isMark ·)
  let rest := cs.dropWhile (!isMark ·)
  match rest with
  | [] => do
    let ds ← integerPart? whole
    let n : Int := if negative then -(digitsValue 10 ds : Int) else digitsValue 10 ds
    if isSignedWord n then pure (.int n) else none
  | _ => do
    let ds ← integerPart? whole
    let (frac, expPart) ← match rest with
      | '.' :: more =>
        let f := more.takeWhile (fun c => c != 'e' && c != 'E')
        let e := more.dropWhile (fun c => c != 'e' && c != 'E')
        (fun fd => (fd, e)) <$> underscored Char.isDigit f
      | e => some ([], e)
    let exp ← match expPart with
      | [] => some 0
      | _ :: e => exponent? e
    let digits := digitsValue 10 (ds ++ frac)
    pure (.float (decimalDouble negative digits (exp - frac.length)))

/-- A number token: a float, a decimal integer, or a prefixed unsigned integer. -/
def number? : List Char → Option TomlValue
  | ['i', 'n', 'f'] | ['+', 'i', 'n', 'f'] => some (.float (Binary64.infinity false))
  | ['-', 'i', 'n', 'f'] => some (.float (Binary64.infinity true))
  | ['n', 'a', 'n'] | ['+', 'n', 'a', 'n'] => some (.float Binary64.nan)
  | ['-', 'n', 'a', 'n'] => some (.float Binary64.nan.neg)
  | '0' :: 'x' :: cs => prefixed 16 (fun c => (Json.hexValue? c).isSome) cs
  | '0' :: 'o' :: cs => prefixed 8 (fun c => '0' ≤ c && c ≤ '7') cs
  | '0' :: 'b' :: cs => prefixed 2 (fun c => c == '0' || c == '1') cs
  | '+' :: cs => unsignedNumber? false cs
  | '-' :: cs => unsignedNumber? true cs
  | cs => unsignedNumber? false cs
where
  prefixed (base : Nat) (isDigit : Char → Bool) (cs : List Char) : Option TomlValue := do
    let ds ← underscored isDigit cs
    let n := digitsValue base ds
    if n < Nat.pow 2 63 then pure (.int n) else none

def isNumberChar (c : Char) : Bool :=
  c.isAlphanum || c == '_' || c == '.' || c == '+' || c == '-'

/-! ### Date-times -/

/-- Exactly `n` decimal digits and their value. -/
def fixedDigits : Nat → List Char → Option (Nat × List Char)
  | 0, cs => some (0, cs)
  | n + 1, c :: cs =>
    if c.isDigit then do
      let (v, rest) ← fixedDigits n cs
      pure ((c.toNat - '0'.toNat) * Nat.pow 10 n + v, rest)
    else none
  | _ + 1, [] => none

/-- A time `HH:MM:SS[.fraction]`; the rest after it. -/
def readTime (cs : List Char) : Option (List Char) := do
  let (h, cs) ← fixedDigits 2 cs
  let cs ← match cs with | ':' :: r => some r | _ => none
  let (m, cs) ← fixedDigits 2 cs
  let cs ← match cs with | ':' :: r => some r | _ => none
  let (s, cs) ← fixedDigits 2 cs
  if h ≥ 24 ∨ m ≥ 60 ∨ s > 60 then none
  match cs with
  | '.' :: r =>
    let frac := r.takeWhile Char.isDigit
    if frac.isEmpty then none else pure (r.drop frac.length)
  | _ => pure cs

/-- An optional offset after a time. -/
def readOffset (cs : List Char) : Option (List Char) :=
  match cs with
  | 'Z' :: r | 'z' :: r => some r
  | '+' :: r | '-' :: r => do
    let (h, r) ← fixedDigits 2 r
    let r ← match r with | ':' :: r => some r | _ => none
    let (m, r) ← fixedDigits 2 r
    if h ≥ 24 ∨ m ≥ 60 then none else pure r
  | _ => some cs

/-- Whether a value starts like a date: four digits and a dash. -/
def startsDate (cs : List Char) : Bool :=
  match cs with
  | a :: b :: c :: d :: '-' :: _ => a.isDigit && b.isDigit && c.isDigit && d.isDigit
  | _ => false

/-- Whether a value starts like a time: two digits and a colon. -/
def startsTime (cs : List Char) : Bool :=
  match cs with
  | a :: b :: ':' :: _ => a.isDigit && b.isDigit
  | _ => false

/-- A date-time, as the text it spans. -/
def readDateTime (cs : List Char) : Option (TomlValue × List Char) := do
  let rest ← if startsDate cs then do
      let (y, r) ← fixedDigits 4 cs
      let r ← match r with | '-' :: r => some r | _ => none
      let (m, r) ← fixedDigits 2 r
      let r ← match r with | '-' :: r => some r | _ => none
      let (d, r) ← fixedDigits 2 r
      if m = 0 ∨ m > 12 ∨ d = 0 ∨ d > daysInMonth y m then none
      match r with
      | 'T' :: t | 't' :: t => readTime t >>= readOffset
      | ' ' :: t => if startsTime t then readTime t >>= readOffset else pure r
      | _ => pure r
    else readTime cs
  pure (.dateTime (String.ofList (cs.take (cs.length - rest.length))), rest)

/-! ### Values -/

mutual

/-- A value. -/
def readValue : Nat → List Char → Option (TomlValue × List Char)
  | 0, _ => none
  | fuel + 1, cs =>
    match cs with
    | '"' :: '"' :: '"' :: rest =>
      (fun (s, r) => (TomlValue.str s, r)) <$> readMultiBasic (rest.length + 1) [] (dropFirstBreak rest)
    | '"' :: rest => (fun (s, r) => (TomlValue.str s, r)) <$> readBasic [] rest
    | '\'' :: '\'' :: '\'' :: rest =>
      (fun (s, r) => (TomlValue.str s, r)) <$> readMultiLiteral [] (dropFirstBreak rest)
    | '\'' :: rest => (fun (s, r) => (TomlValue.str s, r)) <$> readLiteral [] rest
    | '[' :: rest => readArray fuel rest []
    | '{' :: rest =>
      match skipBlanks rest with
      | '}' :: more => some (.table [], more)
      | more => readInline fuel more []
    | 't' :: 'r' :: 'u' :: 'e' :: rest => some (.bool true, rest)
    | 'f' :: 'a' :: 'l' :: 's' :: 'e' :: rest => some (.bool false, rest)
    | c :: _ =>
      if startsDate cs || startsTime cs then readDateTime cs
      else if c.isDigit || c == '+' || c == '-' || c == 'i' || c == 'n' then
        let tok := cs.takeWhile isNumberChar
        (fun v => (v, cs.drop tok.length)) <$> number? tok
      else none
    | [] => none

/-- The items of an array after its opening bracket or a comma. -/
def readArray : Nat → List Char → List TomlValue → Option (TomlValue × List Char)
  | 0, _, _ => none
  | fuel + 1, cs, acc => do
    let cs ← skipSpaceAndComments (cs.length + 1) cs
    match cs with
    | ']' :: rest => pure (.arr acc.reverse, rest)
    | _ =>
      let (v, rest) ← readValue fuel cs
      let rest ← skipSpaceAndComments (rest.length + 1) rest
      match rest with
      | ',' :: more => readArray fuel more (v :: acc)
      | ']' :: more => pure (.arr (v :: acc).reverse, more)
      | _ => none

/-- The pairs of an inline table from a key on; `entries` holds the pairs read so far. -/
def readInline : Nat → List Char → List (String × Item) → Option (TomlValue × List Char)
  | 0, _, _ => none
  | fuel + 1, cs, entries => do
    let (key, rest) ← readKey cs
    let rest ← match skipBlanks rest with | '=' :: r => some r | _ => none
    let (v, rest) ← readValue fuel (skipBlanks rest)
    let entries ← Item.insertValue entries key v
    match skipBlanks rest with
    | ',' :: more => readInline fuel (skipBlanks more) entries
    | '}' :: more => pure (.table (Item.freezeEntries entries), more)
    | _ => none

end

/-! ### Documents -/

/-- A document being read: its tables so far, and the path of the table that keys go to. -/
structure Reading where
  root : List (String × Item) := []
  current : List String := []

/-- Read the lines of a document. -/
def readLines : Nat → List Char → Reading → Option Reading
  | 0, _, _ => none
  | fuel + 1, cs, st =>
    match skipBlanks cs with
    | [] => some st
    | '\n' :: rest => readLines fuel rest st
    | '\r' :: '\n' :: rest => readLines fuel rest st
    | '#' :: rest => do
      let rest ← endLine ('#' :: rest)
      readLines fuel rest st
    | '[' :: '[' :: rest => do
      let (path, rest) ← readKey (skipBlanks rest)
      let rest ← match skipBlanks rest with | ']' :: ']' :: r => some r | _ => none
      let root ← Item.appendTable st.root path
      let rest ← endLine rest
      readLines fuel rest { root, current := path }
    | '[' :: rest => do
      let (path, rest) ← readKey (skipBlanks rest)
      let rest ← match skipBlanks rest with | ']' :: r => some r | _ => none
      let root ← Item.defineTable st.root path
      let rest ← endLine rest
      readLines fuel rest { root, current := path }
    | line => do
      let (key, rest) ← readKey line
      let rest ← match skipBlanks rest with | '=' :: r => some r | _ => none
      let rest := skipBlanks rest
      let (v, rest) ← readValue (rest.length + 1) rest
      let set (es : List (String × Item)) : Option (List (String × Item) × Unit) :=
        (fun es => (es, ())) <$> Item.insertValue es key v
      let (root, ()) ← Item.within false set st.current st.root
      let rest ← endLine rest
      readLines fuel rest { st with root }

end Toml

/-- Read a TOML document: its top-level table, or `none` when the text is not TOML. -/
def TomlValue.parse? (text : String) : Option TomlValue := do
  let cs := match text.toList with
    | '\uFEFF' :: rest => rest
    | cs => cs
  let st ← Toml.readLines (cs.length + 1) cs {}
  pure (.table (Item.freezeEntries st.root))

end AuditTrail
