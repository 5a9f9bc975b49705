import MetricLoad.Decimal.Reading
import MetricLoad.Settings.Value
import MetricLoad.Text.Blank
import MetricLoad.Text.Digit

/-!
# Values written in variables

The text of a variable is a flag, a number, a quoted text, a quoted character, a list in brackets
or a table in braces.  A number needs a point to be one with a fraction.  Every other text, and
every text of which something would be left over, stands for itself.
-/

namespace MetricLoad.Setting

/-- The white space that may stand around values. -/
def isLiteralBlank (c : Char) : Bool :=
  c == ' ' || c == '\t' || c == '\n' || c == '\x0c' || c == '\r'

/-- Whether a character ends a value without quotes. -/
def endsBare (c : Char) : Bool :=
  c == ',' || c == '\x7b' || c == '\x7d' || c == '[' || c == ']'

/-- Whether a character may be part of a name without quotes. -/
def isNameChar (c : Char) : Bool :=
  c.isAlphanum || c == '_' || c == '-'

/-- The character that some hexadecimal digits stand for, and the rest. -/
def hexEscape? (count : Nat) (s : List Char) : Option (Char × List Char) :=
  let digits := s.take count
  if digits.length < count then none
  else (Text.radixNumber? 16 digits).bind fun n =>
    if n.isValidChar then some (Char.ofNat n, s.drop count) else none

/-- The character behind a backslash, and the rest. -/
def escape? : List Char → Option (Char × List Char)
  | [] => none
  | c :: rest =>
    if c == '"' || c == '\\' then some (c, rest)
    else if c == 'b' then some ('\x08', rest)
    else if c == 'f' then some ('\x0c', rest)
    else if c == 'n' then some ('\n', rest)
    else if c == 'r' then some ('\r', rest)
    else if c == 't' then some ('\t', rest)
    else if c == 'u' then hexEscape? 4 rest
    else if c == 'U' then hexEscape? 8 rest
    else none

/-- Whether a character may stand in a quoted text as it is. -/
def isQuotable (c : Char) : Bool :=
  c == '\t' || (0x20 ≤ c.toNat && c.toNat != 0x7f)

/-- The rest of a quoted text and what follows its quote.  Every step uses up a character. -/
def quotedWithin : Nat → List Char → Option (List Char × List Char)
  | 0, _ => none
  | fuel + 1, s =>
    match s with
    | [] => none
    | '"' :: rest => some ([], rest)
    | '\\' :: rest =>
      (escape? rest).bind fun (c, rest) =>
        (quotedWithin fuel rest).map fun (inside, rest) => (c :: inside, rest)
    | c :: rest =>
      if isQuotable c then
        (quotedWithin fuel rest).map fun (inside, rest) => (c :: inside, rest)
      else none

/-- The text behind a quote, and what follows it. -/
def quoted? (s : List Char) : Option (String × List Char) :=
  (quotedWithin (s.length + 1) s).map fun (inside, rest) => (String.ofList inside, rest)

/-- The number with a fraction that a text is. -/
def real? (s : List Char) : Option Scalar :=
  if s.contains '.' then
    let (negative, rest) := Decimal.splitSign s
    (Decimal.unsignedFloat? rest).map fun x => .real (if negative then -x else x).toBits
  else none

/-- The whole number of at most 64 bits that a text is. -/
def whole? (s : List Char) : Option Scalar :=
  match s with
  | '-' :: digits =>
    (Text.natural? digits).bind fun n =>
      if n ≤ 9223372036854775808 then some (.signed (-(n : Int))) else none
  | _ => (Text.unsigned? s).bind fun n => if n < UInt64.size then some (.unsigned n) else none

/-- What a text without quotes stands for. -/
def bare (s : List Char) : Scalar :=
  let s := Text.trim s
  match real? s with
  | some number => number
  | none => (whole? s).getD (.text (String.ofList s))

/-- The name before an equals sign, with blanks around it, and what follows. -/
def key? (s : List Char) : Option (String × List Char) :=
  let named := match s.dropWhile isLiteralBlank with
    | '"' :: rest => quoted? rest
    | rest =>
      let name := rest.takeWhile isNameChar
      if name.isEmpty then none else some (String.ofList name, rest.dropWhile isNameChar)
  named.bind fun (name, rest) =>
    match rest.dropWhile isLiteralBlank with
    | '=' :: rest => some (name, rest)
    | _ => none

/-- A scalar of the environment and the rest. -/
def scalarThen (content : Scalar) (rest : List Char) : Option (Setting × List Char) :=
  some (scalar .environment content, rest)

mutual

/-- A value with blanks around it, and what follows. -/
def literal? : Nat → List Char → Option (Setting × List Char)
  | 0, _ => none
  | fuel + 1, s =>
    let s := s.dropWhile isLiteralBlank
    let read := match s with
      | 't' :: 'r' :: 'u' :: 'e' :: rest => scalarThen (.flag true) rest
      | 'f' :: 'a' :: 'l' :: 's' :: 'e' :: rest => scalarThen (.flag false) rest
      | '\x7b' :: rest =>
        (literalEntries? fuel rest).map fun (entries, rest) =>
          (table .environment (sorted entries), rest)
      | '[' :: rest =>
        (literalItems? fuel rest).map fun (items, rest) => (list .environment items, rest)
      | '"' :: rest => (quoted? rest).bind fun (inside, rest) => scalarThen (.text inside) rest
      | '\'' :: rest =>
        match rest with
        | c :: '\'' :: rest => scalarThen (.character c) rest
        | _ => none
      | _ => scalarThen (bare (s.takeWhile (!endsBare ·))) (s.dropWhile (!endsBare ·))
    read.map fun (value, rest) => (value, rest.dropWhile isLiteralBlank)

/-- The items up to the bracket that ends a list, and what follows. -/
def literalItems? : Nat → List Char → Option (List Setting × List Char)
  | 0, _ => none
  | fuel + 1, s =>
    match s with
    | ']' :: rest => some ([], rest)
    | _ =>
      (literal? fuel s).bind fun (item, rest) =>
        match rest with
        | ',' :: rest => (literalItems? fuel rest).map fun (items, rest) => (item :: items, rest)
        | ']' :: rest => some ([item], rest)
        | _ => none

/-- The entries up to the brace that ends a table, and what follows. -/
def literalEntries? : Nat → List Char → Option (List (String × Setting) × List Char)
  | 0, _ => none
  | fuel + 1, s =>
    match s with
    | '\x7d' :: rest => some ([], rest)
    | _ =>
      (key? s).bind fun (name, rest) =>
        (literal? fuel rest).bind fun (value, rest) =>
          match rest with
          | ',' :: rest =>
            (literalEntries? fuel rest).map fun (entries, rest) => ((name, value) :: entries, rest)
          | '\x7d' :: rest => some ([(name, value)], rest)
          | _ => none

end

/-- What the text of a variable stands for.  A value takes at most two steps for every character. -/
def ofVariable (s : String) : Setting :=
  match literal? (2 * s.length + 2) s.toList with
  | some (value, []) => value
  | _ => scalar .environment (.text s)

end MetricLoad.Setting
