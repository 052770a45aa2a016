import Hydration.Decimal.Reader
import Hydration.Json.Basic
import Hydration.Text.Hex

/-!
# Reading JSON

The grammar of RFC 8259, nothing more: no comments, no commas behind the last item, no
raw control characters in strings, and nothing but blanks around the document.  The
module stands in for the reader of `serde_json`.
-/

namespace Hydration.Json

/-! ## Algorithm -/

/-- The four blanks of the grammar. -/
def isBlank (c : Char) : Bool := c = ' ' || c = '\n' || c = '\t' || c = '\r'

def skipBlanks (cs : List Char) : List Char := cs.dropWhile isBlank

/-- A piece of a string literal: a character, or the 16-bit unit of an escape. -/
inductive Piece where
  | char (c : Char)
  | unit (n : Nat)

/-- The number of four hexadecimal digits. -/
def unit? (a b c d : Char) : Option Nat :=
  match Text.Hex.value? a, Text.Hex.value? b, Text.Hex.value? c, Text.Hex.value? d with
  | some a, some b, some c, some d => some (4096 * a + 256 * b + 16 * c + d)
  | _, _, _, _ => none

/-- The character of a one-letter escape. -/
def shortEscape? (c : Char) : Option Char :=
  if c = '"' ∨ c = '\\' ∨ c = '/' then some c
  else if c = 'b' then some (Char.ofNat 8)
  else if c = 'f' then some (Char.ofNat 12)
  else if c = 'n' then some '\n'
  else if c = 'r' then some '\r'
  else if c = 't' then some '\t'
  else none

/-- The pieces of a string literal behind its opening quote, and the text behind its end. -/
def pieces? : List Char → Option (List Piece × List Char)
  | [] => none
  | '"' :: rest => some ([], rest)
  | '\\' :: 'u' :: a :: b :: c :: d :: rest =>
    match unit? a b c d, pieces? rest with
    | some n, some (ps, behind) => some (.unit n :: ps, behind)
    | _, _ => none
  | '\\' :: c :: rest =>
    match shortEscape? c, pieces? rest with
    | some e, some (ps, behind) => some (.char e :: ps, behind)
    | _, _ => none
  | c :: rest =>
    if c.toNat < 0x20 then none
    else
      match pieces? rest with
      | some (ps, behind) => some (.char c :: ps, behind)
      | none => none

/-- The text of pieces: units that are no surrogates by themselves, a high and a low
surrogate together; a surrogate that stands alone denotes no text. -/
def assemble? : List Piece → Option (List Char)
  | [] => some []
  | .char c :: rest => (assemble? rest).map (c :: ·)
  | .unit h :: .unit l :: rest =>
    if 0xD800 ≤ h ∧ h < 0xDC00 then
      if 0xDC00 ≤ l ∧ l < 0xE000 then
        (assemble? rest).map (Char.ofNat (0x10000 + 0x400 * (h - 0xD800) + (l - 0xDC00)) :: ·)
      else none
    else if 0xDC00 ≤ h ∧ h < 0xE000 then none
    else (assemble? (.unit l :: rest)).map (Char.ofNat h :: ·)
  | .unit h :: rest =>
    if 0xD800 ≤ h ∧ h < 0xE000 then none else (assemble? rest).map (Char.ofNat h :: ·)

/-- A string behind its opening quote. -/
def stringBody? (cs : List Char) : Option (Option String × List Char) :=
  (pieces? cs).map fun (ps, rest) => ((assemble? ps).map String.ofList, rest)

/-- A run of digits of at least one. -/
def digitRun? (cs : List Char) : Option (List Char × List Char) :=
  let run := cs.takeWhile Decimal.isDigit
  if run = [] then none else some (run, cs.dropWhile Decimal.isDigit)

/-- The integer part of a numeral: a zero alone, or digits that do not start with one. -/
def whole? (cs : List Char) : Option (List Char × List Char) :=
  match digitRun? cs with
  | some ('0' :: _ :: _, _) => none
  | other => other

/-- The fraction of a numeral, or nothing. -/
def fraction? : List Char → Option (List Char × List Char)
  | '.' :: rest => (digitRun? rest).map fun (ds, rest) => ('.' :: ds, rest)
  | cs => some ([], cs)

/-- The exponent of a numeral, or nothing. -/
def exponent? : List Char → Option (List Char × List Char)
  | [] => some ([], [])
  | c :: rest =>
    if c = 'e' ∨ c = 'E' then
      match rest with
      | '+' :: rest => (digitRun? rest).map fun (ds, rest) => (c :: '+' :: ds, rest)
      | '-' :: rest => (digitRun? rest).map fun (ds, rest) => (c :: '-' :: ds, rest)
      | rest => (digitRun? rest).map fun (ds, rest) => (c :: ds, rest)
    else some ([], c :: rest)

/-- A numeral and the text behind it. -/
def numeral? (cs : List Char) : Option (String × List Char) :=
  let (sign, cs) :=
    match cs with
    | '-' :: rest => (['-'], rest)
    | cs => ([], cs)
  (whole? cs).bind fun (w, cs) =>
    (fraction? cs).bind fun (f, cs) =>
      (exponent? cs).map fun (e, cs) => (String.ofList (sign ++ w ++ f ++ e), cs)

/-- What is behind a word that the text starts with. -/
def afterWord? (word : String) (cs : List Char) : Option (List Char) :=
  if word.toList.isPrefixOf cs then some (cs.drop word.toList.length) else none

/-- The word null, true or false. -/
def word? (cs : List Char) : Option (Json × List Char) :=
  match afterWord? "null" cs, afterWord? "true" cs, afterWord? "false" cs with
  | some rest, _, _ => some (.null, rest)
  | none, some rest, _ => some (.bool true, rest)
  | none, none, some rest => some (.bool false, rest)
  | none, none, none => none

mutual

/-- A document at the front of a text, and the text behind it. -/
def value? : (fuel : Nat) → List Char → Option (Json × List Char)
  | 0, _ => none
  | fuel + 1, cs =>
    match skipBlanks cs with
    | [] => none
    | c :: rest =>
      if c = '"' then (stringBody? rest).map fun (s, rest) => (.string s, rest)
      else if c = '[' then
        match skipBlanks rest with
        | ']' :: rest => some (.array [], rest)
        | _ => (items? fuel rest).map fun (js, rest) => (.array js, rest)
      else if c.toNat = 0x7B then
        match skipBlanks rest with
        | [] => none
        | d :: behind =>
          if d.toNat = 0x7D then some (.object [], behind)
          else (members? fuel (d :: behind)).map fun (ms, rest) => (.object ms, rest)
      else if c = '-' ∨ Decimal.isDigit c then
        (numeral? (c :: rest)).map fun (n, rest) => (.number n, rest)
      else word? (c :: rest)

/-- The items of an array that is not empty, behind its opening bracket. -/
def items? : (fuel : Nat) → List Char → Option (List Json × List Char)
  | 0, _ => none
  | fuel + 1, cs =>
    match value? fuel cs with
    | none => none
    | some (j, rest) =>
      match skipBlanks rest with
      | ',' :: rest => (items? fuel rest).map fun (js, rest) => (j :: js, rest)
      | ']' :: rest => some ([j], rest)
      | _ => none

/-- The members of an object that is not empty, behind its opening brace. -/
def members? : (fuel : Nat) → List Char → Option (List (Option String × Json) × List Char)
  | 0, _ => none
  | fuel + 1, cs =>
    match skipBlanks cs with
    | '"' :: rest =>
      match stringBody? rest with
      | none => none
      | some (key, rest) =>
        match skipBlanks rest with
        | ':' :: rest =>
          match value? fuel rest with
          | none => none
          | some (j, rest) =>
            match skipBlanks rest with
            | ',' :: rest => (members? fuel rest).map fun (ms, rest) => ((key, j) :: ms, rest)
            | c :: rest => if c.toNat = 0x7D then some ([(key, j)], rest) else none
            | [] => none
        | _ => none
    | _ => none

end

/-- The document that a text writes. -/
def read? (s : String) : Option Json :=
  let cs := s.toList
  match value? (2 * cs.length + 2) cs with
  | some (j, rest) => if skipBlanks rest = [] then some j else none
  | none => none

end Hydration.Json
