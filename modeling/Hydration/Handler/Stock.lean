import Hydration.Handler.Registry

/-!
# Stock handlers

Handlers for everyday columns: capitals, flags written as letters, amounts in cents
and the like.  Each reads at most the cell it is asked for.
-/

namespace Hydration.Handler

/-- A handler that reads the cell for one kind and gives what `f` makes of the value. -/
def reading (label : String) (kind : Kind) (f : Value → Except Error Value) : Handler where
  label := label
  read row index _ := (row.read index kind).bind fun v => .ofResult (f v)

/-- A text in ASCII capitals; anything else as it is. -/
def upper (label : String) : Handler :=
  reading label .text fun v =>
    match v with
    | .text s => .ok (.text (String.ofList (s.toList.map Char.toUpper)))
    | v => .ok v

/-- The text of any value. -/
def stringify (label : String) : Handler :=
  reading label .any fun v => .ok (.text v.display)

/-- A flag written as the letter Y or N. -/
def yesNo (label : String) : Handler where
  label := label
  read row index _ := (row.read index .text).bind fun v => .ofResult <|
    match v with
    | .text "Y" => .ok (.bool true)
    | .text "N" => .ok (.bool false)
    | _ => .error (.adhoc ("expected `Y` or `N` in column `" ++ row.columnName index ++ "`"))

/-- Octets as hexadecimal text. -/
def hex (label : String) : Handler :=
  reading label .bytes fun v => v.toBytes.map fun bs => .text (String.ofList (Text.Hex.digits bs))

/-- An amount as a whole number of hundredths; a half goes away from zero, and amounts
beyond 64 bits stop at the last number there is. -/
def cents (label : String) : Handler :=
  reading label .double fun v => v.toDouble.bind fun x =>
    let n := Binary64.clampedRound IntWidth.i64.least IntWidth.i64.greatest (x * 100.0)
    match SizedInt.ofInt? .i64 n with
    | some n => .ok (.int n)
    | none => .error (.conversion v "i64")

/-- The names of the wanted kind and of the column's kind; no cell is read. -/
def kindNames (label : String) : Handler where
  label := label
  read row index kind :=
    .ofResult (.ok (.text (kind.name ++ "/" ++ (row.columnKind index).name)))

/-- The cell as it is, read for the wanted kind. -/
def pass (label : String) : Handler where
  label := label
  read row index kind := row.read index kind

/-- One value for every cell. -/
def const (label : String) (v : Value) : Handler where
  label := label
  read _ _ _ := .ofResult (.ok v)

/-- A failure for every cell. -/
def fail (label message : String) : Handler where
  label := label
  read _ _ _ := .ofResult (.error (.adhoc message))

end Hydration.Handler
