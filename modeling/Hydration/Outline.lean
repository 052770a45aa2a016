import Hydration.Text.Literal

/-!
# Outlines

The shape of a value for display: words, named records, tuples, lists and maps from
texts.  An outline is written on one line, or over several lines where each level is
indented by four blanks and every item ends with a comma.

    (.record "P" [("x", .word "1")]).inline   = P { x: 1 }
    (.record "P" [("x", .word "1")]).indented = P {
                                                    x: 1,
                                                }
-/

namespace Hydration

/-- The shape of a value for display. -/
inductive Outline where
  /-- Shown as it is. -/
  | word (text : String)
  /-- A name and its fields. -/
  | record (name : String) (fields : List (String × Outline))
  /-- A name and its parts. -/
  | tuple (name : String) (parts : List Outline)
  | list (items : List Outline)
  /-- Entries with quoted keys. -/
  | map (entries : List (String × Outline))

namespace Outline

/-! ## Algorithm -/

/-- A text, shown as a quoted literal. -/
def quoted (s : String) : Outline := .word (Text.quote s)

def nat (n : Nat) : Outline := .word (toString n)

def bool (b : Bool) : Outline := .word (toString b)

/-- An optional part: the word None, or Some with the part. -/
def option : Option Outline → Outline
  | none => .word "None"
  | some o => .tuple "Some" [o]

mutual

/-- The outline on one line. -/
def inline : Outline → String
  | .word text => text
  | .record name [] => name
  | .record name fields => name ++ " \x7b " ++ ", ".intercalate (inlineFields id fields) ++ " \x7d"
  | .tuple name [] => name
  | .tuple name parts => name ++ "(" ++ ", ".intercalate (inlineItems parts) ++ ")"
  | .list items => "[" ++ ", ".intercalate (inlineItems items) ++ "]"
  | .map entries => "\x7b" ++ ", ".intercalate (inlineFields Text.quote entries) ++ "\x7d"

def inlineItems : List Outline → List String
  | [] => []
  | o :: os => inline o :: inlineItems os

def inlineFields (key : String → String) : List (String × Outline) → List String
  | [] => []
  | (k, o) :: rest => (key k ++ ": " ++ inline o) :: inlineFields key rest

end

/-- Items between brackets, each on a line of its own at `depth`. -/
def block (depth : Nat) (opening closing : String) (items : List String) : String :=
  let pad := String.ofList (List.replicate (4 * (depth + 1)) ' ')
  let close := String.ofList (List.replicate (4 * depth) ' ') ++ closing
  opening ++ "\n" ++ String.join (items.map fun i => pad ++ i ++ ",\n") ++ close

mutual

/-- The outline over several lines, at an indentation of `depth` levels. -/
def indentedAt (depth : Nat) : Outline → String
  | .word text => text
  | .record name [] => name
  | .record name fields => block depth (name ++ " \x7b") "\x7d" (indentedFields id (depth + 1) fields)
  | .tuple name [] => name
  | .tuple name parts => block depth (name ++ "(") ")" (indentedItems (depth + 1) parts)
  | .list [] => "[]"
  | .list items => block depth "[" "]" (indentedItems (depth + 1) items)
  | .map [] => "\x7b\x7d"
  | .map entries => block depth "\x7b" "\x7d" (indentedFields Text.quote (depth + 1) entries)

def indentedItems (depth : Nat) : List Outline → List String
  | [] => []
  | o :: os => indentedAt depth o :: indentedItems depth os

def indentedFields (key : String → String) (depth : Nat) : List (String × Outline) → List String
  | [] => []
  | (k, o) :: rest => (key k ++ ": " ++ indentedAt depth o) :: indentedFields key depth rest

end

/-- The outline over several lines. -/
def indented (o : Outline) : String := indentedAt 0 o

end Outline

end Hydration
