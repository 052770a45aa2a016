import Hydration.Json.Reader
import Hydration.Request

/-!
# Configuration

Settings, kinds and result maps as JSON.  A structure is written as an object of its
fields, in any order and among other members, or as an array of its fields in the
order of their declaration.  A field with a default may be left out, in an array only
from the end; an optional field may also be null.  A field written twice is refused,
but a column that is mapped twice takes the last mapping.

These are the rules of the readers that `serde` derives from a declaration, and the
module stands in for those readers; which fields there are, what they are called and
what they default to are the structures' own.
-/

namespace Hydration.Config

/-! ## Scalars -/

def bool? : Json → Option Bool
  | .bool b => some b
  | _ => none

def text? : Json → Option String
  | .string s => s
  | _ => none

/-- A value that may be null. -/
def optional {α : Type} (read : Json → Option α) : Json → Option (Option α)
  | .null => some none
  | j => (read j).map some

/-- The items of an array. -/
def each {α : Type} (read : Json → Option α) : List Json → Option (List α)
  | [] => some []
  | j :: js =>
    match read j, each read js with
    | some a, some as => some (a :: as)
    | _, _ => none

/-- A list, written as an array. -/
def list? {α : Type} (read : Json → Option α) : Json → Option (List α)
  | .array js => each read js
  | _ => none

/-! ## Structures -/

/-- The values of the named fields, in the order of the names.  Members of other names are
passed over; a key without a text or a field written twice is refused. -/
def fieldsOfMembers (names : List String) (members : List (Option String × Json)) :
    Option (List (Option Json)) :=
  if members.all (fun m => m.1.isSome) &&
      names.all (fun n => members.countP (fun m => m.1 == some n) ≤ 1) then
    some (names.map fun n => members.lookup (some n))
  else none

/-- The values of the first fields, in the order of their declaration; more items than fields
are refused. -/
def fieldsOfItems (names : List String) (items : List Json) : Option (List (Option Json)) :=
  if items.length ≤ names.length then
    some (names.zipIdx.map fun (_, i) => items[i]?)
  else none

/-- The values of the fields of a structure. -/
def fields? (names : List String) : Json → Option (List (Option Json))
  | .object members => fieldsOfMembers names members
  | .array items => fieldsOfItems names items
  | _ => none

/-- A field that has to be written. -/
def required {α : Type} (read : Json → Option α) : Option Json → Option α
  | some j => read j
  | none => none

/-- A field with a default. -/
def withDefault {α : Type} (default : α) (read : Json → Option α) : Option Json → Option α
  | some j => read j
  | none => some default

/-! ## Kinds -/

def enumeration? (j : Json) : Option Enumeration :=
  match fields? ["name", "variants"] j with
  | some [name, variants] =>
    match required text? name, required (list? text?) variants with
    | some name, some variants => some ⟨name, variants⟩
    | _, _ => none
  | _ => none

/-- The kinds that are written by their names alone. -/
def scalarKinds : List Kind :=
  [.bool, .text, .double, .bytes, .uuid, .any] ++ IntWidth.all.map .int

def scalarKind? (name : String) : Option Kind := scalarKinds.find? fun k => k.name == name

/-- A kind: its name, its name as the key of null, or `Enum` as the key of an enumeration. -/
def kind? : Json → Option Kind
  | .string (some name) => scalarKind? name
  | .object [(some name, j)] =>
    if name = "Enum" then (enumeration? j).map .enum
    else
      match j with
      | .null => scalarKind? name
      | _ => none
  | _ => none

/-! ## Settings and result maps -/

def settings? (j : Json) : Option Settings :=
  match fields? ["ignore_db_null"] j with
  | some [ignoreNull] => (withDefault false bool? ignoreNull).map fun b => ⟨b⟩
  | _ => none

def property? (column : String) (j : Json) : Option Property :=
  match fields? ["name", "type_handler"] j with
  | some [name, handler] =>
    match required text? name, withDefault none (optional text?) handler with
    | some name, some handler => some ⟨column, name, handler⟩
    | _, _ => none
  | _ => none

/-- Properties put one after the other: a repeated column keeps its place and takes the last
property. -/
def properties : List (Option String × Json) → Roster Property Property.column →
    Option (Roster Property Property.column)
  | [], r => some r
  | (some column, j) :: rest, r =>
    match property? column j with
    | some p => properties rest (r.put p)
    | none => none
  | (none, _) :: _, _ => none

def properties? : Json → Option (Roster Property Property.column)
  | .object members => properties members .empty
  | _ => none

def argument? (j : Json) : Option Argument :=
  match fields? ["column", "ty", "name", "nullable", "type_handler"] j with
  | some [column, kind, name, nullable, handler] =>
    match required text? column, required kind? kind, withDefault none (optional text?) name,
        withDefault false bool? nullable, withDefault none (optional text?) handler with
    | some column, some kind, some name, some nullable, some handler =>
      some ⟨column, kind, name, nullable, handler⟩
    | _, _, _, _, _ => none
  | _ => none

/-- The arguments of a constructor, a structure of one field. -/
def arguments? (j : Json) : Option (List Argument) :=
  match fields? ["args"] j with
  | some [args] => required (list? argument?) args
  | _ => none

def resultMap? (j : Json) : Option ResultMap :=
  match fields? ["id", "properties", "constructor"] j with
  | some [id, properties, arguments] =>
    match withDefault "" text? id, withDefault .empty properties? properties,
        withDefault none (optional arguments?) arguments with
    | some id, some properties, some arguments => some ⟨id, properties, arguments⟩
    | _, _, _ => none
  | _ => none

end Hydration.Config
