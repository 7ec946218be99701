import ValueEngine.Data.Word

/-!
# Settings documents

Settings come as a document of the usual kind: scalars, lists and records. A
number is kept as it is written, because the reader of a setting tells a whole
number from one that is written with a fraction or an exponent
(`Document.natural?`).
-/

set_option autoImplicit false

namespace ValueEngine

/-- A document of scalars, lists and records. -/
inductive Document where
  /-- No value. -/
  | null
  /-- A truth value. -/
  | boolean (value : Bool)
  /-- A number, as it is written. -/
  | number (text : String)
  /-- A text. -/
  | string (text : String)
  /-- A list of documents. -/
  | list (items : List Document)
  /-- Named documents. -/
  | record (fields : List (String × Document))
deriving Inhabited

namespace Document

/-- The value of a row of decimal digits, continuing a number. -/
def digitsValue (value : Nat) : List Char → Option Nat
  | [] => some value
  | digit :: rest =>
    if '0' ≤ digit ∧ digit ≤ '9' then digitsValue (value * 10 + (digit.toNat - '0'.toNat)) rest
    else none

/-- The value of a text that holds nothing but decimal digits. -/
def decimal? (text : String) : Option Nat :=
  match text.toList with
  | [] => none
  | digits => digitsValue 0 digits

/-- A whole number from zero on that fits in 64 bits and is written without
sign, fraction and exponent. -/
def natural? : Document → Option Nat
  | number text => (decimal? text).filter fun value => value ≤ greatestWord
  | _ => none

/-- The field of a record that has a name; of two with one name, the last. -/
def field? (document : Document) (name : String) : Option Document :=
  match document with
  | record fields => (fields.reverse.find? fun field => field.1 == name).map Prod.snd
  | _ => none

end Document

end ValueEngine
