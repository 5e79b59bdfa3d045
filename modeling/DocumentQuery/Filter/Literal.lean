import DocumentQuery.Calendar.Timestamp
import DocumentQuery.Number.DecimalText
import DocumentQuery.Text.Basic

/-!
Literal values of filters. A literal is read from the name of its type and a text; only a string
keeps the white space around its text, and a double has to be finite.
-/

namespace DocumentQuery

open Calendar Number Text

inductive LiteralType where
  | boolean
  | date
  | double
  | integer
  | string
  deriving DecidableEq, Repr

inductive Literal where
  | boolean (value : Bool)
  | date (moment : Moment)
  | double (value : Binary64)
  | integer (value : Int64)
  | string (value : String)
  deriving DecidableEq

inductive LiteralFault where
  | unknownType (name : String)
  | malformed (type : LiteralType) (text : String)
  deriving DecidableEq, Repr

namespace LiteralType

def all : List LiteralType := [boolean, date, double, integer, string]

def name : LiteralType → String
  | boolean => "boolean"
  | date => "date"
  | double => "double"
  | integer => "integer"
  | string => "string"

def read (text : String) : Except LiteralFault LiteralType :=
  let name := lower (trim text)
  match all.find? fun type => decide (type.name = name) with
  | some type => .ok type
  | none => .error (.unknownType name)

end LiteralType

def LiteralFault.message : LiteralFault → String
  | unknownType name => "unknown literal: " ++ name
  | malformed type text => "invalid " ++ type.name ++ ": " ++ text

namespace Literal

def type : Literal → LiteralType
  | boolean _ => .boolean
  | date _ => .date
  | double _ => .double
  | integer _ => .integer
  | string _ => .string

def ofText? (type : LiteralType) (text : String) : Option Literal :=
  let chars := trimChars text.toList
  match type with
  | .boolean =>
      if sameCaseless (String.ofList chars) "true" then some (boolean true)
      else if sameCaseless (String.ofList chars) "false" then some (boolean false)
      else none
  | .date => (readTimestamp chars).map date
  | .double => ((readBinary64 chars).filter Binary64.isFinite).map double
  | .integer => (readInt64 chars).map integer
  | .string => some (string text)

def parse (typeName text : String) : Except LiteralFault Literal :=
  match LiteralType.read typeName with
  | .error fault => .error fault
  | .ok type =>
      match ofText? type text with
      | some literal => .ok literal
      | none => .error (.malformed type text)

def boolText (value : Bool) : String := if value then "true" else "false"

def quoteString (value : String) : String :=
  String.ofList ('\'' :: value.toList.flatMap (fun char =>
    if char = '\'' then ['\\', '\''] else [char]) ++ ['\''])

def display : Literal → String
  | boolean value => boolText value
  | date moment => "TIMESTAMP '" ++ String.ofList (writeTimestamp moment) ++ "'"
  | double value => String.ofList (writeBinary64 value)
  | integer value => String.ofList (writeInt64 value)
  | string value => quoteString value

def displayList (literals : List Literal) : String :=
  "(" ++ String.intercalate ", " (literals.map display) ++ ")"

end Literal

end DocumentQuery
