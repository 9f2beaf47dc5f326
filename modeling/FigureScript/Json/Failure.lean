import FigureScript.Json.Cursor
import FigureScript.Json.DataFault

/-!
# Why a text cannot be read
-/

namespace FigureScript.Json

inductive Fault where
  | endOfValue
  | endOfString
  | endOfList
  | endOfObject
  | unknownWord
  | noValue
  | invalidNumber
  | numberOutOfRange
  | controlCharacter
  | invalidEscape
  | loneSurrogate
  | unfinishedSurrogate
  | invalidUnicode
  | noListSeparator
  | noObjectSeparator
  | noColon
  | keyNotString
  | trailingComma
  | trailingCharacters
  | tooDeep
  /-- The text is JSON, but the value is not the wanted one. -/
  | data (fault : DataFault)

def Fault.isEnd : Fault → Bool
  | endOfValue | endOfString | endOfList | endOfObject => true
  | _ => false

def Fault.message : Fault → String
  | endOfValue => "EOF while parsing a value"
  | endOfString => "EOF while parsing a string"
  | endOfList => "EOF while parsing a list"
  | endOfObject => "EOF while parsing an object"
  | unknownWord => "expected ident"
  | noValue => "expected value"
  | invalidNumber => "invalid number"
  | numberOutOfRange => "number out of range"
  | controlCharacter => "control character (\\u0000-\\u001F) found while parsing a string"
  | invalidEscape => "invalid escape"
  | loneSurrogate => "lone leading surrogate in hex escape"
  | unfinishedSurrogate => "unexpected end of hex escape"
  | invalidUnicode => "invalid unicode code point"
  | noListSeparator => "expected `,` or `]`"
  | noObjectSeparator => "expected `,` or `\x7d`"
  | noColon => "expected `:`"
  | keyNotString => "key must be a string"
  | trailingComma => "trailing comma"
  | trailingCharacters => "trailing characters"
  | tooDeep => "recursion limit exceeded"
  | data fault => fault.message

def Position.locate (position : Position) (message : String) : String :=
  message ++ " at line " ++ toString position.line ++ " column " ++ toString position.column

structure Failure where
  fault : Fault
  position : Position

def Failure.message (failure : Failure) : String :=
  failure.position.locate failure.fault.message

end FigureScript.Json
