/-
  Stepflow.Json.Tree — what a data text holds, faults included.

  A text is read into a tree before anyone decides what it should mean. Where the text
  breaks off, the tree says so at that place, so a decoder that works from left to
  right meets the faults of the text and its own objections in the order in which they
  stand. Some faults depend on the decoder: a number too large for a double, or half
  of a surrogate pair, is a fault only when the value is wanted (`unreadable`), and a
  few breaks are named differently inside a value that is passed over (`Break`).

  `Tree.ofValue` is the tree of a value: it has no faults.
-/

import Stepflow.Value.Basic

namespace Stepflow.Json

inductive Fault where
  | endInList
  | endInObject
  | endInString
  | endInValue
  | expectedColon
  | expectedListEnd
  | expectedObjectEnd
  | expectedWord
  | expectedValue
  | invalidEscape
  | invalidNumber
  | numberOutOfRange
  | controlCharacter
  | keyNotText
  | loneSurrogate
  | endOfEscape
  | trailingComma
  | trailingCharacters
  | tooDeep
  deriving DecidableEq, Repr

def Fault.message : Fault → String
  | endInList => "EOF while parsing a list"
  | endInObject => "EOF while parsing an object"
  | endInString => "EOF while parsing a string"
  | endInValue => "EOF while parsing a value"
  | expectedColon => "expected `:`"
  | expectedListEnd => "expected `,` or `]`"
  | expectedObjectEnd => "expected `,` or `\x7d`"
  | expectedWord => "expected ident"
  | expectedValue => "expected value"
  | invalidEscape => "invalid escape"
  | invalidNumber => "invalid number"
  | numberOutOfRange => "number out of range"
  | controlCharacter => "control character (\\u0000-\\u001F) found while parsing a string"
  | keyNotText => "key must be a string"
  | loneSurrogate => "lone leading surrogate in hex escape"
  | endOfEscape => "unexpected end of hex escape"
  | trailingComma => "trailing comma"
  | trailingCharacters => "trailing characters"
  | tooDeep => "recursion limit exceeded"

/-- A place where the text can be read no further: the fault for a reader who wants the
    value there, and for one who passes over it. -/
structure Break where
  wanted : Fault
  skipped : Fault := wanted
  deriving DecidableEq, Repr

/-- The content of a data text, up to its first break. -/
inductive Tree where
  | null
  | bool (b : Bool)
  | number (n : Number)
  | string (s : String)
  /-- A double that is no number of data: null where any value will do. -/
  | nonFinite (x : Float)
  /-- A value that is well formed and yet has no meaning. -/
  | unreadable (fault : Fault)
  /-- Items, and the break where the next item or the end was due. -/
  | array (items : List Tree) (stop : Option Break)
  /-- Keys with their values, in the order of the text. -/
  | object (members : List (Except Fault String × Tree)) (stop : Option Break)
  | broken (stop : Break)

instance : Inhabited Tree := ⟨.null⟩

namespace Tree

mutual
def ofValue : Value → Tree
  | .null => null
  | .bool b => bool b
  | .number n => number n
  | .string s => string s
  | .array items => array (ofItems items) none
  | .object fields => object (ofFields fields) none

def ofItems : List Value → List Tree
  | [] => []
  | v :: vs => ofValue v :: ofItems vs

def ofFields : List (String × Value) → List (Except Fault String × Tree)
  | [] => []
  | (k, v) :: rest => (.ok k, ofValue v) :: ofFields rest
end

mutual
def skipFault? : Tree → Option Fault
  | array items stop => skipItems? items <|> stop.map (·.skipped)
  | object members stop => skipMembers? members <|> stop.map (·.skipped)
  | broken stop => some stop.skipped
  | _ => none

def skipItems? : List Tree → Option Fault
  | [] => none
  | t :: ts => skipFault? t <|> skipItems? ts

def skipMembers? : List (Except Fault String × Tree) → Option Fault
  | [] => none
  | (_, t) :: rest => skipFault? t <|> skipMembers? rest
end

end Tree

end Stepflow.Json
