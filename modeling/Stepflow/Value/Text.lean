/-
  Stepflow.Value.Text — values as text.

  `compact` is the data text of a value: no blanks, fields in the order of the object,
  characters below U+0020, quotation marks and backslashes escaped, all others as they
  are. `indented` is the same over several lines. `text` is what a value looks like
  inside other text: a text is itself, null is nothing, the rest is compact.
-/

import Stepflow.Value.Basic

namespace Stepflow.Value

def hexDigit (n : Nat) : Char := (Nat.digitChar n)

def escapeChar (c : Char) : List Char :=
  match c with
  | '"' => ['\\', '"']
  | '\\' => ['\\', '\\']
  | '\n' => ['\\', 'n']
  | '\r' => ['\\', 'r']
  | '\t' => ['\\', 't']
  | '\x08' => ['\\', 'b']
  | '\x0c' => ['\\', 'f']
  | c =>
    if c.toNat < 0x20 then
      ['\\', 'u', '0', '0', hexDigit (c.toNat / 16), hexDigit (c.toNat % 16)]
    else [c]

def quoted (s : String) : List Char := '"' :: s.toList.flatMap escapeChar ++ ['"']

mutual
def compactChars : Value → List Char
  | null => ['n', 'u', 'l', 'l']
  | bool true => ['t', 'r', 'u', 'e']
  | bool false => ['f', 'a', 'l', 's', 'e']
  | number n => n.text.toList
  | string s => quoted s
  | array items => '[' :: itemChars items ++ [']']
  | object fields => '\x7b' :: fieldChars fields ++ ['\x7d']

def itemChars : List Value → List Char
  | [] => []
  | [v] => compactChars v
  | v :: vs => compactChars v ++ ',' :: itemChars vs

def fieldChars : List (String × Value) → List Char
  | [] => []
  | [(k, v)] => quoted k ++ ':' :: compactChars v
  | (k, v) :: rest => quoted k ++ ':' :: compactChars v ++ ',' :: fieldChars rest
end

def compact (v : Value) : String := String.ofList v.compactChars

def newLine (level : Nat) : List Char := '\n' :: List.replicate (2 * level) ' '

mutual
def indentedChars (level : Nat) : Value → List Char
  | array (v :: vs) => '[' :: indentedItems (level + 1) (v :: vs) ++ newLine level ++ [']']
  | object (f :: fs) =>
    '\x7b' :: indentedFields (level + 1) (f :: fs) ++ newLine level ++ ['\x7d']
  | v => compactChars v

def indentedItems (level : Nat) : List Value → List Char
  | [] => []
  | [v] => newLine level ++ indentedChars level v
  | v :: vs => newLine level ++ indentedChars level v ++ ',' :: indentedItems level vs

def indentedFields (level : Nat) : List (String × Value) → List Char
  | [] => []
  | [(k, v)] => newLine level ++ quoted k ++ ':' :: ' ' :: indentedChars level v
  | (k, v) :: rest =>
    newLine level ++ quoted k ++ ':' :: ' ' :: indentedChars level v ++ ',' ::
      indentedFields level rest
end

def indented (v : Value) : String := String.ofList (indentedChars 0 v)

def text : Value → String
  | string s => s
  | null => ""
  | v => v.compact

end Stepflow.Value
