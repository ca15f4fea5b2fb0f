import Stencil.Text.Hidden

/-!
# Quoted names

A name in a debugging text stands between double quotes.  Quotes, backslashes
and the usual controls have short escapes; any other character that would not show
by itself is written as its code point.
-/

set_option autoImplicit false

namespace Stencil.Text

/-- The written form of one character of a quoted name. -/
def quoteChar (character : Char) : List Char :=
  match character with
  | '\x00' => ['\\', '0']
  | '\t' => ['\\', 't']
  | '\r' => ['\\', 'r']
  | '\n' => ['\\', 'n']
  | '"' => ['\\', '"']
  | '\\' => ['\\', '\\']
  | _ =>
    if isHidden character then
      ['\\', 'u', '\x7b'] ++ Nat.toDigits 16 character.toNat ++ ['\x7d']
    else [character]

/-- A name between double quotes. -/
def quote (name : String) : String :=
  String.ofList (['"'] ++ name.toList.flatMap quoteChar ++ ['"'])

end Stencil.Text
