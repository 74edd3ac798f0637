import Snippet.Text.Basic

/-!
# Quoted texts

Two ways to write a text as a literal. In double quotation marks every text can be written: the
marks, the backslash and the control characters below U+0020 are escaped, by a letter where the
format has one and by four hexadecimal digits otherwise, and everything else stands for itself. In
single quotation marks only the mark itself is escaped.

`escape_append` and `escapeSingle_append` say that both escapes work character by character.
-/

namespace Snippet.Text

/-! ## Double quotation marks -/

def escapeChar (c : Char) : Text :=
  if c = '"' then "\\\""
  else if c = '\\' then "\\\\"
  else if c = '\n' then "\\n"
  else if c = '\r' then "\\r"
  else if c = '\t' then "\\t"
  else if c = '\x08' then "\\b"
  else if c = '\x0c' then "\\f"
  else if c.toNat < 0x20 then
    "\\u00" ++ [Nat.digitChar (c.toNat / 16), Nat.digitChar (c.toNat % 16)]
  else [c]

def escape (t : Text) : Text :=
  t.flatMap escapeChar

def quote (t : Text) : Text :=
  '"' :: (escape t ++ ['"'])

theorem escape_append (s t : Text) : escape (s ++ t) = escape s ++ escape t :=
  List.flatMap_append

/-! ## Single quotation marks -/

/-- A text with a backslash before every single quotation mark. -/
def escapeSingle (t : Text) : Text :=
  t.flatMap fun c => if c = '\'' then ['\\', '\''] else [c]

def quoteSingle (t : Text) : Text :=
  '\'' :: (escapeSingle t ++ ['\''])

theorem escapeSingle_append (s t : Text) :
    escapeSingle (s ++ t) = escapeSingle s ++ escapeSingle t :=
  List.flatMap_append

end Snippet.Text
