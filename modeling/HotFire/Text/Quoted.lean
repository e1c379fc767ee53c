import HotFire.Text.VisibleTable

/-! Text between quotes: a backslash goes before the quote, the backslash and the
names of the common controls, and what has no glyph is given by its code point. -/

namespace HotFire

namespace Quoted

def hexDigits (n : Nat) : String := String.ofList (Nat.toDigits 16 n)

/-- One character of a text between two characters `quote`. -/
def escape (quote c : Char) : String :=
  if c == '\x00' then "\\0"
  else if c == '\t' then "\\t"
  else if c == '\r' then "\\r"
  else if c == '\n' then "\\n"
  else if c == '\\' || c == quote then String.ofList ['\\', c]
  else if unseen.has c then "\\u\x7b" ++ hexDigits c.toNat ++ "\x7d"
  else c.toString

def char (c : Char) : String := "'" ++ escape '\'' c ++ "'"

def text (s : String) : String := "\"" ++ "".intercalate (s.toList.map (escape '"')) ++ "\""

end Quoted

end HotFire
