import HotFire.Text.CaseTable

/-! Text in lower case, for all of Unicode. A capital sigma that ends a word
becomes the final form of the letter. -/

namespace HotFire

namespace Lowercase

/-- Some letters have more than one code point in lower case. -/
def char (c : Char) : List Char :=
  if c.toNat == 0x130 then ['i', '\u0307']
  else
    match CaseTable.runs.findSome? (·.partner? c.toNat) with
    | some n => [Char.ofNat n]
    | none => [c]

/-- Whether the first character that is not passed over is a cased one. -/
def meetsCased (cs : List Char) : Bool :=
  match cs.dropWhile CaseTable.ignorable.has with
  | c :: _ => CaseTable.cased.has c
  | [] => false

/-- The sigma at the end of a word has a cased character before it and none after. -/
def sigma (before after : List Char) : Char :=
  if meetsCased before && !meetsCased after then 'ς' else 'σ'

/-- `before` holds, last first, what precedes the text. -/
def chars (before : List Char) : List Char → List Char
  | [] => []
  | c :: cs => (if c == 'Σ' then [sigma before cs] else char c) ++ chars (c :: before) cs

def text (s : String) : String := String.ofList (chars [] s.toList)

end Lowercase

/-- Equality of texts that differ at most in the case of ASCII letters. -/
def sameUpToAsciiCase (a b : String) : Bool :=
  a.toList.map Char.toLower == b.toList.map Char.toLower

end HotFire
