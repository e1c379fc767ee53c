import HotFire.Decimal.Reading
import HotFire.Text.Lowercase

/-! Names that lead into a tree of settings: `a.b` is the key `b` of the table `a`,
`a[2]` the third item of the list `a`. -/

namespace HotFire

inductive Step where
  | key (name : String)
  | index (n : Int)
  deriving DecidableEq, Repr

namespace Path

def isNameChar (c : Char) : Bool := c.isAlphanum || c == '_' || c == '-' || c == ' '

def isPad (c : Char) : Bool := c == ' ' || c == '\t'

/-- An index within brackets: digits after at most a minus sign, padded. -/
def index? (cs : List Char) : Option Int :=
  let bare := ((cs.dropWhile isPad).reverse.dropWhile isPad).reverse
  let n? := match bare with
    | '-' :: digits => (natural? digits).map (fun n => -(n : Int))
    | digits => (natural? digits).map (fun n => (n : Int))
  n?.filter (fun n => -Int.pow 2 63 ≤ n && n < Int.pow 2 63)

def keyStep (name : List Char) : Step := .key (Lowercase.text (String.ofList name))

def stepsAfter? (cs : List Char) : Option (List Step) :=
  match cs with
  | [] => some []
  | c :: rest =>
    if c == '.' then
      let name := rest.takeWhile isNameChar
      if name.isEmpty then none
      else (stepsAfter? (rest.dropWhile isNameChar)).map (keyStep name :: ·)
    else if c == '[' then
      let after := rest.dropWhile (· != ']')
      match index? (rest.takeWhile (· != ']')) with
      | some n => if after.isEmpty then none else (stepsAfter? after.tail).map (.index n :: ·)
      | none => none
    else none
termination_by cs.length
decreasing_by
  · have := (List.dropWhile_suffix isNameChar (l := rest)).sublist.length_le
    simp; omega
  · have := (List.dropWhile_suffix (· != ']') (l := rest)).sublist.length_le
    simp only [List.length_tail, List.length_cons]; omega

/-- The steps of a name, keys in lower case. What is not a path is one key. -/
def ofName (name : String) : List Step :=
  let cs := name.toList
  let first := cs.takeWhile isNameChar
  match first.isEmpty, stepsAfter? (cs.dropWhile isNameChar) with
  | false, some rest => keyStep first :: rest
  | _, _ => [keyStep cs]

end Path

end HotFire
