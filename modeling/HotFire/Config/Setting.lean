import HotFire.Config.Path
import HotFire.Text.Quoted

/-! Trees of settings. A leaf is text; a path of keys and indices leads to any place,
and writing to it makes the tables and lists on the way. -/

namespace HotFire

inductive Setting where
  | nothing
  | text (s : String)
  | items (values : List Setting)
  | table (entries : List (String × Setting))

namespace Setting

mutual

def chars : Setting → List Char
  | nothing => "nil".toList
  | text s => s.toList
  | items vs => (Quoted.text (String.ofList (itemChars vs))).toList
  | table es => "\x7b ".toList ++ entryChars es ++ " \x7d".toList

def itemChars : List Setting → List Char
  | [] => []
  | v :: vs => v.chars ++ ", ".toList ++ itemChars vs

def entryChars : List (String × Setting) → List Char
  | [] => []
  | (k, v) :: es => k.toList ++ " => ".toList ++ v.chars ++ ", ".toList ++ entryChars es

end

def display (v : Setting) : String := String.ofList v.chars

/-- The entries of a table; of anything else, none. -/
def entries : Setting → List (String × Setting)
  | table es => es
  | _ => []

/-- The values of a list; of anything else, none. -/
def values : Setting → List Setting
  | items vs => vs
  | _ => []

/-- Changes the entry of `name`; a missing one counts as `nothing` and goes to the end. -/
def alter (name : String) (f : Setting → Setting) :
    List (String × Setting) → List (String × Setting)
  | [] => [(name, f nothing)]
  | (k, v) :: es => if k == name then (k, f v) :: es else (k, v) :: alter name f es

/-- Changes the value at `n`, counted from the end where `n` is negative; a list that is
too short is filled up with `nothing`. -/
def alterAt (n : Int) (f : Setting → Setting) (vs : List Setting) : List Setting :=
  let i := if n < 0 then vs.length - n.natAbs else n.toNat
  (vs ++ List.replicate (i + 1 - vs.length) nothing).modify i f

mutual

/-- A table goes into what stands at a key entry by entry, and so do the tables in it;
all else takes its place. -/
def mergeInto : Setting → Setting → Setting
  | table es, nothing => mergeEntries es (table [])
  | table es, old => mergeEntries es old
  | new, _ => new

def mergeEntries : List (String × Setting) → Setting → Setting
  | [], old => old
  | (k, v) :: es, old =>
    mergeEntries es (table (alter (Lowercase.text k) (mergeInto v) old.entries))

end

def place (new : Setting) : List Step → Setting → Setting
  | [], _ => new
  | [.key k], old => table (alter k new.mergeInto old.entries)
  | .key k :: path, old => table (alter k (place new path) old.entries)
  | .index n :: path, old => items (alterAt n (place new path) old.values)

/-- The entry of a name: the same name, else the first that differs in case alone. -/
def lookup (name : String) (es : List (String × Setting)) : Option Setting :=
  (es.lookup name).or ((es.find? (sameUpToAsciiCase ·.1 name)).map (·.2))

end Setting

end HotFire
