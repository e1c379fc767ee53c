import HotFire.Config.Error
import HotFire.Config.Ini
import HotFire.Config.Setting
import HotFire.Decimal.Reading

/-! Configuration text as a tree, and the typed values found in it under a header
and a key. -/

namespace HotFire

structure ConfigTree where
  root : List (String × Setting)

namespace ConfigTree

/-- The entries before any header, and those under each header in turn. -/
def group : List Ini.Item → List (String × String) × List (String × List (String × String))
  | [] => ([], [])
  | .entry k v :: rest =>
    let (own, later) := group rest
    ((k, v) :: own, later)
  | .header name :: rest =>
    let (own, later) := group rest
    ([], (name, own) :: later)

/-- The last of several entries of a name counts. -/
def latest (es : List (String × Setting)) : List (String × Setting) :=
  es.foldl (fun t (k, v) => Setting.alter k (fun _ => v) t) []

def placeAll (es : List (String × Setting)) : List (String × Setting) :=
  (es.foldl (fun t (name, v) => Setting.place v (Path.ofName name) t) (.table [])).entries

/-- The tree of a text. A header that comes again starts anew. Names are followed twice,
as one that is no path may have become one in lower case. -/
def ofItems (is : List Ini.Item) : ConfigTree :=
  let (bare, headed) := group is
  let leaves (es : List (String × String)) := latest (es.map fun (k, v) => (k, .text v))
  let named : List (String × Setting) := latest
    ((bare.map fun (k, v) => (k, .text v)) ++ headed.map fun (k, es) => (k, .table (leaves es)))
  ⟨placeAll (placeAll named)⟩

def ofText (text : String) : Except ConfigError ConfigTree :=
  match Ini.read text with
  | .ok is => .ok (ofItems is)
  | .error detail => .error (.malformed detail)

variable (t : ConfigTree) (table key : String)

/-- What stands under a header at a key; an empty header is the tree itself, and a
table is no value. -/
def value? : Option Setting :=
  let entries? :=
    if table.isEmpty then some t.root
    else
      match Setting.lookup table t.root with
      | some (.table es) => some es
      | _ => none
  match entries?.bind (Setting.lookup key) with
  | some (.table _) => none
  | v => v

def isPresent : Bool := (t.value? table key).isSome

/-- The value that `read` finds in the text at a key. -/
def typed {α : Type} (read : String → Option α) : Except ConfigError α :=
  match t.value? table key with
  | none => .error (.keyNotFound table key)
  | some v =>
    let found := match v with
      | .text s => read s
      | _ => none
    match found with
    | some a => .ok a
    | none => .error (.invalidValue table key v.display)

def string : Except ConfigError String := t.typed table key some

/-- The two truth values by their names, in any case of letters. -/
def truthWord? (s : String) : Option Bool :=
  match Lowercase.text s with
  | "true" | "on" | "yes" => some true
  | "false" | "off" | "no" => some false
  | _ => none

def int : Except ConfigError Int :=
  t.typed table key fun s =>
    match truthWord? s with
    | some b => some (if b then 1 else 0)
    | none => word? s.toList

def double : Except ConfigError Float :=
  t.typed table key fun s =>
    match truthWord? s with
    | some b => some (if b then 1 else 0)
    | none => Double.ofDecimal? s.toList

def bool : Except ConfigError Bool :=
  t.typed table key fun s =>
    if s == "1" then some true
    else if s == "0" then some false
    else truthWord? s

/-- The parts of a text between commas, without blanks at their ends and without
those that are then empty. -/
def commaParts (cs : List Char) : List (List Char) :=
  let parts := cs.foldr (fun c parts =>
    if c == ',' then [] :: parts
    else
      match parts with
      | [] => [[c]]
      | p :: ps => (c :: p) :: ps) [[]]
  (parts.map trimBlanks).filter (! ·.isEmpty)

def vector : Except ConfigError (List Int) := do
  let s ← t.string table key
  (commaParts s.toList).mapM fun part =>
    match word? part with
    | some n => .ok n
    | none => .error (.invalidValue table key (String.ofList part))

end ConfigTree

end HotFire
