import HotFire.Text.Blank
import HotFire.Text.Hex
import HotFire.Text.Quoted

/-! Configuration text: `[header]` lines, `key = value` entries, and comments that
begin a line. A backslash escapes; a value may stand in quotes. -/

namespace HotFire

namespace Ini

/-- A character, and the line and column that reading it has reached. -/
structure Mark where
  char : Char
  line : Nat
  column : Nat
  deriving DecidableEq, Repr

/-- Columns count from one after the start of a line, where the column is zero. -/
def marks (line column : Nat) : List Char → List Mark
  | [] => []
  | c :: cs =>
    if c == '\n' then ⟨c, line + 1, 0⟩ :: marks (line + 1) 0 cs
    else ⟨c, line, column + 1⟩ :: marks line (column + 1) cs

inductive Fault where
  | inlineComment
  | missingKey
  | unclosed (stops : List (Option Char))
  | loneBackslash (found : Option Char)
  | badCodePoint
  deriving DecidableEq, Repr

/-- A character or the end of the text, as messages show it. -/
def showEnd : Option Char → String
  | some c => "Some(" ++ Quoted.char c ++ ")"
  | none => "None"

def Fault.message : Fault → String
  | inlineComment => "doesn't support inline comment"
  | missingKey => "missing key"
  | unclosed stops =>
    "expecting \"[" ++ ", ".intercalate (stops.map showEnd) ++ "]\" but found EOF."
  | loneBackslash found => "expecting \"\\\\n\" but found \"" ++ showEnd found ++ "\"."
  | badCodePoint => "unknown character in \\xHH form"

/-- A fault and the place where it was met, `none` for the end of the text. -/
structure Halt where
  fault : Fault
  place : Option Mark

/-- What was read from `text`, and what is left of it. -/
structure Read (α : Type) (text : List Mark) where
  value : α
  rest : List Mark
  length_le : rest.length ≤ text.length

namespace Read

variable {α β : Type} {text text' : List Mark}

def map (f : α → β) (r : Read α text) : Read β text := ⟨f r.value, r.rest, r.length_le⟩

def widen (r : Read α text') (h : text'.length ≤ text.length) : Read α text :=
  ⟨r.value, r.rest, Nat.le_trans r.length_le h⟩

end Read

/-- The next `n` characters. A backslash has to stand before a line end, which then
counts as the character. -/
def take (stops : List (Option Char)) : (n : Nat) → (text : List Mark) →
    Except Halt (Read (List Mark) text)
  | 0, text => .ok ⟨[], text, Nat.le_refl _⟩
  | _ + 1, [] => .error ⟨.unclosed stops, none⟩
  | n + 1, m :: rest =>
    if m.char == '\\' then
      match rest with
      | [] => .error ⟨.loneBackslash none, none⟩
      | e :: rest =>
        if e.char == '\n' then
          (take stops n rest).map (fun r => (r.map (e :: ·)).widen (by simp; omega))
        else .error ⟨.loneBackslash (some e.char), some e⟩
    else (take stops n rest).map (fun r => (r.map (m :: ·)).widen (by simp))

/-- The character with a hexadecimal number, before which a plus sign may stand. -/
def codePoint? (cs : List Char) : Option Char :=
  let digits := match cs with
    | '+' :: rest => rest
    | _ => cs
  match hexNumber? digits with
  | some n => if h : n.isValidChar then some (Char.ofNatAux n h) else none
  | none => none

def escape (stops : List (Option Char)) : (text : List Mark) →
    Except Halt (Read (List Char) text)
  | [] => .error ⟨.unclosed stops, none⟩
  | m :: rest =>
    let stands (cs : List Char) : Read (List Char) (m :: rest) := ⟨cs, rest, by simp⟩
    match m.char with
    | '0' => .ok (stands ['\x00'])
    | 'a' => .ok (stands ['\x07'])
    | 'b' => .ok (stands ['\x08'])
    | 't' => .ok (stands ['\t'])
    | 'r' => .ok (stands ['\r'])
    | 'n' => .ok (stands ['\n'])
    | '\n' => .ok (stands [])
    | 'x' =>
      match take stops 4 rest with
      | .error halt => .error halt
      | .ok r =>
        match codePoint? (r.value.map Mark.char) with
        | some c => .ok ((r.map (fun _ => [c])).widen (by simp))
        | none => .error ⟨.badCodePoint, r.value.getLast?⟩
    | c => .ok (stands [c])

/-- Reads up to one of `stops`, which stays; `none` among them is the end of the text. -/
def upTo (stops : List (Option Char)) (text : List Mark) : Except Halt (Read (List Char) text) :=
  match text with
  | [] => if none ∈ stops then .ok ⟨[], [], by simp⟩ else .error ⟨.unclosed stops, none⟩
  | m :: rest =>
    if some m.char ∈ stops then .ok ⟨[], m :: rest, by simp⟩
    else if m.char == '\\' then
      match escape stops rest with
      | .error halt => .error halt
      | .ok e =>
        (upTo stops e.rest).map (fun r =>
          (r.map (e.value ++ ·)).widen (by have := e.length_le; simp; omega))
    else (upTo stops rest).map (fun r => (r.map (m.char :: ·)).widen (by simp))
termination_by text.length
decreasing_by
  · have := e.length_le; simp; omega
  · simp

def headerEnds : List (Option Char) := [some ']']
def keyEnds : List (Option Char) := [some '=', some ':']
def lineEnds : List (Option Char) := [some '\n', some '\r', none]

theorem length_dropWhile_le {α : Type} (p : α → Bool) (l : List α) :
    (l.dropWhile p).length ≤ l.length :=
  (List.dropWhile_suffix p).sublist.length_le

theorem length_lt_of_dropWhile {α : Type} {p : α → Bool} {l rest : List α} {x : α}
    (h : l.dropWhile p = x :: rest) : rest.length < l.length := by
  have hle := length_dropWhile_le p l
  rw [h, List.length_cons] at hle
  exact hle

/-- The rest of the line, after a quoted part if it begins with a quote. -/
def value (text : List Mark) : Except Halt (Read (List Char) text) :=
  let blank (m : Mark) : Bool := isBlank m.char && m.char != '\n' && m.char != '\r'
  match h : text.dropWhile blank with
  | [] => .ok ⟨[], [], Nat.zero_le _⟩
  | m :: rest =>
    have hl : rest.length < text.length := length_lt_of_dropWhile h
    if m.char == '"' || m.char == '\'' then
      match upTo [some m.char] rest with
      | .error halt => .error halt
      | .ok quoted =>
        (upTo lineEnds quoted.rest.tail).map (fun r =>
          (r.map (quoted.value ++ ·)).widen (by
            have := quoted.length_le; have := List.length_tail (l := quoted.rest); omega))
    else (upTo lineEnds (m :: rest)).map (·.widen hl)

/-- A line of the text that says something. -/
inductive Item where
  | header (name : String)
  | entry (key value : String)
  deriving DecidableEq, Repr

def items (text : List Mark) : Except Halt (List Item) :=
  match h : text.dropWhile (isBlank ·.char) with
  | [] => .ok []
  | m :: rest =>
    have := length_lt_of_dropWhile h
    if m.char == ';' || m.char == '#' then
      if 1 < m.column then .error ⟨.inlineComment, some m⟩
      else items (rest.dropWhile (·.char != '\n'))
    else if m.char == '[' then
      match upTo headerEnds rest with
      | .error halt => .error halt
      | .ok name =>
        (items name.rest.tail).map (.header (String.ofList (trimBlanks name.value)) :: ·)
    else
      match upTo keyEnds (m :: rest) with
      | .error halt => .error halt
      | .ok key =>
        let name := trimBlanks key.value
        if name.isEmpty then .error ⟨.missingKey, key.rest.head?⟩
        else
          match value key.rest.tail with
          | .error halt => .error halt
          | .ok v =>
            (items v.rest).map
              (.entry (String.ofList name) (String.ofList (trimBlanks v.value)) :: ·)
termination_by text.length
decreasing_by
  · have := length_dropWhile_le (·.char != '\n') rest; omega
  · have := name.length_le; have := List.length_tail (l := name.rest); omega
  · have := key.length_le; have := v.length_le
    have := List.length_tail (l := key.rest); simp at *; omega

/-- The items of a text, or what is wrong with it and at which line and column. -/
def read (text : String) : Except String (List Item) :=
  let all := marks 0 0 text.toList
  match items all with
  | .ok is => .ok is
  | .error halt =>
    let (line, column) := match halt.place.or all.getLast? with
      | some m => (m.line + 1, m.column + 1)
      | none => (1, 1)
    .error s!"{line}:{column} {halt.fault.message}"

end Ini

end HotFire
