import HotFire.Json.Printer
import HotFire.Json.Reader
import HotFire.Proofs.Json.Number
import Mathlib.Tactic.SplitIfs

/-! A tree that is written reads back. Each part of its text is read up to the character
that follows it, and what follows is left as it is. -/

namespace HotFire

namespace JsonText

/-- What follows does not go on a number. -/
def Delimited (rest : List Char) : Prop :=
  ∀ c, rest.head? = some c → c.isDigit = false ∧ c ≠ '.' ∧ c ≠ 'e' ∧ c ≠ 'E'

theorem delimited_nil : Delimited [] := by
  intro c hc
  cases hc

theorem delimited_cons {c : Char} (rest : List Char)
    (h : c.isDigit = false ∧ c ≠ '.' ∧ c ≠ 'e' ∧ c ≠ 'E') : Delimited (c :: rest) := by
  rintro _ ⟨⟩
  exact h

theorem digits?_append {ds rest : List Char} (hds : AllDigits ds)
    (hrest : ∀ c, rest.head? = some c → c.isDigit = false) :
    digits? (ds ++ rest) = some (ds, rest) := by
  have hstop : rest.takeWhile Char.isDigit = [] ∧ rest.dropWhile Char.isDigit = rest := by
    cases rest with
    | nil => exact ⟨rfl, rfl⟩
    | cons c rest => simp [hrest c rfl]
  rw [digits?, List.takeWhile_append_of_pos hds.2, List.dropWhile_append_of_pos hds.2, hstop.1,
    hstop.2, List.append_nil]
  simp [hds.1]

/-! Numbers. -/

def exponentChars : Option JsonExponent → List Char
  | none => []
  | some e => 'e' :: (if e.negative then '-' else '+') :: e.digits

def fractionChars (fraction : List Char) : List Char :=
  if fraction.isEmpty then [] else '.' :: fraction

theorem chars_eq (n : JsonNumber) :
    n.chars = (if n.negative then ['-'] else []) ++ (n.whole ++
      (fractionChars n.fraction ++ exponentChars n.exponent)) := by
  simp only [JsonNumber.chars, List.append_assoc]
  rfl

theorem exponent?_append {e : Option JsonExponent}
    (he : ∀ x, e = some x → AllDigits x.digits) {rest : List Char} (hrest : Delimited rest) :
    exponent? (exponentChars e ++ rest) = some (e, rest) := by
  cases e with
  | none =>
    cases rest with
    | nil => rfl
    | cons c rest =>
      obtain ⟨-, -, hlow, hhigh⟩ := hrest c rfl
      simp [exponentChars, exponent?, hlow, hhigh]
  | some e =>
    have hdigits := digits?_append (he e rfl) fun c hc => (hrest c hc).1
    obtain ⟨negative, digits⟩ := e
    cases negative <;> simp [exponentChars, exponent?, hdigits]

theorem exponentChars_delimited (e : Option JsonExponent) {rest : List Char}
    (hrest : Delimited rest) {c : Char} (hc : (exponentChars e ++ rest).head? = some c) :
    c.isDigit = false ∧ c ≠ '.' := by
  cases e with
  | none => exact ⟨(hrest c hc).1, (hrest c hc).2.1⟩
  | some e =>
    cases hc
    decide

theorem fraction?_append {fraction : List Char} (hf : ∀ c ∈ fraction, c.isDigit = true)
    {rest : List Char} (hrest : ∀ c, rest.head? = some c → c.isDigit = false ∧ c ≠ '.') :
    fraction? (fractionChars fraction ++ rest) = some (fraction, rest) := by
  cases fraction with
  | nil =>
    cases rest with
    | nil => rfl
    | cons c rest => simp [fractionChars, fraction?, (hrest c rfl).2]
  | cons d ds =>
    exact digits?_append ⟨by simp, hf⟩ fun c hc => (hrest c hc).1

theorem fractionChars_delimited (fraction : List Char) {rest : List Char}
    (hrest : ∀ c, rest.head? = some c → c.isDigit = false ∧ c ≠ '.') {c : Char}
    (hc : (fractionChars fraction ++ rest).head? = some c) : c.isDigit = false := by
  cases fraction with
  | nil => exact (hrest c hc).1
  | cons d ds =>
    cases hc
    decide

theorem number?_chars {n : JsonNumber} (hn : n.WellFormed) {rest : List Char}
    (hrest : Delimited rest) : number? (n.chars ++ rest) = some (n, rest) := by
  obtain ⟨negative, whole, fraction, exponent⟩ := n
  have hexponent : exponent? (exponentChars exponent ++ rest) = some (exponent, rest) :=
    exponent?_append hn.exponent hrest
  generalize htail : exponentChars exponent ++ rest = tail at hexponent
  have hpoint : ∀ c, tail.head? = some c → c.isDigit = false ∧ c ≠ '.' :=
    fun c hc => exponentChars_delimited exponent hrest (htail ▸ hc)
  have hfraction : fraction? (fractionChars fraction ++ tail) = some (fraction, tail) :=
    fraction?_append hn.fraction hpoint
  have hwhole : digits? (whole ++ (fractionChars fraction ++ tail)) =
      some (whole, fractionChars fraction ++ tail) :=
    digits?_append hn.whole fun c hc => fractionChars_delimited fraction hpoint hc
  have hlead : whole.head? = some '0' → whole = ['0'] := hn.lead
  have hsign : ∀ cs, whole ++ (fractionChars fraction ++ tail) ≠ '-' :: cs :=
    fun cs hcs => hn.whole.head?_ne _ rfl (congrArg List.head? hcs)
  rw [chars_eq]
  simp only [List.append_assoc, htail]
  cases negative with
  | true => simpa [number?, hwhole, hfraction, hexponent] using hlead
  | false =>
    simp only [Bool.false_eq_true, if_false, List.nil_append]
    rw [number?]
    · simpa [hwhole, hfraction, hexponent] using hlead
    · exact hsign

/-! Strings. -/

theorem hexNumber?_control {n : Nat} (hn : n < 0x20) :
    hexNumber? ['0', '0', hexDigit (n / 16), hexDigit (n % 16)] = some n := by
  have hall : ∀ k < 0x20,
      hexNumber? ['0', '0', hexDigit (k / 16), hexDigit (k % 16)] = some k := by decide
  exact hall n hn

theorem units?_backslash {e c : Char} (he : escaped? e = some c) {cs rest : List Char}
    {us : List Nat} (h : units? cs = some (us, rest)) :
    units? ('\\' :: e :: cs) = some (c.toNat :: us, rest) := by
  have hne : e ≠ 'u' := by
    rintro rfl
    cases he
  rw [units?.eq_4 _ _ fun _ _ _ _ _ hu _ => hne hu, he, h]

theorem units?_plain {c : Char} (hquote : c ≠ '"') (hback : c ≠ '\\') (hlow : ¬ c.toNat < 0x20)
    {cs rest : List Char} {us : List Nat} (h : units? cs = some (us, rest)) :
    units? (c :: cs) = some (c.toNat :: us, rest) := by
  rw [units?.eq_5 _ _ hquote (fun _ _ _ _ _ hc _ => hback hc) (fun _ _ hc _ => hback hc)]
  simp [hlow, hback, h]

theorem units?_escape (c : Char) {cs rest : List Char} {us : List Nat}
    (h : units? cs = some (us, rest)) : units? (escape c ++ cs) = some (c.toNat :: us, rest) := by
  rw [escape]
  split_ifs with hquote hb hf hn hr ht hcontrol
  · simp only [Bool.or_eq_true, beq_iff_eq] at hquote
    rcases hquote with rfl | rfl <;> exact units?_backslash rfl h
  · exact eq_of_beq hb ▸ units?_backslash rfl h
  · exact eq_of_beq hf ▸ units?_backslash rfl h
  · exact eq_of_beq hn ▸ units?_backslash rfl h
  · exact eq_of_beq hr ▸ units?_backslash rfl h
  · exact eq_of_beq ht ▸ units?_backslash rfl h
  · simp only [List.cons_append, List.nil_append, units?, hexNumber?_control hcontrol, h]
  · simp only [Bool.or_eq_true, beq_iff_eq, not_or] at hquote
    exact units?_plain hquote.1 hquote.2 hcontrol h

theorem units?_quoted (cs rest : List Char) :
    units? (cs.flatMap escape ++ '"' :: rest) = some (cs.map Char.toNat, rest) := by
  induction cs with
  | nil => rfl
  | cons c cs ih =>
    rw [List.flatMap_cons, List.append_assoc]
    exact units?_escape c ih

/-- A character is never half of a pair. -/
theorem not_half (c : Char) : isHighHalf c.toNat = false ∧ isLowHalf c.toNat = false := by
  have hc := c.valid
  simp only [UInt32.isValidChar, Nat.isValidChar] at hc
  have hn : c.toNat = c.val.toNat := rfl
  simp only [isHighHalf, isLowHalf, Bool.and_eq_false_iff, decide_eq_false_iff_not]
  omega

theorem joinUnits?_chars (cs : List Char) : joinUnits? (cs.map Char.toNat) = some cs := by
  induction cs with
  | nil => rfl
  | cons c cs ih =>
    obtain ⟨hhigh, hlow⟩ := not_half c
    cases cs with
    | nil => simp [joinUnits?, hhigh, hlow]
    | cons d ds =>
      rw [List.map_cons] at ih
      simp only [List.map_cons, joinUnits?, hhigh, hlow, ih]
      simp

theorem string?_quote (s : String) (rest : List Char) :
    string? (s.toList.flatMap escape ++ '"' :: rest) = some (some s, rest) := by
  simp [string?, units?_quoted, joinUnits?_chars]

/-! Trees. -/

theorem skip_cons {c : Char} (hc : isSpace c = false) (cs : List Char) :
    skip (c :: cs) = c :: cs := by
  simp [skip, hc]

theorem number_start {n : JsonNumber} (hn : n.WellFormed) :
    ∃ c cs, n.chars = c :: cs ∧ (c = '-' ∨ c.isDigit = true) := by
  obtain ⟨c, cs, hw⟩ := List.exists_cons_of_ne_nil hn.whole.1
  have hc := hn.whole.2 c (by simp [hw])
  rw [chars_eq, hw]
  cases n.negative with
  | true => exact ⟨'-', _, rfl, .inl rfl⟩
  | false => exact ⟨c, _, rfl, .inr hc⟩

theorem start_not_space {c : Char} (hc : c = '-' ∨ c.isDigit = true) : isSpace c = false := by
  rcases hc with rfl | hc
  · rfl
  · simp only [isSpace, Bool.or_eq_false_iff, beq_eq_false_iff_ne]
    refine ⟨⟨⟨?_, ?_⟩, ?_⟩, ?_⟩ <;> rintro rfl <;> cases hc

theorem value?_number {c : Char} (hc : c = '-' ∨ c.isDigit = true) {cs rest : List Char}
    {n : JsonNumber} (h : number? (c :: cs) = some (n, rest)) (steps : Nat) :
    value? (steps + 1) (c :: cs) = some (.number n, rest) := by
  rw [value?, skip_cons (start_not_space hc)]
  split
  case h_8 =>
    rw [h]
    rfl
  case h_1 heq => cases heq
  all_goals
    rename_i heq
    obtain ⟨rfl, -⟩ := List.cons.inj heq
    exact absurd hc (by decide)

end JsonText

namespace JsonValue

open JsonText

/-- The numbers are well formed and each string has a text. -/
inductive WellFormed : JsonValue → Prop where
  | null : WellFormed null
  | bool (b : Bool) : WellFormed (bool b)
  | number {n : JsonNumber} (h : n.WellFormed) : WellFormed (number n)
  | string (s : String) : WellFormed (string (some s))
  | array {vs : List JsonValue} (h : ∀ v ∈ vs, WellFormed v) : WellFormed (array vs)
  | object {ms : List (Option String × JsonValue)} (names : ∀ m ∈ ms, m.1.isSome = true)
      (values : ∀ m ∈ ms, WellFormed m.2) : WellFormed (object ms)

/-- The text of the tree is read as the tree, up to what follows. -/
def ReadsBack (v : JsonValue) : Prop :=
  ∀ steps rest, 2 * v.chars.length ≤ steps + 1 → Delimited rest →
    value? (steps + 1) (v.chars ++ rest) = some (v, rest)

/-- The text starts with neither a blank nor the end of an array. -/
def Opens (v : JsonValue) : Prop :=
  ∃ c cs, v.chars = c :: cs ∧ isSpace c = false ∧ c ≠ ']'

def memberChars (m : Option String × JsonValue) : List Char :=
  quote (m.1.getD "") ++ ':' :: m.2.chars

theorem chars_array_cons (v : JsonValue) (vs : List JsonValue) :
    (array (v :: vs)).chars = '[' :: (v.chars ++ moreValues vs) := by
  rw [chars, List.cons_append]

theorem moreValues_cons (v : JsonValue) (vs : List JsonValue) :
    moreValues (v :: vs) = ',' :: (v.chars ++ moreValues vs) := by
  rw [moreValues, List.cons_append]

theorem chars_object_cons (m : Option String × JsonValue)
    (ms : List (Option String × JsonValue)) :
    (object (m :: ms)).chars = '\x7b' :: (memberChars m ++ moreMembers ms) := by
  obtain ⟨k, v⟩ := m
  simp [chars, memberChars]

theorem moreMembers_cons (m : Option String × JsonValue)
    (ms : List (Option String × JsonValue)) :
    moreMembers (m :: ms) = ',' :: (memberChars m ++ moreMembers ms) := by
  obtain ⟨k, v⟩ := m
  simp [moreMembers, memberChars]

theorem moreValues_delimited (vs : List JsonValue) (rest : List Char) :
    Delimited (moreValues vs ++ rest) := by
  cases vs with
  | nil => exact delimited_cons _ (by decide)
  | cons v vs =>
    rw [moreValues_cons]
    exact delimited_cons _ (by decide)

theorem moreMembers_delimited (ms : List (Option String × JsonValue)) (rest : List Char) :
    Delimited (moreMembers ms ++ rest) := by
  cases ms with
  | nil => exact delimited_cons _ (by decide)
  | cons m ms =>
    rw [moreMembers_cons]
    exact delimited_cons _ (by decide)

theorem WellFormed.opens {v : JsonValue} (h : v.WellFormed) : v.Opens := by
  cases h with
  | null => exact ⟨'n', _, rfl, by decide⟩
  | bool b => cases b <;> exact ⟨_, _, rfl, by decide⟩
  | number hn =>
    obtain ⟨c, cs, hcs, hc⟩ := number_start hn
    refine ⟨c, cs, by rw [chars, hcs], start_not_space hc, ?_⟩
    rintro rfl
    exact absurd hc (by decide)
  | string s => exact ⟨'"', _, rfl, by decide⟩
  | array h =>
    rename_i vs
    cases vs with
    | nil => exact ⟨'[', _, rfl, by decide⟩
    | cons v vs => exact ⟨'[', _, chars_array_cons v vs, by decide⟩
  | object hn hv =>
    rename_i ms
    cases ms with
    | nil => exact ⟨'\x7b', _, rfl, by decide⟩
    | cons m ms => exact ⟨'\x7b', _, chars_object_cons m ms, by decide⟩

/-- A value of an array is read up to the bracket or the comma after it. -/
theorem ReadsBack.values?_last {v : JsonValue} (h : v.ReadsBack) {steps : Nat}
    {rest after : List Char} (hsteps : 2 * v.chars.length ≤ steps + 1) (hrest : Delimited rest)
    (hafter : JsonText.skip rest = ']' :: after) :
    values? (steps + 2) (v.chars ++ rest) = some ([v], after) := by
  rw [values?, h steps rest hsteps hrest]
  simp only [Option.bind_eq_bind, Option.bind_some, hafter]

theorem ReadsBack.values?_more {v : JsonValue} (h : v.ReadsBack) {steps : Nat}
    {rest more after : List Char} (hsteps : 2 * v.chars.length ≤ steps + 1)
    (hrest : Delimited rest) (hmore : JsonText.skip rest = ',' :: more) {vs : List JsonValue}
    (hvs : values? (steps + 1) more = some (vs, after)) :
    values? (steps + 2) (v.chars ++ rest) = some (v :: vs, after) := by
  rw [values?, h steps rest hsteps hrest]
  simp only [Option.bind_eq_bind, Option.bind_some, hmore, hvs, Option.map_some]

theorem memberChars_append (k : String) (v : JsonValue) (rest : List Char) :
    memberChars (some k, v) ++ rest =
      '"' :: (k.toList.flatMap escape ++ '"' :: ':' :: (v.chars ++ rest)) := by
  simp [memberChars, quote]

/-- A member of an object is read up to the brace or the comma after it. -/
theorem ReadsBack.members?_last {k : String} {v : JsonValue} (h : v.ReadsBack) {steps : Nat}
    {rest after : List Char} (hsteps : 2 * v.chars.length ≤ steps + 1) (hrest : Delimited rest)
    (hafter : JsonText.skip rest = '\x7d' :: after) :
    members? (steps + 2) (memberChars (some k, v) ++ rest) = some ([(some k, v)], after) := by
  rw [memberChars_append, members?, skip_cons rfl]
  simp only [string?_quote, Option.bind_eq_bind, Option.bind_some]
  rw [skip_cons rfl]
  simp only [h steps rest hsteps hrest, Option.bind_some, hafter]

theorem ReadsBack.members?_more {k : String} {v : JsonValue} (h : v.ReadsBack) {steps : Nat}
    {rest more after : List Char} (hsteps : 2 * v.chars.length ≤ steps + 1)
    (hrest : Delimited rest) (hmore : JsonText.skip rest = ',' :: more)
    {ms : List (Option String × JsonValue)}
    (hms : members? (steps + 1) more = some (ms, after)) :
    members? (steps + 2) (memberChars (some k, v) ++ rest) = some ((some k, v) :: ms, after) := by
  rw [memberChars_append, members?, skip_cons rfl]
  simp only [string?_quote, Option.bind_eq_bind, Option.bind_some]
  rw [skip_cons rfl]
  simp only [h steps rest hsteps hrest, Option.bind_some, hmore, hms, Option.map_some]

theorem length_lt_memberChars (name : Option String) (v : JsonValue) :
    v.chars.length < (memberChars (name, v)).length := by
  simp only [memberChars, List.length_append, List.length_cons]
  omega

/-- The values of an array read back if each of them does. Of the two steps for each
character those for what ends a value are left over. -/
theorem values?_chars {v : JsonValue} {vs : List JsonValue}
    (h : ∀ w ∈ v :: vs, w.ReadsBack) {steps : Nat} (rest : List Char)
    (hsteps : 2 * (v.chars ++ moreValues vs).length ≤ steps) :
    values? steps (v.chars ++ moreValues vs ++ rest) = some (v :: vs, rest) := by
  have hv : v.ReadsBack := h v List.mem_cons_self
  have hrest := moreValues_delimited vs rest
  rw [List.append_assoc]
  induction vs generalizing v steps with
  | nil =>
    simp only [moreValues, List.length_append, List.length_singleton] at hsteps
    obtain ⟨steps, rfl⟩ : ∃ n, steps = n + 2 := ⟨steps - 2, by omega⟩
    exact hv.values?_last (by omega) hrest rfl
  | cons w ws ih =>
    rw [moreValues_cons, List.length_append, List.length_cons] at hsteps
    obtain ⟨steps, rfl⟩ : ∃ n, steps = n + 2 := ⟨steps - 2, by omega⟩
    have hws : values? (steps + 1) (w.chars ++ (moreValues ws ++ rest)) = some (w :: ws, rest) :=
      ih (fun x hx => h x (List.mem_cons_of_mem v hx)) (by omega) (h w (by simp))
        (moreValues_delimited ws rest)
    refine hv.values?_more (by omega) hrest ?_ hws
    rw [moreValues_cons, List.cons_append, skip_cons rfl, List.append_assoc]

theorem members?_chars {m : Option String × JsonValue}
    {ms : List (Option String × JsonValue)} (hnames : ∀ x ∈ m :: ms, x.1.isSome = true)
    (h : ∀ x ∈ m :: ms, x.2.ReadsBack) {steps : Nat} (rest : List Char)
    (hsteps : 2 * (memberChars m ++ moreMembers ms).length ≤ steps) :
    members? steps (memberChars m ++ moreMembers ms ++ rest) = some (m :: ms, rest) := by
  have hrest := moreMembers_delimited ms rest
  rw [List.append_assoc]
  induction ms generalizing m steps with
  | nil =>
    obtain ⟨name, v⟩ := m
    obtain ⟨k, rfl⟩ := Option.isSome_iff_exists.mp (hnames (name, v) List.mem_cons_self)
    have hv : v.ReadsBack := h (some k, v) List.mem_cons_self
    have hlength := length_lt_memberChars (some k) v
    simp only [moreMembers, List.length_append, List.length_singleton] at hsteps
    obtain ⟨steps, rfl⟩ : ∃ n, steps = n + 2 := ⟨steps - 2, by omega⟩
    exact hv.members?_last (by omega) hrest rfl
  | cons w ws ih =>
    obtain ⟨name, v⟩ := m
    obtain ⟨k, rfl⟩ := Option.isSome_iff_exists.mp (hnames (name, v) List.mem_cons_self)
    have hv : v.ReadsBack := h (some k, v) List.mem_cons_self
    have hlength := length_lt_memberChars (some k) v
    rw [moreMembers_cons, List.length_append, List.length_cons] at hsteps
    obtain ⟨steps, rfl⟩ : ∃ n, steps = n + 2 := ⟨steps - 2, by omega⟩
    have hws : members? (steps + 1) (memberChars w ++ (moreMembers ws ++ rest)) =
        some (w :: ws, rest) :=
      ih (fun x hx => hnames x (List.mem_cons_of_mem _ hx))
        (fun x hx => h x (List.mem_cons_of_mem _ hx)) (by omega)
        (moreMembers_delimited ws rest)
    refine hv.members?_more (by omega) hrest ?_ hws
    rw [moreMembers_cons, List.cons_append, skip_cons rfl, List.append_assoc]

theorem readsBack_number {n : JsonNumber} (hn : n.WellFormed) : (number n).ReadsBack := by
  intro steps rest _ hrest
  obtain ⟨c, cs, hcs, hc⟩ := number_start hn
  have hread := number?_chars hn hrest
  rw [chars]
  rw [hcs, List.cons_append] at hread ⊢
  exact value?_number hc hread steps

theorem readsBack_string (s : String) : (string (some s)).ReadsBack := by
  intro steps rest _ _
  have hchars : (string (some s)).chars ++ rest =
      '"' :: (s.toList.flatMap escape ++ '"' :: rest) := by
    simp [chars, quote]
  rw [hchars, value?, skip_cons rfl]
  simp only [string?_quote, Option.map_some]

theorem readsBack_array {vs : List JsonValue} (h : ∀ v ∈ vs, v.ReadsBack ∧ v.Opens) :
    (array vs).ReadsBack := by
  intro steps rest hsteps _
  cases vs with
  | nil => rfl
  | cons v vs =>
    have hread : values? steps (v.chars ++ moreValues vs ++ rest) = some (v :: vs, rest) := by
      refine values?_chars (fun w hw => (h w hw).1) rest ?_
      rw [chars_array_cons, List.length_cons] at hsteps
      omega
    obtain ⟨c, cs, hv, hspace, hclose⟩ := (h v (by simp)).2
    rw [chars_array_cons, List.cons_append, value?, skip_cons rfl]
    simp only
    rw [hv, List.cons_append, List.cons_append] at hread ⊢
    rw [skip_cons hspace]
    split
    · rename_i heq
      exact absurd (List.cons.inj heq).1 hclose
    · rw [hread]
      rfl

theorem readsBack_object {ms : List (Option String × JsonValue)}
    (hnames : ∀ m ∈ ms, m.1.isSome = true) (h : ∀ m ∈ ms, m.2.ReadsBack) :
    (object ms).ReadsBack := by
  intro steps rest hsteps _
  cases ms with
  | nil => rfl
  | cons m ms =>
    have hread : members? steps (memberChars m ++ moreMembers ms ++ rest) =
        some (m :: ms, rest) := by
      refine members?_chars hnames h rest ?_
      rw [chars_object_cons, List.length_cons] at hsteps
      omega
    have hquote : ∃ cs, memberChars m ++ moreMembers ms ++ rest = '"' :: cs := ⟨_, rfl⟩
    obtain ⟨cs, hcs⟩ := hquote
    rw [chars_object_cons, List.cons_append, value?, skip_cons rfl]
    rw [hcs] at hread ⊢
    simp only
    rw [skip_cons rfl]
    show (members? steps ('"' :: cs)).map _ = _
    rw [hread]
    rfl

theorem WellFormed.readsBack {v : JsonValue} (h : v.WellFormed) : v.ReadsBack := by
  induction h with
  | null => exact fun _ _ _ _ => rfl
  | bool b => cases b <;> exact fun _ _ _ _ => rfl
  | number hn => exact readsBack_number hn
  | string s => exact readsBack_string s
  | array h ih => exact readsBack_array fun v hv => ⟨ih v hv, (h v hv).opens⟩
  | object hn hv ih => exact readsBack_object hn ih

/-- A well-formed tree is read back from its text. -/
theorem WellFormed.ofText?_text {v : JsonValue} (h : v.WellFormed) : ofText? v.text = some v := by
  have hread := h.readsBack (2 * v.chars.length) [] (by omega) delimited_nil
  rw [List.append_nil] at hread
  simp [ofText?, text, hread]
  rfl

end JsonValue

end HotFire
