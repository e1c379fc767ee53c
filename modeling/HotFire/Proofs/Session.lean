import HotFire.Session

/-! An operator session as a fold: what it writes and the flags it leaves are those of its
commands in turn, and it reads no further than the read that ends it. -/

namespace HotFire

namespace Command

/-- Commands in turn: all that they write, and the flags they leave. -/
def handleAll (profile : EngineProfile) : List Command → SafetyFlags → List PinWrite × SafetyFlags
  | [], f => ([], f)
  | c :: cs, f =>
    let h := c.handle profile f
    let (writes, f) := handleAll profile cs h.flags
    (h.writes ++ writes, f)

theorem handleAll_append (profile : EngineProfile) (cs ds : List Command) (f : SafetyFlags) :
    handleAll profile (cs ++ ds) f =
      ((handleAll profile cs f).1 ++ (handleAll profile ds (handleAll profile cs f).2).1,
        (handleAll profile ds (handleAll profile cs f).2).2) := by
  induction cs generalizing f with
  | nil => rfl
  | cons c cs ih => simp [handleAll, ih]

end Command

namespace ReadEvent

/-- How a read ends the session, if it does. -/
def ending? : ReadEvent → Option SessionEnd
  | .data byte => if byte == sessionEnd then some .clientClosed else none
  | .closed => some .disconnected
  | .interrupted => none
  | .failed kind _ => some (.readFailed kind)

def byte? : ReadEvent → Option UInt8
  | .data byte => some byte
  | _ => none

def command? (e : ReadEvent) : Option Command :=
  e.byte?.bind fun byte => (Command.ofOpcode byte).toOption

/-- Interrupted reads and unknown opcodes matter to nothing but the count of bytes. -/
def matters (e : ReadEvent) : Bool := e.ending?.isSome || e.command?.isSome

end ReadEvent

open ReadEvent

namespace Session

/-- The reads of a script before the one that ends the session. -/
def served (script : List ReadEvent) : List ReadEvent := script.takeWhile (·.ending?.isNone)

def commands (script : List ReadEvent) : List Command := (served script).filterMap command?

variable {e : ReadEvent} {ended : SessionEnd}

theorem served_of_ending (h : e.ending? = some ended) (rest : List ReadEvent) :
    served (e :: rest) = [] := by
  simp [served, h]

theorem served_of_going (h : e.ending? = none) (rest : List ReadEvent) :
    served (e :: rest) = e :: served rest := by
  simp [served, h]

theorem commands_of_ending (h : e.ending? = some ended) (rest : List ReadEvent) :
    commands (e :: rest) = [] := by
  rw [commands, served_of_ending h, List.filterMap_nil]

theorem commands_of_going (h : e.ending? = none) (rest : List ReadEvent) :
    commands (e :: rest) = e.command?.toList ++ commands rest := by
  rw [commands, served_of_going h, List.filterMap_cons]
  cases e.command? <;> rfl

theorem serve_of_ending (profile : EngineProfile) (h : e.ending? = some ended)
    (rest : List ReadEvent) (f : SafetyFlags) :
    let s := serve profile (e :: rest) f
    s.ended = ended ∧ s.unread = rest ∧ s.dispatched = 0 ∧ s.writes = [] ∧ s.flags = f := by
  cases e with
  | data byte =>
    by_cases hb : byte == sessionEnd
    · simp only [ending?, hb, if_true, Option.some.injEq] at h
      simp [serve, hb, h]
    · simp [ending?, hb] at h
  | closed | failed kind detail =>
    cases h
    exact ⟨rfl, rfl, rfl, rfl, rfl⟩
  | interrupted => cases h

theorem serve_of_going (profile : EngineProfile) (h : e.ending? = none)
    (rest : List ReadEvent) (f : SafetyFlags) :
    let s := serve profile (e :: rest) f
    let head := Command.handleAll profile e.command?.toList f
    let tail := serve profile rest head.2
    s.ended = tail.ended ∧ s.unread = tail.unread ∧
      s.dispatched = e.byte?.toList.length + tail.dispatched ∧
      s.writes = head.1 ++ tail.writes ∧ s.flags = tail.flags := by
  cases e with
  | data byte =>
    have hb : ¬ (byte == sessionEnd) = true := fun hb => by simp [ending?, hb] at h
    cases hc : Command.ofOpcode byte with
    | ok c =>
      simp [serve, hb, handleByte, hc, after, command?, byte?, Command.handleAll,
        Except.toOption, Nat.add_comm]
    | error cause =>
      simp [serve, hb, handleByte, hc, after, command?, byte?, Command.handleAll,
        Except.toOption, Nat.add_comm]
  | interrupted => exact ⟨rfl, rfl, (Nat.zero_add _).symm, rfl, rfl⟩
  | closed | failed kind detail => cases h

/-- What a session does: its writes, and the flags it leaves. -/
def effect (s : Session) : List PinWrite × SafetyFlags := (s.writes, s.flags)

theorem serve_effect (profile : EngineProfile) (script : List ReadEvent) (f : SafetyFlags) :
    (serve profile script f).effect = Command.handleAll profile (commands script) f := by
  induction script generalizing f with
  | nil => rfl
  | cons e rest ih =>
    cases h : e.ending? with
    | some ended =>
      obtain ⟨-, -, -, hwrites, hflags⟩ := serve_of_ending profile h rest f
      rw [commands_of_ending h, effect, hwrites, hflags]
      rfl
    | none =>
      obtain ⟨-, -, -, hwrites, hflags⟩ := serve_of_going profile h rest f
      rw [commands_of_going h, Command.handleAll_append, ← ih, effect, hwrites, hflags]
      rfl

theorem serve_ended (profile : EngineProfile) (script : List ReadEvent) (f : SafetyFlags) :
    (serve profile script f).ended = (script.findSome? ending?).getD .disconnected := by
  induction script generalizing f with
  | nil => rfl
  | cons e rest ih =>
    cases h : e.ending? with
    | some ended => rw [(serve_of_ending profile h rest f).1, List.findSome?_cons, h]; rfl
    | none => rw [(serve_of_going profile h rest f).1, ih, List.findSome?_cons, h]

theorem serve_unread (profile : EngineProfile) (script : List ReadEvent) (f : SafetyFlags) :
    (serve profile script f).unread = script.drop ((served script).length + 1) := by
  induction script generalizing f with
  | nil => rfl
  | cons e rest ih =>
    cases h : e.ending? with
    | some ended => rw [(serve_of_ending profile h rest f).2.1, served_of_ending h]; rfl
    | none => rw [(serve_of_going profile h rest f).2.1, ih, served_of_going h]; rfl

theorem serve_dispatched (profile : EngineProfile) (script : List ReadEvent) (f : SafetyFlags) :
    (serve profile script f).dispatched = ((served script).filterMap byte?).length := by
  induction script generalizing f with
  | nil => rfl
  | cons e rest ih =>
    cases h : e.ending? with
    | some ended => rw [(serve_of_ending profile h rest f).2.2.1, served_of_ending h]; rfl
    | none =>
      rw [(serve_of_going profile h rest f).2.2.1, ih, served_of_going h, List.filterMap_cons]
      cases e.byte? with
      | none => exact Nat.zero_add _
      | some byte => exact Nat.add_comm ..

theorem commands_filter (script : List ReadEvent) :
    commands (script.filter matters) = commands script := by
  induction script with
  | nil => rfl
  | cons e rest ih =>
    cases h : e.ending? with
    | some ended =>
      have hm : e.matters = true := by simp [matters, h]
      rw [List.filter_cons_of_pos hm, commands_of_ending h, commands_of_ending h]
    | none =>
      rw [commands_of_going h, ← ih]
      cases hc : e.command? with
      | none =>
        have hm : ¬ e.matters = true := by simp [matters, h, hc]
        rw [List.filter_cons_of_neg hm]
        rfl
      | some c =>
        have hm : e.matters = true := by simp [matters, hc]
        rw [List.filter_cons_of_pos hm, commands_of_going h, hc]

theorem served_take {close : ReadEvent} (hclose : close.ending? ≠ none)
    (script : List ReadEvent) (n : Nat) :
    served (script.take n ++ [close]) = (served script).take n := by
  obtain ⟨ended, hended⟩ := Option.ne_none_iff_exists'.mp hclose
  induction script generalizing n with
  | nil => rw [List.take_nil, List.nil_append, served_of_ending hended]; exact List.take_nil.symm
  | cons e rest ih =>
    cases n with
    | zero => simp [served_of_ending hended]
    | succ n =>
      rw [List.take_succ_cons, List.cons_append]
      cases h : e.ending? with
      | some ended => rw [served_of_ending h, served_of_ending h, List.take_nil]
      | none => rw [served_of_going h, served_of_going h, ih, List.take_succ_cons]

theorem served_drop {script : List ReadEvent} {n : Nat} (h : n ≤ (served script).length) :
    served (script.drop n) = (served script).drop n := by
  induction script generalizing n with
  | nil => rw [List.drop_nil]; exact List.drop_nil.symm
  | cons e rest ih =>
    cases n with
    | zero => rfl
    | succ n =>
      cases he : e.ending? with
      | some ended =>
        rw [served_of_ending he] at h
        exact absurd h (Nat.not_succ_le_zero n)
      | none =>
        rw [served_of_going he] at h ⊢
        exact ih (Nat.le_of_succ_le_succ h)

/-- A session is a fold over its commands. How it ends, what it leaves unread and what it
counts are told by the first read that ends it; reads that do not matter may come and go.
Cut into two sessions no later than its end, a script does what it does in one; cut after
its end, what it does in one is done by the first. -/
theorem session_is_fold (profile : EngineProfile) (script : List ReadEvent) (f : SafetyFlags) :
    let s := serve profile script f
    s.ended = (script.findSome? ending?).getD .disconnected ∧
      s.unread = script.drop ((served script).length + 1) ∧
      s.dispatched = ((served script).filterMap byte?).length ∧
      s.effect = Command.handleAll profile ((served script).filterMap command?) f ∧
      (∀ script', script'.filter matters = script.filter matters →
        (serve profile script' f).effect = s.effect) ∧
      ∀ (n : Nat) (close : ReadEvent), close.ending? ≠ none →
        let first := serve profile (script.take n ++ [close]) f
        let second := serve profile (script.drop n) first.flags
        s.effect =
          if n ≤ (served script).length then (first.writes ++ second.writes, second.flags)
          else first.effect := by
  refine ⟨serve_ended profile script f, serve_unread profile script f,
    serve_dispatched profile script f, serve_effect profile script f, ?_, ?_⟩
  · intro script' h
    rw [serve_effect, serve_effect, ← commands_filter script', h, commands_filter]
  · intro n close hclose first second
    have hfirst : first.effect = Command.handleAll profile (((served script).take n).filterMap
        command?) f := by
      rw [serve_effect, commands, served_take hclose]
    split
    case isTrue hn =>
      have hsecond : second.effect = Command.handleAll profile (((served script).drop n).filterMap
          command?) first.flags := by
        rw [serve_effect, commands, served_drop hn]
      have hwhole := Command.handleAll_append profile (((served script).take n).filterMap
        command?) (((served script).drop n).filterMap command?) f
      rw [← List.filterMap_append, List.take_append_drop, ← hfirst] at hwhole
      calc (serve profile script f).effect
          = Command.handleAll profile ((served script).filterMap command?) f :=
            serve_effect profile script f
        _ = (first.writes ++ second.effect.1, second.effect.2) := by rw [hwhole, hsecond]; rfl
    case isFalse hn =>
      rw [hfirst, List.take_of_length_le (Nat.le_of_not_le hn), serve_effect, commands]

/-- A Luna operator lights the igniter, is interrupted, sends a byte that is no command,
stops and leaves; the line breaks after the interrupt. -/
theorem session_is_fold_of_luna :
    let profile := EngineProfile.luna none
    let script : List ReadEvent := [.data 15, .interrupted, .data 200, .data 14, .data 48, .data 1]
    let s := serve profile script {}
    let first := serve profile (script.take 2 ++ [.failed "ConnectionReset" "reset"]) {}
    let second := serve profile (script.drop 2) first.flags
    ReadEvent.ending? (.failed "ConnectionReset" "reset") ≠ none ∧
      s.ended = .clientClosed ∧ s.unread = [.data 1] ∧ s.dispatched = 3 ∧
      s.writes = [(Pin.igniter, .low), (Pin.mainValve, .low)] ∧
      s.effect = (first.writes ++ second.writes, second.flags) := by
  intro profile script s first second
  have hclose : ReadEvent.ending? (.failed "ConnectionReset" "reset") ≠ none := by decide
  obtain ⟨hended, hunread, hdispatched, heffect, -, hcut⟩ := session_is_fold profile script {}
  refine ⟨hclose, hended, hunread, hdispatched, congrArg Prod.fst heffect, ?_⟩
  exact hcut 2 (.failed "ConnectionReset" "reset") hclose

/-- A cut after the end of a session: served in one, the byte after the one that ends the
session is not read; served by a second session, it sets a driver line. -/
theorem second_session_serves_past_end :
    let script : List ReadEvent := [.data 48, .data 1]
    let one := serve .generic script {}
    let first := serve .generic (script.take 1) {}
    let second := serve .generic (script.drop 1) first.flags
    one.effect ≠ (first.writes ++ second.writes, second.flags) ∧ one.writes = [] ∧
      second.writes = [(Pin.drivers[0], .high)] := by
  decide

end Session

end HotFire
