import HotFire.Dispatch

/-! An operator session: bytes are commands until the client ends it, the stream
does, or a read fails. -/

namespace HotFire

inductive ReadEvent where
  | data (byte : UInt8)
  | closed
  | interrupted
  | failed (kind detail : String)
  deriving DecidableEq, Repr

inductive SessionEnd where
  | clientClosed
  | disconnected
  | readFailed (kind : String)
  deriving DecidableEq, Repr

/-- What a session amounts to: `flags` are those it leaves, `dispatched` counts the bytes
taken as commands, unknown ones too, and `unread` is what it leaves of its script. -/
structure Session where
  ended : SessionEnd
  flags : SafetyFlags
  unread : List ReadEvent := []
  dispatched : Nat := 0
  writes : List PinWrite := []
  notices : List Notice := []

namespace Session

/-- The session that begins with one more command. -/
def after (s : Session) (writes : List PinWrite) (notices : List Notice) : Session :=
  { s with
    dispatched := s.dispatched + 1
    writes := writes ++ s.writes
    notices := notices ++ s.notices }

/-- Serves reads until one of them ends the session. An interrupted read is
tried again, and a script that runs out is a closed stream. -/
def serve (profile : EngineProfile) : List ReadEvent → SafetyFlags → Session
  | [], f => { ended := .disconnected, flags := f }
  | .closed :: rest, f => { ended := .disconnected, flags := f, unread := rest }
  | .interrupted :: rest, f => serve profile rest f
  | .failed kind detail :: rest, f =>
    { ended := .readFailed kind
      flags := f
      unread := rest
      notices := [.commandReadFailed detail] }
  | .data byte :: rest, f =>
    if byte == sessionEnd then { ended := .clientClosed, flags := f, unread := rest }
    else
      let h := handleByte profile byte f
      (serve profile rest h.flags).after h.writes h.notices

end Session

end HotFire
