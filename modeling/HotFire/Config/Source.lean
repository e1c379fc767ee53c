import HotFire.Config.Reading

/-! The configuration of a stand from a file. -/

namespace HotFire

inductive ConfigSource where
  | missing
  | directory
  | bytes (content : ByteArray)

/-- The text of a source at `path`; a file has to hold whole characters. -/
def ConfigSource.text (path : String) : ConfigSource → Except ConfigError String
  | missing => .error (.unreadable s!"{path}: No such file or directory (os error 2)")
  | directory => .error (.unreadable s!"{path}: Is a directory (os error 21)")
  | bytes content =>
    match String.fromUTF8? content with
    | some text => .ok text
    | none => .error (.unreadable s!"{path}: stream did not contain valid UTF-8")

def StandConfig.load (path : String) (source : ConfigSource) :
    Except ConfigError StandConfig := do
  ofText (← source.text path)

def StandConfig.loadNotices (path : String) (source : ConfigSource) : List Notice :=
  match source.text path with
  | .ok text => textNotices text
  | .error _ => []

end HotFire
