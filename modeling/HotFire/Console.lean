import HotFire.Config.Source
import HotFire.Stand

/-! A simulated stand at a console: every byte of the operator is followed by one
poll interval. -/

namespace HotFire

/-- The count at which a sensor reads its nominal value, if twelve bits hold it. -/
def PressureLimits.nominalCount? (l : PressureLimits) : Option UInt16 :=
  let count := ((l.nominal - l.intercept) / l.slope).round
  if 0 ≤ count && count ≤ 4095 then some count.toUInt16 else none

structure Console where
  stand : Stand
  lines : SimulatedLines := {}

namespace Console

def drive (c : Console) : List PinWrite → Console × List Notice
  | [] => (c, [])
  | w :: ws =>
    let (lines, notice) := c.lines.write w
    let (c, notices) := drive { c with lines } ws
    (c, notice :: notices)

/-- What an action did: its notices, then those of its writes. -/
def take (c : Console) (stand : Stand) (r : Report) : Console × List Notice :=
  let (c, notices) := drive { c with stand } r.writes
  (c, r.notices ++ notices)

/-- The stand of a configuration with its lines at their safe levels. The pressure
transducer with limits reads their nominal value, so that nothing trips. -/
def ofConfig (config : StandConfig) : Console × List Notice :=
  let (stand, started) := Stand.ofGroups config.profile config.timing config.groups
    config.pressure.shutoffEnabled
  let stand := stand.inject .pt1 config.pressure.limits.nominalCount?
  let (c, notices) := drive { stand } config.profile.safeLevels
  (c, config.profileNotices ++ notices ++ started)

def passes (c : Console) : (loops : Nat) → Console × List Notice
  | 0 => (c, [])
  | n + 1 =>
    let (c, before) := passes c n
    let (stand, report) := c.stand.sample n
    let (c, notices) := c.take stand report
    (c, before ++ notices)

/-- A byte, then one poll interval, at the end of which everything is polled once. -/
def turn (c : Console) (byte : UInt8) : Console × List Notice :=
  let (stand, _, report) := c.stand.byte byte
  let (c, onByte) := c.take stand report
  let (stand, report) := (c.stand.advance c.stand.rig.sequencer.machine.context.timing.poll).step
  let (c, onStep) := c.take stand report
  let (c, onPasses) := c.passes c.stand.rig.loops.length
  (c, onByte ++ onStep ++ onPasses)

end Console

end HotFire
