import LitTiles.Gl.Session
import LitTiles.Record.CallTrace
import LitTiles.Wgpu.Session

/-!
# Watching a backend

What a backend does shows in logs that only ever grow: one of commands and one of records. A place
in them is a pair of lengths, and `Watched.since` tells what was added after a place.
-/

namespace LitTiles

/-- Lengths of the two logs of a backend. -/
structure LogPlace where
  /-- Number of commands. -/
  commands : Nat := 0
  /-- Number of records. -/
  records : Nat := 0
  deriving DecidableEq, Inhabited

/-- What was added to the two logs of a backend. -/
structure Doings where
  /-- Commands. -/
  traces : List Trace
  /-- Records. -/
  records : List Record
  deriving Inhabited

/-- A backend that is watched. -/
structure Watched (σ : Type) where
  /-- The backend. -/
  backend : Backend σ
  /-- Where its logs end. -/
  place : σ → LogPlace
  /-- What was added after a place. -/
  since : LogPlace → σ → Doings

/-- The recorder, with all data of calls or with counts only. -/
def Recorder.watched (full : Bool) : Watched Recorder where
  backend := Recorder.backend
  place r := ⟨r.calls.size, r.log.size⟩
  since p r :=
    let shown (c : RecordedCall) : Trace := if full then c.trace else c.brief
    ⟨(r.calls.toList.drop p.commands).map shown, r.log.toList.drop p.records⟩

/-- A context of the GL family. -/
def Gl.Session.watched : Watched Gl.Session where
  backend := Gl.Session.backend
  place s := ⟨s.context.commands.size, s.context.log.size⟩
  since p s :=
    ⟨(s.context.commands.toList.drop p.commands).map (·.trace),
      s.context.log.toList.drop p.records⟩

/-- The trace of a happening; turns of the application are traced if they are wanted, and records
are not. -/
def Happening.trace? (turns : Bool) : Happening → Option Trace
  | device c => some c.trace
  | window c => some c.trace
  | turn t => if turns then some t.trace else none
  | record _ => none

/-- The record that a happening is, if it is one. -/
def Happening.record? : Happening → Option Record
  | record r => some r
  | _ => none

/-- A device with its window. There is one history of commands and records. -/
def Wgpu.Session.watched : Watched Wgpu.Session where
  backend := Wgpu.Session.backend
  place s := ⟨s.platform.history.size, s.platform.history.size⟩
  since p s :=
    let later := s.platform.history.toList.drop p.commands
    ⟨later.filterMap (·.trace? false), later.filterMap (·.record?)⟩

end LitTiles
