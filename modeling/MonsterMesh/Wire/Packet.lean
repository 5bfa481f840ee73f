import MonsterMesh.Lib.Bytes

/-! Datagrams of the text battle: a four-byte header and a payload. -/
namespace MonsterMesh

open Bytes

/-! Packet types. -/

def textBattleStart : UInt8 := 0x60
def textBattleAction : UInt8 := 0x61
def textBattleForfeit : UInt8 := 0x62
def textBattleHash : UInt8 := 0x63
def textBattleUpdate : UInt8 := 0x66
def textBattleActionV2 : UInt8 := 0x67
def textBattleChallenge : UInt8 := 0x68
def textBattleAccept : UInt8 := 0x69
def textBattleStateRequest : UInt8 := 0x6A
def textBattleFullState : UInt8 := 0x6B
def textBattleReady : UInt8 := 0x6C

def battlelinkMaxPayload : ℕ := 196

structure Packet where
  type : UInt8
  session : UInt16
  seq : UInt8
  payload : List UInt8
deriving DecidableEq

def Packet.bytes (p : Packet) : List UInt8 := p.type :: be16 p.session ++ p.seq :: p.payload

/-- A buffer shorter than the header is no packet. -/
def Packet.ofBytes : List UInt8 → Option Packet
  | type :: hi :: lo :: seq :: payload => some ⟨type, ofBe16 hi lo, seq, payload⟩
  | _ => none

theorem Packet.ofBytes_bytes (p : Packet) : Packet.ofBytes p.bytes = some p := by
  simp only [bytes, be16, List.cons_append, List.nil_append, ofBytes, ofBe16_be16]

/-! UPDATE flags and the results as the client sees them. -/

def tbUpdHp : UInt16 := 0x001
def tbUpdPp : UInt16 := 0x002
def tbUpdSwitch : UInt16 := 0x004
def tbUpdStatus : UInt16 := 0x008
def tbUpdResult : UInt16 := 0x010
def tbUpdLog : UInt16 := 0x020
def tbUpdNeedPlayerSwitch : UInt16 := 0x040
def tbUpdBench : UInt16 := 0x080
def tbUpdFx : UInt16 := 0x100

def tbResultOngoing : UInt8 := 0
def tbResultYouWin : UInt8 := 1
def tbResultYouLose : UInt8 := 2
def tbResultDraw : UInt8 := 3
def tbResultFled : UInt8 := 4

/-! Cadences and time limits, in milliseconds. -/

def tbMaxNameLen : Nat := 12
def tbChallengeResendMs : UInt32 := 8000
def tbChallengeMaxTries : UInt8 := 15
def tbUpdateResendMs : UInt32 := 15000
def tbActionResendMs : UInt32 := 11000
def tbNoTrafficTimeoutMs : UInt32 := 60000
def remoteTimeoutMs : UInt32 := 60000
def resendIntervalMs : UInt32 := 4000

/-- FNV-1a over the board, the low 24 bits. -/
def tbBoardHash24 (bytes : List UInt8) : UInt32 :=
  bytes.foldl (fun h b => (h ^^^ b.toUInt32) * 0x01000193) 0x811c9dc5 &&& 0x00FFFFFF

end MonsterMesh
