import MonsterMesh.Battle.Actions
import MonsterMesh.Battle.Choices
import MonsterMesh.Battle.Finished
import MonsterMesh.Battle.Mirrored
import MonsterMesh.Battle.Senders
import MonsterMesh.Battle.UpdateFormat
import MonsterMesh.Battle.Updates
import MonsterMesh.Battle.Winner
import MonsterMesh.Daycare.Broadcast
import MonsterMesh.Daycare.Counted
import MonsterMesh.Daycare.Earned
import MonsterMesh.Daycare.LevelUp
import MonsterMesh.Daycare.Levels
import MonsterMesh.Daycare.PartnerView
import MonsterMesh.Daycare.Recency
import MonsterMesh.Dungeon.Commands
import MonsterMesh.Dungeon.Replicated
import MonsterMesh.Dungeon.Scoring
import MonsterMesh.Dungeon.Slots
import MonsterMesh.Dungeon.Status
import MonsterMesh.Dungeon.TypeFactors
import MonsterMesh.Emulator.Arithmetic
import MonsterMesh.Emulator.Frames
import MonsterMesh.Emulator.Runs
import MonsterMesh.Engine.Bounds
import MonsterMesh.Engine.Charge
import MonsterMesh.Engine.Damage
import MonsterMesh.Engine.Headless
import MonsterMesh.Engine.HitPoints
import MonsterMesh.Engine.InRange
import MonsterMesh.Engine.Indices
import MonsterMesh.Engine.Mirror
import MonsterMesh.Engine.SwitchOut
import MonsterMesh.Exchange.Assembled
import MonsterMesh.Gym.Authority
import MonsterMesh.Gym.Configured
import MonsterMesh.Gym.LadderRuns
import MonsterMesh.Gym.Leaders
import MonsterMesh.Gym.Published
import MonsterMesh.Gym.Statistics
import MonsterMesh.League.DailyReset
import MonsterMesh.League.NgPlus
import MonsterMesh.League.Progress
import MonsterMesh.League.Resume
import MonsterMesh.Lib.Json
import MonsterMesh.Lib.Root
import MonsterMesh.Mesh.CacheSizes
import MonsterMesh.Mesh.ChannelTable
import MonsterMesh.Mesh.Conveyed
import MonsterMesh.Mesh.Downlink
import MonsterMesh.Mesh.DutyCycle
import MonsterMesh.Mesh.Flood
import MonsterMesh.Mesh.Handshake
import MonsterMesh.Mesh.Lifecycle
import MonsterMesh.Mesh.NodesKept
import MonsterMesh.Mesh.PacketIds
import MonsterMesh.Mesh.QueueOrder
import MonsterMesh.Mesh.Relayers
import MonsterMesh.Mesh.Replays
import MonsterMesh.Mesh.Stream
import MonsterMesh.Mesh.TraceRoute
import MonsterMesh.Mesh.Transfers
import MonsterMesh.Mesh.Upgrades
import MonsterMesh.Mesh.Uplink
import MonsterMesh.Mesh.Window
import MonsterMesh.Pentest.Beacon
import MonsterMesh.Pentest.Booked
import MonsterMesh.Pentest.FirstRule
import MonsterMesh.Pentest.Lite
import MonsterMesh.Pet.Days
import MonsterMesh.Pet.Ends
import MonsterMesh.Save.StatFormula
import MonsterMesh.Save.Writers
import MonsterMesh.Wire.PartyMin
