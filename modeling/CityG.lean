import CityG.Merkle
import CityG.Witness
import CityG.Srx
import CityG.SrxSound
import CityG.MerkleSound
import CityG.Rpo256
import CityG.Journal
import CityG.TauCache
import CityG.BarrierTree
import CityG.BarrierCover
import CityG.Lib.OrdMap
import CityG.Roster
import CityG.RosterRevoked
import CityG.Cbor
import CityG.Lib.Stateful
import CityG.Lib.Lockstep
import CityG.BarrierHash
import CityG.Slots
import CityG.BarrierHistory
import CityG.Persist
import CityG.SlotLeases
import CityG.BarrierValidate
import CityG.BarrierSecrecy
import CityG.Accept.Window
import CityG.Accept.WindowIndex
import CityG.Accept.Context
import CityG.Accept.Header
import CityG.Accept.Gate
import CityG.Accept.Commitments
import CityG.Accept.Stages
import CityG.Accept.Proofs
import CityG.Accept.SrxRelations
import CityG.Accept.Join
import CityG.Accept.Merge
import CityG.Accept.RollupBuilder
import CityG.Accept.Anchor
import CityG.Accept.Extract
import CityG.Accept.ForwardJump
import CityG.Accept.Frames
import CityG.Accept.Committed
import CityG.Accept.Calls
import CityG.Accept.VersionChain
import CityG.Accept.MergeRuns
import CityG.Accept.SrxKeys
import CityG.Accept.ShadowRoot
import CityG.Accept.SrxChain
import CityG.Accept.Rejected
import CityG.Accept.DeviceChain
import CityG.Accept.JoinReplay
import CityG.Server.Bundle
import CityG.Server.State
import CityG.Server.Tickets
import CityG.Server.Apply
import CityG.Server.Admins
import CityG.Server.Steps
import CityG.Server.Epoch
import CityG.Server.Run
import CityG.Server.Memberships
import CityG.Server.Expulsion
import CityG.Server.AdminRuns
import CityG.Server.JoinRoots
import CityG.Server.Kbroad
import CityG.Server.RevokedRoots
import CityG.Server.Reads
import CityG.Server.ReadIndependence
import CityG.Client.Tree
import CityG.Client.Update
import CityG.Lib.Settle
import CityG.Joiner.ForwardSecrecy
import CityG.Joiner.Witness
import CityG.Joiner.Rlwe
import CityG.Joiner.Header
import CityG.Joiner.KGen
import CityG.Joiner.EpochBinding
import CityG.Joiner.Extract
import CityG.Joiner.Advance
import CityG.Accept.SrxParse
import CityG.Joiner.SrxPayload
import CityG.Lib.BoundedQueue
import CityG.Lib.Evict
import CityG.Client.Replay
import CityG.Client.ReplayRestore
import CityG.Lib.HeapHash
import CityG.BarrierRehash
import CityG.Lib.Ranked
import CityG.BarrierPrune
import CityG.Lib.HashPath
import CityG.Client.NonmemWitness
import CityG.Client.SrxInputs
import CityG.BarrierWire
import CityG.BarrierStored
import CityG.Server.Recovery
import CityG.Server.TreeHash
import CityG.Server.TreeRuns
import CityG.Server.HistoryChain
import CityG.Server.HistoryAnswers
import CityG.Server.SlotSupply
import CityG.Lib.CoeffList
import CityG.Lib.BitPack
import CityG.Lib.Rows
import CityG.Capss.Linear
import CityG.Capss.Field
import CityG.Capss.Domain
import CityG.Capss.Seeder
import CityG.Capss.Layout
import CityG.Capss.LayoutRows
import CityG.Runtime.Retention
import CityG.Runtime.Scopes
import CityG.Runtime.Volatile
import CityG.Client.HelperPages
import CityG.Runtime.Pagination
import CityG.Lib.Traced
import CityG.Rlwe.Arithmetic
import CityG.Rlwe.Ntt
import CityG.Rlwe.Components
import CityG.Rlwe.Convolution
import CityG.Rlwe.Expand
