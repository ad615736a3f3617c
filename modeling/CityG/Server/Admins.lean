import CityG.Server.Tickets

/-!
# Room administrators

A room with explicit administrators lists their keys. A proof of an
administrator is used once: its replay key is remembered when the operation it
was shown for has been carried out.
-/

namespace CityG

open Except (ensure ofOption)
open EStateM (check)

namespace GroupRoster

def hasExplicitRoomAdmins (roster : GroupRoster) (gid : Bytes) : Bool :=
  (roster.group gid).roomAdminPopKeys.isEmpty = false

def isRoomAdmin (roster : GroupRoster) (gid actorPopPublicKey : Bytes) : Bool :=
  actorPopPublicKey ∈ (roster.group gid).roomAdminPopKeys

end GroupRoster

namespace GroupState

def insertRoomAdmin (state : GroupState) (popKey : Bytes) : GroupState :=
  { state with roomAdminPopKeys := state.roomAdminPopKeys.add popKey }

def removeRoomAdmin (state : GroupState) (popKey : Bytes) : GroupState :=
  { state with roomAdminPopKeys := state.roomAdminPopKeys.erase popKey }

def insertReplayKey (state : GroupState) (replayKey : Bytes32) : GroupState :=
  { state with roomAdminProofReplayKeys := state.roomAdminProofReplayKeys.add replayKey }

end GroupState

def roomAdminNotAuthorized : CityGError := .invalidInput "room admin proof is not authorized"

def ensureUnusedRoomAdminProofReplayKey (state : GroupState) (replayKey : Bytes32) :
    Except CityGError Unit :=
  ensure (replayKey ∉ state.roomAdminProofReplayKeys)
    (.invalidInput "room admin proof replayed")

namespace CityGServer

def requireRoomAdmin (gid : Bytes32) (actorPopPublicKey : Bytes) (server : CityGServer) :
    Except CityGError Unit :=
  ensure (server.roster.hasExplicitRoomAdmins gid.val ∧
    server.roster.isRoomAdmin gid.val actorPopPublicKey) roomAdminNotAuthorized

def requireGroup (gid : Bytes) (missing : String) (server : CityGServer) :
    Except CityGError GroupState :=
  ofOption (.invalidInput missing) (server.roster.get? gid)

def checkReplayKey (gid : Bytes32) (replayKey : Bytes32) (missing : String) (server : CityGServer) :
    Except CityGError Unit := do
  let state ← server.requireGroup gid.val missing
  ensureUnusedRoomAdminProofReplayKey state replayKey

def registerGroupWithAdmin (env : ServerEnv) (gid : Bytes32)
    (kbroadPublic initialRoomAdminPopKey : Bytes) : ServerM Unit := do
  registerGroup env gid kbroadPublic
  onGroup gid.val (modify (·.insertRoomAdmin initialRoomAdminPopKey))

def attachInitialRoomAdmin (gid : Bytes32) (initialRoomAdminPopKey : Bytes) : ServerM Unit := do
  let _ ← check (requireKbroadKey gid.val)
  let state ← check (requireGroup gid.val "roster group missing")
  check fun _ => ensure (state.roomAdminPopKeys.isEmpty)
    (.invalidInput "room admins already configured")
  onGroup gid.val (modify (·.insertRoomAdmin initialRoomAdminPopKey))

def rotateGroupKbroadWithActor (gid : Bytes32) (kbroadPublic actorPopPublicKey : Bytes)
    (replayKey : Bytes32) : ServerM Unit := do
  let _ ← check (requireKbroadKey gid.val)
  check (requireRoomAdmin gid actorPopPublicKey)
  check (checkReplayKey gid replayKey "roster group missing")
  rotateGroupKbroad gid kbroadPublic
  onGroup gid.val (modify (·.insertReplayKey replayKey))

def grantRoomAdmin (gid : Bytes32) (actorPopPublicKey targetPopPublicKey : Bytes)
    (replayKey : Bytes32) : ServerM (Bool × Nat) := do
  check (requireRoomAdmin gid actorPopPublicKey)
  let _ ← check (requireKbroadKey gid.val)
  check (checkReplayKey gid replayKey "roster group missing")
  let known ← check fun server => pure (server.roster.isRoomAdmin gid.val targetPopPublicKey)
  onGroup gid.val (modify (·.insertRoomAdmin targetPopPublicKey))
  onGroup gid.val (modify (·.insertReplayKey replayKey))
  let count ← check fun server => pure (server.roster.group gid.val).roomAdminPopKeys.size
  pure (!known, count)

/-- The last administrator stays; the proof for somebody who is none is used up. -/
def revokeRoomAdmin (gid : Bytes32) (actorPopPublicKey targetPopPublicKey : Bytes)
    (replayKey : Bytes32) : ServerM (Bool × Nat) := do
  check (requireRoomAdmin gid actorPopPublicKey)
  let _ ← check (requireKbroadKey gid.val)
  check (checkReplayKey gid replayKey "roster group missing")
  let known ← check fun server => pure (server.roster.isRoomAdmin gid.val targetPopPublicKey)
  check fun server => ensure (known = true → (server.roster.group gid.val).roomAdminPopKeys.size ≠ 1)
    (.invalidInput "cannot revoke the last room admin")
  onGroup gid.val (modify (·.removeRoomAdmin targetPopPublicKey))
  onGroup gid.val (modify (·.insertReplayKey replayKey))
  let count ← check fun server => pure (server.roster.group gid.val).roomAdminPopKeys.size
  pure (known, count)

def checkExpelAuthor (gid : Bytes32) (actorPopPublicKey : Bytes) (author replayKey : Bytes32)
    (server : CityGServer) : Except CityGError Unit := do
  let state ← server.requireGroup gid.val "author leaf not present in roster"
  ensureUnusedRoomAdminProofReplayKey state replayKey
  let bound ← ofOption (.invalidInput "author leaf not present in roster")
    (state.leafDevicePk.get? author)
  ensure (bound = actorPopPublicKey)
    (.invalidInput "author leaf is not bound to room admin identity")

def buildAdminExpelTicket (env : ServerEnv) (gid : Bytes32) (actorPopPublicKey : Bytes)
    (author target replayKey : Bytes32) (freshKbroadPublic : Bytes) :
    ServerM MergeTicketBundle := do
  check fun _ => ensure (author ≠ target) (.invalidInput
    "author_leaf_id and target_leaf_id must differ; use controlled leave instead")
  check (requireRoomAdmin gid actorPopPublicKey)
  let _ ← check (requireKbroadKey gid.val)
  check (checkExpelAuthor gid actorPopPublicKey author replayKey)
  let ticket ← buildMergeTicketCore env gid author (some target) freshKbroadPublic
  onGroup gid.val (modify (·.insertReplayKey replayKey))
  pure ticket

end CityGServer

end CityG
