import CityG.Client.Tree
import CityG.TauCache

/-!
# The forward-secrecy ratchet of a device

`prepare_join` derives the secrets of an epoch from the chain key and moves the
chain on. Everything it derives is salted with the epoch identifier it is
called with. The policy and the clock of the state are read elsewhere.
-/

namespace CityG

open Client (ascii)

def FS_STEP_INFO : Bytes := ascii "city-g|fs/step|v1"
def FS_TAU_INFO : Bytes := ascii "city-g|fs/tau|v1"
def FS_EPOCH_SK_INFO : Bytes := ascii "city-g|fs/epoch/sk|v1"

structure FsJoinInputs where
  fsEc : Nat
  fsEpochCommit : Bytes32
  fsDevPrevCommit : Bytes32
  deriving DecidableEq

structure FsJoinArtifacts where
  inputs : FsJoinInputs
  fsDevCommit : Bytes32
  epochSk : Bytes32
  tauE : Bytes32
  deriving DecidableEq

structure ForwardSecrecyState where
  kFs : Bytes32
  fsEc : Nat
  fsDevCommit : Bytes32
  lastWeid : Bytes32
  tauCache : TauCache
  deriving DecidableEq

structure FsHashes where
  hL : HashL
  hkdf : Bytes32 → Bytes → Bytes → Bytes32

namespace FsHashes
variable (hash : FsHashes)

def salt (label counter : String) (weid : Bytes32) (ec : Nat) : Bytes32 :=
  hash.hL label (Value.ofFields [("weid", .bytes weid.val), (counter, .ofNat ec)])

def fsTauSalt (weid : Bytes32) (fsEc : Nat) : Bytes32 := hash.salt "fs/tau/salt" "fs_ec" weid fsEc

def fsEpochSkSalt (weid : Bytes32) (fsEc : Nat) : Bytes32 :=
  hash.salt "fs/epoch/sk_salt" "fs_ec" weid fsEc

def fsStepSalt (weid : Bytes32) (nextEc : Nat) : Bytes32 :=
  hash.salt "fs/step/salt" "next_ec" weid nextEc

def fsEpochCommitHash (epochSk : Bytes32) : Bytes32 :=
  hash.hL "fs/epoch/commit" (.bytes epochSk.val)

def evolveKFs (current weid : Bytes32) (nextEc : Nat) : Bytes32 :=
  hash.hkdf (hash.fsStepSalt weid nextEc) current.val FS_STEP_INFO

def deriveTau (kFs weid : Bytes32) (fsEc : Nat) : Bytes32 :=
  hash.hkdf (hash.fsTauSalt weid fsEc) kFs.val FS_TAU_INFO

def deriveEpochSk (kFs weid : Bytes32) (fsEc : Nat) : Bytes32 :=
  hash.hkdf (hash.fsEpochSkSalt weid fsEc) kFs.val FS_EPOCH_SK_INFO

def computeFsDevCommitV2 (devicePk : Bytes) (fsEc : Nat) (prevCommit : Bytes32)
    (barrierVersion : Nat) (barrierUpdateDigest : Bytes32) : Bytes32 :=
  hash.hL "fs/dev/chain/v2" (Value.ofFields [("device_pk", .bytes devicePk),
    ("fs_ec", .ofNat fsEc), ("prev_commit", .bytes prevCommit.val),
    ("barrier_version", .ofNat barrierVersion),
    ("barrier_update_digest", .bytes barrierUpdateDigest.val)])

end FsHashes

structure DeviceBinding where
  devicePk : Bytes
  barrierVersion : Nat
  barrierUpdateDigest : Bytes32
  deriving DecidableEq

namespace ForwardSecrecyState
variable (hash : FsHashes) (binding : DeviceBinding) (weid : Bytes32)

def joinArtifacts (state : ForwardSecrecyState) : FsJoinArtifacts where
  inputs := ⟨state.fsEc, hash.fsEpochCommitHash (hash.deriveEpochSk state.kFs weid state.fsEc),
    state.fsDevCommit⟩
  fsDevCommit := hash.computeFsDevCommitV2 binding.devicePk state.fsEc state.fsDevCommit
    binding.barrierVersion binding.barrierUpdateDigest
  epochSk := hash.deriveEpochSk state.kFs weid state.fsEc
  tauE := hash.deriveTau state.kFs weid state.fsEc

def nextEc (state : ForwardSecrecyState) : Nat := (state.fsEc + 1) % (U64_MAX + 1)

def prepareJoin (now : Nat) (state : ForwardSecrecyState) :
    FsJoinArtifacts × ForwardSecrecyState :=
  let artifacts := state.joinArtifacts hash binding weid
  (artifacts, {
    kFs := hash.evolveKFs state.kFs weid state.nextEc
    fsEc := state.nextEc
    fsDevCommit := artifacts.fsDevCommit
    lastWeid := weid
    tauCache := (state.tauCache.prune now).record now weid state.fsEc artifacts.tauE })

end ForwardSecrecyState

end CityG
