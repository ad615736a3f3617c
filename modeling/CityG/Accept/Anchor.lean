import CityG.Accept.Merge

/-!
# Accepting an anchor

`accept_anchor`: the clock ticks and expired heads go before anything is
checked; the barrier state is committed only after the pipeline succeeded.
-/

namespace CityG

open Except (ensure ofOption)
open EStateM (check)

structure AnchorInput where
  parts : AnchorInstanceParts
  weEpochIdClaim : Bytes32
  header : HeaderMap

/-- A CAPSS proof of absurd size is refused before the pipelines look at it. -/
def ensureCapssSize (header : HeaderMap) : Except AcceptanceError Unit :=
  ensure (∀ proof ∈ (header.get? HDR_FS_CAPSS).bind Value.asBytes,
    proof.length ≤ MAX_HP_PROOF_BYTES) (.freeze freezeStarkOversize)

section
variable (codec : AnchorCodec) (verifiers : AnchorProofs) (input : AnchorInput)

def anchorGate (ctx : AcceptanceContext) :
    Except AcceptanceError (Accept.BarrierGateDecision × Option String) := do
  ensureKnownHeaderKeys input.header (isMergeAnchor input.header)
  enforceAnchorPresenceRules input.header (classifyAnchorType input.header)
  let gate ← ctx.enforceBarrierAcceptanceGating codec input.parts.gid input.header
    (classifyAnchorType input.header)
  ensureCapssSize input.header
  let mhNote ← parseMhNote input.header
  pure (gate, mhNote)

def acceptAnchorPipeline (mhNote : Option String) (barrierUpdateDigest : Bytes32) (now : Nat) :
    AcceptM AcceptanceOutcome :=
  if isMergeAnchor input.header then do
    let heads ← check fun _ => parseMhHeads input.header
    acceptAnchorMerge codec verifiers input.parts input.header input.weEpochIdClaim heads mhNote now
  else
    acceptAnchorJoin codec verifiers input.parts input.weEpochIdClaim input.header mhNote
      barrierUpdateDigest now

def acceptAnchor : AcceptM AcceptanceOutcome := do
  modify (·.startAnchor)
  let now ← check fun ctx => pure ctx.clock.last
  let gate ← check (anchorGate codec input)
  let outcome ← acceptAnchorPipeline codec verifiers input gate.2 gate.1.barrierUpdateDigest now
  modify (·.applyBarrierAcceptanceCommit input.parts.gid input.header gate.1)
  pure outcome

end

end CityG
