import SealedToken.Key.Keyring
import SealedToken.Metered
import SealedToken.Token.Request

/-!
A deployment at work: its keyring, its registry, the metrics once it keeps any, the guard that
verifies what comes in, and its random bytes.
-/

set_option autoImplicit false

namespace SealedToken

/-- A verifier in place. It may follow the deployment's keyring and registry, and sees them change
until they are replaced. -/
structure Guard where
  verifier : Verifier
  followsRing : Bool
  followsRegistry : Bool
  metered : Bool

structure Deployment where
  ring : Keyring
  registry : Registry
  metrics : Option Metrics
  guard : Option Guard
  random : ByteSource

/-- Why a token is not issued. -/
inductive IssueFault where
  | form (fault : FormFault)
  | sealing (fault : SealFault)
  deriving DecidableEq, Repr

def IssueFault.message : IssueFault → Text
  | .form fault => fault.message
  | .sealing fault => fault.message

/-- The string of a requested token. -/
def Request.issue (request : Request) (settings : Settings) (clock : Float) (resolver : Resolver) :
    Draw IssueFault Text :=
  match request.token settings clock with
  | .error fault => .fail (.form fault)
  | .ok token => (token.encode resolver).mapFault .sealing

namespace Deployment

/-- No keys, every built-in variant, and nothing in place yet. -/
def fresh (random : ByteSource) : Deployment := ⟨.empty, .standard, none, none, random⟩

/-- A guard that followed the old keyring keeps it. -/
def keepRing (ring : Keyring) (guard : Guard) : Guard :=
  if guard.followsRing then
    { guard with
      verifier := { guard.verifier with resolver := ring.resolver }
      followsRing := false }
  else guard

def useKeys (deployment : Deployment) (configs : List KeyConfig) :
    Except KeyringFault Unit × Deployment :=
  match Keyring.ofConfigs configs with
  | .error fault => (.error fault, deployment)
  | .ok ring =>
    (.ok (), { deployment with
      ring := ring
      guard := deployment.guard.map (keepRing deployment.ring) })

def addKey (deployment : Deployment) (config : KeyConfig) : Except KeyringFault Unit × Deployment :=
  let (added, ring) := deployment.ring.add config
  (added, { deployment with ring := ring })

def removeKey (deployment : Deployment) (issuer : Text) : Bool × Deployment :=
  let (found, ring) := deployment.ring.remove issuer
  (found, { deployment with ring := ring })

/-- A guard that followed the old registry keeps it. -/
def keepRegistry (registry : Registry) (guard : Guard) : Guard :=
  if guard.followsRegistry then
    { guard with
      verifier := { guard.verifier with registry := registry }
      followsRegistry := false }
  else guard

def useVariants (deployment : Deployment) (variants : List Variant) :
    Except RegistryFault Unit × Deployment :=
  match Registry.ofVariants variants with
  | .error fault => (.error fault, deployment)
  | .ok registry =>
    (.ok (), { deployment with
      registry := registry
      guard := deployment.guard.map (keepRegistry deployment.registry) })

def register (deployment : Deployment) (variant : Variant) :
    Except RegistryFault Unit × Deployment :=
  let (registered, registry) := deployment.registry.register variant
  (registered, { deployment with registry := registry })

/-- Counting starts anew, and a guard in place counts no longer. -/
def useMetrics (deployment : Deployment) (name : Text) : Deployment :=
  { deployment with
    metrics := some (Metrics.new name)
    guard := deployment.guard.map fun guard => { guard with metered := false } }

def recordIssued (deployment : Deployment) (mark : Text) : Deployment :=
  { deployment with metrics := deployment.metrics.map (·.recordIssued mark) }

def recordVerification (deployment : Deployment) (valid : Bool) (reason : Text) : Deployment :=
  { deployment with metrics := deployment.metrics.map (·.recordVerification valid reason) }

def recordDuration (deployment : Deployment) (seconds : Float) : Deployment :=
  { deployment with metrics := deployment.metrics.map (·.recordDuration seconds) }

/-- A guard with keys of its own, or with those of the ring; with the deployment's registry, or
with the standard one. -/
def useGuard (deployment : Deployment) (resolver : Option Resolver) (ownRegistry : Bool)
    (skew : Int) (allowed : Option (List Variant)) (metered : Bool) :
    Except VerifierFault Unit × Deployment :=
  let registry := if ownRegistry then deployment.registry else .standard
  match Verifier.make (resolver.getD deployment.ring.resolver) registry skew allowed with
  | .error fault => (.error fault, deployment)
  | .ok verifier =>
    (.ok (), { deployment with
      guard := some ⟨verifier, resolver.isNone, ownRegistry, metered⟩ })

/-- The verifier that a guard amounts to at this moment. -/
def verifierOf (deployment : Deployment) (guard : Guard) : Verifier :=
  { guard.verifier with
    resolver := if guard.followsRing then deployment.ring.resolver else guard.verifier.resolver
    registry :=
      if guard.followsRegistry then deployment.registry else guard.verifier.registry }

/-- The metrics that a guard records into. -/
def metricsOf (deployment : Deployment) (guard : Guard) : Option Metrics :=
  if guard.metered then deployment.metrics else none

def issue (deployment : Deployment) (settings : Settings) (clock : Float) (request : Request) :
    Attempt IssueFault Text × Deployment :=
  let done := request.issue settings clock deployment.ring.resolver deployment.random
  let deployment := { deployment with random := done.left }
  match done.result with
  | .error _ => (done.toAttempt, deployment)
  | .ok _ => (done.toAttempt, deployment.recordIssued request.variant.mark)

def parse (deployment : Deployment) (credential issuer : Option Text) :
    Attempt ParseFault Token :=
  deployment.registry.parse deployment.ring.resolver credential issuer

/-- A guard in place, between two readings of its stopwatch. -/
def verify (deployment : Deployment) (guard : Guard) (start stop : Float)
    (credential issuer : Option Text) (clock : Float) (now : Option Int) :
    Attempt VerifyFault Verdict × Deployment :=
  let verifier := deployment.verifierOf guard
  match deployment.metricsOf guard with
  | none => (verifier.verify credential issuer clock now, deployment)
  | some metrics =>
    let (verified, metrics) :=
      verifier.verifyMetered metrics start stop credential issuer clock now
    (verified, { deployment with metrics := some metrics })

def require (deployment : Deployment) (guard : Guard) (start stop : Float)
    (credential issuer : Option Text) (clock : Float) (now : Option Int) :
    Attempt Refusal Token × Deployment :=
  let verifier := deployment.verifierOf guard
  match deployment.metricsOf guard with
  | none => (verifier.require credential issuer clock now, deployment)
  | some metrics =>
    let (required, metrics) :=
      verifier.requireMetered metrics start stop credential issuer clock now
    (required, { deployment with metrics := some metrics })

end Deployment

end SealedToken
