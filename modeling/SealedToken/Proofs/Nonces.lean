import Mathlib.Data.List.Nodup
import SealedToken.Proofs.Layout
import SealedToken.Proofs.Refusals
import SealedToken.Text.Base64.Lemmas

/-!
The nonces of a process. Whatever is sealed, and under whatever keys, each attempt that finds a key
takes the next block of the stream of random bytes, also if the texts turn out to have no UTF-8
form; one that fails before that leaves the stream alone. So nonces repeat only where the blocks of
the stream do.
-/

set_option autoImplicit false

namespace SealedToken

/-! ## Sealed bodies -/

namespace Sealing

/-- A nonce fills whole quads of symbols, whatever is sealed after it. -/
theorem take_sealed (key : Key) (issuer payload : Text) (nonce : Nonce) :
    (sealed key issuer payload nonce).take 16 = Base64.encode nonce.bytes := by
  have whole : 3 ∣ nonce.bytes.length := by rw [nonce.size]; decide
  have width : (Base64.encode nonce.bytes).length = 16 := by
    rw [Base64.length_encode, nonce.size]
  rw [sealed, sealedBytes, Base64.encode_append whole, ← width, List.take_left]

end Sealing

/-! ## One attempt to seal -/

/-- An attempt to seal a payload as it is, fields under a mark, or a token, with the keys of a
resolver. -/
inductive SealCall where
  | bare (resolver : Resolver) (issuer payload : Text)
  | fields (resolver : Resolver) (mark : Text) (common : Common) (extension : List Text)
  | whole (resolver : Resolver) (token : Token)

namespace SealCall

def attempt : SealCall → Draw SealFault Text
  | bare resolver issuer payload => Sealing.sealFor resolver issuer payload
  | fields resolver mark common extension => Wire.encode mark common extension resolver
  | whole resolver token => token.encode resolver

def resolver : SealCall → Resolver
  | bare resolver _ _ => resolver
  | fields resolver _ _ _ => resolver
  | whole resolver _ => resolver

def issuer : SealCall → Text
  | bare _ issuer _ => issuer
  | fields _ _ common _ => common.issuer
  | whole _ token => token.common.issuer

/-- What stands in front of the body. -/
def mark : SealCall → Text
  | bare _ _ _ => []
  | fields _ mark _ _ => mark
  | whole _ token => token.variant.mark

def payload : SealCall → Except SealFault Text
  | bare _ _ payload => .ok payload
  | fields _ _ common extension => Wire.payload common extension
  | whole _ token => token.payload

/-- There is a payload, and a key for the issuer. -/
def keyed (call : SealCall) : Bool := call.payload.isOk && (call.resolver call.issuer).isOk

variable {call : SealCall}

theorem keyed_iff :
    call.keyed = true ↔
      ∃ plain key, call.payload = .ok plain ∧ call.resolver call.issuer = .ok key := by
  unfold keyed
  cases call.payload with
  | error fault => simp [Except.isOk, Except.toBool]
  | ok plain => cases call.resolver call.issuer <;> simp [Except.isOk, Except.toBool]

theorem attempt_of_unwritten {fault : SealFault} (failed : call.payload = .error fault) :
    call.attempt = .fail fault := by
  cases call with
  | bare => simp [payload] at failed
  | fields resolver mark =>
    dsimp only [payload, attempt] at failed ⊢
    exact Wire.encode_of_unwritten failed mark resolver
  | whole resolver => exact Token.encode_of_unwritten failed resolver

theorem attempt_of_written {plain : Text} (written : call.payload = .ok plain)
    (source : ByteSource) :
    call.attempt source =
      ⟨⟨(Sealing.sealFor call.resolver call.issuer plain source).result.map (call.mark ++ ·),
        (Sealing.sealFor call.resolver call.issuer plain source).events⟩,
        (Sealing.sealFor call.resolver call.issuer plain source).left⟩ := by
  cases call with
  | bare resolver issuer =>
    obtain rfl := Except.ok.inj written
    have same (result : Except SealFault Text) : result.map ([] ++ ·) = result := by
      cases result <;> rfl
    exact congrArg (fun result => Drawn.mk (.mk result _) _) (same _).symm
  | fields resolver mark =>
    dsimp only [payload, attempt] at written ⊢
    exact Wire.encode_of_written written mark resolver source
  | whole resolver => exact Token.encode_of_written written resolver source

/-- Without a payload or a key an attempt fails alike on every stream, and uses none of it. -/
theorem exists_attempt_of_not_keyed (unkeyed : call.keyed = false) :
    ∃ fault events, ∀ source, call.attempt source = ⟨⟨.error fault, events⟩, source⟩ := by
  cases written : call.payload with
  | error fault =>
    rw [attempt_of_unwritten written]
    exact ⟨fault, [], fun source => rfl⟩
  | ok plain =>
    cases answered : call.resolver call.issuer with
    | ok key =>
      rw [keyed_iff.mpr ⟨plain, key, written, answered⟩] at unkeyed
      contradiction
    | error reason =>
      refine ⟨.key reason, [.keyAsked call.issuer], fun source => ?_⟩
      rw [attempt_of_written written, Sealing.sealFor_of_error answered]
      rfl

/-- The texts are looked at when the block is drawn. -/
theorem attempt_of_unencodable {plain : Text} {key : Key} {fault : EncodingFault}
    (written : call.payload = .ok plain) (answered : call.resolver call.issuer = .ok key)
    (found : Sealing.textFault? call.issuer plain = some fault) (source : ByteSource) :
    call.attempt source =
      ⟨⟨.error (.unencodable fault), [.keyAsked call.issuer]⟩,
        source.advance Sealing.nonceSize⟩ := by
  rw [attempt_of_written written, Sealing.sealFor_of_unencodable answered found]
  rfl

theorem attempt_of_sealable {plain : Text} {key : Key} (written : call.payload = .ok plain)
    (sealable : Sealing.Sealable call.resolver call.issuer plain key) (source : ByteSource) :
    call.attempt source =
      ⟨⟨.ok (call.mark ++ Sealing.sealed key call.issuer plain source.nonce),
        [.keyAsked call.issuer]⟩, source.advance Sealing.nonceSize⟩ := by
  rw [attempt_of_written written, Sealing.sealFor_of_sealable sealable]
  rfl

/-- A key takes a block of the stream, whatever comes of it. -/
theorem left_attempt (call : SealCall) (source : ByteSource) :
    (call.attempt source).left =
      if call.keyed then source.advance Sealing.nonceSize else source := by
  cases keyed : call.keyed with
  | false =>
    obtain ⟨fault, events, failed⟩ := exists_attempt_of_not_keyed keyed
    rw [failed]
    rfl
  | true =>
    obtain ⟨plain, key, written, answered⟩ := keyed_iff.mp keyed
    cases found : Sealing.textFault? call.issuer plain with
    | some fault =>
      rw [attempt_of_unencodable written answered found]
      rfl
    | none =>
      obtain ⟨named, encodable⟩ := Sealing.textFault?_eq_none_iff.mp found
      rw [attempt_of_sealable written ⟨answered, named, encodable⟩]
      rfl

end SealCall

/-! ## Attempts on one stream -/

/-- An attempt, and the stream it finds. -/
structure SealStep where
  call : SealCall
  before : ByteSource

/-- A sealing that succeeded: the key and the nonce it used, and the body that came of it. -/
structure Seal where
  key : Key
  nonce : Nonce
  body : Text

namespace SealStep

/-- What the attempt comes to, and what it leaves of the stream. -/
def drawn (step : SealStep) : Drawn SealFault Text := step.call.attempt step.before

/-- What a step that succeeds has sealed with: the key of its issuer, and the next nonce. -/
def seal? (step : SealStep) : Option Seal :=
  match step.drawn.result, step.call.resolver step.call.issuer with
  | .ok text, .ok key => some ⟨key, step.before.nonce, text.drop step.call.mark.length⟩
  | _, _ => none

end SealStep

namespace ByteSource

/-- Attempts made one after the other, with no other use of the stream. -/
def sealAll (source : ByteSource) : List SealCall → List SealStep
  | [] => []
  | call :: calls => ⟨call, source⟩ :: (call.attempt source).left.sealAll calls

/-- The sealings among the attempts that succeed. -/
def seals (source : ByteSource) (calls : List SealCall) : List Seal :=
  (source.sealAll calls).filterMap SealStep.seal?

/-- The bytes of the stream that stand after so many blocks of the size of a nonce. -/
def block (source : ByteSource) (turn : Nat) : Bytes :=
  (List.range Sealing.nonceSize).map fun i =>
    source.byteAt (source.position + (Sealing.nonceSize * turn + i))

/-- The first so many blocks of the stream. -/
def blocks (source : ByteSource) (count : Nat) : List Bytes := (List.range count).map source.block

theorem advance_advance (source : ByteSource) (first second : Nat) :
    (source.advance first).advance second = source.advance (first + second) := by
  simp only [advance, Nat.add_assoc]

theorem nonce_advance (source : ByteSource) (turn : Nat) :
    (source.advance (Sealing.nonceSize * turn)).nonce.bytes = source.block turn := by
  simp only [nonce, peek, advance, block, Nat.add_assoc, Sealing.nonceSize]

theorem block_advance (source : ByteSource) (turn : Nat) :
    (source.advance Sealing.nonceSize).block turn = source.block (turn + 1) := by
  rw [← nonce_advance, ← nonce_advance, advance_advance, Nat.mul_succ, Nat.add_comm]

theorem blocks_succ (source : ByteSource) (count : Nat) :
    source.blocks (count + 1) =
      source.block 0 :: (source.advance Sealing.nonceSize).blocks count := by
  simp only [blocks, List.range_succ_eq_map, List.map_cons, List.map_map]
  exact congrArg _ (List.map_congr_left fun turn _ => (source.block_advance turn).symm)

end ByteSource

/-- A step after so many that had a key starts where they left the stream. With a key of its own it
takes the next block, and if it succeeds, the block is its nonce, which is what its body begins
with; all it can fail for then is a text without a UTF-8 form. Otherwise it fails, takes nothing,
and any other stream would have been as good. -/
structure SealStep.InTurn (step : SealStep) (source : ByteSource) (turn : Nat) : Prop where
  before : step.before = source.advance (Sealing.nonceSize * turn)
  drawing : step.call.keyed = true →
    step.drawn.left = source.advance (Sealing.nonceSize * (turn + 1))
  idle : step.call.keyed = false →
    ∃ fault, step.drawn.result = .error fault ∧ step.drawn.left = step.before ∧
      ∀ other : ByteSource, step.call.attempt other = ⟨step.drawn.toAttempt, other⟩
  succeeding : ∀ text, step.drawn.result = .ok text →
    step.call.keyed = true ∧
      ∃ sealing plain, step.seal? = some sealing ∧ text = step.call.mark ++ sealing.body ∧
        step.call.payload = .ok plain ∧ step.call.resolver step.call.issuer = .ok sealing.key ∧
        sealing.body = Sealing.sealed sealing.key step.call.issuer plain sealing.nonce ∧
        sealing.nonce.bytes = source.block turn ∧
        sealing.body.take 16 = Base64.encode (source.block turn)
  failing : ∀ fault, step.drawn.result = .error fault →
    step.seal? = none ∧ (step.call.keyed = true →
      ∃ plain found, step.call.payload = .ok plain ∧
        Sealing.textFault? step.call.issuer plain = some found ∧ fault = .unencodable found)

/-! ## What each step takes -/

namespace SealStep

variable {step : SealStep} {source : ByteSource} {turn : Nat} {call : SealCall}

theorem seal?_of_error {fault : SealFault} (failed : step.drawn.result = .error fault) :
    step.seal? = none := by
  unfold seal?
  rw [failed]

theorem seal?_of_sealable {plain : Text} {key : Key} (written : call.payload = .ok plain)
    (sealable : Sealing.Sealable call.resolver call.issuer plain key) (source : ByteSource) :
    seal? ⟨call, source⟩ =
      some ⟨key, source.nonce, Sealing.sealed key call.issuer plain source.nonce⟩ := by
  unfold seal? drawn
  rw [SealCall.attempt_of_sealable written sealable, sealable.answered]
  dsimp only
  rw [List.drop_left]

theorem inTurn_of_not_keyed (unkeyed : call.keyed = false) (source : ByteSource) :
    InTurn ⟨call, source⟩ source 0 := by
  obtain ⟨fault, events, failed⟩ := SealCall.exists_attempt_of_not_keyed unkeyed
  have same : drawn ⟨call, source⟩ = ⟨⟨.error fault, events⟩, source⟩ := failed source
  refine ⟨rfl, ?_, fun _ => ⟨fault, ?_, ?_, ?_⟩, ?_, fun other also => ⟨seal?_of_error also, ?_⟩⟩
  · intro keyed
    rw [unkeyed] at keyed
    contradiction
  · rw [same]
  · rw [same]
  · rw [same]
    exact failed
  · intro text succeeded
    rw [same] at succeeded
    contradiction
  · intro keyed
    rw [unkeyed] at keyed
    contradiction

theorem inTurn_of_unencodable {plain : Text} {key : Key} {fault : EncodingFault}
    (written : call.payload = .ok plain) (answered : call.resolver call.issuer = .ok key)
    (found : Sealing.textFault? call.issuer plain = some fault) (source : ByteSource) :
    InTurn ⟨call, source⟩ source 0 := by
  have keyed := SealCall.keyed_iff.mpr ⟨plain, key, written, answered⟩
  have same : drawn ⟨call, source⟩ = ⟨⟨.error (.unencodable fault), [.keyAsked call.issuer]⟩,
      source.advance Sealing.nonceSize⟩ :=
    SealCall.attempt_of_unencodable written answered found source
  refine ⟨rfl, fun _ => ?_, ?_, ?_, fun other failed => ⟨seal?_of_error failed, ?_⟩⟩
  · rw [same]
    rfl
  · intro unkeyed
    rw [keyed] at unkeyed
    contradiction
  · intro text succeeded
    rw [same] at succeeded
    contradiction
  · intro _
    rw [same] at failed
    exact ⟨plain, fault, written, found, (Except.error.inj failed).symm⟩

theorem inTurn_of_sealable {plain : Text} {key : Key} (written : call.payload = .ok plain)
    (sealable : Sealing.Sealable call.resolver call.issuer plain key) (source : ByteSource) :
    InTurn ⟨call, source⟩ source 0 := by
  have keyed := SealCall.keyed_iff.mpr ⟨plain, key, written, sealable.answered⟩
  have same : drawn ⟨call, source⟩ =
      ⟨⟨.ok (call.mark ++ Sealing.sealed key call.issuer plain source.nonce),
        [.keyAsked call.issuer]⟩, source.advance Sealing.nonceSize⟩ :=
    SealCall.attempt_of_sealable written sealable source
  refine ⟨rfl, fun _ => ?_, ?_, ?_, ?_⟩
  · rw [same]
    rfl
  · intro unkeyed
    rw [keyed] at unkeyed
    contradiction
  · intro text succeeded
    rw [same] at succeeded
    obtain rfl := Except.ok.inj succeeded
    refine ⟨keyed, _, plain, seal?_of_sealable written sealable source, rfl, written,
      sealable.answered, rfl, source.nonce_advance 0, ?_⟩
    rw [Sealing.take_sealed, ← source.nonce_advance 0]
    rfl
  · intro fault failed
    rw [same] at failed
    contradiction

/-- The first step, which comes before any other. -/
theorem inTurn_zero (call : SealCall) (source : ByteSource) : InTurn ⟨call, source⟩ source 0 := by
  cases keyed : call.keyed with
  | false => exact inTurn_of_not_keyed keyed source
  | true =>
    obtain ⟨plain, key, written, answered⟩ := SealCall.keyed_iff.mp keyed
    cases found : Sealing.textFault? call.issuer plain with
    | some fault => exact inTurn_of_unencodable written answered found source
    | none =>
      obtain ⟨named, encodable⟩ := Sealing.textFault?_eq_none_iff.mp found
      exact inTurn_of_sealable written ⟨answered, named, encodable⟩ source

/-- A step in turn on what a draw leaves is one turn later on the whole stream. -/
theorem InTurn.succ (inTurn : step.InTurn (source.advance Sealing.nonceSize) turn) :
    step.InTurn source (turn + 1) := by
  have shift : ∀ turn, (source.advance Sealing.nonceSize).advance (Sealing.nonceSize * turn) =
      source.advance (Sealing.nonceSize * (turn + 1)) := by
    intro turn
    rw [ByteSource.advance_advance, Nat.mul_succ, Nat.add_comm]
  obtain ⟨before, drawing, idle, succeeding, failing⟩ := inTurn
  simp only [shift, source.block_advance] at before drawing succeeding
  exact ⟨before, drawing, idle, succeeding, failing⟩

end SealStep

namespace ByteSource

variable {source : ByteSource} {calls : List SealCall}

theorem calls_sealAll (source : ByteSource) (calls : List SealCall) :
    (source.sealAll calls).map SealStep.call = calls := by
  induction calls generalizing source with
  | nil => rfl
  | cons call calls ih => exact congrArg (call :: ·) (ih _)

theorem inTurn_of_sealAll {earlier later : List SealStep} {step : SealStep}
    (run : source.sealAll calls = earlier ++ step :: later) :
    step.InTurn source (earlier.countP fun step => step.call.keyed) := by
  -- The first attempt may leave another stream, so the stream varies in the induction.
  induction calls generalizing source earlier with
  | nil => simp [sealAll] at run
  | cons call calls ih =>
    rw [sealAll] at run
    cases earlier with
    | nil =>
      obtain ⟨rfl, _⟩ := List.cons.inj run
      exact SealStep.inTurn_zero call source
    | cons first earlier =>
      obtain ⟨rfl, rest⟩ := List.cons.inj run
      rw [SealCall.left_attempt] at rest
      have inTurn := ih rest
      rw [List.countP_cons]
      cases keyed : call.keyed with
      | false => simpa [keyed] using inTurn
      | true =>
        rw [keyed, if_pos rfl] at inTurn
        exact inTurn.succ

theorem seals_cons (source : ByteSource) (call : SealCall) (calls : List SealCall) :
    source.seals (call :: calls) =
      (SealStep.seal? ⟨call, source⟩).toList ++ (call.attempt source).left.seals calls := by
  rw [seals, sealAll, List.filterMap_cons]
  cases SealStep.seal? ⟨call, source⟩ <;> rfl

/-- The nonces that sealings use are blocks of the stream, in order; a block may be left out. -/
theorem sublist_nonces_seals (source : ByteSource) (calls : List SealCall) :
    ((source.seals calls).map (·.nonce.bytes)).Sublist
      (source.blocks (calls.countP SealCall.keyed)) := by
  induction calls generalizing source with
  | nil => exact .slnil
  | cons call calls ih =>
    have inTurn := SealStep.inTurn_zero call source
    rw [seals_cons, SealCall.left_attempt]
    cases keyed : call.keyed with
    | false =>
      obtain ⟨fault, failed, _⟩ := inTurn.idle keyed
      rw [(inTurn.failing fault failed).1, List.countP_cons_of_neg (ne_true_of_eq_false keyed)]
      exact ih source
    | true =>
      have rest := ih (source.advance Sealing.nonceSize)
      rw [List.countP_cons_of_pos keyed, blocks_succ]
      cases drawn : (SealStep.mk call source).drawn.result with
      | error fault =>
        -- The block is used up by a text without a UTF-8 form and is no nonce.
        rw [(inTurn.failing fault drawn).1]
        exact rest.cons _
      | ok text =>
        obtain ⟨_, sealing, plain, made, _, _, _, _, nonce, _⟩ := inTurn.succeeding text drawn
        rw [made, ← nonce]
        exact rest.cons_cons _

theorem take_body_of_mem_seals {sealing : Seal} (mem : sealing ∈ source.seals calls) :
    sealing.body.take 16 = Base64.encode sealing.nonce.bytes := by
  obtain ⟨step, made, sealed⟩ := List.mem_filterMap.mp mem
  obtain ⟨earlier, later, run⟩ := List.append_of_mem made
  have inTurn := inTurn_of_sealAll run
  cases result : step.drawn.result with
  | error fault =>
    rw [(inTurn.failing fault result).1] at sealed
    contradiction
  | ok text =>
    obtain ⟨_, other, _, same, _, _, _, _, nonce, head⟩ := inTurn.succeeding text result
    obtain rfl := Option.some.inj (sealed.symm.trans same)
    rw [head, nonce]

theorem nodup_nonces (distinct : (source.blocks (calls.countP SealCall.keyed)).Nodup) :
    ((source.seals calls).map (·.nonce.bytes)).Nodup :=
  distinct.sublist (source.sublist_nonces_seals calls)

/-- What bodies begin with is as different as the blocks of the stream. -/
theorem nodup_bodies (distinct : (source.blocks (calls.countP SealCall.keyed)).Nodup) :
    ((source.seals calls).map Seal.body).Nodup := by
  refine List.Nodup.of_map (List.take 16) ?_
  have heads : ((source.seals calls).map Seal.body).map (List.take 16) =
      ((source.seals calls).map (·.nonce.bytes)).map Base64.encode := by
    rw [List.map_map, List.map_map]
    exact List.map_congr_left fun sealing mem => take_body_of_mem_seals mem
  rw [heads]
  exact (nodup_nonces distinct).map Base64.encode_injective

theorem nodup_uses (distinct : (source.blocks (calls.countP SealCall.keyed)).Nodup) :
    ((source.seals calls).map fun sealing => (sealing.key, sealing.nonce)).Nodup := by
  refine List.Nodup.of_map (fun use => use.2.bytes) ?_
  rw [List.map_map]
  exact nodup_nonces distinct

/-- Of attempts to seal that share a stream with no one else, the next to find a key takes the next
block of the stream; if it succeeds, the block is its nonce, and its body begins with the text of
that block. An attempt without a payload or a key takes nothing; one with both fails only by a text
without a UTF-8 form, and has used its block up. As long as the blocks differ, so do the bodies, and
no key meets a nonce twice. -/
theorem nonces_in_turn (source : ByteSource) (calls : List SealCall) :
    (source.sealAll calls).map SealStep.call = calls ∧
      (∀ earlier step later, source.sealAll calls = earlier ++ step :: later →
        step.InTurn source (earlier.countP fun step => step.call.keyed)) ∧
      ((source.blocks (calls.countP SealCall.keyed)).Nodup →
        ((source.seals calls).map Seal.body).Nodup ∧
          ((source.seals calls).map fun sealing => (sealing.key, sealing.nonce)).Nodup) :=
  ⟨source.calls_sealAll calls, fun _ _ _ run => inTurn_of_sealAll run,
    fun distinct => ⟨nodup_bodies distinct, nodup_uses distinct⟩⟩

end ByteSource

namespace Sample

/-- The bytes from zero on, in order. -/
def counting : ByteSource := .ofBytes ((List.range 256).map UInt8.ofNat)

/-- A token whose subject has no UTF-8 form. -/
def halfSubject : Token where
  variant := .builtin .passwordChange
  common := ⟨120, 60, some half, none, issuer⟩
  contents := .empty
  faultless := by decide
  common_normal := rfl
  contents_normal := Contents.normal_empty

/-- A payload twice and, all for the same issuer, a token, fields, and three attempts that fail. -/
def sealCalls : List SealCall :=
  [.bare secret.resolver issuer "plain", .bare unknowing issuer "plain",
    .whole secret.resolver halfSubject, .fields secret.resolver mark (timed 120 60) [[.char '\t']],
    .bare secret.resolver issuer "plain", .whole secret.resolver change,
    .fields secret.resolver mark (timed 120 60) hollow]

end Sample

/-- Four of seven attempts succeed. The second of them seals the same payload for the same issuer as
the first, but with the bytes from 24 to 35, as the block before was used up by a failure. -/
theorem ByteSource.nonces_in_turn_counting :
    (∃ earlier step later, Sample.counting.sealAll Sample.sealCalls = earlier ++ step :: later ∧
        earlier.length = 4 ∧ step.InTurn Sample.counting 2) ∧
      Sample.counting.block 2 = [24, 25, 26, 27, 28, 29, 30, 31, 32, 33, 34, 35] ∧
      (Sample.counting.seals Sample.sealCalls).length = 4 ∧
      ((Sample.counting.seals Sample.sealCalls).map Seal.body).Nodup ∧
      ((Sample.counting.seals Sample.sealCalls).map
        fun sealing => (sealing.key, sealing.nonce)).Nodup := by
  obtain ⟨_, turns, differ⟩ := ByteSource.nonces_in_turn Sample.counting Sample.sealCalls
  have long : 4 < (Sample.counting.sealAll Sample.sealCalls).length := by decide +kernel
  have counted : ((Sample.counting.sealAll Sample.sealCalls).take 4).countP
      (fun step => step.call.keyed) = 2 := by
    decide +kernel
  have distinct : (Sample.counting.blocks (Sample.sealCalls.countP SealCall.keyed)).Nodup := by
    decide +kernel
  have run := (List.take_append_drop 4 (Sample.counting.sealAll Sample.sealCalls)).symm
  rw [List.drop_eq_getElem_cons long] at run
  have inTurn := turns _ _ _ run
  rw [counted] at inTurn
  exact ⟨⟨_, _, _, run, List.length_take_of_le (Nat.le_of_lt long), inTurn⟩, by decide +kernel,
    by decide +kernel, differ distinct⟩

/-- The first attempt to succeed need not take the first block: one that failed may have used it
up. -/
theorem ByteSource.not_forall_success_in_turn :
    ¬ ∀ (source : ByteSource) (calls : List SealCall) (earlier : List SealStep) (step : SealStep)
        (later : List SealStep), source.sealAll calls = earlier ++ step :: later →
          ∀ text, step.drawn.result = .ok text →
            step.before.nonce.bytes =
              source.block (earlier.countP fun step => step.drawn.result.isOk) := by
  intro inTurn
  have failed : (Sample.halfSubject.encode Sample.secret.resolver Sample.counting).result =
      .error (.unencodable ⟨0, 7, 0⟩) := by
    decide +kernel
  have encoded := Token.encode_of_payload Sample.payload_change Sample.secret (by decide)
    (by decide) (Sample.halfSubject.encode Sample.secret.resolver Sample.counting).left
  have run (first second : SealCall) : Sample.counting.sealAll [first, second] =
      [⟨first, Sample.counting⟩] ++ ⟨second, (first.attempt Sample.counting).left⟩ :: [] := rfl
  have nonce := inTurn _ _ _ _ _ (run (.whole Sample.secret.resolver Sample.halfSubject)
    (.whole Sample.secret.resolver Sample.change))
  simp only [SealStep.drawn, SealCall.attempt, List.countP_cons, List.countP_nil, failed] at nonce
  exact absurd (nonce _ encoded) (by decide +kernel)

end SealedToken
