import Mathlib.Control.Monad.Basic
import Mathlib.Data.List.Induction
import SealedToken.Key.Keyring
import SealedToken.Proofs.Histories

/-!
Keyrings in use. The secrets and the key identifiers of a keyring stay in step, and together they
are what its history makes of them: the last successful call that concerns an issuer decides its
entry, and the issuers stand in the order in which they came, or came back after a removal. A key
that is refused changes nothing.
-/

set_option autoImplicit false

namespace SealedToken

/-! ## Usable keys -/

/-- What is known of an issuer's key. -/
structure KeyEntry where
  issuer : Text
  secret : Secret
  keyId : Option Text

namespace KeyConfig

/-- A configuration that names an issuer and has a secret to derive keys from. -/
def Usable (config : KeyConfig) : Prop :=
  config.issuer ≠ [] ∧ ∃ secret, Secret.ofJwk config.secretJwk = .ok secret

/-- The entry that a configuration stands for. -/
def entry (config : KeyConfig) : Except KeyringFault KeyEntry :=
  if config.issuer.isEmpty then .error .issuerMissing
  else
    match Secret.ofJwk config.secretJwk with
    | .error fault => .error (.secret fault)
    | .ok secret => .ok ⟨config.issuer, secret, config.keyId⟩

theorem entry_eq_ok_iff {config : KeyConfig} {entry : KeyEntry} :
    config.entry = .ok entry ↔
      config.issuer ≠ [] ∧ ∃ secret, Secret.ofJwk config.secretJwk = .ok secret ∧
        entry = ⟨config.issuer, secret, config.keyId⟩ := by
  unfold KeyConfig.entry
  by_cases named : config.issuer = []
  · simp [named]
  · rw [if_neg (mt List.isEmpty_iff.mp named)]
    cases Secret.ofJwk config.secretJwk with
    | error fault => simp
    | ok secret => simp [named, eq_comm]

theorem usable_iff {config : KeyConfig} : config.Usable ↔ ∃ entry, config.entry = .ok entry := by
  simp only [entry_eq_ok_iff]
  constructor
  · intro ⟨named, secret, read⟩
    exact ⟨_, named, secret, read, rfl⟩
  · intro ⟨entry, named, secret, read, _⟩
    exact ⟨named, secret, read⟩

theorem not_usable_iff {config : KeyConfig} :
    ¬ config.Usable ↔ ∃ fault, config.entry = .error fault := by
  rw [usable_iff]
  cases config.entry with
  | error fault => simp
  | ok entry => simp

end KeyConfig

namespace Keyring

/-! ## Changes -/

/-- What a successful call does to a keyring. -/
inductive Change where
  | put (entry : KeyEntry)
  | drop (issuer : Text)

namespace Change

/-- The issuer that a change concerns. -/
def issuer : Change → Text
  | put entry => entry.issuer
  | drop issuer => issuer

/-- What a change leaves for its issuer. -/
def leaves? : Change → Option KeyEntry
  | put entry => some entry
  | drop _ => none

/-- The issuers after a change: a new one goes last, and one that is there keeps its place. -/
def reorder (issuers : List Text) : Change → List Text
  | put entry =>
    if issuers.contains entry.issuer then issuers else issuers ++ [entry.issuer]
  | drop issuer => issuers.filter (· ≠ issuer)

/-- The last of the changes that concern an issuer. -/
def last? (changes : List Change) (issuer : Text) : Option Change :=
  (changes.filter (·.issuer = issuer)).getLast?

theorem last?_append_singleton (changes : List Change) (change : Change) (issuer : Text) :
    last? (changes ++ [change]) issuer =
      if change.issuer = issuer then some change else last? changes issuer := by
  unfold last?
  rw [List.filter_append]
  by_cases concerned : change.issuer = issuer
  · simp [concerned]
  · simp [concerned]

end Change

def apply (ring : Keyring) : Change → Keyring
  | .put entry =>
    { secrets := ring.secrets.insert entry.issuer entry.secret
      keyIds := ring.keyIds.insert entry.issuer entry.keyId }
  | .drop issuer => (ring.remove issuer).2

theorem remove_of_contains {ring : Keyring} {issuer : Text}
    (present : ring.secrets.contains issuer = true) :
    ring.remove issuer = (true, ⟨ring.secrets.erase issuer, ring.keyIds.erase issuer⟩) := by
  rw [remove, if_pos present]

theorem remove_of_not_contains {ring : Keyring} {issuer : Text}
    (absent : ring.secrets.contains issuer = false) : ring.remove issuer = (false, ring) := by
  rw [remove, absent, if_neg (by decide)]

theorem remove_fst (ring : Keyring) (issuer : Text) :
    (ring.remove issuer).1 = ring.secrets.contains issuer := by
  cases present : ring.secrets.contains issuer with
  | true => rw [remove_of_contains present]
  | false => rw [remove_of_not_contains present]

theorem issuers_apply (ring : Keyring) (change : Change) :
    (ring.apply change).issuers = change.reorder ring.issuers := by
  cases change with
  | put entry =>
    have placed := OrderedMap.keys_insert ring.secrets entry.issuer entry.secret
    by_cases known : entry.issuer ∈ ring.issuers
    · rw [Change.reorder, if_pos (List.contains_iff_mem.mpr known)]
      exact placed.trans (if_pos known)
    · rw [Change.reorder, if_neg (mt List.contains_iff_mem.mp known)]
      exact placed.trans (if_neg known)
  | drop issuer =>
    cases present : ring.secrets.contains issuer with
    | true =>
      rw [apply, remove_of_contains present]
      exact OrderedMap.keys_erase ring.secrets issuer
    | false =>
      rw [apply, remove_of_not_contains present]
      exact (OrderedMap.filter_keys_of_not_contains present).symm

/-- Both maps have the same issuers, in the same order. -/
def InStep (ring : Keyring) : Prop := ring.keyIds.keys = ring.issuers

theorem InStep.apply {ring : Keyring} (step : ring.InStep) (change : Change) :
    (ring.apply change).InStep := by
  have same : ring.keyIds.keys = ring.secrets.keys := step
  cases change with
  | put entry =>
    change (ring.keyIds.insert ..).keys = (ring.secrets.insert ..).keys
    rw [OrderedMap.keys_insert, OrderedMap.keys_insert, same]
  | drop issuer =>
    cases present : ring.secrets.contains issuer with
    | true =>
      rw [Keyring.apply, remove_of_contains present]
      change (ring.keyIds.erase issuer).keys = (ring.secrets.erase issuer).keys
      rw [OrderedMap.keys_erase, OrderedMap.keys_erase, same]
    | false =>
      rw [Keyring.apply, remove_of_not_contains present]
      exact step

theorem inStep_empty : empty.InStep := rfl

theorem inStep_foldl_apply (changes : List Change) {ring : Keyring} (step : ring.InStep) :
    (changes.foldl apply ring).InStep :=
  List.foldlRecOn changes _ step fun _ before change _ => before.apply change

/-- The entry that a keyring shows for an issuer. -/
def shown? (ring : Keyring) (issuer : Text) : Option KeyEntry :=
  (ring.secrets.find? issuer).map fun secret => ⟨issuer, secret, ring.keyId issuer⟩

/-- No identifier is left behind without a secret. -/
theorem InStep.keyId_eq {ring : Keyring} (step : ring.InStep) (issuer : Text) :
    ring.keyId issuer = (ring.shown? issuer).bind KeyEntry.keyId := by
  unfold shown?
  cases known : ring.secrets.find? issuer with
  | some secret => rfl
  | none =>
    have absent : ring.keyIds.find? issuer = none := by
      rw [OrderedMap.find?_eq_none_iff, step]
      exact OrderedMap.find?_eq_none_iff.mp known
    rw [keyId, absent]
    rfl

theorem shown?_put (ring : Keyring) (entry : KeyEntry) (issuer : Text) :
    (ring.apply (.put entry)).shown? issuer =
      if entry.issuer = issuer then some entry else ring.shown? issuer := by
  simp only [shown?, apply, keyId, OrderedMap.find?_insert]
  split
  · next same =>
    subst same
    rfl
  · rfl

theorem shown?_remove (ring : Keyring) (removed issuer : Text) :
    (ring.remove removed).2.shown? issuer =
      if removed = issuer then none else ring.shown? issuer := by
  cases present : ring.secrets.contains removed with
  | true =>
    rw [remove_of_contains present]
    simp only [shown?, keyId, OrderedMap.find?_erase]
    split
    · rfl
    · rfl
  | false =>
    rw [remove_of_not_contains present]
    split
    · next same =>
      subst same
      rw [shown?, OrderedMap.find?_of_not_contains present]
      rfl
    · rfl

/-- A change decides the entry of its issuer and leaves all others alone. -/
theorem shown?_apply (ring : Keyring) (change : Change) (issuer : Text) :
    (ring.apply change).shown? issuer =
      if change.issuer = issuer then change.leaves? else ring.shown? issuer := by
  cases change with
  | put entry => exact ring.shown?_put entry issuer
  | drop removed => exact ring.shown?_remove removed issuer

theorem issuers_foldl_apply (ring : Keyring) (changes : List Change) :
    (changes.foldl apply ring).issuers = changes.foldl Change.reorder ring.issuers :=
  (List.foldl_hom issuers fun ring change => (issuers_apply ring change).symm).symm

/-- The last change that concerns an issuer decides its entry. -/
theorem shown?_foldl_apply (ring : Keyring) (changes : List Change) (issuer : Text) :
    (changes.foldl apply ring).shown? issuer =
      match Change.last? changes issuer with
      | some change => change.leaves?
      | none => ring.shown? issuer := by
  -- The last change is the outermost, so the induction is from the end.
  induction changes using List.reverseRecOn with
  | nil => rfl
  | append_singleton changes change ih =>
    rw [List.foldl_append, List.foldl_cons, List.foldl_nil, shown?_apply, ih,
      Change.last?_append_singleton]
    split
    · rfl
    · rfl

/-! ## Calls -/

inductive Call where
  | add (config : KeyConfig)
  | remove (issuer : Text)

namespace Call

/-- The issuer that a call is about. -/
def issuer : Call → Text
  | add config => config.issuer
  | remove issuer => issuer

/-- What a call does, if it succeeds: only a usable key is added. -/
def change? : Call → Option Change
  | add config => config.entry.toOption.map .put
  | remove issuer => some (.drop issuer)

end Call

/-- The changes that calls make, failed calls left out. -/
def changes (calls : List Call) : List Change := calls.filterMap Call.change?

/-- What a call is answered with. -/
inductive Answer where
  | added (outcome : Except KeyringFault Unit)
  | removed (found : Bool)

def act (ring : Keyring) : Call → Answer × Keyring
  | .add config => (.added (ring.add config).1, (ring.add config).2)
  | .remove issuer => (.removed (ring.remove issuer).1, (ring.remove issuer).2)

/-- The keyring after calls in turn. -/
def after (ring : Keyring) (calls : List Call) : Keyring := afterCalls act ring calls

theorem add_of_error {config : KeyConfig} {fault : KeyringFault}
    (stands : config.entry = .error fault) (ring : Keyring) :
    ring.add config = (.error fault, ring) := by
  unfold KeyConfig.entry at stands
  unfold add
  by_cases nameless : config.issuer.isEmpty = true
  · rw [if_pos nameless] at stands ⊢
    rw [Except.error.inj stands]
  · rw [if_neg nameless] at stands ⊢
    cases read : Secret.ofJwk config.secretJwk with
    | error found =>
      rw [read] at stands
      obtain rfl := Except.error.inj stands
      rfl
    | ok secret =>
      rw [read] at stands
      contradiction

theorem add_of_ok {config : KeyConfig} {entry : KeyEntry} (stands : config.entry = .ok entry)
    (ring : Keyring) : ring.add config = (.ok (), ring.apply (.put entry)) := by
  obtain ⟨named, secret, read, rfl⟩ := KeyConfig.entry_eq_ok_iff.mp stands
  rw [add, if_neg (mt List.isEmpty_iff.mp named), read]
  rfl

theorem act_state (ring : Keyring) (call : Call) :
    (ring.act call).2 =
      match call.change? with
      | some change => ring.apply change
      | none => ring := by
  cases call with
  | add config =>
    rw [act, Call.change?]
    cases stands : config.entry with
    | error fault => rw [add_of_error stands]; rfl
    | ok entry => rw [add_of_ok stands]; rfl
  | remove issuer => rfl

/-- A keyring is what the successful calls make of it. -/
theorem after_eq_foldl (ring : Keyring) (calls : List Call) :
    ring.after calls = (changes calls).foldl apply ring := by
  rw [after, afterCalls, changes, List.foldl_filterMap]
  congr 1
  funext ring call
  rw [act_state]
  cases call.change? with
  | none => rfl
  | some change => rfl

/-! ## What a keyring shows -/

/-- The entry that the last change about an issuer leaves. -/
def lastLeft? (changes : List Change) (issuer : Text) : Option KeyEntry :=
  (Change.last? changes issuer).bind Change.leaves?

/-- All that can be observed of a keyring is what changes to an empty one left. -/
structure Reflects (ring : Keyring) (changes : List Change) : Prop where
  issuers : ring.issuers = changes.foldl Change.reorder []
  distinct : ring.issuers.Nodup
  size : ring.size = ring.issuers.length
  mem_issuers : ∀ issuer, issuer ∈ ring.issuers ↔ ∃ entry, lastLeft? changes issuer = some entry
  inStep : ring.keyIds.keys = ring.issuers
  keyId : ∀ issuer, ring.keyId issuer = (lastLeft? changes issuer).bind KeyEntry.keyId
  resolver : ∀ issuer, ring.resolver issuer =
    match lastLeft? changes issuer with
    | some entry => entry.secret.derive issuer
    | none => .error (.unknownIssuer issuer)
  remove : ∀ issuer, (ring.remove issuer).1 = true ↔ issuer ∈ ring.issuers

theorem resolver_eq (ring : Keyring) (issuer : Text) :
    ring.resolver issuer =
      match ring.shown? issuer with
      | some entry => entry.secret.derive issuer
      | none => .error (.unknownIssuer issuer) := by
  unfold resolver shown?
  cases ring.secrets.find? issuer with
  | none => rfl
  | some secret => rfl

theorem mem_issuers_iff {ring : Keyring} {issuer : Text} :
    issuer ∈ ring.issuers ↔ ∃ entry, ring.shown? issuer = some entry := by
  rw [issuers, ← OrderedMap.contains_iff_mem_keys, OrderedMap.contains, ← Option.isSome_iff_exists,
    shown?, Option.isSome_map]

theorem remove_eq_true_iff {ring : Keyring} {issuer : Text} :
    (ring.remove issuer).1 = true ↔ issuer ∈ ring.issuers := by
  rw [remove_fst]
  exact OrderedMap.contains_iff_mem_keys ring.secrets issuer

theorem shown?_foldl_empty (changes : List Change) (issuer : Text) :
    (changes.foldl apply empty).shown? issuer = lastLeft? changes issuer := by
  rw [shown?_foldl_apply, lastLeft?]
  cases Change.last? changes issuer with
  | none => rfl
  | some change => rfl

theorem reflects_foldl (changes : List Change) :
    (changes.foldl apply empty).Reflects changes where
  issuers := issuers_foldl_apply empty changes
  distinct := (changes.foldl apply empty).secrets.distinct
  size := (List.length_map _).symm
  mem_issuers issuer := by
    rw [mem_issuers_iff, shown?_foldl_empty]
  inStep := inStep_foldl_apply changes inStep_empty
  keyId issuer := by
    rw [(inStep_foldl_apply changes inStep_empty).keyId_eq, shown?_foldl_empty]
  resolver issuer := by
    rw [Keyring.resolver_eq, shown?_foldl_empty]
  remove issuer := remove_eq_true_iff

/-! ## Construction -/

/-- The first configuration that is not usable, with the fault it is refused for. -/
structure FirstUnusable (configs : List KeyConfig) (index : Nat) (cause : KeyringFault) : Prop where
  refused : ∃ config, configs[index]? = some config ∧ config.entry = .error cause
  earlier : ∀ config ∈ configs.take index, config.Usable

theorem firstUnusable_cons_of_error {config : KeyConfig} {rest : List KeyConfig} {index : Nat}
    {fault cause : KeyringFault} (stands : config.entry = .error fault) :
    FirstUnusable (config :: rest) index cause ↔ index = 0 ∧ cause = fault := by
  constructor
  · intro ⟨⟨found, located, refused⟩, earlier⟩
    cases index with
    | zero =>
      obtain rfl := Option.some.inj located
      exact ⟨rfl, Except.error.inj (refused.symm.trans stands)⟩
    | succ index =>
      have usable := earlier config (List.mem_cons_self ..)
      exact absurd usable (KeyConfig.not_usable_iff.mpr ⟨fault, stands⟩)
  · rintro ⟨rfl, rfl⟩
    exact ⟨⟨config, rfl, stands⟩, List.forall_mem_nil _⟩

theorem firstUnusable_cons_of_ok {config : KeyConfig} {entry : KeyEntry} {rest : List KeyConfig}
    {index : Nat} {cause : KeyringFault} (stands : config.entry = .ok entry) :
    FirstUnusable (config :: rest) index cause ↔
      ∃ before, index = before + 1 ∧ FirstUnusable rest before cause := by
  constructor
  · intro ⟨⟨found, located, refused⟩, earlier⟩
    cases index with
    | zero =>
      obtain rfl := Option.some.inj located
      cases stands.symm.trans refused
    | succ index =>
      refine ⟨index, rfl, ⟨found, located, refused⟩, fun other taken => ?_⟩
      exact earlier other (List.mem_cons_of_mem _ taken)
  · rintro ⟨before, rfl, ⟨refused, earlier⟩⟩
    refine ⟨refused, ?_⟩
    rw [List.take_succ_cons, List.forall_mem_cons]
    exact ⟨KeyConfig.usable_iff.mpr ⟨entry, stands⟩, earlier⟩

theorem addAll_eq_error_iff {ring : Keyring} {start : Nat} {configs : List KeyConfig}
    {fault : KeyringFault} :
    (ring.addAll start configs).1 = .error fault ↔
      ∃ index cause, FirstUnusable configs index cause ∧ fault = .entry (start + index) cause := by
  -- Places are counted from the start, so the induction is for every start.
  induction configs generalizing ring start with
  | nil =>
    constructor
    · intro failed
      cases failed
    · intro ⟨index, cause, ⟨⟨config, located, _⟩, _⟩, _⟩
      cases located
  | cons config rest ih =>
    cases stands : config.entry with
    | error cause =>
      simp only [addAll, add_of_error stands, firstUnusable_cons_of_error stands]
      constructor
      · intro failed
        exact ⟨0, cause, ⟨rfl, rfl⟩, (Except.error.inj failed).symm⟩
      · rintro ⟨_, _, ⟨rfl, rfl⟩, rfl⟩
        rfl
    | ok entry =>
      simp only [addAll, add_of_ok stands, firstUnusable_cons_of_ok stands, ih]
      constructor
      · rintro ⟨before, cause, first, rfl⟩
        refine ⟨before + 1, cause, ⟨before, rfl, first⟩, ?_⟩
        rw [Nat.add_right_comm, Nat.add_assoc]
      · rintro ⟨_, cause, ⟨before, rfl, first⟩, rfl⟩
        refine ⟨before, cause, first, ?_⟩
        rw [Nat.add_right_comm, Nat.add_assoc]

theorem addAll_eq_ok_iff {ring result : Keyring} {start : Nat} {configs : List KeyConfig} :
    ring.addAll start configs = (.ok (), result) ↔
      (∀ config ∈ configs, config.Usable) ∧ ring.after (configs.map .add) = result := by
  induction configs generalizing ring start with
  | nil => simp [addAll, after, afterCalls]
  | cons config rest ih =>
    rw [List.forall_mem_cons]
    cases stands : config.entry with
    | error cause =>
      have unusable := KeyConfig.not_usable_iff.mpr ⟨cause, stands⟩
      simp only [addAll, add_of_error stands, Prod.mk.injEq, reduceCtorEq, unusable, false_and]
    | ok entry =>
      have usable := KeyConfig.usable_iff.mpr ⟨entry, stands⟩
      have grown : ring.after ((config :: rest).map .add) =
          (ring.apply (.put entry)).after (rest.map .add) := by
        rw [List.map_cons, after, afterCalls, List.foldl_cons, act, add_of_ok stands]
        rfl
      simp only [addAll, add_of_ok stands, ih, usable, true_and, grown]

theorem ofConfigs_eq_ok_iff {configs : List KeyConfig} {ring : Keyring} :
    ofConfigs configs = .ok ring ↔
      (∀ config ∈ configs, config.Usable) ∧ empty.after (configs.map .add) = ring := by
  have added : empty.addAll 0 configs = (.ok (), ring) ↔ _ := addAll_eq_ok_iff
  rw [← added, ofConfigs]
  split
  · next failed => simp [failed]
  · next made => simp [made]

theorem ofConfigs_eq_error_iff {configs : List KeyConfig} {fault : KeyringFault} :
    ofConfigs configs = .error fault ↔
      ∃ index cause, FirstUnusable configs index cause ∧ fault = .entry index cause := by
  have failed : (empty.addAll 0 configs).1 = .error fault ↔ _ := addAll_eq_error_iff
  simp only [Nat.zero_add] at failed
  rw [← failed, ofConfigs]
  split
  · next failed => simp [failed]
  · next made => simp [made]

theorem exists_ofConfigs_error_iff {configs : List KeyConfig} :
    (∃ fault, ofConfigs configs = .error fault) ↔ ∃ config ∈ configs, ¬ config.Usable := by
  constructor
  · intro ⟨fault, failed⟩
    obtain ⟨index, cause, ⟨⟨config, found, refused⟩, _⟩, _⟩ := ofConfigs_eq_error_iff.mp failed
    exact ⟨config, List.mem_of_getElem? found, KeyConfig.not_usable_iff.mpr ⟨cause, refused⟩⟩
  · intro ⟨config, listed, unusable⟩
    cases made : ofConfigs configs with
    | error fault => exact ⟨fault, rfl⟩
    | ok ring => exact absurd ((ofConfigs_eq_ok_iff.mp made).1 config listed) unusable

/-- A keyring made of configurations and used since is what all of that left of an empty one. -/
theorem after_of_ofConfigs {configs : List KeyConfig} {ring : Keyring}
    (made : ofConfigs configs = .ok ring) (calls : List Call) :
    ring.after calls = (changes (configs.map .add ++ calls)).foldl apply empty := by
  obtain ⟨_, rfl⟩ := ofConfigs_eq_ok_iff.mp made
  rw [← after_eq_foldl, after, after, after, afterCalls_append]

theorem add_error_iff {ring : Keyring} {config : KeyConfig} :
    (∃ fault, (ring.add config).1 = .error fault) ↔ ¬ config.Usable := by
  rw [KeyConfig.not_usable_iff]
  cases stands : config.entry with
  | error fault => simp [add_of_error stands]
  | ok entry => simp [add_of_ok stands]

/-- A key that is refused leaves both maps as they were. -/
theorem add_of_not_usable {config : KeyConfig} (unusable : ¬ config.Usable) (ring : Keyring) :
    (ring.add config).2 = ring := by
  obtain ⟨fault, stands⟩ := KeyConfig.not_usable_iff.mp unusable
  rw [add_of_error stands]

end Keyring

/-- A keyring is made of configurations exactly if all are usable, and otherwise the first that is
not is named. After any calls, refused ones among them, what it shows is what the successful calls
left: the issuers in the order in which they came, and for each the entry of the last key added. A
removal says whether the issuer was there, and a key that is refused changes nothing. -/
theorem Keyring.reflects_calls (configs : List KeyConfig) :
    (∀ fault, ofConfigs configs = .error fault ↔
        ∃ index cause, FirstUnusable configs index cause ∧ fault = .entry index cause) ∧
      ((∃ fault, ofConfigs configs = .error fault) ↔ ∃ config ∈ configs, ¬ config.Usable) ∧
      ∀ ring, ofConfigs configs = .ok ring → ∀ calls : List Call,
        (ring.after calls).Reflects (changes (configs.map .add ++ calls)) ∧
          ∀ config,
            ((∃ fault, ((ring.after calls).add config).1 = .error fault) ↔ ¬ config.Usable) ∧
            (¬ config.Usable → ((ring.after calls).add config).2 = ring.after calls ∧
              ring.after (calls ++ [.add config]) = ring.after calls) := by
  refine ⟨fun fault => ofConfigs_eq_error_iff, exists_ofConfigs_error_iff, ?_⟩
  intro ring made calls
  constructor
  · rw [after_of_ofConfigs made calls]
    exact reflects_foldl _
  · intro config
    refine ⟨add_error_iff, fun unusable => ?_⟩
    have kept := add_of_not_usable unusable (ring.after calls)
    refine ⟨kept, ?_⟩
    rw [after, afterCalls_append_singleton]
    exact kept

namespace Sample

/-- The key of an issuer named by a letter. -/
def keyOf (issuer keyId : Text) : KeyConfig :=
  ⟨issuer, Jwk.write (List.replicate 16 0), some keyId⟩

theorem usable_keyOf {issuer keyId : Text} (named : issuer ≠ []) :
    (keyOf issuer keyId).Usable := by
  have read : Secret.ofJwk (Jwk.write (List.replicate 16 0)) =
      .ok ⟨List.replicate 16 0, by decide⟩ := by decide +kernel
  exact ⟨named, _, read⟩

/-- A key that is too short. -/
def shortKeyOf (issuer : Text) : KeyConfig := ⟨issuer, Jwk.write [], none⟩

theorem not_usable_shortKeyOf (issuer : Text) : ¬ (shortKeyOf issuer).Usable := by
  rintro ⟨_, secret, read⟩
  have short : Secret.ofJwk (Jwk.write []) = .error .short := by decide +kernel
  cases short.symm.trans read

def configs : List KeyConfig := [keyOf "a" "first", keyOf "b" "second"]

/-- The key of one issuer is replaced, that of the other comes back after a removal. -/
def calls : List Keyring.Call :=
  [.add (keyOf "b" "third"), .remove "a", .add (shortKeyOf "b"),
    .add (keyOf "a" "fourth")]

end Sample

theorem Keyring.reflects_calls_sample :
    ∃ ring, ofConfigs Sample.configs = .ok ring ∧
      (ring.after Sample.calls).issuers = ["b", "a"].map Text.ofString ∧
      (ring.after Sample.calls).keyId "b" = some "third" ∧
      ring.after (Sample.calls ++ [.add (Sample.shortKeyOf "a")]) =
        ring.after Sample.calls := by
  obtain ⟨_, _, used⟩ := Keyring.reflects_calls Sample.configs
  have usable : ∀ config ∈ Sample.configs, config.Usable := by
    simp only [Sample.configs, List.forall_mem_cons]
    exact ⟨Sample.usable_keyOf (by decide), Sample.usable_keyOf (by decide),
      List.forall_mem_nil _⟩
  have made := ofConfigs_eq_ok_iff.mpr ⟨usable, rfl⟩
  obtain ⟨shows, refused⟩ := used _ made Sample.calls
  refine ⟨_, made, shows.issuers.trans (by decide +kernel),
    (shows.keyId "b").trans (by decide +kernel), ?_⟩
  exact ((refused _).2 (Sample.not_usable_shortKeyOf "a")).2

end SealedToken
