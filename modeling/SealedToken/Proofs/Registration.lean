import SealedToken.Proofs.Histories
import SealedToken.Proofs.Reading

/-!
Registration. A variant is admitted if it has a mark, and one that neither begins a registered mark
nor begins with one. So no text carries the marks of two registered variants, what is detected once
stays detected, and the order in which variants come decides nothing.
-/

set_option autoImplicit false

namespace SealedToken

/-! ## Marks apart -/

theorem Text.isSome_strip?_iff {first second : Text} :
    (Text.strip? first second).isSome = true ↔ first <+: second := by
  rw [Option.isSome_iff_exists]
  exact exists_congr fun rest => Text.strip?_eq_some_iff.trans eq_comm

namespace Variant

/-- Neither mark begins with the other. -/
def Apart (first second : Variant) : Prop :=
  ¬ first.mark <+: second.mark ∧ ¬ second.mark <+: first.mark

instance (first second : Variant) : Decidable (first.Apart second) :=
  inferInstanceAs (Decidable (_ ∧ _))

theorem Apart.symm {first second : Variant} (apart : first.Apart second) : second.Apart first :=
  And.symm apart

theorem apart_iff {first second : Variant} :
    first.Apart second ↔ marksCollide first.mark second.mark = false := by
  rw [Apart, marksCollide, Bool.or_eq_false_iff, ← Text.isSome_strip?_iff,
    ← Text.isSome_strip?_iff, Bool.not_eq_true, Bool.not_eq_true]

end Variant

namespace Registry

/-- Variants with a mark each, no mark beginning with another. -/
structure Unambiguous (variants : List Variant) : Prop where
  marked : ∀ variant ∈ variants, variant.mark ≠ []
  apart : variants.Pairwise Variant.Apart

theorem unambiguous (registry : Registry) : Unambiguous registry.variants :=
  ⟨registry.marked, registry.apart.imp fun apart => Variant.apart_iff.mpr apart⟩

theorem exists_of_unambiguous {variants : List Variant} (clear : Unambiguous variants) :
    ∃ registry : Registry, registry.variants = variants :=
  ⟨⟨variants, clear.marked, clear.apart.imp fun apart => Variant.apart_iff.mp apart⟩, rfl⟩

theorem Unambiguous.perm {variants order : List Variant} (clear : Unambiguous variants)
    (perm : variants.Perm order) : Unambiguous order where
  marked variant listed := clear.marked variant (perm.mem_iff.mpr listed)
  apart := (perm.pairwise_iff fun apart => apart.symm).mp clear.apart

theorem Unambiguous.sublist {variants fewer : List Variant} (clear : Unambiguous variants)
    (sub : fewer.Sublist variants) : Unambiguous fewer where
  marked variant listed := clear.marked variant (sub.subset listed)
  apart := clear.apart.sublist sub

theorem unambiguous_append_iff {variants : List Variant} {variant : Variant}
    (clear : Unambiguous variants) :
    Unambiguous (variants ++ [variant]) ↔
      variant.mark ≠ [] ∧ ∀ other ∈ variants, other.Apart variant := by
  constructor
  · intro grown
    refine ⟨grown.marked variant (by simp), fun other listed => ?_⟩
    exact (List.pairwise_append.mp grown.apart).2.2 other listed variant (by simp)
  · intro ⟨marked, apart⟩
    constructor
    · intro other listed
      rcases List.mem_append.mp listed with listed | last
      · exact clear.marked other listed
      · rwa [List.mem_singleton.mp last]
    · rw [List.pairwise_append]
      refine ⟨clear.apart, List.pairwise_singleton _ _, fun other listed last single => ?_⟩
      rw [List.mem_singleton.mp single]
      exact apart other listed

/-- Of two marks at the head of one text, one begins with the other. -/
theorem Unambiguous.length_filter_le {variants : List Variant} (clear : Unambiguous variants)
    (text : Text) : (variants.filter fun variant => variant.mark <+: text).length ≤ 1 := by
  have apart := clear.apart.filter fun variant => decide (variant.mark <+: text)
  cases carried : variants.filter fun variant => decide (variant.mark <+: text) with
  | nil => exact Nat.zero_le 1
  | cons first rest =>
    cases rest with
    | nil => exact Nat.le_refl 1
    | cons second rest =>
      rw [carried] at apart
      have members : ∀ variant ∈ first :: second :: rest, variant.mark <+: text := by
        rw [← carried]
        intro variant listed
        exact of_decide_eq_true (List.mem_filter.mp listed).2
      have ⟨unlike, unalike⟩ := List.rel_of_pairwise_cons apart (List.mem_cons_self ..)
      rcases List.prefix_or_prefix_of_prefix (members first (by simp)) (members second (by simp))
        with begins | begins
      · exact absurd begins unlike
      · exact absurd begins unalike

/-! ## Calls to register -/

theorem eq_of_variants {first second : Registry} (same : first.variants = second.variants) :
    first = second := by
  cases first
  cases second
  simp only at same
  subst same
  rfl

theorem rival?_eq_none_iff {registry : Registry} {variant : Variant} :
    registry.rival? variant = none ↔ ∀ other ∈ registry.variants, other.Apart variant := by
  rw [rival?, List.find?_eq_none]
  apply forall₂_congr
  intro other _
  rw [Bool.not_eq_true, marksCollide_comm]
  exact Variant.apart_iff.symm

/-- A variant is admitted, at the end, exactly if there is a registry that has it there. -/
theorem register_eq_ok_iff {registry next : Registry} {variant : Variant} :
    registry.register variant = (.ok (), next) ↔
      next.variants = registry.variants ++ [variant] := by
  constructor
  · intro registered
    unfold register at registered
    split at registered
    · cases registered
    · split at registered
      · cases registered
      · obtain rfl := (Prod.mk.inj registered).2
        rfl
  · intro grown
    have clear := next.unambiguous
    rw [grown, unambiguous_append_iff registry.unambiguous, ← rival?_eq_none_iff] at clear
    obtain ⟨marked, free⟩ := clear
    unfold register
    rw [dif_neg marked]
    split
    · next other found =>
      rw [free] at found
      cases found
    · exact Prod.ext rfl (eq_of_variants grown.symm)

/-- A variant that is refused leaves the registry as it was. -/
theorem register_of_error {registry : Registry} {variant : Variant} {fault : RegistryFault}
    (refused : (registry.register variant).1 = .error fault) :
    (registry.register variant).2 = registry := by
  unfold register at refused ⊢
  split
  · rfl
  · next marked =>
    rw [dif_neg marked] at refused
    split
    · rfl
    · next free =>
      -- The search for a rival is in the type of what is appended, so it is split once more.
      split at refused
      · next other found =>
        rw [free] at found
        cases found
      · cases refused

/-- The variants with one more at the end, where its mark admits it. -/
def enlist (variants : List Variant) (variant : Variant) : List Variant :=
  if variant.mark ≠ [] ∧ ∀ other ∈ variants, other.Apart variant then variants ++ [variant]
  else variants

theorem variants_register (registry : Registry) (variant : Variant) :
    (registry.register variant).2.variants = enlist registry.variants variant := by
  have admitted : Unambiguous (registry.variants ++ [variant]) ↔ _ :=
    unambiguous_append_iff registry.unambiguous
  unfold enlist
  cases done : (registry.register variant).1 with
  | ok _ =>
    have grown := register_eq_ok_iff.mp (Prod.ext done rfl)
    rw [if_pos (admitted.mp (grown ▸ (registry.register variant).2.unambiguous))]
    exact grown
  | error fault =>
    rw [register_of_error done, if_neg]
    intro clear
    obtain ⟨next, grown⟩ := exists_of_unambiguous (admitted.mpr clear)
    rw [register_eq_ok_iff.mpr grown] at done
    cases done

/-- The registry after calls to register, in turn. -/
def after (registry : Registry) (history : List Variant) : Registry :=
  afterCalls register registry history

theorem variants_after (registry : Registry) (history : List Variant) :
    (registry.after history).variants = history.foldl enlist registry.variants :=
  view_afterCalls variants_register

theorem prefix_enlist (variants : List Variant) (variant : Variant) :
    variants <+: enlist variants variant := by
  unfold enlist
  split
  · exact List.prefix_append _ _
  · exact List.prefix_rfl

theorem variants_prefix_after (registry : Registry) (history : List Variant) :
    registry.variants <+: (registry.after history).variants := by
  apply afterCalls_keeps fun reached : Registry => registry.variants <+: reached.variants
  · exact List.prefix_rfl
  intro before variant kept
  rw [variants_register]
  exact kept.trans (prefix_enlist _ _)

/-- Variants are registered together exactly if there is a registry that has them in this order. -/
theorem registerAll_eq_ok_iff {registry result : Registry} {variants : List Variant} :
    registry.registerAll variants = (.ok (), result) ↔
      result.variants = registry.variants ++ variants := by
  induction variants generalizing registry with
  | nil =>
    rw [List.append_nil, registerAll, Prod.mk.injEq, and_iff_right rfl]
    exact ⟨fun same => same ▸ rfl, fun same => eq_of_variants same.symm⟩
  | cons variant rest ih =>
    rw [registerAll, List.append_cons]
    match done : registry.register variant with
    | (.ok (), next) => rw [← register_eq_ok_iff.mp done, ← ih]
    | (.error fault, next) =>
      simp only [Prod.mk.injEq, reduceCtorEq, false_and, false_iff]
      intro grown
      -- The variants up to this one are unambiguous, as all are.
      have clear := result.unambiguous.sublist (grown ▸ List.sublist_append_left _ rest)
      obtain ⟨longest, longer⟩ := exists_of_unambiguous clear
      rw [register_eq_ok_iff.mpr longer] at done
      cases done

theorem after_of_registerAll {registry result : Registry} {variants : List Variant}
    (registered : registry.registerAll variants = (.ok (), result)) :
    registry.after variants = result := by
  induction variants generalizing registry with
  | nil => exact (Prod.mk.inj registered).2
  | cons variant rest ih =>
    rw [registerAll] at registered
    match done : registry.register variant with
    | (.error fault, next) =>
      rw [done] at registered
      cases registered
    | (.ok (), next) =>
      rw [done] at registered
      have later := ih registered
      rw [after, afterCalls, List.foldl_cons, done]
      exact later

/-! ## Registries that read alike -/

/-- Two registries detect the same variants and read the same tokens. -/
structure Alike (first second : Registry) : Prop where
  detect : ∀ credential, first.detect credential = second.detect credential
  parse : ∀ resolver credential issuer,
    first.parse resolver credential issuer = second.parse resolver credential issuer

theorem alike_of_mem_iff {first second : Registry}
    (same : ∀ variant, variant ∈ first.variants ↔ variant ∈ second.variants) :
    first.Alike second := by
  have detected : ∀ credential, first.detect? credential = second.detect? credential := by
    intro credential
    apply Option.ext
    intro variant
    rw [detect?_eq_some_iff, detect?_eq_some_iff, same]
  constructor
  · intro credential
    rw [detect, detect, detected]
  · intro resolver credential issuer
    rw [parse, parse, detect, detect, detected]

theorem exists_alike_of_perm {registry result : Registry} {variants order : List Variant}
    (perm : variants.Perm order) (registered : registry.registerAll variants = (.ok (), result)) :
    ∃ other, registry.registerAll order = (.ok (), other) ∧ other.Alike result := by
  have grown := registerAll_eq_ok_iff.mp registered
  have reordered : result.variants.Perm (registry.variants ++ order) :=
    grown ▸ perm.append_left registry.variants
  obtain ⟨other, variants⟩ := exists_of_unambiguous (result.unambiguous.perm reordered)
  refine ⟨other, registerAll_eq_ok_iff.mpr variants, alike_of_mem_iff fun variant => ?_⟩
  rw [variants]
  exact reordered.mem_iff.symm

theorem detect_eq_ok_iff {registry : Registry} {credential : Option Text} {variant : Variant} :
    registry.detect credential = .ok variant ↔ registry.detect? credential = some variant := by
  unfold detect
  cases registry.detect? credential with
  | none => simp
  | some found => simp

theorem parse_of_subset {first second : Registry} {credential : Option Text} {variant : Variant}
    (sub : first.variants ⊆ second.variants) (detected : first.detect credential = .ok variant) :
    second.detect credential = .ok variant ∧ ∀ resolver issuer,
      second.parse resolver credential issuer = first.parse resolver credential issuer := by
  have found := detect_eq_ok_iff.mp detected
  obtain ⟨registered, carried⟩ := detect?_eq_some_iff.mp found
  have also := detect?_eq_some_iff.mpr ⟨sub registered, carried⟩
  refine ⟨detect_eq_ok_iff.mpr also, fun resolver issuer => ?_⟩
  rw [parse_of_detected also, parse_of_detected found]

end Registry

/-- After any calls to register, failing ones among them, a registry holds what it held at first and
each variant whose mark was apart when it came; so every text carries at most one registered mark.
A call that fails changes nothing, and later calls change nothing for what is detected already.
Variants that can be registered in one order can be registered in all, to the same effect. Every
registry comes about from the empty one. -/
theorem Registry.after_registrations (registry : Registry) (history : List Variant) :
    Registry.empty.registerAll registry.variants = (.ok (), registry) ∧
      (registry.after history).variants = history.foldl enlist registry.variants ∧
      Unambiguous (registry.after history).variants ∧
      (∀ text, ((registry.after history).variants.filter fun variant =>
        variant.mark <+: text).length ≤ 1) ∧
      (∀ variant fault, ((registry.after history).register variant).1 = .error fault →
        ((registry.after history).register variant).2 = registry.after history ∧
          registry.after (history ++ [variant]) = registry.after history) ∧
      (∀ later credential variant, (registry.after history).detect credential = .ok variant →
        (registry.after (history ++ later)).detect credential = .ok variant ∧
          ∀ resolver issuer,
            (registry.after (history ++ later)).parse resolver credential issuer =
              (registry.after history).parse resolver credential issuer) ∧
      ∀ variants order result,
        registry.registerAll variants = (.ok (), result) → variants.Perm order →
        registry.after variants = result ∧
          ∃ other, registry.registerAll order = (.ok (), other) ∧ other.Alike result := by
  have clear := (registry.after history).unambiguous
  refine ⟨registerAll_eq_ok_iff.mpr rfl, registry.variants_after history, clear,
    clear.length_filter_le, ?_, ?_, ?_⟩
  · intro variant fault failed
    have kept := register_of_error failed
    exact ⟨kept, (afterCalls_append_singleton variant).trans kept⟩
  · intro later credential variant detected
    rw [after, afterCalls_append]
    exact parse_of_subset (variants_prefix_after _ later).subset detected
  · intro variants order result registered perm
    exact ⟨after_of_registerAll registered, exists_alike_of_perm perm registered⟩

namespace Sample

def badge : Variant := .custom ⟨0, "Badge", "AB~", "badge", 0⟩

/-- A variant whose mark begins with that of another. -/
def shadow : Variant := .custom ⟨1, "Shadow", "AB~x", "shadow", 0⟩

def pass : Variant := .custom ⟨2, "Pass", "TP~", "pass", 0⟩

end Sample

theorem Registry.after_registrations_badge :
    standard.after ([Sample.badge] ++ [Sample.shadow]) = standard.after [Sample.badge] ∧
      (standard.after ([Sample.badge] ++ [Sample.pass])).detect (some "AB~x1") =
        .ok Sample.badge ∧
      ∃ other, standard.registerAll [Sample.pass, Sample.badge] = (.ok (), other) ∧
        other.Alike (standard.after [Sample.badge, Sample.pass]) := by
  obtain ⟨_, _, _, _, unchanged, lasting, reordered⟩ :=
    Registry.after_registrations .standard [Sample.badge]
  refine ⟨(unchanged _ (.collision "AB~x" "Shadow" "AB~" "Badge") rfl).2,
    (lasting [Sample.pass] _ Sample.badge rfl).1, ?_⟩
  have registered : standard.registerAll [Sample.badge, Sample.pass] =
      (.ok (), standard.after [Sample.badge, Sample.pass]) := rfl
  exact (reordered _ _ _ registered (.swap _ _ [])).2

end SealedToken
