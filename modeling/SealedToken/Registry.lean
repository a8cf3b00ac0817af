import SealedToken.Text.Quoted
import SealedToken.Token.Wire

/-!
Registries of variants. No mark in a registry begins with another, so at most one variant claims a
token string and the order of registration decides nothing.
-/

set_option autoImplicit false

namespace SealedToken

/-- Two marks of which one begins with the other. -/
def marksCollide (first second : Text) : Bool :=
  (Text.strip? first second).isSome || (Text.strip? second first).isSome

theorem marksCollide_comm (first second : Text) :
    marksCollide first second = marksCollide second first := by
  simp [marksCollide, Bool.or_comm]

inductive RegistryFault where
  | unmarked (title : Text)
  | collision (mark title other otherTitle : Text)
  deriving DecidableEq, Repr

def RegistryFault.message : RegistryFault → Text
  | .unmarked title => title ++ " does not declare a PREFIX"
  | .collision mark title other otherTitle =>
    "Prefix " ++ Text.quoted mark ++ " of " ++ title ++ " collides with " ++ Text.quoted other ++
      " of " ++ otherTitle

/-- Marked variants, in the order of registration, with marks apart. -/
structure Registry where
  variants : List Variant
  marked : ∀ variant ∈ variants, variant.mark ≠ []
  apart : variants.Pairwise fun first second => marksCollide first.mark second.mark = false

namespace Registry

def empty : Registry := ⟨[], by simp, List.Pairwise.nil⟩

/-- Every built-in variant. -/
def standard : Registry :=
  ⟨Kind.all.map .builtin, by decide, by decide⟩

/-- The first registered variant whose mark collides. -/
def rival? (registry : Registry) (variant : Variant) : Option Variant :=
  registry.variants.find? fun other => marksCollide variant.mark other.mark

/-- A marked variant goes last, if its mark collides with none. -/
def append (registry : Registry) (variant : Variant) (marked : variant.mark ≠ [])
    (free : registry.rival? variant = none) : Registry where
  variants := registry.variants ++ [variant]
  marked := by
    intro other inside
    rw [List.mem_append, List.mem_singleton] at inside
    rcases inside with inside | rfl
    · exact registry.marked other inside
    · exact marked
  apart := by
    rw [List.pairwise_append]
    refine ⟨registry.apart, List.pairwise_singleton _ _, ?_⟩
    intro other inside last single
    rw [List.mem_singleton] at single
    subst single
    have := List.find?_eq_none.mp free other inside
    rw [marksCollide_comm]
    simpa using this

/-- The registry after a variant was put forward for it. -/
def register (registry : Registry) (variant : Variant) : Except RegistryFault Unit × Registry :=
  if unmarked : variant.mark = [] then (.error (.unmarked variant.title), registry)
  else
    match free : registry.rival? variant with
    | some other =>
      (.error (.collision variant.mark variant.title other.mark other.title), registry)
    | none => (.ok (), registry.append variant unmarked free)

/-- Variants put forward one after the other, up to the first that is refused. -/
def registerAll (registry : Registry) : List Variant → Except RegistryFault Unit × Registry
  | [] => (.ok (), registry)
  | variant :: rest =>
    match registry.register variant with
    | (.error fault, registry) => (.error fault, registry)
    | (.ok (), registry) => registry.registerAll rest

/-- Variants that are not all registered make no registry. -/
def ofVariants (variants : List Variant) : Except RegistryFault Registry :=
  match empty.registerAll variants with
  | (.error fault, _) => .error fault
  | (.ok (), registry) => .ok registry

def claims (variant : Variant) (credential : Text) : Bool :=
  (Text.strip? variant.mark credential).isSome

/-- The variant whose mark a credential carries. -/
def detect? (registry : Registry) (credential : Option Text) : Option Variant :=
  credential.bind fun text => registry.variants.find? (claims · text)

/-- Detection, or the rejection of what no variant claims. -/
def detect (registry : Registry) (credential : Option Text) : Except Rejection Variant :=
  match registry.detect? credential with
  | none => .error .unrecognized
  | some variant => .ok variant

def ofKind? (registry : Registry) (kind : Text) : Option Variant :=
  registry.variants.find? (·.kindName = kind)

/-- A credential is read by the variant that its mark selects, and by no other. -/
def parse (registry : Registry) (resolver : Resolver) (credential issuer : Option Text) :
    Attempt ParseFault Token :=
  match registry.detect credential with
  | .error rejection => .fail (.rejected rejection)
  | .ok variant => variant.parse resolver credential issuer

end Registry

end SealedToken
