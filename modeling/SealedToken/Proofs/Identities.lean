import SealedToken.Proofs.RoundTrip

/-!
What the identity of a token tells: whom it was issued to and when. A subject may hold colons and
digits as it likes, as the last colon is always the one before the time.
-/

set_option autoImplicit false

namespace SealedToken

namespace Token

theorem id_of_short {token : Token}
    (short : token.common.issuedAt.natAbs < Decimal.tenTo Decimal.digitLimit) :
    token.id =
      .ok (token.common.subject.getD [] ++ .char ':' :: Decimal.ofInt token.common.issuedAt) := by
  have moment := Decimal.write?_eq_ok_iff.mpr ⟨short, rfl⟩
  unfold Token.id
  rw [moment]

/-- An absent subject is written as an empty one, and no token has an empty one. -/
theorem subject_getD_inj {first second : Token} :
    first.common.subject.getD [] = second.common.subject.getD [] ↔
      first.common.subject = second.common.subject := by
  constructor
  · intro same
    have written := congrArg (fun text => absentIfEmpty (some text)) same
    simpa only [absentIfEmpty_getD, subject_normal] using written
  · intro same
    rw [same]

theorem ofInt_issuedAt_inj {first second : Token} :
    Decimal.ofInt first.common.issuedAt = Decimal.ofInt second.common.issuedAt ↔
      first.common.issuedAt = second.common.issuedAt := by
  have nonneg := first.admitted.issuedAt_nonneg
  have also := second.admitted.issuedAt_nonneg
  rw [Decimal.ofInt_of_nonneg nonneg, Decimal.ofInt_of_nonneg also, Decimal.ofNat_inj]
  omega

theorem colon_not_mem_issuedAt (token : Token) :
    .char ':' ∉ Decimal.ofInt token.common.issuedAt := by
  rw [Decimal.ofInt_of_nonneg token.admitted.issuedAt_nonneg]
  intro inside
  exact absurd (Decimal.isDigit_of_mem_ofNat _ _ inside) (by decide)

/-- The last colon is the one before the time. -/
theorem subject_append_issuedAt_inj {first second : Token} :
    first.common.subject.getD [] ++ .char ':' :: Decimal.ofInt first.common.issuedAt =
        second.common.subject.getD [] ++ .char ':' :: Decimal.ofInt second.common.issuedAt ↔
      first.common.subject.getD [] = second.common.subject.getD [] ∧
        first.common.issuedAt = second.common.issuedAt := by
  rw [Text.append_cons_inj first.colon_not_mem_issuedAt second.colon_not_mem_issuedAt,
    ofInt_issuedAt_inj]

/-- Tokens of any variants share an identity exactly if they share subject and issue time. In what
they were made from, an absent subject and an empty one are the same. -/
theorem id_identifies (first second : Token)
    (short : first.common.issuedAt.natAbs < Decimal.tenTo Decimal.digitLimit)
    (also : second.common.issuedAt.natAbs < Decimal.tenTo Decimal.digitLimit) :
    ∃ one other, first.id = .ok one ∧ second.id = .ok other ∧
      (one = other ↔ first.common.subject = second.common.subject ∧
        first.common.issuedAt = second.common.issuedAt) ∧
      ∀ variant common contents variant' common' contents',
        make variant common contents = .ok first → make variant' common' contents' = .ok second →
          (one = other ↔ common.subject.getD [] = common'.subject.getD [] ∧
            common.issuedAt = common'.issuedAt) := by
  refine ⟨_, _, id_of_short short, id_of_short also, ?_, ?_⟩
  · rw [subject_append_issuedAt_inj, subject_getD_inj]
  · intro variant common contents variant' common' contents' made made'
    obtain ⟨_, normal, _⟩ := make_eq_ok_iff.mp made
    obtain ⟨_, normal', _⟩ := make_eq_ok_iff.mp made'
    rw [subject_append_issuedAt_inj, normal, normal']
    simp only [Common.normal, getD_absentIfEmpty]

end Token

namespace Sample

/-- A token whose subject reads like the identity of another. -/
def nested : Token where
  variant := .builtin .unitUser
  common := ⟨120, 60, some "me:120", none, issuer⟩
  contents := .empty
  faultless := by decide
  common_normal := by decide
  contents_normal := Contents.normal_empty

/-- Tokens from the beginning of time, without a subject. -/
def nameless (kind : Kind) : Token where
  variant := .builtin kind
  common := ⟨0, 60, none, none, issuer⟩
  contents := .empty
  faultless := by cases kind <;> decide
  common_normal := by decide
  contents_normal := Contents.normal_empty

end Sample

theorem Token.id_identifies_nested :
    (∃ one other, Sample.change.id = .ok one ∧ Sample.nested.id = .ok other ∧ one ≠ other) ∧
      make (.builtin .unitUser) ⟨0, 60, some [], none, Sample.issuer⟩ .empty =
        .ok (Sample.nameless .unitUser) ∧
      ∃ one, (Sample.nameless .unitUser).id = .ok one ∧
        (Sample.nameless .passwordChange).id = .ok one := by
  have late : (120 : Int).natAbs < Decimal.tenTo Decimal.digitLimit := by decide +kernel
  have early : (0 : Int).natAbs < Decimal.tenTo Decimal.digitLimit := Decimal.tenTo_pos _
  have emptied : make (.builtin .unitUser) ⟨0, 60, some [], none, Sample.issuer⟩ .empty =
      .ok (Sample.nameless .unitUser) := make_eq_ok_iff.mpr ⟨rfl, rfl, rfl⟩
  have absent : make (.builtin .passwordChange) ⟨0, 60, none, none, Sample.issuer⟩ .empty =
      .ok (Sample.nameless .passwordChange) := make_eq_ok_iff.mpr ⟨rfl, rfl, rfl⟩
  refine ⟨?_, emptied, ?_⟩
  · obtain ⟨one, other, whole, part, same, _⟩ :=
      Token.id_identifies Sample.change Sample.nested late late
    refine ⟨one, other, whole, part, fun equal => ?_⟩
    exact absurd (same.mp equal).1 (by decide)
  · obtain ⟨one, other, whole, part, _, asked⟩ :=
      Token.id_identifies (Sample.nameless .unitUser) (Sample.nameless .passwordChange) early early
    obtain rfl := (asked _ _ _ _ _ _ emptied absent).mpr ⟨rfl, rfl⟩
    exact ⟨one, whole, part⟩

end SealedToken
