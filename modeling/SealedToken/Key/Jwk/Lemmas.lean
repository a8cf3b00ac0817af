import SealedToken.Key.Jwk
import SealedToken.Text.Base64.Lemmas
import SealedToken.Text.Ranges
import SealedToken.Text.Utf8.Lemmas

/-!
Key texts read back. Text without quotes, backslashes and controls stands for itself in JSON, which
is enough to read the text of a symmetric key: it gives the bytes that were written.
-/

set_option autoImplicit false

namespace SealedToken

/-! ## Bare text in JSON -/

namespace Json

/-- A character that stands for itself between quotes. -/
def isBare (c : CodePoint) : Bool := 0x20 ≤ c.toNat && c ≠ '"' && c ≠ '\\'

theorem string?_bare {text : Text} (bare : ∀ c ∈ text, isBare c = true) (rest : Text) :
    string? (text ++ .char '"' :: rest) = some (text, rest) := by
  induction text with
  | nil => rfl
  | cons c text ih =>
    obtain ⟨first, later⟩ := List.forall_mem_cons.mp bare
    simp only [isBare, Bool.and_eq_true, decide_eq_true_eq] at first
    obtain ⟨⟨visible, quote⟩, escape⟩ := first
    rw [List.cons_append, string?]
    · simp [escape, Nat.not_lt.mpr visible, ih later]
    -- The earlier rows are for quotes and backslashes.
    · exact fun same => quote same
    · exact fun _ _ _ _ _ same => absurd same escape
    · exact fun _ _ same => absurd same escape

theorem value?_bare {value : Text} (bare : ∀ c ∈ value, isBare c = true) (depth : Nat)
    (rest : Text) :
    value? depth (.char '"' :: (value ++ .char '"' :: rest)) = some (.str value, rest) := by
  have scalar : scalar? (.char '"' :: (value ++ .char '"' :: rest)) = some (.str value, rest) := by
    rw [scalar?, string?_bare bare]
    rfl
  cases depth with
  | zero => exact scalar
  | succ depth => exact scalar

/-- A member whose name and value are bare texts, written without blanks. -/
def bareMember (name value : Text) : Text :=
  .char '"' :: (name ++ .char '"' :: .char ':' :: .char '"' :: (value ++ [.char '"']))

/-- What stands behind a member decides whether the object ends. -/
theorem members?_bareMember {name value : Text} (named : ∀ c ∈ name, isBare c = true)
    (valued : ∀ c ∈ value, isBare c = true) (depth fuel : Nat) (read : List (Text × Json))
    (rest : Text) :
    members? (value? depth) read (fuel + 1) (bareMember name value ++ rest) =
      match skip rest with
      | .char '}' :: after => some (OrderedMap.place name (.str value) read, after)
      | .char ',' :: more =>
        members? (value? depth) (OrderedMap.place name (.str value) read) fuel (skip more)
      | _ => none := by
  have shape : bareMember name value ++ rest =
      .char '"' :: (name ++
        .char '"' :: .char ':' :: .char '"' :: (value ++ .char '"' :: rest)) := by
    simp [bareMember]
  have colon : skip (.char ':' :: .char '"' :: (value ++ .char '"' :: rest)) =
      .char ':' :: .char '"' :: (value ++ .char '"' :: rest) := rfl
  have quote : skip (.char '"' :: (value ++ .char '"' :: rest)) =
      .char '"' :: (value ++ .char '"' :: rest) := rfl
  rw [shape, members?]
  simp only [string?_bare named, Option.bind_eq_bind, Option.bind_some, colon, quote,
    value?_bare valued]
  rfl

/-- Members behind an opening brace, up to the closing one. -/
def bareMembers : List (Text × Text) → Text
  | [] => ['}']
  | [(name, value)] => bareMember name value ++ [.char '}']
  | (name, value) :: next :: rest =>
    bareMember name value ++ .char ',' :: bareMembers (next :: rest)

/-- Members as they are read, each in the place of an earlier one of its name. -/
def insertAll (read : List (Text × Json)) (members : List (Text × Text)) :
    List (Text × Json) :=
  members.foldl (fun read member => OrderedMap.place member.1 (.str member.2) read) read

/-- Names and values that stand for themselves. -/
def AllBare (members : List (Text × Text)) : Prop :=
  ∀ member ∈ members, (∀ c ∈ member.1, isBare c = true) ∧ ∀ c ∈ member.2, isBare c = true

theorem exists_bareMembers_eq {members : List (Text × Text)} (nonempty : members ≠ []) :
    ∃ more, bareMembers members = .char '"' :: more := by
  match members, nonempty with
  | [_], _ => exact ⟨_, rfl⟩
  | _ :: _ :: _, _ => exact ⟨_, rfl⟩

theorem length_le_length_bareMembers (members : List (Text × Text)) :
    members.length ≤ (bareMembers members).length := by
  fun_induction bareMembers members with
  | case1 => simp
  | case2 name value => simp
  | case3 name value next rest ih =>
    simp only [List.length_cons, List.length_append] at ih ⊢
    omega

theorem members?_bareMembers {members : List (Text × Text)} (nonempty : members ≠ [])
    (bare : AllBare members) (depth : Nat) {fuel : Nat} (enough : members.length ≤ fuel)
    (read : List (Text × Json)) :
    members? (value? depth) read fuel (bareMembers members) =
      some (insertAll read members, []) := by
  induction members generalizing fuel read with
  | nil => contradiction
  | cons member rest ih =>
    obtain ⟨⟨named, valued⟩, later⟩ := List.forall_mem_cons.mp bare
    obtain ⟨fuel, rfl⟩ := Nat.exists_eq_add_of_le' (Nat.lt_of_lt_of_le (Nat.succ_pos _) enough)
    cases rest with
    | nil =>
      rw [bareMembers, members?_bareMember named valued]
      rfl
    | cons next rest =>
      have left : (next :: rest).length ≤ fuel := Nat.le_of_succ_le_succ enough
      obtain ⟨more, shape⟩ := exists_bareMembers_eq (List.cons_ne_nil next rest)
      have solid : skip (bareMembers (next :: rest)) = bareMembers (next :: rest) := by
        rw [shape]
        rfl
      rw [bareMembers, members?_bareMember named valued]
      change members? _ _ fuel (skip (bareMembers (next :: rest))) = _
      rw [solid, ih (List.cons_ne_nil _ _) later left]
      rfl

/-- An object of bare members is read as these members. -/
theorem read?_bareMembers {members : List (Text × Text)} (nonempty : members ≠ [])
    (bare : AllBare members) :
    read? (.char '{' :: bareMembers members) = some (.obj (insertAll [] members)) := by
  have inner := members?_bareMembers nonempty bare 989 (length_le_length_bareMembers members) []
  obtain ⟨more, shape⟩ := exists_bareMembers_eq nonempty
  rw [shape] at inner ⊢
  have opened : value? depthLimit (skip (.char '{' :: .char '"' :: more)) =
      (members? (value? 989) [] (.char '"' :: more).length (.char '"' :: more)).map
        fun inside => (.obj inside.1, inside.2) := rfl
  rw [read?, opened, inner]
  rfl

end Json

/-! ## Symmetric keys -/

namespace Jwk

theorem isBare_of_isSymbol {c : CodePoint} (symbol : Base64.isSymbol c = true) :
    Json.isBare c = true := by
  simp only [Base64.isSymbol, Bool.or_eq_true, decide_eq_true_eq] at symbol
  rcases symbol with (alphanumeric | rfl) | rfl
  · have range := CodePoint.range_of_isAlphanum alphanumeric
    have quote : c ≠ '"' := by
      rintro rfl
      contradiction
    have escape : c ≠ '\\' := by
      rintro rfl
      contradiction
    simp only [Json.isBare, Bool.and_eq_true, decide_eq_true_eq]
    exact ⟨⟨by omega, quote⟩, escape⟩
  all_goals decide

/-- The members of the text of a symmetric key. -/
def symmetric (bytes : Bytes) : List (Text × Json) :=
  [(.ofString "k", .str (Base64.encode bytes)), (.ofString "kty", .str "oct")]

theorem read?_write (bytes : Bytes) : Json.read? (write bytes) = some (.obj (symmetric bytes)) := by
  have shape : write bytes = .char '{' :: Json.bareMembers
      [("k", Base64.encode bytes), ("kty", "oct")] := by
    change _ ++ _ ++ _ = _
    rw [List.append_assoc]
    simp only [Json.bareMembers, Json.bareMember, List.append_assoc, List.cons_append]
    rfl
  have bare : Json.AllBare [("k", Base64.encode bytes), ("kty", "oct")] := by
    simp only [Json.AllBare, List.forall_mem_cons]
    have encoded : ∀ c ∈ Base64.encode bytes, Json.isBare c = true := fun c inside =>
      isBare_of_isSymbol (Base64.isSymbol_of_mem_encode c inside)
    exact ⟨⟨List.all_eq_true.mp (by decide), encoded⟩,
      ⟨List.all_eq_true.mp (by decide), List.all_eq_true.mp (by decide)⟩, List.forall_mem_nil _⟩
  rw [shape, Json.read?_bareMembers (List.cons_ne_nil _ _) bare]
  rfl

theorem bytes?_encode (bytes : Bytes) : bytes? (.str (Base64.encode bytes)) = some bytes := by
  rw [bytes?, if_pos (Base64.isEncodable_encode bytes), Base64.decodeLenient?_encode]

theorem member?_symmetric (bytes : Bytes) :
    Json.member? "k" (symmetric bytes) = some (.str (Base64.encode bytes)) := rfl

theorem symmetricBytes_symmetric (bytes : Bytes) : symmetricBytes (symmetric bytes) = bytes := by
  rw [symmetricBytes, member?_symmetric, Option.bind_some, bytes?_encode]
  rfl

theorem read_write (bytes : Bytes) : read (write bytes) = .ok (.oct, symmetric bytes) := by
  have unclaimed : (Json.member? "self" (symmetric bytes)).isSome = false := rfl
  have keyType : keyType? (symmetric bytes) = .ok .oct := rfl
  have parameters : checkParameters (symmetric bytes) KeyType.oct.parameters = .ok () := by
    simp only [KeyType.parameters, checkParameters, Parameter.fault?, member?_symmetric,
      bytes?_encode]
    rfl
  have algorithm : checkAlgorithm .oct (symmetric bytes) = .ok () := rfl
  have operations : checkOperations (symmetric bytes) = .ok () := rfl
  have filled : checkFilled (symmetric bytes) KeyType.oct.parameters = .ok () := rfl
  have own : checkForeign .oct (symmetric bytes) = .ok () := rfl
  simp only [read, read?_write, unclaimed, Bool.false_eq_true, if_false, bind, Except.bind,
    keyType, parameters, algorithm, operations, filled, own]
  rfl

end Jwk

end SealedToken
