import SealedToken.Text.CodePoint

/-!
Text as a list of code points, cut and joined at separators.
Splitting and joining are mutually inverse on pieces that are free of the separator.
-/

set_option autoImplicit false

namespace SealedToken

/-- A text is the list of its code points, so that codecs recurse on the data. -/
abbrev Text := List CodePoint

namespace Text

def ofChars (chars : List Char) : Text := chars.map .char

def ofString (text : String) : Text := ofChars text.toList

instance : Coe String Text := ⟨ofString⟩

@[simp] theorem ofString_eq_nil_iff {text : String} : ofString text = [] ↔ text = "" := by
  simp [ofString, ofChars]

@[simp] theorem ofString_inj {text other : String} :
    ofString text = ofString other ↔ text = other := by
  rw [ofString, ofString, ofChars, ofChars, List.map_inj_right fun _ _ => CodePoint.char.inj,
    String.toList_inj]

theorem ofString_append (text other : String) :
    ofString (text ++ other) = ofString text ++ ofString other := by
  simp [ofString, ofChars]

/-- Characters alone have a UTF-8 form. -/
def isEncodable (text : Text) : Bool := text.all CodePoint.isChar

theorem isEncodable_ofChars (chars : List Char) : isEncodable (ofChars chars) = true := by
  simp [isEncodable, ofChars, CodePoint.isChar]

theorem isEncodable_iff {text : Text} :
    isEncodable text = true ↔ ∃ chars, text = ofChars chars := by
  constructor
  · intro encodable
    induction text with
    | nil => exact ⟨[], rfl⟩
    | cons c rest ih =>
      rw [isEncodable, List.all_cons, Bool.and_eq_true] at encodable
      obtain ⟨chars, rfl⟩ := ih encodable.2
      cases c with
      | char c => exact ⟨c :: chars, rfl⟩
      | surrogate index => exact absurd encodable.1 (by simp [CodePoint.isChar])
  · rintro ⟨chars, rfl⟩
    exact isEncodable_ofChars chars

theorem isEncodable_append {text other : Text} :
    isEncodable (text ++ other) = true ↔ isEncodable text = true ∧ isEncodable other = true := by
  simp [isEncodable]

theorem isEncodable_cons {c : CodePoint} {text : Text} :
    isEncodable (c :: text) = true ↔ c.isChar = true ∧ isEncodable text = true := by
  simp [isEncodable]

/-- The pieces between occurrences of a separator; a text without one is a single piece. -/
def split (separator : CodePoint) : Text → List Text
  | [] => [[]]
  | c :: rest =>
    if c = separator then [] :: split separator rest
    else
      match split separator rest with
      | [] => [[c]]
      | piece :: pieces => (c :: piece) :: pieces

def join (separator : CodePoint) : List Text → Text
  | [] => []
  | [piece] => piece
  | piece :: pieces => piece ++ separator :: join separator pieces

theorem split_ne_nil (separator : CodePoint) (text : Text) : split separator text ≠ [] := by
  cases text with
  | nil => simp [split]
  | cons c rest =>
    simp only [split]
    split
    · simp
    · split <;> simp

theorem join_cons_of_ne_nil (separator : CodePoint) (piece : Text) {pieces : List Text}
    (nonempty : pieces ≠ []) :
    join separator (piece :: pieces) = piece ++ separator :: join separator pieces := by
  cases pieces with
  | nil => contradiction
  | cons _ _ => rfl

theorem join_split (separator : CodePoint) (text : Text) :
    join separator (split separator text) = text := by
  induction text with
  | nil => rfl
  | cons c rest ih =>
    simp only [split]
    split
    · next same =>
      rw [join_cons_of_ne_nil _ _ (split_ne_nil _ _), ih, same]
      rfl
    · next different =>
      cases cut : split separator rest with
      | nil => exact absurd cut (split_ne_nil _ _)
      | cons piece pieces =>
        rw [cut] at ih
        cases pieces with
        | nil => simpa [join] using ih
        | cons _ _ => simpa [join] using ih

theorem not_mem_join {c separator : CodePoint} {pieces : List Text} (different : c ≠ separator)
    (free : ∀ piece ∈ pieces, c ∉ piece) : c ∉ join separator pieces := by
  induction pieces with
  | nil => exact List.not_mem_nil
  | cons piece rest ih =>
    obtain ⟨first, later⟩ := List.forall_mem_cons.mp free
    by_cases last : rest = []
    · subst last
      exact first
    · rw [join_cons_of_ne_nil separator piece last]
      simp [first, different, ih later]

theorem isEncodable_join {separator : CodePoint} (scalar : separator.isChar = true)
    {pieces : List Text} :
    isEncodable (join separator pieces) = true ↔ ∀ piece ∈ pieces, isEncodable piece = true := by
  induction pieces with
  | nil => simp [join, isEncodable]
  | cons piece pieces ih =>
    cases pieces with
    | nil => simp [join]
    | cons next rest =>
      rw [join_cons_of_ne_nil _ _ (List.cons_ne_nil _ _), isEncodable_append, isEncodable_cons, ih,
        and_iff_right scalar]
      simp only [List.mem_cons, forall_eq_or_imp]

theorem split_append_cons (separator : CodePoint) {piece : Text} (free : separator ∉ piece)
    (rest : Text) :
    split separator (piece ++ separator :: rest) = piece :: split separator rest := by
  induction piece with
  | nil => simp [split]
  | cons c piece ih =>
    simp only [List.mem_cons, not_or] at free
    simp only [List.cons_append, split, if_neg (Ne.symm free.1), ih free.2]

theorem split_of_free (separator : CodePoint) {piece : Text} (free : separator ∉ piece) :
    split separator piece = [piece] := by
  induction piece with
  | nil => rfl
  | cons c piece ih =>
    simp only [List.mem_cons, not_or] at free
    simp only [split, if_neg (Ne.symm free.1), ih free.2]

theorem split_join (separator : CodePoint) {pieces : List Text} (nonempty : pieces ≠ [])
    (free : ∀ piece ∈ pieces, separator ∉ piece) :
    split separator (join separator pieces) = pieces := by
  induction pieces with
  | nil => contradiction
  | cons piece pieces ih =>
    cases pieces with
    | nil => exact split_of_free separator (free piece List.mem_cons_self)
    | cons next rest =>
      rw [join_cons_of_ne_nil _ _ (by simp),
        split_append_cons _ (free piece List.mem_cons_self),
        ih (by simp) fun p hp => free p (List.mem_cons_of_mem _ hp)]

theorem free_of_mem_split (separator : CodePoint) {text piece : Text}
    (inside : piece ∈ split separator text) : separator ∉ piece := by
  induction text generalizing piece with
  | nil => simp_all [split]
  | cons c rest ih =>
    simp only [split] at inside
    split at inside
    · cases inside with
      | head => simp
      | tail _ later => exact ih later
    · next different =>
      cases cut : split separator rest with
      | nil => exact absurd cut (split_ne_nil _ _)
      | cons first others =>
        rw [cut] at inside ih
        cases inside with
        | head =>
          have := ih (List.mem_cons_self)
          simp [Ne.symm different, this]
        | tail _ later => exact ih (List.mem_cons_of_mem _ later)

theorem length_split (separator : CodePoint) (text : Text) :
    (split separator text).length = text.count separator + 1 := by
  induction text with
  | nil => rfl
  | cons c rest ih =>
    simp only [split]
    split
    · next same => simp [ih, same]
    · next different =>
      cases cut : split separator rest with
      | nil => exact absurd cut (split_ne_nil _ _)
      | cons _ _ =>
        rw [cut] at ih
        simpa [List.count_cons, different] using ih

/-- What stands before the first occurrence of a character, and what follows it if it occurs. -/
def cut (mark : CodePoint) : Text → Text × Option Text
  | [] => ([], none)
  | c :: rest =>
    if c = mark then ([], some rest)
    else let (before, after) := cut mark rest; (c :: before, after)

theorem cut_append (mark : CodePoint) {before : Text} (free : mark ∉ before) (rest : Text) :
    cut mark (before ++ rest) = (before ++ (cut mark rest).1, (cut mark rest).2) := by
  induction before with
  | nil => rfl
  | cons c before ih =>
    simp only [List.mem_cons, not_or] at free
    simp [cut, Ne.symm free.1, ih free.2]

theorem cut_of_free (mark : CodePoint) {text : Text} (free : mark ∉ text) :
    cut mark text = (text, none) := by
  simpa [cut] using cut_append mark free []

theorem cut_append_cons (mark : CodePoint) {before : Text} (free : mark ∉ before) (after : Text) :
    cut mark (before ++ mark :: after) = (before, some after) := by
  simpa [cut] using cut_append mark free (mark :: after)

theorem cut_eq_some_iff {mark : CodePoint} {text before after : Text} :
    cut mark text = (before, some after) ↔ text = before ++ mark :: after ∧ mark ∉ before := by
  constructor
  · intro found
    -- A character that is not the mark joins what stands before it, so that part varies.
    induction text generalizing before with
    | nil => simp [cut] at found
    | cons c rest ih =>
      simp only [cut] at found
      split at found
      · next same =>
        simp only [Prod.mk.injEq, Option.some.injEq] at found
        obtain ⟨rfl, rfl⟩ := found
        simp [same]
      · next different =>
        simp only [Prod.mk.injEq] at found
        obtain ⟨rfl, behind⟩ := found
        obtain ⟨same, free⟩ := ih (Prod.ext rfl behind)
        refine ⟨by rw [List.cons_append, ← same], ?_⟩
        simp [Ne.symm different, free]
  · rintro ⟨rfl, free⟩
    exact cut_append_cons mark free after

/-- What follows the last occurrence of a character; the whole text if it does not occur. -/
def afterLast (mark : CodePoint) (text : Text) : Text :=
  (text.reverse.takeWhile (· ≠ mark)).reverse

theorem afterLast_append (mark : CodePoint) {after : Text} (free : mark ∉ after) (before : Text) :
    afterLast mark (before ++ after) = afterLast mark before ++ after := by
  have kept : ∀ c ∈ after.reverse, decide (c ≠ mark) = true := fun c inside =>
    decide_eq_true fun same => free (same ▸ List.mem_reverse.mp inside)
  rw [afterLast, afterLast, List.reverse_append, List.takeWhile_append_of_pos kept,
    List.reverse_append, List.reverse_reverse]

theorem afterLast_of_free (mark : CodePoint) {text : Text} (free : mark ∉ text) :
    afterLast mark text = text := afterLast_append mark free []

theorem afterLast_append_cons (mark : CodePoint) {after : Text} (free : mark ∉ after)
    (before : Text) :
    afterLast mark (before ++ mark :: after) = after := by
  rw [List.append_cons, afterLast_append mark free]
  simp [afterLast]

/-- A text is divided at the last occurrence of a character in one way only. -/
theorem append_cons_inj {mark : CodePoint} {before after head tail : Text} (free : mark ∉ after)
    (also : mark ∉ tail) :
    before ++ mark :: after = head ++ mark :: tail ↔ before = head ∧ after = tail := by
  constructor
  · intro same
    have ends := congrArg (afterLast mark) same
    rw [afterLast_append_cons mark free, afterLast_append_cons mark also] at ends
    rw [ends] at same
    exact ⟨List.append_cancel_right same, ends⟩
  · rintro ⟨rfl, rfl⟩
    rfl

/-- The rest of a text that begins with the given lead. -/
def strip? (lead : Text) (text : Text) : Option Text :=
  match lead, text with
  | [], rest => some rest
  | _ :: _, [] => none
  | a :: lead, c :: rest => if a = c then strip? lead rest else none

theorem strip?_append (lead rest : Text) : strip? lead (lead ++ rest) = some rest := by
  induction lead with
  | nil => cases rest <;> rfl
  | cons a lead ih => simp [strip?, ih]

theorem strip?_eq_some_iff {lead text rest : Text} :
    strip? lead text = some rest ↔ text = lead ++ rest := by
  constructor
  · intro found
    induction lead generalizing text with
    | nil => cases text <;> simp_all [strip?]
    | cons a lead ih =>
      cases text with
      | nil => simp [strip?] at found
      | cons c text =>
        simp only [strip?] at found
        split at found
        · next same => simp [same, ih found]
        · simp at found
  · rintro rfl
    exact strip?_append lead rest

end Text

end SealedToken
