/-!
Finite maps that keep their keys in the order in which they came. A key whose value is replaced
keeps its place; one that was erased and comes back goes last.
-/

set_option autoImplicit false

namespace SealedToken

/-- No key has two values. -/
structure OrderedMap (Key Value : Type) where
  entries : List (Key × Value)
  distinct : (entries.map Prod.fst).Nodup

namespace OrderedMap

variable {Key Value : Type}

def empty : OrderedMap Key Value := ⟨[], List.nodup_nil⟩

def keys (map : OrderedMap Key Value) : List Key := map.entries.map Prod.fst

def size (map : OrderedMap Key Value) : Nat := map.entries.length

variable [DecidableEq Key]

def find? (map : OrderedMap Key Value) (key : Key) : Option Value :=
  (map.entries.find? (·.1 = key)).map Prod.snd

def contains (map : OrderedMap Key Value) (key : Key) : Bool := (map.find? key).isSome

/-- A value in the place of the one that its key has, or at the end. -/
def place (key : Key) (value : Value) : List (Key × Value) → List (Key × Value)
  | [] => [(key, value)]
  | (other, old) :: rest =>
    if other = key then (other, value) :: rest else (other, old) :: place key value rest

theorem keys_place (key : Key) (value : Value) (entries : List (Key × Value)) :
    (place key value entries).map Prod.fst =
      if key ∈ entries.map Prod.fst then entries.map Prod.fst
      else entries.map Prod.fst ++ [key] := by
  induction entries with
  | nil => simp [place]
  | cons entry rest ih =>
    by_cases same : entry.1 = key
    · simp [place, same]
    · simp only [place, if_neg same, List.map_cons, ih, List.mem_cons, Ne.symm same, false_or]
      split <;> rfl

theorem nodup_place (key : Key) (value : Value) {entries : List (Key × Value)}
    (distinct : (entries.map Prod.fst).Nodup) : ((place key value entries).map Prod.fst).Nodup := by
  rw [keys_place]
  split
  · exact distinct
  · next fresh =>
    rw [List.nodup_append]
    refine ⟨distinct, by simp, ?_⟩
    intro a inside b single
    rw [List.mem_singleton] at single
    rintro rfl
    exact fresh (single ▸ inside)

def insert (map : OrderedMap Key Value) (key : Key) (value : Value) : OrderedMap Key Value :=
  ⟨place key value map.entries, nodup_place key value map.distinct⟩

def erase (map : OrderedMap Key Value) (key : Key) : OrderedMap Key Value :=
  ⟨map.entries.filter (·.1 ≠ key),
    List.Nodup.sublist (List.Sublist.map _ List.filter_sublist) map.distinct⟩

variable (map : OrderedMap Key Value) (key other : Key) (value : Value)

theorem keys_insert :
    (map.insert key value).keys = if key ∈ map.keys then map.keys else map.keys ++ [key] :=
  keys_place key value map.entries

theorem keys_erase : (map.erase key).keys = map.keys.filter (· ≠ key) := by
  rw [keys, keys, List.filter_map]
  rfl

theorem find?_insert :
    (map.insert key value).find? other = if key = other then some value else map.find? other := by
  simp only [find?, insert]
  induction map.entries with
  | nil => by_cases same : key = other <;> simp [place, same]
  | cons entry rest ih =>
    -- A value goes to the place of its key, which is where the search stops.
    by_cases first : entry.1 = key
    · by_cases same : key = other
      · simp [place, first, same]
      · simp [place, first, same]
    · by_cases same : entry.1 = other
      · subst same
        simp [place, first, Ne.symm first]
      · simpa [place, first, same] using ih

theorem find?_erase :
    (map.erase key).find? other = if key = other then none else map.find? other := by
  simp only [find?, erase]
  split
  · next same =>
    subst same
    rw [Option.map_eq_none_iff, List.find?_eq_none]
    intro entry kept
    simpa using (List.mem_filter.mp kept).2
  · next different =>
    congr 1
    rw [List.find?_filter]
    congr 1
    funext entry
    by_cases same : entry.1 = other
    · simp [same, Ne.symm different]
    · simp [same]

theorem contains_iff_mem_keys : map.contains key = true ↔ key ∈ map.keys := by
  simp only [contains, find?, Option.isSome_map, List.find?_isSome, keys, List.mem_map,
    decide_eq_true_eq]

variable {map key}

theorem find?_eq_none_iff : map.find? key = none ↔ key ∉ map.keys := by
  rw [← contains_iff_mem_keys, contains, Bool.not_eq_true, Option.isSome_eq_false_iff,
    Option.isNone_iff_eq_none]

theorem find?_of_not_contains (absent : map.contains key = false) : map.find? key = none :=
  Option.isNone_iff_eq_none.mp (Option.isSome_eq_false_iff.mp absent)

/-- A key that has no value is in the way of none. -/
theorem filter_keys_of_not_contains (absent : map.contains key = false) :
    map.keys.filter (· ≠ key) = map.keys := by
  rw [List.filter_eq_self]
  intro other inside
  apply decide_eq_true
  rintro rfl
  rw [(map.contains_iff_mem_keys other).mpr inside] at absent
  contradiction

end OrderedMap

end SealedToken
