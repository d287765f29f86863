import Mathlib.Tactic

/-! Maps as lists of their entries. Inserting writes one key; a map made from a
sequence of pairs has, at each key, the value of the last pair with that key. -/

namespace Assoc

variable {κ α β : Type*} [DecidableEq κ]

/-- The entry at the key is replaced, or a new one is added at the end. -/
def insert (key : κ) (item : α) : List (κ × α) → List (κ × α)
  | [] => [(key, item)]
  | entry :: rest => if entry.1 = key then (key, item) :: rest else entry :: insert key item rest

/-- The map with the pairs inserted one after the other. -/
def ofPairs (pairs : List (κ × α)) : List (κ × α) := pairs.foldl (fun m pair => insert pair.1 pair.2 m) []

/-- The values of a key among the pairs are those of an option. -/
def Carries (pairs : List (κ × α)) (key : κ) (value : Option α) : Prop :=
  ∀ a, (key, a) ∈ pairs ↔ value = some a

theorem lookup_cons_of_ne {k key : κ} (h : k ≠ key) (item : α) (rest : List (κ × α)) :
    ((key, item) :: rest).lookup k = rest.lookup k := by
  rw [List.lookup_cons, beq_false_of_ne h]

/-- An inserted value is read back at its key and nowhere else. -/
theorem lookup_insert (key : κ) (item : α) (m : List (κ × α)) (k : κ) :
    (insert key item m).lookup k = if k = key then some item else m.lookup k := by
  induction m with
  | nil =>
    rw [insert]
    by_cases hk : k = key
    · rw [if_pos hk, hk, List.lookup_cons_self]
    · rw [if_neg hk, lookup_cons_of_ne hk]
  | cons entry rest ih =>
    obtain ⟨name, old⟩ := entry
    rw [insert]
    by_cases hname : name = key
    · rw [if_pos hname]
      by_cases hk : k = key
      · rw [if_pos hk, hk, List.lookup_cons_self]
      · rw [if_neg hk, lookup_cons_of_ne hk, lookup_cons_of_ne (hname ▸ hk)]
    · rw [if_neg hname]
      by_cases hk : k = name
      · rw [hk, if_neg hname, List.lookup_cons_self, List.lookup_cons_self]
      · rw [lookup_cons_of_ne hk, lookup_cons_of_ne hk, ih]

/-- The last pair decides. -/
theorem lookup_ofPairs_concat (pairs : List (κ × α)) (pair : κ × α) (k : κ) :
    (ofPairs (pairs ++ [pair])).lookup k = if k = pair.1 then some pair.2 else (ofPairs pairs).lookup k := by
  simp only [ofPairs, List.foldl_append, List.foldl_cons, List.foldl_nil]
  exact lookup_insert _ _ _ _

theorem lookup_ofPairs_mem {pairs : List (κ × α)} {k : κ} {a : α} (h : (ofPairs pairs).lookup k = some a) :
    (k, a) ∈ pairs := by
  induction pairs using List.reverseRecOn with
  | nil => cases h
  | append_singleton rest pair ih =>
    rw [lookup_ofPairs_concat] at h
    rw [List.mem_append, List.mem_singleton]
    split_ifs at h with hk
    · cases h
      exact .inr (Prod.ext hk rfl)
    · exact .inl (ih h)

theorem lookup_ofPairs_isSome {pairs : List (κ × α)} {k : κ} {a : α} (h : (k, a) ∈ pairs) :
    ((ofPairs pairs).lookup k).isSome = true := by
  induction pairs using List.reverseRecOn with
  | nil => cases h
  | append_singleton rest pair ih =>
    rw [lookup_ofPairs_concat]
    split_ifs with hk
    · rfl
    · rw [List.mem_append, List.mem_singleton] at h
      obtain hrest | rfl := h
      · exact ih hrest
      · exact absurd rfl hk

/-- Where the pairs agree on a key, the map has their value. -/
theorem lookup_ofPairs {pairs : List (κ × α)} {key : κ} {value : Option α} (h : Carries pairs key value) :
    (ofPairs pairs).lookup key = value := by
  cases hlookup : (ofPairs pairs).lookup key with
  | some a => exact ((h a).mp (lookup_ofPairs_mem hlookup)).symm
  | none =>
    cases value with
    | none => rfl
    | some a =>
      have hsome := lookup_ofPairs_isSome ((h a).mpr rfl)
      rw [hlookup] at hsome
      cases hsome

theorem lookup_map (f : α → β) (m : List (κ × α)) (k : κ) :
    (m.map fun entry => (entry.1, f entry.2)).lookup k = (m.lookup k).map f := by
  induction m with
  | nil => rfl
  | cons entry rest ih =>
    obtain ⟨name, item⟩ := entry
    rw [List.map_cons]
    by_cases hk : k = name
    · rw [hk, List.lookup_cons_self, List.lookup_cons_self]
      rfl
    · rw [lookup_cons_of_ne hk, lookup_cons_of_ne hk, ih]

/-- The pairs of the parameters that are present. -/
def present (parameters : List (κ × Option α)) : List (κ × α) :=
  parameters.filterMap fun p => p.2.map fun a => (p.1, a)

omit [DecidableEq κ] in
/-- Parameters with different keys are carried by the pairs of those present. -/
theorem carries_present {parameters : List (κ × Option α)} (hkeys : (parameters.map Prod.fst).Nodup)
    {p : κ × Option α} (hp : p ∈ parameters) : Carries (present parameters) p.1 p.2 := by
  intro a
  constructor
  · intro hmem
    obtain ⟨q, hq, hpair⟩ := List.mem_filterMap.mp hmem
    obtain ⟨b, hb, heq⟩ := Option.map_eq_some_iff.mp hpair
    have hsame : p = q := List.inj_on_of_nodup_map hkeys hp hq (congrArg Prod.fst heq).symm
    have hvalue : b = a := congrArg Prod.snd heq
    rw [hsame, hb, hvalue]
  · intro ha
    exact List.mem_filterMap.mpr ⟨p, hp, by rw [ha]; rfl⟩

end Assoc
