import TauriVpn.Lib.Assoc

/-! JSON values: an object is the list of its members, and a floating-point number,
which nothing here computes with, is its bits. -/

namespace TauriVpn

inductive Value where
  | null
  | bool (b : Bool)
  | number (n : ℤ)
  | float (bits : UInt64)
  | string (s : String)
  | array (items : List Value)
  | object (members : List (String × Value))

namespace Value

def strings (xs : List String) : Value := .array (xs.map .string)

def nat (n : ℕ) : Value := .number n

def nats (ns : List ℕ) : Value := .array (ns.map nat)

/-- `value[key]`, `null` when it is missing. -/
def get (v : Value) (key : String) : Value :=
  match v with
  | .object members => (members.lookup key).getD .null
  | _ => .null

def asStr : Value → Option String
  | .string s => some s
  | _ => none

def isNull : Value → Bool
  | .null => true
  | _ => false

def ofOption : Option Value → Value
  | some value => value
  | none => .null

def optStr (s : Option String) : Value := ofOption (s.map .string)

theorem asStr_eq_some {value : Value} {s : String} : value.asStr = some s ↔ value = .string s := by
  cases value <;> simp [asStr]

@[simp] theorem asStr_optStr (s : Option String) : (optStr s).asStr = s := by
  cases s <;> rfl

/-- The elements of an array. -/
def items : Value → List Value
  | .array items => items
  | _ => []

/-- `value[key] = item`, only ever done to an object. -/
def set (v : Value) (key : String) (item : Value) : Value :=
  match v with
  | .object members => .object (Assoc.insert key item members)
  | v => v

/-- The object without its members that are `null`. -/
def stripNulls : Value → Value
  | .object members => .object (members.filter fun m => !m.2.isNull)
  | v => v

@[simp] theorem get_object (members : List (String × Value)) (key : String) :
    (object members).get key = (members.lookup key).getD .null := rfl

def IsObject (v : Value) : Prop := ∃ members, v = .object members

theorem IsObject.set {v : Value} (h : v.IsObject) (key : String) (item : Value) :
    (v.set key item).IsObject := by
  obtain ⟨members, rfl⟩ := h
  exact ⟨_, rfl⟩

/-- Writing one member is read back there and nowhere else. -/
theorem IsObject.get_set {v : Value} (h : v.IsObject) (key k : String) (item : Value) :
    (v.set key item).get k = if k = key then item else v.get k := by
  obtain ⟨members, rfl⟩ := h
  simp only [Value.set, get_object, Assoc.lookup_insert]
  split_ifs <;> rfl

/-- What is missing from an object reads as `null`, so dropping `null`s is not seen. -/
theorem get_stripNulls {members : List (String × Value)} (h : (members.map Prod.fst).Nodup) (key : String) :
    (object members).stripNulls.get key = (object members).get key := by
  simp only [stripNulls, get_object]
  induction members with
  | nil => rfl
  | cons m members ih =>
    obtain ⟨k, value⟩ := m
    obtain ⟨hk, hmembers⟩ := List.nodup_cons.mp h
    rw [List.filter_cons]
    by_cases hkey : key = k
    · subst hkey
      cases hnull : value.isNull with
      | false => simp
      | true =>
        have hvalue : value = .null := by
          cases value with
          | null => rfl
          | bool | number | float | string | array | object => cases hnull
        have hnone : (members.filter fun m => !m.2.isNull).lookup key = none := by
          rw [List.lookup_eq_none_iff]
          intro other hother
          have hmem : other.1 ∈ members.map Prod.fst := List.mem_map_of_mem (List.mem_filter.mp hother).1
          have hne : key ≠ other.1 := fun heq => hk (heq ▸ hmem)
          simpa using hne
        rw [if_neg (by simp), hnone, List.lookup_cons_self, hvalue]
        rfl
    · have hbeq : (key == k) = false := beq_false_of_ne hkey
      cases value.isNull <;> simp [List.lookup_cons, hbeq, ih hmembers]

theorem IsObject.stripNulls {v : Value} (h : v.IsObject) : v.stripNulls.IsObject := by
  obtain ⟨members, rfl⟩ := h
  exact ⟨_, rfl⟩

end Value

end TauriVpn
