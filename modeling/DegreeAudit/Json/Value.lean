import DegreeAudit.Decimal.Binary64

/-!
# JSON values

A document is kept as it was sent: whole numbers of sixty-four bits stay whole, all other numbers
are finite doubles, and an object is a list of members in the order of their keys' first appearance.
Objects are built with `put`, which lets a repeated key keep its place and take the later value;
hence no object that is read holds a key twice (`Value.WellKeyed`).
-/

namespace DegreeAudit.Json

/-- A number as it can be sent: a whole number in the range of the signed or the unsigned words of
sixty-four bits, or a finite double. -/
inductive Number where
  | integer (n : Int) (fits : -0x8000000000000000 ≤ n ∧ n < 0x10000000000000000)
  | double (x : Decimal.Binary64)
deriving DecidableEq, Repr

inductive Value where
  | null
  | bool (b : Bool)
  | number (n : Number)
  | text (s : String)
  | array (items : List Value)
  | object (members : List (String × Value))
deriving Repr

/-- Sets a key: a key that is present keeps its place, a new one goes last. -/
def put {α : Type} (key : String) (value : α) : List (String × α) → List (String × α)
  | [] => [(key, value)]
  | member :: rest =>
    if member.1 = key then (key, value) :: rest else member :: put key value rest

def get? {α : Type} (key : String) (members : List (String × α)) : Option α :=
  (members.find? (·.1 = key)).map (·.2)

def keys {α : Type} (members : List (String × α)) : List String := members.map (·.1)

theorem mem_keys_put {α : Type} {key other : String} {value : α} {members : List (String × α)} :
    other ∈ keys (put key value members) ↔ other = key ∨ other ∈ keys members := by
  induction members with
  | nil => simp [put, keys]
  | cons member rest ih =>
    by_cases h : member.1 = key
    · simp [put, keys, h]
    · simp only [put, h, if_false, keys, List.map_cons, List.mem_cons] at ih ⊢
      rw [ih]
      grind

theorem nodup_keys_put {α : Type} {key : String} {value : α} {members : List (String × α)}
    (h : (keys members).Nodup) : (keys (put key value members)).Nodup := by
  induction members with
  | nil => simp [put, keys]
  | cons member rest ih =>
    by_cases hkey : member.1 = key
    · have hput : keys (put key value (member :: rest)) = keys (member :: rest) := by
        simp [put, keys, hkey]
      rwa [hput]
    · have hput :
          keys (put key value (member :: rest)) = member.1 :: keys (put key value rest) := by
        simp [put, keys, hkey]
      have hcons : member.1 ∉ keys rest ∧ (keys rest).Nodup := List.nodup_cons.1 h
      rw [hput, List.nodup_cons, mem_keys_put]
      refine ⟨?_, ih hcons.2⟩
      rintro (heq | hmem)
      · exact hkey heq
      · exact hcons.1 hmem

/-- A key that is put last among new keys extends the list. -/
theorem put_of_not_mem {α : Type} {key : String} {value : α} {members : List (String × α)}
    (h : key ∉ keys members) : put key value members = members ++ [(key, value)] := by
  induction members with
  | nil => rfl
  | cons member rest ih =>
    simp only [keys, List.map_cons, List.mem_cons, not_or] at h
    simp [put, Ne.symm h.1, ih h.2]

namespace Value

mutual

/-- How many arrays and objects are open at once inside the value. -/
def depth : Value → Nat
  | array items => depthOfItems items + 1
  | object members => depthOfMembers members + 1
  | _ => 0

def depthOfItems : List Value → Nat
  | [] => 0
  | item :: rest => max item.depth (depthOfItems rest)

def depthOfMembers : List (String × Value) → Nat
  | [] => 0
  | (_, value) :: rest => max value.depth (depthOfMembers rest)

end

/-- Every object inside the value has distinct keys. -/
inductive WellKeyed : Value → Prop where
  | null : WellKeyed null
  | bool (b : Bool) : WellKeyed (bool b)
  | number (n : Number) : WellKeyed (number n)
  | text (s : String) : WellKeyed (text s)
  | array {items : List Value} (h : ∀ item ∈ items, WellKeyed item) : WellKeyed (array items)
  | object {members : List (String × Value)} (distinct : (keys members).Nodup)
      (h : ∀ member ∈ members, WellKeyed member.2) : WellKeyed (object members)

def text? : Value → Option String
  | text s => some s
  | _ => none

end Value

end DegreeAudit.Json
