-- SUMMARY: JSON values, equality on them, and access to members.
import SdnZones.Dict
import SdnZones.Number.Shortest

/-!
# JSON values

A JSON number is an integer or a double; the two are kept apart. The members of an
object stand in a list: in ascending order of their names for a value that was read,
in an order of its writer's choice for one that is to be written.
-/

namespace SdnZones

/-- A JSON value. -/
inductive Json where
  | null
  | bool (b : Bool)
  | int (i : Int)
  | float (x : Binary64)
  | text (s : String)
  | array (items : List Json)
  | object (members : List (String × Json))

namespace Json

mutual

/-- Equality of values. -/
def beq : Json → Json → Bool
  | .null, .null => true
  | .bool a, .bool b => a == b
  | .int a, .int b => a == b
  | .float a, .float b => decide (a = b)
  | .text a, .text b => a == b
  | .array as, .array bs => beqItems as bs
  | .object as, .object bs => beqMembers as bs
  | _, _ => false

/-- Equality of items. -/
def beqItems : List Json → List Json → Bool
  | [], [] => true
  | a :: as, b :: bs => beq a b && beqItems as bs
  | _, _ => false

/-- Equality of members. -/
def beqMembers : List (String × Json) → List (String × Json) → Bool
  | [], [] => true
  | (k, a) :: as, (l, b) :: bs => k == l && beq a b && beqMembers as bs
  | _, _ => false

end

mutual

theorem eq_of_beq : ∀ {a b : Json}, beq a b = true → a = b
  | .null, b, h => by cases b <;> simp_all [beq]
  | .bool _, b, h => by cases b <;> simp_all [beq]
  | .int _, b, h => by cases b <;> simp_all [beq]
  | .float _, b, h => by cases b <;> simp_all [beq]
  | .text _, b, h => by cases b <;> simp_all [beq]
  | .array as, b, h => by
    cases b with
    | array bs => rw [beq] at h; rw [eq_of_beqItems h]
    | _ => simp [beq] at h
  | .object as, b, h => by
    cases b with
    | object bs => rw [beq] at h; rw [eq_of_beqMembers h]
    | _ => simp [beq] at h

theorem eq_of_beqItems : ∀ {as bs : List Json}, beqItems as bs = true → as = bs
  | [], bs, h => by cases bs <;> simp_all [beqItems]
  | a :: as, bs, h => by
    cases bs with
    | nil => simp [beqItems] at h
    | cons b bs =>
      rw [beqItems, Bool.and_eq_true] at h
      rw [eq_of_beq h.1, eq_of_beqItems h.2]

theorem eq_of_beqMembers : ∀ {as bs : List (String × Json)}, beqMembers as bs = true → as = bs
  | [], bs, h => by cases bs <;> simp_all [beqMembers]
  | (k, a) :: as, bs, h => by
    cases bs with
    | nil => simp [beqMembers] at h
    | cons b bs =>
      obtain ⟨l, b⟩ := b
      rw [beqMembers, Bool.and_eq_true, Bool.and_eq_true, beq_iff_eq] at h
      rw [h.1.1, eq_of_beq h.1.2, eq_of_beqMembers h.2]

end

mutual

theorem beq_self : ∀ a : Json, beq a a = true
  | .null => rfl
  | .bool _ => by simp [beq]
  | .int _ => by simp [beq]
  | .float _ => by simp [beq]
  | .text _ => by simp [beq]
  | .array as => by rw [beq]; exact beqItems_self as
  | .object as => by rw [beq]; exact beqMembers_self as

theorem beqItems_self : ∀ as : List Json, beqItems as as = true
  | [] => rfl
  | a :: as => by rw [beqItems, beq_self a, beqItems_self as]; rfl

theorem beqMembers_self : ∀ as : List (String × Json), beqMembers as as = true
  | [] => rfl
  | (k, a) :: as => by rw [beqMembers, beq_self a, beqMembers_self as]; simp

end

instance : DecidableEq Json := fun a b =>
  if h : beq a b = true then .isTrue (eq_of_beq h)
  else .isFalse fun e => h (e ▸ beq_self a)

instance : Inhabited Json := ⟨.null⟩

/-- The member of a name, if the value is an object that has one. -/
def member? (name : String) : Json → Option Json
  | .object members => members.lookup name
  | _ => none

/-- The text of a text value. -/
def text? : Json → Option String
  | .text s => some s
  | _ => none

/-- Members in ascending order of their names; of members with one name the last stays. -/
def sortMembers (members : List (String × Json)) : List (String × Json) :=
  (Dict.ofList members).toList

/-- The object of a dictionary. -/
def ofDict (d : Dict Json) : Json := .object d.toList

/-- The members of an object as a dictionary; any other value has none. -/
def toDict : Json → Dict Json
  | .object members => .ofList members
  | _ => .empty

end Json

end SdnZones
