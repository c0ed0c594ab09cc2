import Dialogue.Double.Basic

namespace Dialogue

/-- A number as written: an integer of 64 bits, signed or unsigned, or a binary number. -/
inductive Number where
  | integer (n : Int)
  | double (d : Double)
deriving DecidableEq

/-- A value. The fields of an object stand in the order of their names. -/
inductive Value where
  | null
  | bool (b : Bool)
  | number (n : Number)
  | text (s : String)
  | list (items : List Value)
  | object (fields : List (String × Value))
deriving Inhabited

abbrev Record := List (String × Value)

namespace Number

/-- The integers a number can hold exactly. -/
def IsIntegerRange (n : Int) : Prop := -Int.ofNat (Nat.pow 2 63) ≤ n ∧ n < Int.ofNat (Nat.pow 2 64)

instance (n : Int) : Decidable (IsIntegerRange n) := inferInstanceAs (Decidable (_ ∧ _))

/-- The number as a binary one, rounded when an integer has too many digits. -/
def toExtended : Number → Extended
  | .integer n => Double.ofInt n
  | .double d => .finite d

end Number

namespace Value

mutual
def decEq : (a b : Value) → Decidable (a = b)
  | .null, .null => isTrue rfl
  | .bool a, .bool b => decidable_of_iff (a = b) ⟨congrArg _, Value.bool.inj⟩
  | .number a, .number b => decidable_of_iff (a = b) ⟨congrArg _, Value.number.inj⟩
  | .text a, .text b => decidable_of_iff (a = b) ⟨congrArg _, Value.text.inj⟩
  | .list a, .list b =>
    have := decEqList a b
    decidable_of_iff (a = b) ⟨congrArg _, Value.list.inj⟩
  | .object a, .object b =>
    have := decEqFields a b
    decidable_of_iff (a = b) ⟨congrArg _, Value.object.inj⟩
  | .null, .bool _ | .null, .number _ | .null, .text _ | .null, .list _ | .null, .object _
  | .bool _, .null | .bool _, .number _ | .bool _, .text _ | .bool _, .list _ | .bool _, .object _
  | .number _, .null | .number _, .bool _ | .number _, .text _ | .number _, .list _
  | .number _, .object _
  | .text _, .null | .text _, .bool _ | .text _, .number _ | .text _, .list _ | .text _, .object _
  | .list _, .null | .list _, .bool _ | .list _, .number _ | .list _, .text _ | .list _, .object _
  | .object _, .null | .object _, .bool _ | .object _, .number _ | .object _, .text _
  | .object _, .list _ => isFalse (fun h => by cases h)

def decEqList : (a b : List Value) → Decidable (a = b)
  | [], [] => isTrue rfl
  | [], _ :: _ => isFalse (fun h => by cases h)
  | _ :: _, [] => isFalse (fun h => by cases h)
  | x :: xs, y :: ys =>
    match decEq x y, decEqList xs ys with
    | isTrue h, isTrue hs => isTrue (by rw [h, hs])
    | isFalse h, _ => isFalse (fun e => h (List.cons.inj e).1)
    | _, isFalse hs => isFalse (fun e => hs (List.cons.inj e).2)

def decEqFields : (a b : List (String × Value)) → Decidable (a = b)
  | [], [] => isTrue rfl
  | [], _ :: _ => isFalse (fun h => by cases h)
  | _ :: _, [] => isFalse (fun h => by cases h)
  | (k, x) :: xs, (l, y) :: ys =>
    match decEq x y, decEqFields xs ys, String.decEq k l with
    | isTrue h, isTrue hs, isTrue hk => isTrue (by rw [h, hs, hk])
    | isFalse h, _, _ => isFalse (fun e => h (Prod.mk.inj (List.cons.inj e).1).2)
    | _, isFalse hs, _ => isFalse (fun e => hs (List.cons.inj e).2)
    | _, _, isFalse hk => isFalse (fun e => hk (Prod.mk.inj (List.cons.inj e).1).1)
end

instance : DecidableEq Value := decEq

def isNull : Value → Bool
  | .null => true
  | _ => false

def isScalar : Value → Bool
  | .list _ | .object _ => false
  | _ => true

def text? : Value → Option String
  | .text s => some s
  | _ => none

end Value

namespace Record

def get? : Record → String → Option Value
  | [], _ => none
  | (k, v) :: rest, name => if name = k then some v else get? rest name

/-- The record with a value put under a name, replacing the one it had. -/
def insert (name : String) (value : Value) : Record → Record
  | [] => [(name, value)]
  | (k, v) :: rest =>
    if name = k then (k, value) :: rest
    else if name < k then (name, value) :: (k, v) :: rest
    else (k, v) :: insert name value rest

def erase (name : String) (r : Record) : Record := r.filter fun f => f.1 ≠ name

def merge (r data : Record) : Record := data.foldl (fun r f => r.insert f.1 f.2) r

/-- A record from named values, the last one of a name winning. -/
def ofList (fields : List (String × Value)) : Record := merge [] fields

theorem get?_insert (r : Record) (name other : String) (value : Value) :
    (insert name value r).get? other = if other = name then some value else r.get? other := by
  induction r with
  | nil => simp [insert, get?]
  | cons f rest ih =>
    obtain ⟨k, v⟩ := f
    by_cases hk : name = k
    · subst hk; by_cases h : other = name <;> simp [insert, get?, h]
    · by_cases hlt : name < k
      · simp [insert, hk, hlt, get?]
      · simp only [insert, hk, hlt, if_false, get?, ih]
        by_cases h : other = name
        · subst h; simp [hk]
        · simp [h]

theorem get?_erase (r : Record) (name other : String) :
    (erase name r).get? other = if other = name then none else r.get? other := by
  induction r with
  | nil => simp [erase, get?]
  | cons f rest ih =>
    obtain ⟨k, v⟩ := f
    by_cases hk : k = name
    · subst hk
      have : erase k ((k, v) :: rest) = erase k rest := by simp [erase]
      rw [this, ih]
      by_cases h : other = k <;> simp [get?, h]
    · have : erase name ((k, v) :: rest) = (k, v) :: erase name rest := by simp [erase, hk]
      rw [this]
      by_cases h : other = k
      · subst h; simp [get?, hk]
      · simp [get?, h, ih]

end Record

end Dialogue
