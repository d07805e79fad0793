import Rustuya.ByteCodec

/-!
# JSON values

Values and the operations on objects, which are kept in the order of their keys. Reading
and writing texts is left to a parser given as a parameter; of that parser it is only
assumed that it accepts what the writer produces, up to its limit on nesting.
-/
namespace Json

open ByteCodec

inductive Number where
  | posInt (n : UInt64)
  | negInt (n : Int64)
  | float (bits : UInt64)
  deriving DecidableEq, Repr

inductive Value where
  | null
  | bool (b : Bool)
  | number (n : Number)
  | string (s : String)
  | array (items : List Value)
  | object (fields : List (String × Value))
  deriving Repr

abbrev Map := List (String × Value)

def Value.ofNat (n : Nat) : Value := .number (.posInt (UInt64.ofNat n))

namespace Map

def get (m : Map) (key : String) : Option Value := m.lookup key

def remove (m : Map) (key : String) : Map := m.filter (fun kv => kv.1 ≠ key)

def place (key : String) (v : Value) : Map → Map
  | [] => [(key, v)]
  | kv :: rest => if key < kv.1 then (key, v) :: kv :: rest else kv :: place key v rest

def insert (m : Map) (key : String) (v : Value) : Map := place key v (remove m key)

def retain (m : Map) (keep : String → Bool) : Map := m.filter (fun kv => keep kv.1)

def extend (m other : Map) : Map := other.foldl (fun acc kv => insert acc kv.1 kv.2) m

section Lookup

variable {key other : String} {v : Value} {m : Map}

@[simp] theorem get_nil : get [] key = none := rfl

theorem get_cons_self (rest : Map) : get ((key, v) :: rest) key = some v := by
  rw [get, List.lookup_cons_self]

theorem get_cons_of_ne (h : other ≠ key) (rest : Map) :
    get ((key, v) :: rest) other = get rest other := by
  have hne : (other == key) = false := beq_eq_false_iff_ne.mpr h
  rw [get, List.lookup_cons, hne]
  rfl

@[simp] theorem get_remove_self : (m.remove key).get key = none := by
  induction m with
  | nil => rfl
  | cons kv rest ih =>
    rw [remove, List.filter_cons]
    split
    next hkept =>
      have hne : key ≠ kv.1 := fun h => of_decide_eq_true hkept h.symm
      exact (get_cons_of_ne hne _).trans ih
    next => exact ih

theorem get_retain {keep : String → Bool} (h : keep key = true) :
    (m.retain keep).get key = m.get key := by
  induction m with
  | nil => rfl
  | cons kv rest ih =>
    rw [retain, List.filter_cons]
    by_cases hkey : key = kv.1
    · rw [← hkey, if_pos h, hkey]
      exact (get_cons_self _).trans (get_cons_self _).symm
    · rw [get_cons_of_ne hkey]
      split
      · exact (get_cons_of_ne hkey _).trans ih
      · exact ih

@[simp] theorem get_remove_of_ne (h : other ≠ key) : (m.remove key).get other = m.get other := by
  change (m.retain fun k => k ≠ key).get other = m.get other
  exact get_retain (decide_eq_true h)

theorem mem_of_mem_place {kv : String × Value} (h : kv ∈ place key v m) :
    kv = (key, v) ∨ kv ∈ m := by
  induction m with
  | nil => exact .inl (List.mem_singleton.mp h)
  | cons first rest ih =>
    rw [place] at h
    split at h
    · exact List.mem_cons.mp h
    · rcases List.mem_cons.mp h with rfl | h
      · exact .inr List.mem_cons_self
      · exact (ih h).imp_right (List.mem_cons_of_mem first)

theorem mem_of_mem_insert {kv : String × Value} (h : kv ∈ m.insert key v) :
    kv = (key, v) ∨ kv ∈ m :=
  (mem_of_mem_place h).imp_right List.mem_of_mem_filter

theorem get_place_self (h : m.get key = none) : (place key v m).get key = some v := by
  induction m with
  | nil => exact get_cons_self []
  | cons kv rest ih =>
    rw [place]
    split
    · exact get_cons_self _
    · have hne : key ≠ kv.1 := by
        rintro rfl
        rw [get_cons_self] at h
        cases h
      rw [get_cons_of_ne hne] at h
      exact (get_cons_of_ne hne _).trans (ih h)

theorem get_place_of_ne (h : other ≠ key) : (place key v m).get other = m.get other := by
  induction m with
  | nil => exact get_cons_of_ne h []
  | cons kv rest ih =>
    rw [place]
    split
    · exact get_cons_of_ne h _
    · by_cases hother : other = kv.1
      · rw [hother]
        exact (get_cons_self _).trans (get_cons_self _).symm
      · exact (get_cons_of_ne hother _).trans (ih.trans (get_cons_of_ne hother _).symm)

@[simp] theorem get_insert_self : (m.insert key v).get key = some v :=
  get_place_self get_remove_self

@[simp] theorem get_insert_of_ne (h : other ≠ key) : (m.insert key v).get other = m.get other :=
  (get_place_of_ne h).trans (get_remove_of_ne h)

/-- No two fields have the same key. The objects of the source are maps, of which this
holds always. -/
def Distinct (m : Map) : Prop := (m.map Prod.fst).Nodup

instance (m : Map) : Decidable m.Distinct := inferInstanceAs (Decidable (List.Nodup _))

theorem Distinct.remove (h : m.Distinct) (key : String) : (m.remove key).Distinct :=
  h.sublist (List.filter_sublist.map Prod.fst)

theorem get_eq_none_of_notMem (h : key ∉ m.map Prod.fst) : m.get key = none := by
  induction m with
  | nil => rfl
  | cons kv rest ih =>
    rw [List.map_cons, List.mem_cons, not_or] at h
    exact (get_cons_of_ne h.1 rest).trans (ih h.2)

theorem get_extend {m' : Map} (h : m'.Distinct) :
    (m.extend m').get key = (m'.get key).or (m.get key) := by
  induction m' generalizing m with
  | nil => rfl
  | cons kv rest ih =>
    obtain ⟨hhead, hrest⟩ := List.nodup_cons.mp h
    have hextend : m.extend (kv :: rest) = (m.insert kv.1 kv.2).extend rest := rfl
    rw [hextend, ih hrest]
    by_cases hkey : key = kv.1
    · rw [hkey, get_eq_none_of_notMem hhead, get_insert_self, get_cons_self]
      rfl
    · rw [get_insert_of_ne hkey, get_cons_of_ne hkey]

end Lookup

end Map

def Value.pointer : Value → List String → Option Value
  | v, [] => some v
  | .object fields, key :: path => (Map.get fields key).bind fun v => v.pointer path
  | _, _ :: _ => none

mutual

def Value.keys : Value → List String
  | .null | .bool _ | .number _ | .string _ => []
  | .array items => Value.keysItems items
  | .object fields => Value.keysFields fields

def Value.keysItems : List Value → List String
  | [] => []
  | v :: rest => v.keys ++ Value.keysItems rest

def Value.keysFields : List (String × Value) → List String
  | [] => []
  | (key, v) :: rest => key :: v.keys ++ Value.keysFields rest

end

/-- The keys of a value outside what is reached along a path. -/
def Value.keysOutside : List String → Value → List String
  | [], _ => []
  | key :: path, .object fields =>
    fields.flatMap fun kv => kv.1 :: (if kv.1 = key then kv.2.keysOutside path else kv.2.keys)
  | _ :: _, v => v.keys

mutual

/-- The number of objects and arrays around the innermost value. -/
def Value.depth : Value → Nat
  | .null | .bool _ | .number _ | .string _ => 0
  | .array items => Value.depthItems items + 1
  | .object fields => Value.depthFields fields + 1

def Value.depthItems : List Value → Nat
  | [] => 0
  | v :: rest => max v.depth (Value.depthItems rest)

def Value.depthFields : List (String × Value) → Nat
  | [] => 0
  | (_, v) :: rest => max v.depth (Value.depthFields rest)

end

section Depth

theorem depthFields_filter_le (keep : String × Value → Bool) (m : Map) :
    Value.depthFields (m.filter keep) ≤ Value.depthFields m := by
  induction m with
  | nil => exact Nat.le_refl _
  | cons kv rest ih =>
    rw [Value.depthFields, List.filter_cons]
    split
    · rw [Value.depthFields]
      omega
    · omega

theorem depthFields_place (key : String) (v : Value) (m : Map) :
    Value.depthFields (Map.place key v m) = max v.depth (Value.depthFields m) := by
  induction m with
  | nil => rfl
  | cons kv rest ih =>
    rw [Map.place]
    split
    · rw [Value.depthFields]
    · rw [Value.depthFields, ih, Value.depthFields]
      omega

theorem depthFields_insert_le (m : Map) (key : String) (v : Value) :
    Value.depthFields (m.insert key v) ≤ max v.depth (Value.depthFields m) := by
  rw [Map.insert, depthFields_place]
  have h := depthFields_filter_le (fun kv => kv.1 ≠ key) m
  rw [Map.remove]
  omega

theorem depthFields_extend_le (m other : Map) :
    Value.depthFields (m.extend other) ≤ max (Value.depthFields m) (Value.depthFields other) := by
  induction other generalizing m with
  | nil => exact Nat.le_max_left _ _
  | cons kv rest ih =>
    have hinsert := depthFields_insert_le m kv.1 kv.2
    have hrest := ih (m.insert kv.1 kv.2)
    have hfields : Value.depthFields (kv :: rest) = max kv.2.depth (Value.depthFields rest) := rfl
    change Value.depthFields ((m.insert kv.1 kv.2).extend rest) ≤ _
    omega

theorem depth_get_le {m : Map} {key : String} {v : Value} (h : m.get key = some v) :
    v.depth ≤ Value.depthFields m := by
  induction m with
  | nil => cases h
  | cons kv rest ih =>
    have hfields : Value.depthFields (kv :: rest) = max kv.2.depth (Value.depthFields rest) := rfl
    rw [Map.get, List.lookup_cons] at h
    split at h
    · cases h
      omega
    · have hle := ih h
      omega

end Depth

structure Codec where
  fromSlice : Bytes → Option Value
  toVec : Value → Bytes

/-- The parser gives up inside the 128th object or array. -/
def Codec.Accepts (S : Codec) : Prop :=
  ∀ v : Value, v.depth < 128 → (S.fromSlice (S.toVec v)).isSome

def Codec.Writes (S : Codec) : Prop := ∀ v : Value, S.toVec v ≠ []

/-- What is used of the parser on texts that the writer has not produced. A text begins with
no NUL byte. The text of an object holds its keys, each with quotes, a colon, a value and a
comma or brace. And what stands before the text of an object can only be blank. -/
structure Codec.Reads (S : Codec) : Prop where
  opening : ∀ rest, S.fromSlice (0 :: rest) = none
  keys : ∀ text (fields : Map) k l, S.fromSlice text = some (.object fields) → k ≠ l →
    (fields.get k).isSome → (fields.get l).isSome →
    k.utf8ByteSize + l.utf8ByteSize + 10 < text.length
  blank : ∀ text (fields : Map) before v, S.fromSlice text = some (.object fields) →
    S.fromSlice (before ++ text) = some v → v = .object fields

end Json
