namespace Instrumentation

/-! Shared objects. An object is known by its key: two handles denote the same
object exactly when their keys are equal. A table gives every key a value; a key
that was never written holds the default one, so reading what was just written
needs no side condition. -/

structure Key (Object : Type) where
  index : Nat
  deriving Repr

instance {Object : Type} : DecidableEq (Key Object) := fun left right =>
  if same : left.index = right.index then
    isTrue (by cases left; cases right; cases same; rfl)
  else
    isFalse fun equal => same (congrArg Key.index equal)

structure Table (Object : Type) where
  cells : List Object := []

namespace Table

variable {Object : Type}

instance : Inhabited (Table Object) := ⟨{}⟩

def size (table : Table Object) : Nat :=
  table.cells.length

/-- Writes one cell, first filling the cells before it with the default. -/
def putCell [Inhabited Object] : List Object → Nat → Object → List Object
  | [], 0, object => [object]
  | [], index + 1, object => default :: putCell [] index object
  | _ :: rest, 0, object => object :: rest
  | head :: rest, index + 1, object => head :: putCell rest index object

def get [Inhabited Object] (table : Table Object) (key : Key Object) : Object :=
  table.cells.getD key.index default

def put [Inhabited Object] (table : Table Object) (key : Key Object) (object : Object) :
    Table Object :=
  ⟨putCell table.cells key.index object⟩

def modify [Inhabited Object] (table : Table Object) (key : Key Object)
    (change : Object → Object) : Table Object :=
  table.put key (change (table.get key))

def nextKey (table : Table Object) : Key Object :=
  ⟨table.size⟩

def add (table : Table Object) (object : Object) : Table Object :=
  ⟨table.cells ++ [object]⟩

theorem getD_putCell [Inhabited Object] (cells : List Object) (index other : Nat)
    (object : Object) :
    (putCell cells index object).getD other default =
      if other = index then object else cells.getD other default := by
  fun_induction putCell cells index object generalizing other with
  | case1 object => cases other <;> simp
  | case2 index object induction =>
      cases other with
      | zero => simp
      | succ other => simpa using induction other
  | case3 object head rest => cases other <;> simp
  | case4 object head rest index induction =>
      cases other with
      | zero => simp
      | succ other => simpa using induction other

theorem get_put [Inhabited Object] (table : Table Object) (key other : Key Object)
    (object : Object) :
    (table.put key object).get other = if other = key then object else table.get other := by
  rw [get, put, getD_putCell]
  cases key; cases other; simp [get]

theorem putCell_putCell [Inhabited Object] (cells : List Object) (index : Nat)
    (first second : Object) :
    putCell (putCell cells index first) index second = putCell cells index second := by
  fun_induction putCell cells index first with
  | case1 => rfl
  | case2 index first induction => simpa [putCell] using induction
  | case3 => rfl
  | case4 first head rest index induction => simpa [putCell] using induction

@[simp] theorem put_put [Inhabited Object] (table : Table Object) (key : Key Object)
    (first second : Object) : (table.put key first).put key second = table.put key second :=
  congrArg Table.mk (putCell_putCell table.cells key.index first second)

theorem length_putCell [Inhabited Object] (cells : List Object) (index : Nat)
    (object : Object) :
    (putCell cells index object).length = max cells.length (index + 1) := by
  fun_induction putCell cells index object with
  | case1 => rfl
  | case2 index object induction =>
      rw [List.length_cons, induction, List.length_nil]
      omega
  | case3 =>
      rw [List.length_cons, List.length_cons]
      omega
  | case4 _ _ _ _ induction =>
      rw [List.length_cons, induction, List.length_cons]
      omega

theorem lt_size_put [Inhabited Object] (table : Table Object) (key : Key Object)
    (object : Object) : key.index < (table.put key object).size := by
  rw [size, put, length_putCell]
  omega

theorem size_le_put [Inhabited Object] (table : Table Object) (key : Key Object)
    (object : Object) : table.size ≤ (table.put key object).size := by
  rw [size, size, put, length_putCell]
  omega

@[simp] theorem get_put_same [Inhabited Object] (table : Table Object) (key : Key Object)
    (object : Object) : (table.put key object).get key = object := by
  simp [get_put]

@[simp] theorem modify_modify [Inhabited Object] (table : Table Object) (key : Key Object)
    (first second : Object → Object) :
    (table.modify key first).modify key second = table.modify key (second ∘ first) := by
  rw [modify, modify, get_put_same, put_put]
  rfl

theorem get_put_other [Inhabited Object] (table : Table Object) {key other : Key Object}
    (object : Object) (different : other ≠ key) :
    (table.put key object).get other = table.get other := by
  simp [get_put, different]

@[simp] theorem get_add_nextKey [Inhabited Object] (table : Table Object) (object : Object) :
    (table.add object).get table.nextKey = object := by
  simp [get, add, nextKey, size]

theorem get_add_other [Inhabited Object] (table : Table Object) (object : Object)
    {key : Key Object} (within : key.index < table.size) :
    (table.add object).get key = table.get key := by
  simp only [get, add, List.getD_eq_getElem?_getD]
  rw [List.getElem?_append_left within]

theorem get_beyond [Inhabited Object] (table : Table Object) {key : Key Object}
    (beyond : table.size ≤ key.index) : table.get key = default := by
  rw [get, List.getD_eq_getElem?_getD, List.getElem?_eq_none beyond]
  rfl

@[simp] theorem size_add (table : Table Object) (object : Object) :
    (table.add object).size = table.size + 1 := by
  simp [size, add]

theorem size_lt_add (table : Table Object) (object : Object) :
    table.size < (table.add object).size := by
  rw [size_add]
  omega

theorem get_add_default [Inhabited Object] (table : Table Object) (key : Key Object) :
    (table.add default).get key = table.get key := by
  rcases Nat.lt_or_ge key.index table.size with within | beyond
  · exact table.get_add_other default within
  · rw [table.get_beyond beyond, get, add, List.getD_eq_getElem?_getD,
      List.getElem?_append_right beyond]
    cases key.index - table.cells.length <;> rfl

end Table

end Instrumentation
