namespace Instrumentation

/-! Finite maps from text. The entries stand in increasing order of their keys,
by code point and so also by UTF-8 bytes, and no key stands twice: a map is
determined by its lookups, and its list of keys is already sorted. -/

structure Dict (Value : Type) where
  entries : List (String × Value)
  ordered : (entries.map Prod.fst).Pairwise (· < ·)

namespace Dict

variable {Value Other : Type}

def insertEntry (key : String) (value : Value) : List (String × Value) → List (String × Value)
  | [] => [(key, value)]
  | (head, first) :: rest =>
      if key < head then (key, value) :: (head, first) :: rest
      else if key = head then (key, value) :: rest
      else (head, first) :: insertEntry key value rest

theorem mem_insertEntry {key : String} {value : Value} {name : String}
    {entries : List (String × Value)}
    (member : name ∈ (insertEntry key value entries).map Prod.fst) :
    name = key ∨ name ∈ entries.map Prod.fst := by
  fun_induction insertEntry key value entries with
  | case1 => simpa using member
  | case2 => simpa using member
  | case3 =>
      simp only [List.map_cons, List.mem_cons] at member ⊢
      rcases member with member | member
      · exact .inl member
      · exact .inr (.inr member)
  | case4 _ _ _ _ _ induction =>
      simp only [List.map_cons, List.mem_cons] at member ⊢
      rcases member with member | member
      · exact .inr (.inl member)
      · exact (induction member).imp_right .inr

theorem ordered_insertEntry (key : String) (value : Value) {entries : List (String × Value)}
    (ordered : (entries.map Prod.fst).Pairwise (· < ·)) :
    ((insertEntry key value entries).map Prod.fst).Pairwise (· < ·) := by
  fun_induction insertEntry key value entries with
  | case1 => simp
  | case2 head first rest before =>
      rw [List.map_cons]
      refine List.Pairwise.cons ?_ ordered
      intro name member
      simp only [List.map_cons, List.mem_cons] at member
      rcases member with rfl | member
      · exact before
      · exact String.lt_trans before (List.rel_of_pairwise_cons ordered member)
  | case3 first rest _ => exact ordered
  | case4 head first rest notBefore different induction =>
      simp only [List.map_cons] at ordered ⊢
      refine List.Pairwise.cons ?_ (induction ordered.of_cons)
      intro name member
      rcases mem_insertEntry member with rfl | member
      · exact (String.le_total name head).elim
          (fun below => absurd (String.le_antisymm below (String.not_lt.1 notBefore)) different)
          (fun above => String.not_le.1 fun below =>
            different (String.le_antisymm below above))
      · exact List.rel_of_pairwise_cons ordered member

def empty : Dict Value := ⟨[], .nil⟩

instance : Inhabited (Dict Value) := ⟨empty⟩

def insert (dict : Dict Value) (key : String) (value : Value) : Dict Value where
  entries := insertEntry key value dict.entries
  ordered := ordered_insertEntry key value dict.ordered

def find? (dict : Dict Value) (key : String) : Option Value :=
  dict.entries.lookup key

def keys (dict : Dict Value) : List String :=
  dict.entries.map Prod.fst

def values (dict : Dict Value) : List Value :=
  dict.entries.map Prod.snd

def size (dict : Dict Value) : Nat :=
  dict.entries.length

/-- Inserts the entries in turn, so that the last of a key counts. -/
def ofList (entries : List (String × Value)) : Dict Value :=
  entries.foldl (fun dict entry => dict.insert entry.1 entry.2) empty

theorem ordered_filter (keep : String × Value → Bool) {entries : List (String × Value)}
    (ordered : (entries.map Prod.fst).Pairwise (· < ·)) :
    ((entries.filter keep).map Prod.fst).Pairwise (· < ·) :=
  ordered.sublist (List.filter_sublist.map Prod.fst)

def erase (dict : Dict Value) (key : String) : Dict Value where
  entries := dict.entries.filter fun entry => entry.1 != key
  ordered := ordered_filter _ dict.ordered

def agrees (same : Value → Other → Bool) (left : Dict Value) (right : Dict Other) : Bool :=
  left.keys == right.keys &&
    (left.values.zip right.values).all fun pair => same pair.1 pair.2

theorem lookup_insertEntry (key other : String) (value : Value)
    (entries : List (String × Value)) :
    (insertEntry key value entries).lookup other =
      if other = key then some value else entries.lookup other := by
  fun_induction insertEntry key value entries with
  | case1 => grind
  | case2 => grind
  | case3 => grind
  | case4 => grind

theorem find?_insert (dict : Dict Value) (key other : String) (value : Value) :
    (dict.insert key value).find? other =
      if other = key then some value else dict.find? other :=
  lookup_insertEntry key other value dict.entries

theorem mem_values_insertEntry {key : String} {value other : Value}
    {entries : List (String × Value)} (absent : entries.lookup key = none) :
    other ∈ (insertEntry key value entries).map Prod.snd ↔
      other = value ∨ other ∈ entries.map Prod.snd := by
  fun_induction insertEntry key value entries with
  | case1 => simp
  | case2 => simp
  | case3 first rest =>
      -- An entry of this key would have been found.
      rw [List.lookup_cons_self] at absent
      cases absent
  | case4 head first rest before different induction =>
      have missing : rest.lookup key = none := by
        rwa [List.lookup_cons, beq_false_of_ne different] at absent
      simp only [List.map_cons, List.mem_cons, induction missing]
      exact or_left_comm

theorem mem_values_insert {dict : Dict Value} {key : String} {value other : Value}
    (absent : dict.find? key = none) :
    other ∈ (dict.insert key value).values ↔ other = value ∨ other ∈ dict.values :=
  mem_values_insertEntry absent

theorem find?_eq_some_iff {dict : Dict Value} {key : String} {value : Value} :
    dict.find? key = some value ↔ (key, value) ∈ dict.entries := by
  rw [find?, List.lookup_eq_some_iff]
  constructor
  · rintro ⟨before, behind, same, _⟩
    simp [same]
  · intro member
    rcases List.mem_iff_append.mp member with ⟨before, behind, same⟩
    refine ⟨before, behind, same, ?_⟩
    intro entry earlier
    have ordered := dict.ordered
    rw [same, List.map_append, List.pairwise_append] at ordered
    have less := ordered.2.2 entry.1 (List.mem_map_of_mem earlier) key (.head _)
    refine bne_iff_ne.mpr ?_
    rintro rfl
    exact String.lt_irrefl _ less

theorem mem_values_of_find? {dict : Dict Value} {key : String} {value : Value}
    (found : dict.find? key = some value) : value ∈ dict.values :=
  List.mem_map_of_mem (find?_eq_some_iff.mp found)

theorem isSome_find?_iff {dict : Dict Value} {key : String} :
    (dict.find? key).isSome ↔ key ∈ dict.keys := by
  rw [find?, List.lookup_isSome_iff, keys, List.mem_map]
  constructor
  · rintro ⟨entry, member, same⟩
    exact ⟨entry, member, (eq_of_beq same).symm⟩
  · rintro ⟨entry, member, rfl⟩
    exact ⟨entry, member, BEq.rfl⟩

theorem eq_of_entries {first second : Dict Value} (same : first.entries = second.entries) :
    first = second := by
  cases first
  cases second
  cases same
  rfl

theorem insertEntry_perm {key : String} {entries : List (String × Value)} (value : Value)
    (fresh : key ∉ entries.map Prod.fst) :
    (insertEntry key value entries).Perm ((key, value) :: entries) := by
  fun_induction insertEntry key value entries with
  | case1 => exact .refl _
  | case2 => exact .refl _
  | case3 first rest => simp at fresh
  | case4 head first rest _ _ induction =>
      simp only [List.map_cons, List.mem_cons, not_or] at fresh
      exact ((induction fresh.2).cons _).trans (.swap ..)

theorem foldl_insert_perm (entries : List (String × Value)) (dict : Dict Value)
    (apart : ((entries ++ dict.entries).map Prod.fst).Nodup) :
    (entries.foldl (fun dict entry => dict.insert entry.1 entry.2) dict).entries.Perm
      (entries ++ dict.entries) := by
  induction entries generalizing dict with
  | nil => exact .refl _
  | cons entry entries induction =>
      have inserted : (dict.insert entry.1 entry.2).entries.Perm (entry :: dict.entries) := by
        simp only [List.cons_append, List.map_cons, List.map_append, List.nodup_cons,
          List.mem_append, not_or] at apart
        exact insertEntry_perm entry.2 apart.1.2
      have moved : (entries ++ (dict.insert entry.1 entry.2).entries).Perm
          (entry :: entries ++ dict.entries) :=
        (inserted.append_left entries).trans List.perm_middle
      have unique := (moved.map Prod.fst).nodup_iff.mpr apart
      exact (induction _ unique).trans moved

/-- A map is determined by its entries, in whatever order they are put into it. -/
theorem ofList_of_perm {entries : List (String × Value)} {dict : Dict Value}
    (perm : entries.Perm dict.entries) : ofList entries = dict := by
  have unique : (entries.map Prod.fst).Nodup := by
    rw [(perm.map Prod.fst).nodup_iff, List.nodup_iff_pairwise_ne]
    refine dict.ordered.imp fun less same => ?_
    rw [same] at less
    exact String.lt_irrefl _ less
  have inserted : (ofList entries).entries.Perm (entries ++ []) :=
    foldl_insert_perm entries empty (by simpa [empty] using unique)
  rw [List.append_nil] at inserted
  apply eq_of_entries
  refine (inserted.trans perm).eq_of_pairwise ?_ (List.pairwise_map.mp (ofList entries).ordered)
    (List.pairwise_map.mp dict.ordered)
  intro first second _ _ less more
  exact absurd (String.lt_trans less more) (String.lt_irrefl _)

end Dict

end Instrumentation
