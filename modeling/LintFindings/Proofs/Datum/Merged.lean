import LintFindings.Datum
import Mathlib.Data.List.Nodup

/-!
Named data that are merged: which names there are, in which order, and what stands under each. Of
data with distinct names the names and what stands under them are all there is.
-/

namespace LintFindings.Fields

variable (fields : Fields) (key : Text) (value : Datum)

theorem keys_cons : keys ((key, value) :: fields) = key :: fields.keys := rfl

theorem get?_cons (name : Text) :
    get? ((key, value) :: fields) name = if name = key then some value else fields.get? name := by
  by_cases same : name = key
  · simp [get?, same]
  · simp [get?, List.lookup_cons, same, beq_false_of_ne same]

theorem get?_eq_none_iff (name : Text) : fields.get? name = none ↔ name ∉ fields.keys := by
  induction fields with
  | nil => simp [get?, keys]
  | cons field rest ih =>
      rw [get?_cons, keys_cons, List.mem_cons, not_or, ← ih]
      split
      next same => simp [same]
      next other => simp [other]

theorem keys_put :
    (fields.put key value).keys =
      if key ∈ fields.keys then fields.keys else fields.keys ++ [key] := by
  induction fields with
  | nil => rfl
  | cons field rest ih =>
      obtain ⟨k, v⟩ := field
      by_cases same : k = key
      · simp [put, same, keys_cons]
      · simp only [put, same, if_false, keys_cons, ih, List.mem_cons, Ne.symm same, false_or]
        split <;> rfl

theorem nodup_put (distinct : fields.keys.Nodup) : (fields.put key value).keys.Nodup := by
  rw [keys_put]
  split
  next => exact distinct
  next missing => exact List.nodup_append_comm.mp (List.nodup_cons.mpr ⟨missing, distinct⟩)

theorem find?_keys_put (strange : Text → Bool) :
    (fields.put key value).keys.find? strange = (fields.keys ++ [key]).find? strange := by
  rw [keys_put]
  split
  next present =>
    rw [List.find?_append]
    cases found : fields.keys.find? strange with
    | some name => rfl
    | none =>
        have ordinary := List.find?_eq_none.mp found key present
        simp [ordinary]
  next => rfl

theorem merge_cons (older : Fields) :
    older.merge ((key, value) :: fields) = (older.put key value).merge fields := rfl

theorem put_of_missing (missing : key ∉ fields.keys) :
    fields.put key value = fields ++ [(key, value)] := by
  induction fields with
  | nil => rfl
  | cons field rest ih =>
      obtain ⟨k, v⟩ := field
      obtain ⟨other, missing⟩ := not_or.mp (mt List.mem_cons.mpr missing)
      simp [put, Ne.symm other, ih missing]

theorem merge_eq_append (older newer : Fields) (distinct : (older ++ newer).keys.Nodup) :
    older.merge newer = older ++ newer := by
  induction newer generalizing older with
  | nil => exact (List.append_nil older).symm
  | cons field rest ih =>
      obtain ⟨k, v⟩ := field
      rw [List.append_cons] at distinct ⊢
      have missing : k ∉ older.keys := by
        have apart := distinct
        rw [keys, List.map_append, List.map_append, List.append_assoc] at apart
        exact fun member => List.disjoint_of_nodup_append apart member List.mem_cons_self
      rw [merge_cons, put_of_missing _ _ _ missing, ih _ distinct]

theorem ofPairs_eq_self (distinct : fields.keys.Nodup) : ofPairs fields = fields :=
  merge_eq_append [] fields distinct

theorem get?_perm {fields other : Fields} (order : fields.Perm other) (distinct : fields.keys.Nodup)
    (name : Text) : fields.get? name = other.get? name := by
  induction order with
  | nil => rfl
  | cons field _ ih =>
      obtain ⟨k, v⟩ := field
      rw [get?_cons, get?_cons, ih (List.nodup_cons.mp distinct).2]
  | swap first second rest =>
      obtain ⟨k, v⟩ := first
      obtain ⟨l, w⟩ := second
      have apart : l ≠ k := fun same => (List.nodup_cons.mp distinct).1 (same ▸ List.mem_cons_self)
      simp only [get?_cons]
      split
      next here => rw [if_neg (here ▸ apart)]
      next => rfl
  | trans first _ ih ih' =>
      exact (ih distinct).trans (ih' ((first.map Prod.fst).nodup_iff.mp distinct))

theorem nodup_merge (older newer : Fields) (distinct : older.keys.Nodup) :
    (older.merge newer).keys.Nodup := by
  induction newer generalizing older with
  | nil => exact distinct
  | cons field rest ih => exact ih _ (nodup_put _ _ _ distinct)

theorem find?_keys_merge (strange : Text → Bool) (older newer : Fields) :
    (older.merge newer).keys.find? strange = (older.keys ++ newer.keys).find? strange := by
  induction newer generalizing older with
  | nil => simp [merge, keys]
  | cons field rest ih =>
      rw [merge_cons, ih, List.find?_append, find?_keys_put, ← List.find?_append,
        List.append_assoc, keys_cons, List.singleton_append]

theorem get?_merge (older newer : Fields) (distinct : newer.keys.Nodup) (name : Text) :
    (older.merge newer).get? name = (newer.get? name).or (older.get? name) := by
  induction newer generalizing older with
  | nil => rfl
  | cons field rest ih =>
      obtain ⟨k, v⟩ := field
      obtain ⟨missing, others⟩ := List.nodup_cons.mp distinct
      rw [merge_cons, ih (older.put k v) others, get?_cons]
      by_cases same : name = k
      · rw [same, (get?_eq_none_iff rest k).mpr missing, get?_put_same]
        simp
      · rw [get?_put_other older v same, if_neg same]

theorem get?_foldl_merge (layers : List Fields) (distinct : ∀ layer ∈ layers, layer.keys.Nodup)
    (base : Fields) (name : Text) :
    (layers.foldl merge base).get? name =
      (layers.reverse.findSome? (fun layer => layer.get? name)).or (base.get? name) := by
  induction layers generalizing base with
  | nil => rfl
  | cons layer rest ih =>
      have later : ∀ other ∈ rest, other.keys.Nodup :=
        fun other member => distinct other (List.mem_cons_of_mem layer member)
      rw [List.foldl_cons, ih later, get?_merge base layer (distinct layer List.mem_cons_self),
        List.reverse_cons, List.findSome?_append, Option.or_assoc]
      simp

theorem find?_keys_foldl_merge (strange : Text → Bool) (layers : List Fields) (base : Fields) :
    (layers.foldl merge base).keys.find? strange =
      (base.keys ++ layers.flatMap keys).find? strange := by
  induction layers generalizing base with
  | nil => simp
  | cons layer rest ih =>
      rw [List.foldl_cons, ih, List.find?_append, find?_keys_merge, ← List.find?_append,
        List.append_assoc, List.flatMap_cons]

theorem nodup_foldl_merge (layers : List Fields) (base : Fields) (distinct : base.keys.Nodup) :
    (layers.foldl merge base).keys.Nodup := by
  induction layers generalizing base with
  | nil => exact distinct
  | cons layer rest ih => exact ih _ (nodup_merge base layer distinct)

theorem keys_merge_congr {older older' newer newer' : Fields} (before : older.keys = older'.keys)
    (added : newer.keys = newer'.keys) : (older.merge newer).keys = (older'.merge newer').keys := by
  induction newer generalizing older older' newer' with
  | nil =>
      cases newer' with
      | nil => exact before
      | cons field rest => cases added
  | cons field rest ih =>
      cases newer' with
      | nil => cases added
      | cons field' rest' =>
          obtain ⟨k, v⟩ := field
          obtain ⟨k', v'⟩ := field'
          obtain ⟨rfl, others⟩ := List.cons.inj added
          have put : (older.put k v).keys = (older'.put k v').keys := by
            rw [keys_put, keys_put, before]
          rw [merge_cons, merge_cons]
          exact ih put others

theorem keys_foldl_merge_congr {α : Type} {f g : α → Fields} (members : List α)
    (same : ∀ member, (f member).keys = (g member).keys) {a b : Fields} (before : a.keys = b.keys) :
    ((members.map f).foldl merge a).keys = ((members.map g).foldl merge b).keys := by
  induction members generalizing a b with
  | nil => exact before
  | cons first rest ih => exact ih (keys_merge_congr before (same first))

theorem ext_of_nodup {a b : Fields} (distinct : a.keys.Nodup) (names : a.keys = b.keys)
    (same : ∀ name, a.get? name = b.get? name) : a = b := by
  induction a generalizing b with
  | nil =>
      cases b with
      | nil => rfl
      | cons field rest => cases names
  | cons field rest ih =>
      cases b with
      | nil => cases names
      | cons field' rest' =>
          obtain ⟨k, v⟩ := field
          obtain ⟨k', v'⟩ := field'
          obtain ⟨rfl, others⟩ := List.cons.inj names
          obtain ⟨missing, distinct⟩ := List.nodup_cons.mp distinct
          have value : v = v' := by simpa [get?_cons] using same k
          have others : keys rest = keys rest' := others
          have tails : ∀ name, get? rest name = get? rest' name := by
            intro name
            by_cases here : name = k
            · have absent : name ∉ keys rest := here ▸ missing
              have absent' : name ∉ keys rest' := by rwa [← others]
              rw [(get?_eq_none_iff rest name).mpr absent, (get?_eq_none_iff rest' name).mpr absent']
            · simpa [get?_cons, here] using same name
          rw [value, ih distinct others tails]

end LintFindings.Fields
