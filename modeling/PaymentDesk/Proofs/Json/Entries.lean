import PaymentDesk.Json.Value

/-!
# Entries in ascending order

Putting an entry into a list of ascending keys keeps the keys ascending (`ascending_insertEntry`), so that the entries
of every object that is read ascend (`ascending_collect`). Entries that ascend already stay as they are
(`collect_of_ascending`), and **a document that is sorted at every depth stays as it is** (`Sorted.sortKeys_eq`).
-/

namespace PaymentDesk.Json

/-- The keys ascend, and so no key stands twice. -/
def Ascending (es : List (List Char × Value)) : Prop := es.Pairwise fun a b => a.1 < b.1

variable {k : List Char} {v : Value} {es : List (List Char × Value)}

theorem mem_insertEntry {e : List Char × Value} (h : e ∈ insertEntry k v es) : e = (k, v) ∨ e ∈ es := by
  induction es with
  | nil => exact .inl (List.mem_singleton.mp h)
  | cons e' r ih =>
    rw [insertEntry] at h
    split at h
    · exact List.mem_cons.mp h
    · split at h
      · exact (List.mem_cons.mp h).imp_right (List.mem_cons_of_mem e')
      · rcases List.mem_cons.mp h with rfl | h
        · exact .inr List.mem_cons_self
        · exact (ih h).imp_right (List.mem_cons_of_mem e')

/-- **An entry that is put in keeps the keys ascending.** -/
theorem ascending_insertEntry (h : Ascending es) : Ascending (insertEntry k v es) := by
  induction es with
  | nil => exact List.pairwise_singleton _ _
  | cons e r ih =>
    obtain ⟨hfirst, hrest⟩ := List.pairwise_cons.mp h
    rw [insertEntry]
    split
    · next hlt =>
      refine List.pairwise_cons.mpr ⟨fun e' he' => ?_, h⟩
      rcases List.mem_cons.mp he' with rfl | he'
      · exact hlt
      · exact List.lt_trans hlt (hfirst e' he')
    · next hnlt =>
      split
      · next heq =>
        subst heq
        exact List.pairwise_cons.mpr ⟨hfirst, hrest⟩
      · next hne =>
        have hgt : e.1 < k := by
          by_cases hgt : e.1 < k
          · exact hgt
          · exact absurd (List.le_antisymm (List.not_lt.mp hgt) (List.not_lt.mp hnlt)) hne
        refine List.pairwise_cons.mpr ⟨fun e' he' => ?_, ih hrest⟩
        rcases mem_insertEntry he' with rfl | he'
        · exact hgt
        · exact hfirst e' he'

/-- An entry behind all others is put at the end. -/
theorem insertEntry_of_last (h : ∀ e ∈ es, e.1 < k) : insertEntry k v es = es ++ [(k, v)] := by
  induction es with
  | nil => rfl
  | cons e r ih =>
    have hlt := h e List.mem_cons_self
    rw [insertEntry, if_neg (List.lt_asymm hlt), if_neg fun heq => List.lt_irrefl _ (heq ▸ hlt),
      ih fun e' he' => h e' (List.mem_cons_of_mem e he')]
    rfl

/-! ## Entries one after the other -/

theorem ascending_collect (es : List (List Char × Value)) : Ascending (collect es) := by
  suffices h : ∀ sorted, Ascending sorted → Ascending (es.foldl (fun es e => insertEntry e.1 e.2 es) sorted) from
    h [] List.Pairwise.nil
  induction es with
  | nil => exact fun _ h => h
  | cons e r ih => exact fun _ h => ih _ (ascending_insertEntry h)

theorem mem_collect {e : List Char × Value} (h : e ∈ collect es) : e ∈ es := by
  suffices h' : ∀ sorted, e ∈ es.foldl (fun es e => insertEntry e.1 e.2 es) sorted → e ∈ sorted ∨ e ∈ es from
    (h' [] h).resolve_left List.not_mem_nil
  clear h
  induction es with
  | nil => exact fun _ h => .inl h
  | cons e' r ih =>
    intro sorted h
    rcases ih _ h with h | h
    · rcases mem_insertEntry h with rfl | h
      · exact .inr List.mem_cons_self
      · exact .inl h
    · exact .inr (List.mem_cons_of_mem e' h)

/-- Entries that ascend stay as they are. -/
theorem collect_of_ascending (h : Ascending es) : collect es = es := by
  suffices h' : ∀ sorted, Ascending (sorted ++ es) →
      es.foldl (fun es e => insertEntry e.1 e.2 es) sorted = sorted ++ es from h' [] h
  clear h
  induction es with
  | nil => exact fun sorted _ => (List.append_nil sorted).symm
  | cons e r ih =>
    intro sorted h
    have hlast : ∀ e' ∈ sorted, e'.1 < e.1 := fun e' he' =>
      (List.pairwise_append.mp h).2.2 e' he' e List.mem_cons_self
    rw [List.foldl_cons, insertEntry_of_last hlast, ih _ (by rwa [List.append_assoc]), List.append_assoc]
    rfl

/-! ## Sorted documents -/

theorem sortItems_eq (items : List Value) : sortItems items = items.map sortKeys := by
  induction items with
  | nil => rfl
  | cons v r ih => rw [sortItems, ih, List.map_cons]

/-- Sorting the entries of an object collects them with their values sorted. -/
theorem sortEntries_eq (es : List (List Char × Value)) :
    sortEntries es [] = collect (es.map fun e => (e.1, sortKeys e.2)) := by
  suffices h : ∀ sorted, sortEntries es sorted =
      (es.map fun e => (e.1, sortKeys e.2)).foldl (fun es e => insertEntry e.1 e.2 es) sorted from h []
  induction es with
  | nil => exact fun _ => rfl
  | cons e r ih => exact fun sorted => by rw [sortEntries, ih, List.map_cons, List.foldl_cons]

/-- The keys of every object ascend, at every depth. -/
inductive Sorted : Value → Prop where
  | null : Sorted .null
  | bool (b : Bool) : Sorted (.bool b)
  | number (n : Number) : Sorted (.number n)
  | string (s : List Char) : Sorted (.string s)
  | array {items : List Value} (h : ∀ v ∈ items, Sorted v) : Sorted (.array items)
  | object {entries : List (List Char × Value)} (ascending : Ascending entries) (h : ∀ e ∈ entries, Sorted e.2) :
    Sorted (.object entries)

/-- **A sorted document stays as it is.** -/
theorem Sorted.sortKeys_eq (h : Sorted v) : sortKeys v = v := by
  induction h with
  | @array items h ih =>
    have hitems : items.map sortKeys = items := (List.map_congr_left ih).trans (List.map_id' items)
    rw [sortKeys, sortItems_eq, hitems]
  | @object es ascending h ih =>
    have hvalues : es.map (fun e => (e.1, sortKeys e.2)) = es := by
      refine (List.map_congr_left fun e he => ?_).trans (List.map_id' es)
      rw [ih e he]
    rw [sortKeys, sortEntries_eq, hvalues, collect_of_ascending ascending]
  | _ => rfl

end PaymentDesk.Json
