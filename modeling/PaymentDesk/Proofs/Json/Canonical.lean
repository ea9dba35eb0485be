import PaymentDesk.Proofs.Json.Entries
import PaymentDesk.Proofs.Text.Order

/-!
# The sorted document as a canonical form

An object is a list of entries whose keys differ (`Distinct`), in any order. Two documents are alike (`Alike`) if
reorderings of the entries of their objects, at any depth, turn the one into the other.

* **Alike documents have one sorted form** (`Alike.sortKeys_eq`): collecting puts the entries into the one ascending
  order that they have (`collect_eq_of_perm`).
* **A document is like its sorted form** (`Distinct.alike_sortKeys`), since nothing is lost or put in twice on the way
  (`perm_collect`).
* Together: `sortKeys_canonical`.
-/

namespace PaymentDesk.Json

open PaymentDesk.Text

section Entries

variable {es fs : List (List Char × Value)}

/-! ## Entries whose keys differ -/

theorem perm_insertEntry {k : List Char} {v : Value} (h : k ∉ es.map Prod.fst) :
    (insertEntry k v es).Perm ((k, v) :: es) := by
  induction es with
  | nil => exact .refl _
  | cons e r ih =>
    rw [List.map_cons, List.mem_cons, not_or] at h
    obtain ⟨hne, hr⟩ := h
    rw [insertEntry, if_neg hne]
    split
    · exact .refl _
    · exact ((ih hr).cons e).trans (.swap (k, v) e r)

/-- **Collecting loses no entry and puts none in twice.** -/
theorem perm_collect (h : (es.map Prod.fst).Nodup) : (collect es).Perm es := by
  suffices h' : ∀ sorted, ((es ++ sorted).map Prod.fst).Nodup →
      (es.foldl (fun es e => insertEntry e.1 e.2 es) sorted).Perm (es ++ sorted) by
    have hall := h' [] (by rwa [List.append_nil])
    rwa [List.append_nil] at hall
  clear h
  induction es with
  | nil => exact fun sorted _ => .refl sorted
  | cons e r ih =>
    intro sorted h
    obtain ⟨hnew, hrest⟩ := List.nodup_cons.mp h
    have hsorted : e.1 ∉ sorted.map Prod.fst := by
      intro hmem
      refine hnew ?_
      rw [List.append_eq, List.map_append]
      exact List.mem_append_right _ hmem
    have hput : (r ++ insertEntry e.1 e.2 sorted).Perm (e :: (r ++ sorted)) :=
      ((perm_insertEntry hsorted).append_left r).trans List.perm_middle
    have hkeys := (hput.map Prod.fst).nodup_iff.mpr h
    exact (ih _ hkeys).trans hput

/-- **Entries have one ascending order**, whatever order they come in. -/
theorem collect_eq_of_perm (hes : (es.map Prod.fst).Nodup) (h : es.Perm fs) : collect es = collect fs := by
  have hfs : (fs.map Prod.fst).Nodup := (h.map Prod.fst).nodup_iff.mp hes
  have hperm : (collect es).Perm (collect fs) := (perm_collect hes).trans (h.trans (perm_collect hfs).symm)
  refine hperm.eq_of_pairwise (fun a b _ _ hab hba => ?_) (ascending_collect es) (ascending_collect fs)
  exact absurd hba (List.lt_asymm hab)

end Entries

/-! ## Documents -/

/-- The keys of every object differ from each other, at every depth. -/
inductive Distinct : Value → Prop where
  | null : Distinct .null
  | bool (b : Bool) : Distinct (.bool b)
  | number (n : Number) : Distinct (.number n)
  | string (s : List Char) : Distinct (.string s)
  | array {items : List Value} (h : ∀ v ∈ items, Distinct v) : Distinct (.array items)
  | object {entries : List (List Char × Value)} (nodup : (entries.map Prod.fst).Nodup)
    (h : ∀ e ∈ entries, Distinct e.2) : Distinct (.object entries)

/-- Reorderings of the entries of objects, at any depth, turn the one document into the other. -/
inductive Alike : Value → Value → Prop where
  | refl (v : Value) : Alike v v
  | trans {u v w : Value} (first : Alike u v) (second : Alike v w) : Alike u w
  | reorder {es fs : List (List Char × Value)} (h : es.Perm fs) : Alike (.object es) (.object fs)
  | item (before after : List Value) {v w : Value} (h : Alike v w) :
    Alike (.array (before ++ v :: after)) (.array (before ++ w :: after))
  | entry (k : List Char) (before after : List (List Char × Value)) {v w : Value} (h : Alike v w) :
    Alike (.object (before ++ (k, v) :: after)) (.object (before ++ (k, w) :: after))

variable {v w : Value}

theorem Alike.symm (h : Alike v w) : Alike w v := by
  induction h with
  | refl v => exact .refl v
  | trans _ _ ih₁ ih₂ => exact .trans ih₂ ih₁
  | reorder h => exact .reorder h.symm
  | item before after _ ih => exact .item before after ih
  | entry k before after _ ih => exact .entry k before after ih

/-- **Alike documents have one sorted form.** -/
theorem Alike.sortKeys_eq (h : Alike v w) (hv : Distinct v) : sortKeys v = sortKeys w ∧ Distinct w := by
  induction h with
  | refl v => exact ⟨rfl, hv⟩
  | trans _ _ ih₁ ih₂ =>
    obtain ⟨h₁, hv'⟩ := ih₁ hv
    obtain ⟨h₂, hw⟩ := ih₂ hv'
    exact ⟨h₁.trans h₂, hw⟩
  | @reorder es fs h =>
    obtain _ | _ | _ | _ | _ | ⟨nodup, hvalues⟩ := hv
    have hkeys : ((es.map fun e => (e.1, sortKeys e.2)).map Prod.fst).Nodup := by rwa [List.map_map]
    constructor
    · rw [sortKeys, sortKeys, sortEntries_eq, sortEntries_eq, collect_eq_of_perm hkeys (h.map _)]
    · exact .object ((h.map Prod.fst).nodup_iff.mp nodup) fun e he => hvalues e (h.mem_iff.mpr he)
  | @item before after v w h ih =>
    obtain _ | _ | _ | _ | hitems | _ := hv
    rw [List.forall_mem_append, List.forall_mem_cons] at hitems
    obtain ⟨heq, hw⟩ := ih hitems.2.1
    constructor
    · simp only [sortKeys, sortItems_eq, List.map_append, List.map_cons, heq]
    · exact .array (List.forall_mem_append.mpr ⟨hitems.1, List.forall_mem_cons.mpr ⟨hw, hitems.2.2⟩⟩)
  | @entry k before after v w h ih =>
    obtain _ | _ | _ | _ | _ | ⟨nodup, hvalues⟩ := hv
    rw [List.forall_mem_append, List.forall_mem_cons] at hvalues
    obtain ⟨heq, hw⟩ := ih hvalues.2.1
    constructor
    · simp only [sortKeys, sortEntries_eq, List.map_append, List.map_cons, heq]
    · refine .object ?_ (List.forall_mem_append.mpr ⟨hvalues.1, List.forall_mem_cons.mpr ⟨hw, hvalues.2.2⟩⟩)
      simpa only [List.map_append, List.map_cons] using nodup

/-! ## A document and its sorted form -/

theorem Alike.items {f : Value → Value} {items : List Value} (h : ∀ v ∈ items, Alike v (f v)) :
    Alike (.array items) (.array (items.map f)) := by
  suffices h' : ∀ before, Alike (.array (before ++ items)) (.array (before ++ items.map f)) from h' []
  induction items with
  | nil => exact fun before => .refl _
  | cons v r ih =>
    intro before
    obtain ⟨hv, hr⟩ := List.forall_mem_cons.mp h
    have hrest := ih hr (before ++ [f v])
    rw [List.append_assoc, List.append_assoc] at hrest
    exact (Alike.item before r hv).trans hrest

theorem Alike.entries {f : Value → Value} {es : List (List Char × Value)} (h : ∀ e ∈ es, Alike e.2 (f e.2)) :
    Alike (.object es) (.object (es.map fun e => (e.1, f e.2))) := by
  suffices h' : ∀ before, Alike (.object (before ++ es)) (.object (before ++ es.map fun e => (e.1, f e.2))) from h' []
  induction es with
  | nil => exact fun before => .refl _
  | cons e r ih =>
    intro before
    obtain ⟨k, v⟩ := e
    obtain ⟨hv, hr⟩ := List.forall_mem_cons.mp h
    have hrest := ih hr (before ++ [(k, f v)])
    rw [List.append_assoc, List.append_assoc] at hrest
    exact (Alike.entry k before r hv).trans hrest

/-- The entries of a sorted object are those of the object, their values sorted. -/
theorem sortKeys_object {es : List (List Char × Value)} (h : (es.map Prod.fst).Nodup) :
    ∃ fs, sortKeys (.object es) = .object fs ∧ fs.Perm (es.map fun e => (e.1, sortKeys e.2)) := by
  have hkeys : ((es.map fun e => (e.1, sortKeys e.2)).map Prod.fst).Nodup := by rwa [List.map_map]
  exact ⟨_, by rw [sortKeys, sortEntries_eq], perm_collect hkeys⟩

/-- **A document is like its sorted form.** -/
theorem Distinct.alike_sortKeys (h : Distinct v) : Alike v (sortKeys v) := by
  induction h with
  | array h ih =>
    rw [sortKeys, sortItems_eq]
    exact Alike.items ih
  | object nodup h ih =>
    obtain ⟨fs, hfs, hperm⟩ := sortKeys_object nodup
    rw [hfs]
    exact (Alike.entries ih).trans (.reorder hperm.symm)
  | _ => exact .refl _

/-- **The keys of a sorted document ascend at every depth.** -/
theorem Distinct.sorted_sortKeys (h : Distinct v) : Sorted (sortKeys v) := by
  induction h with
  | null => exact .null
  | bool b => exact .bool b
  | number n => exact .number n
  | string s => exact .string s
  | array h ih =>
    rw [sortKeys, sortItems_eq]
    exact .array (List.forall_mem_map.mpr ih)
  | object nodup h ih =>
    rw [sortKeys, sortEntries_eq]
    refine .object (ascending_collect _) fun e he => ?_
    obtain ⟨e', he', rfl⟩ := List.mem_map.mp (mem_collect he)
    exact ih e' he'

/-- **The sorted form is canonical.** Its keys ascend at every depth, by code points and so by bytes; every array has
its items in their places, every object its keys with the sorted values, and anything else is as it was; sorting it
again changes nothing; and two documents have the same sorted form exactly if they are alike. -/
theorem sortKeys_canonical {v : Value} (hv : Distinct v) :
    Sorted (sortKeys v) ∧ (∀ s t : List Char, Utf8.encode s < Utf8.encode t ↔ s < t) ∧
      (∀ u, Distinct u → match u with
        | .array items => sortKeys u = .array (items.map sortKeys)
        | .object es => ∃ fs, sortKeys u = .object fs ∧ fs.Perm (es.map fun e => (e.1, sortKeys e.2))
        | _ => sortKeys u = u) ∧
      sortKeys (sortKeys v) = sortKeys v ∧ ∀ w, Distinct w → (sortKeys v = sortKeys w ↔ Alike v w) := by
  refine ⟨hv.sorted_sortKeys, fun s t => Utf8.encode_lt_encode, fun u hu => ?_, hv.sorted_sortKeys.sortKeys_eq,
    fun w hw => ⟨fun heq => ?_, fun h => (h.sortKeys_eq hv).1⟩⟩
  · cases hu with
    | array h => exact congrArg Value.array (sortItems_eq _)
    | object nodup h => exact sortKeys_object nodup
    | _ => rfl
  · have hback : Alike (sortKeys v) w := heq ▸ hw.alike_sortKeys.symm
    exact hv.alike_sortKeys.trans hback

/-- Entries in another order, in an object and in an object of an array in it. -/
theorem sortKeys_canonical_nested :
    let v := Value.object [(['b'], .array [.object [(['z'], .null), (['a'], .bool true)], .null]), ([], .null)]
    let w := Value.object [([], .null), (['b'], .array [.object [(['a'], .bool true), (['z'], .null)], .null])]
    Distinct v ∧ Distinct w ∧ Alike v w ∧ sortKeys v = w := by
  intro v w
  have hinner : ∀ e ∈ [(['z'], Value.null), (['a'], .bool true)], Distinct e.2 := by simp [Distinct.null, Distinct.bool]
  have hitems : ∀ u ∈ [Value.object [(['z'], .null), (['a'], .bool true)], .null], Distinct u := by
    simp [Distinct.null, Distinct.object (by decide) hinner]
  have hv : Distinct v := .object (by decide) (by simp [Distinct.null, Distinct.array hitems])
  have hw : Distinct w := (hv.alike_sortKeys.sortKeys_eq hv).2
  obtain ⟨-, -, -, -, hcanonical⟩ := sortKeys_canonical hv
  exact ⟨hv, hw, (hcanonical w hw).mp rfl, rfl⟩

end PaymentDesk.Json
