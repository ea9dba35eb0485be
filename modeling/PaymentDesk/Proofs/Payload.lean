import Mathlib.Data.List.Nodup
import PaymentDesk.Proofs.Json.Canonical
import PaymentDesk.Proofs.Wire.Documents
import PaymentDesk.Proofs.Wire.Once

/-!
# What the references of a new payment tell

The body of a new payment has the same members whatever the variant and the second, but for its references: it has those
of the style of the variant and no others, and each ends in the second, behind its first `-` (`Carries`,
`carries_members`). So one body cannot carry the references of two styles, or of two seconds (`Carries.unique`).

**The body tells the variant and the second** (`body_tells`), as a document and as the text that is sent.
-/

namespace PaymentDesk

open Text

/-! ## References -/

/-- The keys of the members that carry a reference. -/
def ReferenceStyle.keys : ReferenceStyle → List (List Char)
  | .single => ["reference".toList]
  | .split => ["application_reference".toList, "payment_reference".toList]

theorem ReferenceStyle.keys_ne_nil (style : ReferenceStyle) : style.keys ≠ [] := by
  cases style <;> exact List.cons_ne_nil _ _

/-- No key belongs to both styles. -/
theorem ReferenceStyle.eq_of_mem_keys {style style' : ReferenceStyle} :
    ∀ k ∈ style.keys, k ∈ style'.keys → style = style' := by
  cases style <;> cases style' <;> simp [keys]

theorem Variant.referenceStyle_inj {v w : Variant} : v.referenceStyle = w.referenceStyle ↔ v = w := by
  cases v <;> cases w <;> decide

namespace Reference

/-- The second in a reference: the number behind its first `-`. -/
def second? (reference : List Char) : Option Int :=
  match reference.dropWhile (· != '-') with
  | [] => none
  | _ :: digits => Decimal.int? digits

theorem second?_append (stem : List Char) (h : '-' ∉ stem) (second : Int) :
    second? (stem ++ '-' :: Decimal.ofInt second) = some second := by
  have hstem : ∀ c ∈ stem, (c != '-') = true := by
    intro c hc
    rw [bne_iff_ne]
    rintro rfl
    exact h hc
  rw [second?, List.dropWhile_append_of_pos hstem, List.dropWhile_cons_of_neg (by simp)]
  exact Decimal.int?_ofInt second

/-- The sign of a second before 1970 is no separator. -/
example : second? "payment--5".toList = some (-5) := by decide

theorem keys_stamped (style : ReferenceStyle) (second : Int) :
    (stamped style second).fields.map Prod.fst = style.keys := by
  cases style <;> rfl

variable {style : ReferenceStyle} {second : Int} {e : List Char × Json.Value}

theorem mem_keys_of_mem_stamped (h : e ∈ (stamped style second).fields) : e.1 ∈ style.keys := by
  rw [← keys_stamped style second]
  exact List.mem_map_of_mem h

/-- **Each reference ends in the second.** -/
theorem second?_of_mem_stamped (h : e ∈ (stamped style second).fields) :
    ∃ r, e.2 = .string r ∧ second? r = some second := by
  cases style with
  | single =>
    obtain rfl := List.mem_singleton.mp h
    exact ⟨_, rfl, second?_append "reference".toList (by decide) second⟩
  | split =>
    rcases List.mem_cons.mp h with rfl | h
    · exact ⟨_, rfl, second?_append "application".toList (by decide) second⟩
    · obtain rfl := List.mem_singleton.mp h
      exact ⟨_, rfl, second?_append "payment".toList (by decide) second⟩

end Reference

/-! ## Bodies -/

/-- The members carry the references of a style made at a second, and none of another style. -/
structure Fields.Carries (style : ReferenceStyle) (second : Int) (f : Fields) : Prop where
  distinct : (f.map Prod.fst).Nodup
  references : ∀ k ∈ style.keys, ∃ r, (k, .string r) ∈ f ∧ Reference.second? r = some second
  noOthers : ∀ style', style' ≠ style → ∀ k ∈ style'.keys, ∀ d, (k, d) ∉ f

namespace Fields.Carries

variable {style style' : ReferenceStyle} {second second' : Int} {f f' : Fields}

/-- References made at different seconds differ, each of them. -/
theorem differ (h : Carries style second f) (h' : Carries style second' f') (hne : second ≠ second') :
    ∀ k ∈ style.keys, ∀ d, (k, d) ∈ f → (k, d) ∉ f' := by
  intro k hk d hd hd'
  obtain ⟨r, hr, hsecond⟩ := h.references k hk
  obtain ⟨r', hr', hsecond'⟩ := h'.references k hk
  obtain ⟨-, hdr⟩ := Prod.mk.inj (List.inj_on_of_nodup_map h.distinct hd hr rfl)
  obtain ⟨-, hdr'⟩ := Prod.mk.inj (List.inj_on_of_nodup_map h'.distinct hd' hr' rfl)
  obtain rfl : r = r' := Json.Value.string.inj (hdr.symm.trans hdr')
  exact hne (Option.some.inj (hsecond.symm.trans hsecond'))

/-- **One body carries the references of one style, made at one second.** -/
theorem unique (h : Carries style second f) (h' : Carries style' second' f) : style = style' ∧ second = second' := by
  obtain ⟨k, hk⟩ := List.exists_mem_of_ne_nil _ style.keys_ne_nil
  obtain ⟨r, hr, -⟩ := h.references k hk
  have hstyle : style = style' := by
    by_contra hne
    exact h'.noOthers style hne k hk _ hr
  subst hstyle
  refine ⟨rfl, ?_⟩
  by_contra hne
  exact h.differ h' hne k hk _ hr hr

end Fields.Carries

namespace Creation

/-- The members that carry no reference. -/
def others (c : Creation) : Fields :=
  [("amount".toList, natValue c.amount), ("description".toList, .string c.description),
    ("return_url".toList, .string c.returnUrl), ("email".toList, .string c.email)]

theorem mem_fields {c : Creation} {e : List Char × Json.Value} :
    e ∈ c.fields ↔ e ∈ c.reference.fields ∨ e ∈ c.others := by
  rw [fields, others, List.cons_append, List.mem_cons, List.mem_append, or_left_comm, ← List.mem_cons]

theorem not_mem_keys_of_others {c : Creation} {e : List Char × Json.Value} (h : e ∈ c.others) (style : ReferenceStyle) :
    e.1 ∉ style.keys := by
  have hdisjoint : ∀ k ∈ c.others.map Prod.fst, k ∉ style.keys := by
    cases style <;> simp [others, ReferenceStyle.keys]
  exact hdisjoint e.1 (List.mem_map_of_mem h)

/-- The members of the body that asks for a new payment at a second, their keys in ascending order. -/
def members (v : Variant) (second : Int) : Fields := Json.collect (sample v.referenceStyle second).fields

variable {v v' : Variant} {second second' : Int} {e : List Char × Json.Value}

theorem nodup_fields (style : ReferenceStyle) (second : Int) : ((sample style second).fields.map Prod.fst).Nodup := by
  have hkeys : (sample style second).fields.map Prod.fst =
      "amount".toList :: style.keys ++ ["description", "return_url", "email"].map String.toList := by
    cases style <;> rfl
  rw [hkeys]
  cases style <;> decide

theorem mem_members : e ∈ members v second ↔
    e ∈ (Reference.stamped v.referenceStyle second).fields ∨ e ∈ (sample v.referenceStyle second).others :=
  ((Json.perm_collect (nodup_fields v.referenceStyle second)).mem_iff).trans mem_fields

theorem carries_members (v : Variant) (second : Int) : (members v second).Carries v.referenceStyle second where
  distinct := by
    have hperm := Json.perm_collect (nodup_fields v.referenceStyle second)
    exact (hperm.map Prod.fst).nodup_iff.mpr (nodup_fields v.referenceStyle second)
  references k hk := by
    rw [← Reference.keys_stamped _ second] at hk
    obtain ⟨e, he, rfl⟩ := List.mem_map.mp hk
    obtain ⟨r, hr, hsecond⟩ := Reference.second?_of_mem_stamped he
    refine ⟨r, mem_members.mpr (.inl ?_), hsecond⟩
    rw [← hr]
    exact he
  noOthers style hne k hk d hd := by
    rcases mem_members.mp hd with hreference | hother
    · exact hne (ReferenceStyle.eq_of_mem_keys k hk (Reference.mem_keys_of_mem_stamped hreference))
    · exact not_mem_keys_of_others hother style hk

/-- Members that carry no reference are the same in all bodies. -/
theorem mem_members_of_not_mem_keys {k : List Char} (hk : ∀ style : ReferenceStyle, k ∉ style.keys) {d : Json.Value} :
    (k, d) ∈ members v second ↔ (k, d) ∈ (sample v.referenceStyle second).others := by
  refine mem_members.trans (or_iff_right ?_)
  intro h
  exact hk v.referenceStyle (Reference.mem_keys_of_mem_stamped h)

theorem members_eq_iff : members v second = members v' second' ↔ v = v' ∧ second = second' := by
  constructor
  · intro h
    have hbody := carries_members v second
    rw [h] at hbody
    obtain ⟨hstyle, hsecond⟩ := hbody.unique (carries_members v' second')
    exact ⟨Variant.referenceStyle_inj.mp hstyle, hsecond⟩
  · rintro ⟨rfl, rfl⟩
    rfl

/-- The compact text of a body is that of no other. -/
theorem compact_members_eq_iff :
    Json.compact (.object (members v second)) = Json.compact (.object (members v' second')) ↔
      members v second = members v' second' := by
  constructor
  · intro h
    have hread := Fields.json_document (member_creation v.referenceStyle second) 200
    have hread' := Fields.json_document (member_creation v'.referenceStyle second') 200
    rw [Fields.document, ← members] at hread hread'
    rw [h, hread'] at hread
    exact (Json.Value.object.inj (Except.ok.inj hread)).symm
  · exact congrArg fun f => Json.compact (.object f)

/-- **The body of a new payment tells its variant and its second.** Creating a payment sends the members, as one object
or as its compact text, and these are the same exactly for the same variant and second. Each reference that the style of
the variant asks for is there once, with the second behind its first `-`, and none of another style; at another second
each of them is another one. All other members are the same in all bodies. -/
theorem body_tells (v v' : Variant) (second second' : Int) :
    (∀ (clock : Nat → Int) (w : World Recording),
      (((Operation.createAt second).perform v).run ⟨Recording.transport, clock⟩ w).2.transport.requests =
        w.transport.requests ++ [.post [] (.object (members v second))]) ∧
    (Json.Value.object (members v second) = .object (members v' second') ↔ v = v' ∧ second = second') ∧
    (Json.compact (.object (members v second)) = Json.compact (.object (members v' second')) ↔
      v = v' ∧ second = second') ∧
    (members v second).Carries v.referenceStyle second ∧
    (v = v' → second ≠ second' →
      ∀ k ∈ v.referenceStyle.keys, ∀ d, (k, d) ∈ members v second → (k, d) ∉ members v' second') ∧
    ∀ k, (∀ style : ReferenceStyle, k ∉ style.keys) → ∀ d, (k, d) ∈ members v second ↔ (k, d) ∈ members v' second' := by
  refine ⟨fun clock w => ?_, ?_, compact_members_eq_iff.trans members_eq_iff, carries_members v second, ?_,
    fun k hk d => ?_⟩
  · have hsent := (Operation.run_fetch ⟨Recording.transport, clock⟩ w
      (Operation.creationRequest v.referenceStyle second)).2
    show (((Operation.fetch (Operation.creationRequest v.referenceStyle second)).run _ w).2.transport).requests = _
    rw [hsent]
    exact Recording.requests_send _ _
  · rw [Json.Value.object.injEq]
    exact members_eq_iff
  · rintro rfl hne
    exact (carries_members v second).differ (carries_members v second') hne
  · rw [mem_members_of_not_mem_keys hk, mem_members_of_not_mem_keys hk]
    exact Iff.rfl

end Creation

end PaymentDesk
