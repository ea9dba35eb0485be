import PaymentDesk.Proofs.Config.Place
import PaymentDesk.Proofs.Session.Identifier
import PaymentDesk.Proofs.Url.Below

/-!
# What identifiers address

An identifier that a session takes stands in three requests: for the payment, for its cancellation and for its refund.
They are meant to address one segment below the base address and the orders below that segment (`AddressesPayment`). The
check of a session does not ensure it: a backslash is read as a slash, `.` and the encoded dot segments lead elsewhere,
and control characters at the end get lost where nothing follows them.

**`addressesPayment_iff` says which identifiers address a payment**: those with `isOneSegment`. Without a backslash
these are the ones that are no dot segment and do not end in a control character (`isOneSegment_of_unslashed`).
-/

namespace PaymentDesk

open Text

/-! ## Accepted identifiers -/

section Accepted

variable {label s id : List Char} (h : Session.identifier label (some s) = .ok id)
include h

theorem Session.plain_of_identifier : Url.Plain id := fun c hc =>
  ⟨(free_of_identifier h c hc).2.1, (free_of_identifier h c hc).2.2.1⟩

theorem Session.isTabOrLineEnd_of_identifier : ∀ c ∈ id, Url.isTabOrLineEnd c = false := fun c hc =>
  Config.not_isTabOrLineEnd_of_not_isBlank (free_of_identifier h c hc).2.2.2

end Accepted

/-! ## Addresses -/

/-- A request is addressed by a URL with this path, and by nothing more. -/
def Config.Addresses (c : Config) (r : Request) (path : List (List Char)) : Prop :=
  ∃ u, c.urlFor r = .ok u ∧ u.path = .segments path ∧ u.query = none ∧ u.fragment = none

/-- The requests about a payment meet at one segment below the base address. -/
structure AddressesPayment (c : Config) (base : Url) (id segment : List Char) : Prop where
  fetch : c.Addresses (.get id) (base.path.list.dropLast ++ [segment])
  cancel : c.Addresses (Operation.cancelRequest id) (base.path.list.dropLast ++ [segment, "cancel".toList])
  refund : c.Addresses (Operation.refundRequest id) (base.path.list.dropLast ++ [segment, "refunds".toList])

/-- The identifier keeps its end, and leads one segment below the base address. -/
def isOneSegment (base : Url) (id : List Char) : Bool :=
  ! id.getLast?.any Url.isControlOrSpace &&
    Url.isBelow base.path.list.dropLast.reverse (fields (Url.isSlash true) id)

namespace Config

section Place

variable {c : Config} {p : Url.Place}
  (hp : ∀ r : Request, c.urlFor r = .ok ((p.locate (Url.cleanEnd r.path)).appendQuery r.query))
include hp

theorem addresses_of_walk {r : Request} (hq : r.query = []) (hr : Url.Plain (Url.cleanEnd r.path)) :
    c.Addresses r (Url.walk p.above (fields (Url.isSlash true) (Url.cleanEnd r.path))) := by
  refine ⟨_, hp r, ?_⟩
  rw [hq, Url.Place.locate, Url.splitTail_plain hr]
  exact ⟨rfl, rfl, rfl⟩

/-- Where a request without a query leads. -/
theorem addresses_iff {r : Request} (hq : r.query = []) (hr : Url.Plain (Url.cleanEnd r.path))
    {path : List (List Char)} :
    c.Addresses r path ↔ Url.walk p.above (fields (Url.isSlash true) (Url.cleanEnd r.path)) = path := by
  obtain ⟨u, hu, hpath, hnone⟩ := addresses_of_walk hp hq hr
  constructor
  · rintro ⟨v, hv, hpath', -⟩
    rw [hu] at hv
    cases hv
    rw [hpath] at hpath'
    exact Url.Path.segments.inj hpath'
  · rintro rfl
    exact ⟨u, hu, hpath, hnone⟩

end Place

/-- An order behind a text is a segment of its own, and keeps the end of the text. -/
theorem path_order {id order : List Char} (ho : order = "cancel".toList ∨ order = "refunds".toList)
    (hplain : Url.Plain id) (hid : ∀ c ∈ id, Url.isTabOrLineEnd c = false) :
    Url.cleanEnd (id ++ '/' :: order) = id ++ '/' :: order ∧ Url.Plain (id ++ '/' :: order) ∧
      fields (Url.isSlash true) (id ++ '/' :: order) = fields (Url.isSlash true) id ++ [order] := by
  have hfree : ∀ c ∈ '/' :: order, Url.isTabOrLineEnd c = false ∧ c ≠ '?' ∧ c ≠ '#' := by
    rcases ho with rfl | rfl <;> simp [Url.isTabOrLineEnd]
  have hfields : fields (Url.isSlash true) order = [order] := by
    rcases ho with rfl | rfl <;> decide
  refine ⟨Url.cleanEnd_eq_self (fun c hc => ?_) ?_, hplain.append fun c hc => (hfree c hc).2, ?_⟩
  · exact (List.mem_append.mp hc).elim (hid c) fun hc => (hfree c hc).1
  · rcases ho with rfl | rfl <;> rw [List.getLast?_append] <;> rfl
  · rw [fields_append rfl, hfields]

/-- Where an order behind a text leads. -/
theorem addresses_order_iff {c : Config} {p : Url.Place}
    (hp : ∀ r : Request, c.urlFor r = .ok ((p.locate (Url.cleanEnd r.path)).appendQuery r.query))
    {id order : List Char} (ho : order = "cancel".toList ∨ order = "refunds".toList) (hplain : Url.Plain id)
    (hid : ∀ c ∈ id, Url.isTabOrLineEnd c = false) {r : Request} (hq : r.query = [])
    (hr : r.path = id ++ '/' :: order) {path : List (List Char)} :
    c.Addresses r path ↔ Url.walk p.above (fields (Url.isSlash true) id ++ [order]) = path := by
  obtain ⟨hclean, hfree, hfields⟩ := path_order ho hplain hid
  rw [addresses_iff hp hq (by rw [hr, hclean]; exact hfree), hr, hclean, hfields]

section Payment

variable {base serviceId label line id : List Char} {timeout : Option Nat} {c : Config} {u : Url}
  (hc : make base serviceId timeout = .ok c) (hu : c.urlFor (.get []) = .ok u)
  (hid : Session.identifier label (some (trim line)) = .ok id)
include hc hu hid

/-- Where the three requests about a payment lead. -/
theorem addresses_requests : ∃ above, u.path.list.dropLast = above.reverse ∧
    (∀ path, c.Addresses (.get id) path ↔
      Url.walk above (fields (Url.isSlash true) (Url.cleanEnd id)) = path) ∧
    (∀ path, c.Addresses (Operation.cancelRequest id) path ↔
      Url.walk above (fields (Url.isSlash true) id ++ ["cancel".toList]) = path) ∧
    ∀ path, c.Addresses (Operation.refundRequest id) path ↔
      Url.walk above (fields (Url.isSlash true) id ++ ["refunds".toList]) = path := by
  obtain ⟨p, rfl, hp⟩ := urlFor_eq hc hu
  have hplain := Session.plain_of_identifier hid
  have htab := Session.isTabOrLineEnd_of_identifier hid
  obtain ⟨z, hz, -, -⟩ := Url.cleanEnd_cut htab
  have hclean : Url.Plain (Url.cleanEnd id) := fun c hc => hplain c (hz ▸ List.mem_append_left z hc)
  exact ⟨p.above, p.dropLast_locate_nil, fun _ => addresses_iff hp rfl hclean,
    fun _ => addresses_order_iff hp (Or.inl rfl) hplain htab rfl rfl,
    fun _ => addresses_order_iff hp (Or.inr rfl) hplain htab rfl rfl⟩

/-- **Which identifiers address a payment.** Whatever the identifier, its requests have addresses with neither a query
nor a fragment. -/
theorem addressesPayment_iff :
    (∀ r ∈ [Request.get id, Operation.cancelRequest id, Operation.refundRequest id], ∃ path, c.Addresses r path) ∧
    ((∃ segment, segment ≠ [] ∧ AddressesPayment c u id segment) ↔ isOneSegment u id = true) := by
  obtain ⟨above, root, fetch, cancel, refund⟩ := addresses_requests hc hu hid
  obtain ⟨z, hz, hcontrol, hnil⟩ := Url.cleanEnd_cut (Session.isTabOrLineEnd_of_identifier hid)
  have hslash : ∀ c ∈ z, Url.isSlash true c = false := fun c hc => Url.not_isSlash_of_control (hcontrol c hc)
  refine ⟨?_, ?_, ?_⟩
  · simp only [List.forall_mem_cons, List.not_mem_nil, false_imp_iff, implies_true, and_true]
    exact ⟨⟨_, (fetch _).mpr rfl⟩, ⟨_, (cancel _).mpr rfl⟩, ⟨_, (refund _).mpr rfl⟩⟩
  · rintro ⟨segment, hne, hf, hca, -⟩
    rw [root] at hf hca
    rw [fetch] at hf
    rw [cancel, hz] at hca
    obtain ⟨rfl, hbelow, -⟩ := (Url.walk_below_iff rfl rfl hslash segment).mp ⟨hne, hf, hca⟩
    rw [List.append_nil] at hz
    rw [← hz] at hbelow
    rw [isOneSegment, root, List.reverse_reverse, hbelow, hnil.mp rfl]
    rfl
  · intro h
    rw [isOneSegment, root, List.reverse_reverse, Bool.and_eq_true, Bool.not_eq_true'] at h
    obtain ⟨hlast, hbelow⟩ := h
    obtain rfl := hnil.mpr hlast
    rw [List.append_nil] at hz
    obtain ⟨segment, hseg⟩ : ∃ segment,
        (fields (Url.isSlash true) id).getLast?.map (Url.Percent.encode Url.Percent.inPath) = some segment := by
      rw [List.getLast?_eq_some_getLast (fields_ne_nil _ id)]
      exact ⟨_, rfl⟩
    have below (order : List Char) (ho : Url.isName order = true)
        (he : Url.Percent.encode Url.Percent.inPath order = order) :=
      (Url.walk_below_iff ho he hslash segment).mpr ⟨rfl, hbelow, hseg⟩
    rw [List.append_nil] at below
    obtain ⟨hne, hf, hca⟩ := below "cancel".toList rfl rfl
    obtain ⟨-, -, hre⟩ := below "refunds".toList rfl rfl
    refine ⟨segment, hne, ?_, ?_, ?_⟩
    · rw [root, fetch, ← hz, hf]
    · rw [root, cancel, hca]
    · rw [root, refund, hre]

end Payment

/-- A reference addresses a payment, and what holds a backslash does not. -/
theorem addressesPayment_iff_desk :
    (∃ segment, segment ≠ [] ∧ AddressesPayment {} deskUrl "RC-1".toList segment) ∧
      ¬ ∃ segment, segment ≠ [] ∧ AddressesPayment {} deskUrl "a\\b".toList segment := by
  have hc : make "http://localhost:8181/payments/".toList "divorce".toList none = .ok {} := by decide +kernel
  have hu : ({} : Config).urlFor (.get []) = .ok deskUrl := by decide +kernel
  have accepted : Session.identifier "Payment id".toList (some (trim "RC-1\n".toList)) = .ok "RC-1".toList ∧
      Session.identifier "Payment id".toList (some (trim "a\\b\n".toList)) = .ok "a\\b".toList := by decide +kernel
  refine ⟨(addressesPayment_iff hc hu accepted.1).2.mpr (by decide +kernel), fun h => ?_⟩
  have := (addressesPayment_iff hc hu accepted.2).2.mp h
  revert this
  decide +kernel

/-- A backslash cuts an identifier in two, and a period is the collection itself. -/
theorem addresses_backslash_period :
    Session.identifier "Payment id".toList (some "a\\b".toList) = .ok "a\\b".toList ∧
      ({} : Config).Addresses (.get "a\\b".toList) ["payments".toList, "a".toList, "b".toList] ∧
      Session.identifier "Payment id".toList (some ".".toList) = .ok ".".toList ∧
      ({} : Config).urlFor (.get ".".toList) = ({} : Config).urlFor (.get []) := by
  refine ⟨by decide +kernel, ?_, by decide +kernel, by decide +kernel⟩
  exact ⟨{ deskUrl with path := .segments ["payments".toList, "a".toList, "b".toList] },
    by decide +kernel, rfl, rfl, rfl⟩

/-- Without a slash of either kind an identifier addresses a payment unless it is a dot segment or ends in a control
character. -/
theorem isOneSegment_of_unslashed {base : Url} {id : List Char} (h : ∀ c ∈ id, Url.isSlash true c = false) :
    isOneSegment base id = (! id.getLast?.any Url.isControlOrSpace && Url.isName id) := by
  rw [isOneSegment, fields_eq_singleton h, Url.isBelow]
  simp

end Config

end PaymentDesk
