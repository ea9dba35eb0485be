import PaymentDesk.Proofs.Config.Base
import PaymentDesk.Proofs.Url.Form

/-!
# Pairs appended to an address

The path of a request may hold a query and a fragment of its own, and the pairs of the request go between the two:
behind what the query holds already, and in front of the fragment. **The address is the same but for its query, and the
query stands for the pairs that it stood for before, followed by the pairs of the request** (`Config.urlFor_append`),
whatever characters they hold.
-/

namespace PaymentDesk

namespace Url

/-- The pairs that the query of a URL stands for; a URL without a query has none. -/
def pairs (u : Url) : List (List Char × List Char) := Form.decode (u.query.getD [])

/-- An empty query and none at all stand for the same. -/
theorem pairs_of_empty {u : Url} (h : u.query = none ∨ u.query = some []) : u.pairs = [] := by
  rcases h with h | h <;> rw [pairs, h] <;> rfl

/-- **Appended pairs come last.** -/
theorem pairs_appendQuery (ps : List (List Char × List Char)) (u : Url) : (u.appendQuery ps).pairs = u.pairs ++ ps := by
  have alone (h : u.query = none ∨ u.query = some []) :
      pairs { u with query := some (Form.encode ps) } = u.pairs ++ ps := by
    rw [pairs_of_empty h, List.nil_append]
    exact Form.decode_encode ps
  rw [appendQuery]
  split
  · next hnil => rw [List.isEmpty_iff.mp hnil, List.append_nil]
  split
  · next hquery => exact alone (.inl hquery)
  · next hquery => exact alone (.inr hquery)
  · next q _ hquery =>
    -- a separator stands between the old query and the new pairs
    show Form.decode (q ++ '&' :: Form.encode ps) = Form.decode (u.query.getD []) ++ ps
    rw [Form.decode_append, Form.decode_encode, hquery, Option.getD_some]

end Url

namespace Config

/-- **The pairs of a request are appended to its address**, and nothing else in it changes. Whether there is an address,
and why there is none, does not depend on the pairs. -/
theorem urlFor_append (c : Config) (r : Request) (ps : List (List Char × List Char)) :
    (∀ err, c.urlFor { r with query := ps } = .error err ↔ c.urlFor { r with query := [] } = .error err) ∧
    ∀ u₀ u, c.urlFor { r with query := [] } = .ok u₀ → c.urlFor { r with query := ps } = .ok u →
      u.scheme = u₀.scheme ∧ u.authority = u₀.authority ∧ u.path = u₀.path ∧ u.fragment = u₀.fragment ∧
        u.pairs = u₀.pairs ++ ps ∧ (ps = [] → u = u₀) := by
  simp only [urlFor]
  cases Url.parse (c.baseUrl ++ r.path) with
  | error f => simp
  | ok v =>
    refine ⟨by simp, fun u₀ u hu₀ hu => ?_⟩
    have hbare : u₀ = v := (Except.ok.inj hu₀).symm
    have hfull : u = v.appendQuery ps := (Except.ok.inj hu).symm
    obtain ⟨q, hq⟩ := Url.appendQuery_eq ps v
    subst hbare hfull
    refine ⟨by rw [hq], by rw [hq], by rw [hq], by rw [hq], Url.pairs_appendQuery ps u₀, ?_⟩
    rintro rfl
    rfl

/-- A path with a query and a fragment, and pairs full of marks, one of them twice. -/
theorem urlFor_append_marks :
    let ps := [("k&=", "+% #"), ("", ""), ("k&=", "+% #"), ("é", "?")].map fun p => (p.1.toList, p.2.toList)
    let u₀ : Url := { deskUrl with
      path := .segments ["payments".toList, "a".toList]
      query := some "x=1&&y".toList
      fragment := some "f".toList }
    ∃ u, ({} : Config).urlFor (.get "a?x=1&&y#f".toList) = .ok u₀ ∧
      ({} : Config).urlFor { Request.get "a?x=1&&y#f".toList with query := ps } = .ok u ∧
      u.path = u₀.path ∧ u.fragment = some "f".toList ∧
      u.pairs = ("x".toList, "1".toList) :: ("y".toList, []) :: ps := by
  intro ps u₀
  have hu₀ : ({} : Config).urlFor (.get "a?x=1&&y#f".toList) = .ok u₀ := by decide +kernel
  have hu : ({} : Config).urlFor { Request.get "a?x=1&&y#f".toList with query := ps } = .ok (u₀.appendQuery ps) := by
    decide +kernel
  have hpairs : u₀.pairs = [("x".toList, "1".toList), ("y".toList, [])] := by decide +kernel
  obtain ⟨-, -, hpath, hfragment, hall, -⟩ :=
    (urlFor_append {} (.get "a?x=1&&y#f".toList) ps).2 u₀ _ hu₀ hu
  exact ⟨_, hu₀, hu, hpath, hfragment, by rw [hall, hpairs]; rfl⟩

end Config

end PaymentDesk
