import Mathlib.Data.Prod.Lex
import RecordRing.Proofs.Queue
import RecordRing.Proofs.Reading

/-!
# The two addresses of a byte

A retained byte has a logical address and an ordinal one. Making a logical address adds up the
records in front; reading one takes them off again. Both walk along the ring, and both have to pass
over records without bytes in the same way: such a record has an ordinal, but no address of either
kind.

Once the store is a list, the two meet in one split of it: the records in front of a byte, the
record that has it, and those behind. `locateFrom_take` reads the split forward, and
`locateFrom_split` finds it. So each address comes back from the other, and since the records in
front of a later byte are no fewer, both put the bytes in one order. Addresses are plain numbers, so
nothing is asked of how many bytes there are.

## Main definitions

* `Store.Reachable` — the stores that runs of calls lead to

## Main results

* `Store.Holds.address_of_lt`, `address_of_le`, `address_of_length_le` — the logical address, by the
  records that a store holds
* `Store.Holds.address_eq_ok_iff` — which ordinal addresses have a logical one
* `locateFrom_take` — reading the logical address of a byte finds it
* `totalSize_take_add_lt_iff` — the order of the bytes
* `Store.addresses_agree` — the addresses are inverse to each other, and in one order
-/

namespace RecordRing

variable {n : Nat}

/-! ### Records in front of a byte -/

section Records

variable {rs : List Record} {i j o o' : Nat} {r r' : Record}

/-- A record, and those before and behind it. -/
theorem eq_take_append_cons_drop (h : rs[i]? = some r) :
    rs = rs.take i ++ r :: rs.drop (i + 1) := by
  obtain ⟨hlt, rfl⟩ := List.getElem?_eq_some_iff.1 h
  rw [← List.drop_eq_getElem_cons hlt, List.take_append_drop]

/-- The records in front of a later one have the bytes of this one, too. -/
theorem totalSize_take_add_le (hr : rs[i]? = some r) (hij : i < j) :
    totalSize (rs.take i) + r.size ≤ totalSize (rs.take j) := by
  have hr' : (rs.take j)[i]? = some r := by rw [List.getElem?_take_of_lt hij, hr]
  have hfront : (rs.take j).take i = rs.take i := by
    rw [List.take_take, Nat.min_eq_left (Nat.le_of_lt hij)]
  rw [eq_take_append_cons_drop hr', hfront, totalSize_append, totalSize_cons]
  omega

theorem totalSize_take_add_lt (hr : rs[i]? = some r) (ho : o < r.size) :
    totalSize (rs.take i) + o < totalSize rs := by
  have hall := congrArg totalSize (eq_take_append_cons_drop hr)
  rw [totalSize_append, totalSize_cons] at hall
  omega

/-- **The bytes are in the order of their records**, and in one record in that of their offsets. -/
theorem totalSize_take_add_lt_iff (hr : rs[i]? = some r) (ho : o < r.size)
    (hr' : rs[j]? = some r') (ho' : o' < r'.size) :
    totalSize (rs.take i) + o < totalSize (rs.take j) + o' ↔ toLex (i, o) < toLex (j, o') := by
  rw [Prod.Lex.toLex_lt_toLex]
  rcases Nat.lt_trichotomy i j with hij | rfl | hji
  · have := totalSize_take_add_le hr hij
    simp only [hij, true_or, iff_true]
    omega
  · simp
  · have := totalSize_take_add_le hr' hji
    simp only [Nat.lt_asymm hji, (Nat.ne_of_lt hji).symm, false_and, or_false, iff_false]
    omega

/-- **Reading the logical address of a byte finds it.** The records in front are passed over, those
without bytes among them. -/
theorem locateFrom_take (ordinal : Nat) (hr : rs[i]? = some r) (ho : o < r.size) :
    locateFrom ordinal rs (totalSize (rs.take i) + o) = some ⟨ordinal + i, r, o⟩ := by
  induction rs generalizing ordinal i with
  | nil => exact absurd hr nofun
  | cons first rs ih =>
    cases i with
    | zero =>
      obtain rfl : first = r := Option.some.inj hr
      rw [List.take_zero, totalSize_nil, Nat.zero_add, locateFrom, if_pos ho]
      rfl
    | succ i =>
      have hpast : ¬ totalSize (first :: rs.take i) + o < first.size := by
        rw [totalSize_cons]
        omega
      have hrest : totalSize (first :: rs.take i) + o - first.size = totalSize (rs.take i) + o := by
        rw [totalSize_cons]
        omega
      rw [List.take_succ_cons, locateFrom, if_neg hpast, hrest, ih (ordinal + 1) hr,
        Nat.add_right_comm, Nat.add_assoc]

/-- What a lookup finds is at the address that was read. -/
theorem totalSize_take_of_locateFrom {x : Nat} {p : Position} (h : locateFrom 0 rs x = some p) :
    rs[p.ordinal]? = some p.record ∧ totalSize (rs.take p.ordinal) + p.offset = x := by
  obtain ⟨before, after, rfl, hordinal, rfl⟩ := locateFrom_split h
  rw [Nat.zero_add] at hordinal
  constructor
  · rw [hordinal, List.getElem?_append_right (Nat.le_refl _), Nat.sub_self]
    rfl
  · rw [hordinal, List.take_left]

end Records

namespace Store

variable {s : Store n} {q : List Record} {index offset x : Nat} {r : Record}

/-! ### Logical addresses -/

theorem Holds.address_of_lt (h : s.Holds q) (hr : q[index]? = some r) (hlt : offset < r.size) :
    s.address index offset = .ok (totalSize (q.take index) + offset) := by
  rw [address, h.get?_eq, hr, h.toList_eq]
  exact if_pos hlt

theorem Holds.address_of_le (h : s.Holds q) (hr : q[index]? = some r) (hle : r.size ≤ offset) :
    s.address index offset = .error (.offsetOutOfRange index offset r.size) := by
  rw [address, h.get?_eq, hr]
  exact if_neg (Nat.not_lt.2 hle)

theorem Holds.address_of_length_le (h : s.Holds q) (hle : q.length ≤ index) :
    s.address index offset = .error (.recordOutOfRange index q.length) := by
  rw [address, h.get?_eq, List.getElem?_eq_none hle, h.length_eq]

/-- Only bytes have a logical address. -/
theorem Holds.address_eq_ok_iff (h : s.Holds q) :
    s.address index offset = .ok x ↔
      ∃ r, q[index]? = some r ∧ offset < r.size ∧ x = totalSize (q.take index) + offset := by
  constructor
  · intro hx
    cases hr : q[index]? with
    | none =>
      rw [h.address_of_length_le (List.getElem?_eq_none_iff.1 hr)] at hx
      exact absurd hx nofun
    | some r =>
      by_cases hlt : offset < r.size
      · rw [h.address_of_lt hr hlt] at hx
        exact ⟨r, rfl, hlt, (Except.ok.inj hx).symm⟩
      · rw [h.address_of_le hr (Nat.le_of_not_lt hlt)] at hx
        exact absurd hx nofun
  · rintro ⟨r, hr, hlt, rfl⟩
    exact h.address_of_lt hr hlt

/-! ### Reachable stores -/

/-- Some run of calls leads from the empty store to `s`. -/
def Reachable (s : Store n) : Prop := ∃ calls, s = (StoreCall.run answer empty calls).1

theorem Reachable.holds (hn : 0 < n) (h : s.Reachable) : ∃ q, s.Holds q := by
  obtain ⟨calls, rfl⟩ := h
  have hsim := StoreCall.run_simulates
    (fun (s : Store n) q call (h : s.Holds q) => h.answer call) (holds_empty hn) calls
  exact ⟨_, hsim.1⟩

/-- **The two addresses of a byte are inverse to each other, and in one order.** An ordinal address
has no logical one where there is no such record, or the record has no such byte, and fails with
this. Every other one has one inside the data, which leads back to the byte. Every logical address
inside the data comes from the ordinal address of the byte that it leads to. And bytes are in the
order of their records, and of their offsets in one record. -/
theorem addresses_agree (hn : 0 < n) (hs : s.Reachable) :
    (∀ index offset, s.address index offset = .error (.recordOutOfRange index s.length) ↔
      s.length ≤ index) ∧
    (∀ index, index < s.length → ∃ r, s.get? index = some r ∧ ∀ offset,
      (s.address index offset = .error (.offsetOutOfRange index offset r.size) ↔
        r.size ≤ offset) ∧
      (offset < r.size → ∃ x, s.address index offset = .ok x ∧ x < s.size ∧
        s.locate? x = some ⟨index, r, offset⟩)) ∧
    (∀ x, x < s.size → ∃ p, s.locate? x = some p ∧ s.get? p.ordinal = some p.record ∧
      s.address p.ordinal p.offset = .ok x) ∧
    ∀ index offset index' offset' x x', s.address index offset = .ok x →
      s.address index' offset' = .ok x' →
      (x < x' ↔ toLex (index, offset) < toLex (index', offset')) := by
  obtain ⟨q, hq⟩ := hs.holds hn
  rw [hq.length_eq, size, hq.toList_eq]
  refine ⟨?_, ?_, ?_, ?_⟩
  · intro index offset
    constructor
    · intro h
      by_contra hlt
      have hr : q[index]? = some q[index] := List.getElem?_eq_getElem (Nat.lt_of_not_le hlt)
      by_cases ho : offset < q[index].size
      · exact absurd ((hq.address_of_lt hr ho).symm.trans h) (by simp)
      · exact absurd ((hq.address_of_le hr (Nat.le_of_not_lt ho)).symm.trans h) (by simp)
    · exact hq.address_of_length_le
  · intro index hlt
    have hr : q[index]? = some q[index] := List.getElem?_eq_getElem hlt
    refine ⟨q[index], (hq.get?_eq index).trans hr, fun offset => ⟨⟨?_, hq.address_of_le hr⟩, ?_⟩⟩
    · intro h
      by_contra ho
      exact absurd ((hq.address_of_lt hr (Nat.lt_of_not_le ho)).symm.trans h) (by simp)
    · intro ho
      refine ⟨_, hq.address_of_lt hr ho, totalSize_take_add_lt hr ho, ?_⟩
      rw [locate?, hq.toList_eq, locateFrom_take 0 hr ho, Nat.zero_add]
  · intro x hx
    cases hp : locateFrom 0 q x with
    | none => exact absurd (locateFrom_eq_none_iff.1 hp) (Nat.not_le.2 hx)
    | some p =>
      obtain ⟨hr, haddress⟩ := totalSize_take_of_locateFrom hp
      refine ⟨p, ?_, (hq.get?_eq _).trans hr, ?_⟩
      · rw [locate?, hq.toList_eq, hp]
      · rw [hq.address_of_lt hr (offset_lt_of_locateFrom hp), haddress]
  · intro index offset index' offset' x x' h h'
    obtain ⟨r, hr, ho, rfl⟩ := hq.address_eq_ok_iff.1 h
    obtain ⟨r', hr', ho', rfl⟩ := hq.address_eq_ok_iff.1 h'
    exact totalSize_take_add_lt_iff hr ho hr' ho'

/-- A ring of three that has gone around, with a record without bytes in it. That record has no
address, and the byte behind it has the first one. -/
theorem addresses_agree_wrapped :
    let calls : List StoreCall := [.insert (.ofList [97]), .insert (.ofList []),
      .insert (.ofList [98, 99]), .insert (.ofList [100])]
    ∃ s : Store 3, 0 < 3 ∧ s = (StoreCall.run answer empty calls).1 ∧ s.Reachable ∧
      s.toList = [.ofList [], .ofList [98, 99], .ofList [100]] ∧
      s.address 3 0 = .error (.recordOutOfRange 3 3) ∧
      s.address 0 0 = .error (.offsetOutOfRange 0 0 0) ∧
      s.address 1 1 = .ok 1 ∧ s.locate? 1 = some ⟨1, .ofList [98, 99], 1⟩ ∧
      s.address 2 0 = .ok 2 ∧ (1 < 2 ↔ toLex (1, 1) < toLex (2, 0)) := by
  intro calls
  let s : Store 3 := (StoreCall.run answer empty calls).1
  have hs : s.Reachable := ⟨calls, rfl⟩
  have hlength : s.length = 3 := by cbv
  have hfirst : s.get? 0 = some (.ofList []) := by cbv
  have hsecond : s.get? 1 = some (.ofList [98, 99]) := by cbv
  have hone : s.address 1 1 = .ok 1 := by cbv
  have htwo : s.address 2 0 = .ok 2 := by cbv
  obtain ⟨hrecord, hbyte, -, horder⟩ := addresses_agree (by decide) hs
  rw [hlength] at hrecord hbyte
  obtain ⟨r, hr, hempty⟩ := hbyte 0 (by decide)
  obtain rfl : .ofList [] = r := Option.some.inj (hfirst.symm.trans hr)
  obtain ⟨r, hr, hfound⟩ := hbyte 1 (by decide)
  obtain rfl : .ofList [98, 99] = r := Option.some.inj (hsecond.symm.trans hr)
  obtain ⟨x, hx, -, hlocate⟩ := (hfound 1).2 (by decide)
  obtain rfl : 1 = x := Except.ok.inj (hone.symm.trans hx)
  exact ⟨s, by decide, rfl, hs, by cbv, (hrecord 3 0).2 (by decide), (hempty 0).1.2 (by decide),
    hone, hlocate, htwo, horder 1 1 2 0 1 2 hone htwo⟩

end Store

end RecordRing
