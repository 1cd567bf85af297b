import RecordRing.Proofs.Addressing

/-!
# What a lookup finds

The retained records, one after the other, are one stream of bytes, and a logical address is a place
in it. Record `i` has the places from the end of record `i - 1` up to its own end (`ByteIn`). Every
place inside the data is in one record and in no other, and a record without bytes has none. So an
address fixes what a lookup has to find: the record, and how far the place is behind its start.

A lookup goes along the ring instead, and takes the size of every record that it passes off the
address. That both come to the same is said by the split of the records at the one that is found.

## The running subtraction

Natural numbers do not go below zero: where a size too large was taken off, the difference would be
zero, and the lookup would go on from there unnoticed. `Walk.locate?` is the same lookup, record by
record along the ring, but it fails where a difference would be below zero. It never fails, and it
finds what the lookup on the list finds (`Store.Holds.locate?_walk`).

## Main definitions

* `ByteIn` — the record that a byte of the stream is in
* `Walk.locate?` — a lookup along the ring that checks its subtractions

## Main results

* `locateFrom_of_byteIn` — a lookup finds the record that has the byte
* `remaining_of_locateFrom` — what remains there is what the stream has up to the end of the record
* `Store.Holds.locate?_walk` — no difference is below zero
* `Store.Reachable.lookup_addresses_stream` — what a lookup in a store finds
-/

namespace RecordRing

variable {n : Nat}

/-! ### Places in the stream -/

section Records

variable {rs : List Record} {i j x : Nat} {p : Position}

/-- Byte `x` of the records `rs` is in record `i`. -/
def ByteIn (rs : List Record) (i x : Nat) : Prop :=
  totalSize (rs.take i) ≤ x ∧ x < totalSize (rs.take (i + 1))

theorem totalSize_take_succ {r : Record} (hr : rs[i]? = some r) :
    totalSize (rs.take (i + 1)) = totalSize (rs.take i) + r.size := by
  rw [List.take_add_one, hr, Option.toList_some, totalSize_append]
  rfl

/-- There is such a record, and it has the byte. -/
theorem ByteIn.exists_record (h : ByteIn rs i x) :
    ∃ r, rs[i]? = some r ∧ x - totalSize (rs.take i) < r.size := by
  obtain ⟨hle, hlt⟩ := h
  cases hr : rs[i]? with
  | none =>
    rw [List.take_add_one, hr, Option.toList_none, List.append_nil] at hlt
    omega
  | some r =>
    rw [totalSize_take_succ hr] at hlt
    exact ⟨r, rfl, by omega⟩

/-- **A lookup finds the record that has the byte.** -/
theorem locateFrom_of_byteIn (h : ByteIn rs i x) :
    ∃ r, rs[i]? = some r ∧
      locateFrom 0 rs x = some ⟨i, r, x - totalSize (rs.take i)⟩ := by
  obtain ⟨r, hr, hlt⟩ := h.exists_record
  have hfound := locateFrom_take 0 hr hlt
  rw [Nat.add_sub_cancel' h.1, Nat.zero_add] at hfound
  exact ⟨r, hr, hfound⟩

theorem byteIn_of_locateFrom (h : locateFrom 0 rs x = some p) : ByteIn rs p.ordinal x := by
  obtain ⟨hr, haddress⟩ := totalSize_take_of_locateFrom h
  have hlt : p.offset < p.record.size := offset_lt_of_locateFrom h
  rw [ByteIn, totalSize_take_succ hr]
  omega

/-- A byte is in one record only. -/
theorem ByteIn.unique (h : ByteIn rs i x) (h' : ByteIn rs j x) : j = i := by
  obtain ⟨r, -, hfound⟩ := locateFrom_of_byteIn h
  obtain ⟨r', -, hfound'⟩ := locateFrom_of_byteIn h'
  exact congrArg Position.ordinal (Option.some.inj (hfound'.symm.trans hfound))

/-- The first records have the first bytes of the stream. -/
theorem take_concat (rs : List Record) (i : Nat) :
    (concat rs).take (totalSize (rs.take i)) = concat (rs.take i) := by
  have hall : concat rs = concat (rs.take i) ++ concat (rs.drop i) := by
    rw [← concat_append, List.take_append_drop]
  rw [hall, ← length_concat, List.take_left]

/-- **What remains of the record found** is what the stream has from the byte on, up to the end of
the record. -/
theorem remaining_of_locateFrom (h : locateFrom 0 rs x = some p) :
    p.remaining = ((concat rs).take (totalSize (rs.take (p.ordinal + 1)))).drop x := by
  obtain ⟨hr, rfl⟩ := totalSize_take_of_locateFrom h
  have hle : p.offset ≤ p.record.size := Nat.le_of_lt (offset_lt_of_locateFrom h)
  have hlast : rs.take (p.ordinal + 1) = rs.take p.ordinal ++ p.record :: [] := by
    rw [List.take_add_one, hr, Option.toList_some]
  rw [take_concat, hlast, drop_concat_append hle, concat_nil, List.append_nil, Position.remaining]

end Records

/-! ### Checked subtraction -/

/-- A lookup along a walk, of the byte that `left` bytes from here come before, over at most `count`
records. The lookup fails if a size is to be taken off that is larger than what is left. -/
def Walk.locate? : Nat → Walk n → Nat → Option (Option Position)
  | 0, _, _ => some none
  | count + 1, w, left =>
    match w.next with
    | (_, none) => some none
    | (next, some r) =>
      if left < r.size then some (some ⟨w.ordinal, r, left⟩)
      else if r.size ≤ left then locate? count next (left - r.size)
      else none

namespace Store

variable {s : Store n} {q : List Record}

/-- **No difference is below zero**, from any record on: a record is passed only if it ends before
the byte. -/
theorem Holds.locate?_walk (h : s.Holds q) {k count : Nat} (hk : k ≤ q.length)
    (hcount : q.length - k ≤ count) (left : Nat) :
    Walk.locate? count ⟨s, k, q.length⟩ left = some (locateFrom k (q.drop k) left) := by
  induction count generalizing k left with
  | zero =>
    obtain rfl : k = q.length := by omega
    rw [List.drop_length]
    rfl
  | succ count ih =>
    rw [Walk.locate?, h.next_walk hk]
    rcases Nat.lt_or_eq_of_le hk with hlt | rfl
    · rw [List.getElem?_eq_getElem hlt, Nat.min_eq_left hlt, List.drop_eq_getElem_cons hlt,
        locateFrom]
      dsimp only
      by_cases hleft : left < q[k].size
      · rw [if_pos hleft, if_pos hleft]
      · rw [if_neg hleft, if_neg hleft, if_pos (Nat.le_of_not_lt hleft), ih hlt (by omega)]
    · rw [List.getElem?_eq_none (Nat.le_refl _), List.drop_length]
      rfl

/-- **A lookup addresses the stream of the retained bytes.** At the end of the data and past it
nothing is found. Everywhere else the byte is in one record and no other, and this record is found,
with the distance of the byte from its start. So the byte found is inside its record, which is not
empty; something remains of it, and this is what the stream has from the byte on, up to the end of
the record. And along the ring, the sizes taken off the address never exceed what is left of it. -/
theorem Reachable.lookup_addresses_stream (hn : 0 < n) (hs : s.Reachable) (x : Nat) :
    (s.locate? x = none ↔ s.size ≤ x) ∧
    (x < s.size → ∃ i r, s.toList[i]? = some r ∧ ByteIn s.toList i x ∧
      (∀ j, ByteIn s.toList j x → j = i) ∧
      s.locate? x = some ⟨i, r, x - totalSize (s.toList.take i)⟩) ∧
    (∀ p, s.locate? x = some p → p.offset < p.record.size ∧ p.record.isEmpty = false ∧
      p.remaining ≠ [] ∧
      p.remaining = (s.contents.take (totalSize (s.toList.take (p.ordinal + 1)))).drop x) ∧
    ∀ count, s.length ≤ count → s.walk.locate? count x = some (s.locate? x) := by
  obtain ⟨q, hq⟩ := hs.holds hn
  refine ⟨locateFrom_eq_none_iff, fun hx => ?_, fun p hp => ?_, fun count hcount => ?_⟩
  · cases hp : s.locate? x with
    | none => exact absurd (locateFrom_eq_none_iff.1 hp) (Nat.not_le.2 hx)
    | some p =>
      have hbyte : ByteIn s.toList p.ordinal x := byteIn_of_locateFrom hp
      obtain ⟨r, hr, hfound⟩ := locateFrom_of_byteIn hbyte
      exact ⟨p.ordinal, r, hr, hbyte, fun _ => hbyte.unique, hp.symm.trans hfound⟩
  · have hlt : p.offset < p.record.size := offset_lt_of_locateFrom hp
    refine ⟨hlt, ?_, remaining_ne_nil_of_locateFrom hp, remaining_of_locateFrom hp⟩
    rw [← Bool.not_eq_true, Record.isEmpty_iff]
    omega
  · rw [hq.length_eq] at hcount
    rw [walk, hq.length_eq, hq.locate?_walk (Nat.zero_le _) hcount, List.drop_zero, locate?,
      hq.toList_eq]

/-- A ring of three that has gone around. Byte 2 is the first one of the last record: the record in
front ends there, and the one without bytes before that is passed over. There is no byte 4. -/
theorem lookup_addresses_stream_wrapped :
    let calls : List StoreCall := [.insert (.ofList [97]), .insert (.ofList [98, 99]),
      .insert (.ofList []), .insert (.ofList [100, 101])]
    ∃ s : Store 3, 0 < 3 ∧ s = (StoreCall.run answer empty calls).1 ∧ s.Reachable ∧
      s.toList = [.ofList [98, 99], .ofList [], .ofList [100, 101]] ∧
      s.locate? 4 = none ∧ s.locate? 2 = some ⟨2, .ofList [100, 101], 0⟩ ∧
      (∀ j, ByteIn s.toList j 2 → j = 2) ∧
      s.walk.locate? 3 2 = some (some ⟨2, .ofList [100, 101], 0⟩) := by
  intro calls
  let s : Store 3 := (StoreCall.run answer empty calls).1
  have hs : s.Reachable := ⟨calls, rfl⟩
  have hlength : s.length = 3 := by cbv
  have hsize : s.size = 4 := by cbv
  have hlist : s.toList = [.ofList [98, 99], .ofList [], .ofList [100, 101]] := by cbv
  have htwo : s.locate? 2 = some ⟨2, .ofList [100, 101], 0⟩ := by cbv
  obtain ⟨hend, -⟩ := hs.lookup_addresses_stream (by decide) 4
  obtain ⟨-, hbyte, -, hwalk⟩ := hs.lookup_addresses_stream (by decide) 2
  obtain ⟨i, r, -, -, hunique, hfound⟩ := hbyte (by rw [hsize]; decide)
  obtain rfl : 2 = i :=
    congrArg Position.ordinal (Option.some.inj (htwo.symm.trans hfound))
  exact ⟨s, by decide, rfl, hs, hlist, hend.2 (Nat.le_of_eq hsize), htwo, hunique,
    (hwalk 3 (Nat.le_of_eq hlength)).trans (congrArg some htwo)⟩

end Store

end RecordRing
