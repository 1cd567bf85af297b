import RecordRing.Device.Stream

/-!
# What a read copies

A position counts retained bytes, from the oldest record on and across all of them. A read looks the
record up that holds the position, and copies from it, never past its end. Here this is said of the
bytes alone: a read copies what the concatenated records have at the position, and the records fix
how many bytes these are.

The count is kept apart from the bytes (`Copies`), because it is the only thing about a read that
depends on where one record ends and the next begins. It does not change when records are put in
front and the position goes forward by their bytes, so it may be told of a longer run of records
than the one that was read.

## Main definitions

* `BeforeEnd` — how far a byte is from the end of its record
* `Copies` — how many bytes a read copies

## Main results

* `drop_concat_append` — the bytes from a byte of a record on
* `Copies.append_left` — records in front do not change the count
* `Session.read_granted`, `Session.read_cases` — one read
* `Session.readUpTo_granted` — reading on until nothing is read
-/

namespace RecordRing

variable {n : Nat}

/-! ### Bytes and records -/

/-- From a byte of a record on come the rest of the record and all records behind it. -/
theorem drop_concat_append {before after : List Record} {r : Record} {offset : Nat}
    (h : offset ≤ r.size) :
    (concat (before ++ r :: after)).drop (totalSize before + offset) =
      r.bytes.drop offset ++ concat after := by
  rw [← Record.length_bytes] at h
  rw [concat_append, concat_cons, ← length_concat, ← List.drop_drop, List.drop_left,
    List.drop_append_of_le_length h]

/-- A lookup passes over whole records, and over the bytes that come before the offset in the record
it finds. -/
theorem locateFrom_split {rs : List Record} {ordinal offset : Nat} {p : Position}
    (h : locateFrom ordinal rs offset = some p) :
    ∃ before after, rs = before ++ p.record :: after ∧ p.ordinal = ordinal + before.length ∧
      offset = totalSize before + p.offset := by
  induction rs generalizing ordinal offset with
  | nil => exact absurd h nofun
  | cons r rs ih =>
    rw [locateFrom] at h
    by_cases hlt : offset < r.size
    · rw [if_pos hlt] at h
      obtain rfl := Option.some.inj h
      exact ⟨[], rs, rfl, rfl, (Nat.zero_add _).symm⟩
    · rw [if_neg hlt] at h
      obtain ⟨before, after, rfl, hordinal, hoffset⟩ := ih h
      refine ⟨r :: before, after, rfl, ?_, ?_⟩
      · rw [hordinal, List.length_cons]
        omega
      · rw [totalSize_cons]
        omega

/-- Byte `offset` of the records `rs` is in one of them, `left` bytes before its end. -/
def BeforeEnd (rs : List Record) (offset left : Nat) : Prop :=
  ∃ before r after, rs = before ++ r :: after ∧ totalSize before ≤ offset ∧
    offset + left = totalSize before + r.size ∧ 0 < left

theorem BeforeEnd.add_le {rs : List Record} {offset left : Nat} (h : BeforeEnd rs offset left) :
    offset + left ≤ totalSize rs := by
  obtain ⟨before, r, after, rfl, -, hend, -⟩ := h
  rw [hend, totalSize_append, totalSize_cons]
  omega

theorem BeforeEnd.append_left {rs : List Record} {offset left : Nat} (h : BeforeEnd rs offset left)
    (gone : List Record) : BeforeEnd (gone ++ rs) (totalSize gone + offset) left := by
  obtain ⟨before, r, after, rfl, hle, hend, hleft⟩ := h
  refine ⟨gone ++ before, r, after, (List.append_assoc ..).symm, ?_, ?_, hleft⟩
  · rw [totalSize_append]
    omega
  · rw [totalSize_append]
    omega

/-! ### How many bytes -/

/-- From `position` on in the records `rs`, a read of up to `count` bytes copies `k`. -/
structure Copies (rs : List Record) (position count k : Nat) : Prop where
  /-- There are none at the end of the data or past it, and some everywhere else. -/
  eq_zero_iff : k = 0 ↔ totalSize rs ≤ position
  /-- They go to the end of the record, or are as many as were asked for. -/
  eq_min : position < totalSize rs → ∃ left, BeforeEnd rs position left ∧ k = min count left

variable {rs : List Record} {position count k : Nat}

/-- No read goes past the end of the data. -/
theorem Copies.add_le (h : Copies rs position count k) (hk : k ≠ 0) :
    position + k ≤ totalSize rs := by
  have hlt : position < totalSize rs := Nat.lt_of_not_le (mt h.eq_zero_iff.2 hk)
  obtain ⟨left, hleft, rfl⟩ := h.eq_min hlt
  have := hleft.add_le
  omega

/-- A read finds the bytes that it copies. -/
theorem Copies.length_take (h : Copies rs position count k) :
    (((concat rs).drop position).take k).length = k := by
  by_cases hk : k = 0
  · rw [hk, List.take_zero, List.length_nil]
  · have hle : position + k ≤ totalSize rs := h.add_le hk
    rw [List.length_take, List.length_drop, length_concat]
    omega

/-- At the end of the data, and only there, a read finds nothing. -/
theorem Copies.drop_eq_nil_iff (h : Copies rs position count k) :
    (concat rs).drop position = [] ↔ k = 0 := by
  rw [List.drop_eq_nil_iff, length_concat, h.eq_zero_iff]

theorem Copies.append_left (h : Copies rs position count k) (gone : List Record) :
    Copies (gone ++ rs) (totalSize gone + position) count k where
  eq_zero_iff := by
    rw [h.eq_zero_iff, totalSize_append]
    omega
  eq_min := by
    intro hlt
    rw [totalSize_append] at hlt
    obtain ⟨left, hleft, hk⟩ := h.eq_min (by omega)
    exact ⟨left, hleft.append_left gone, hk⟩

theorem copies_of_locateFrom_eq_none {ordinal : Nat} (count : Nat)
    (h : locateFrom ordinal rs position = none) : Copies rs position count 0 where
  eq_zero_iff := iff_of_true rfl (locateFrom_eq_none_iff.1 h)
  eq_min := fun hlt => absurd (locateFrom_eq_none_iff.1 h) (Nat.not_le.2 hlt)

/-- A read that finds a record copies its bytes from there, as far as it is asked to. -/
theorem copies_of_locateFrom {ordinal : Nat} {p : Position}
    (h : locateFrom ordinal rs position = some p) (hcount : 0 < count) :
    Copies rs position count (p.remainingUpTo count).length ∧
      p.remainingUpTo count =
        ((concat rs).drop position).take (p.remainingUpTo count).length := by
  have hlt : p.offset < p.record.size := offset_lt_of_locateFrom h
  obtain ⟨before, after, rfl, -, rfl⟩ := locateFrom_split h
  have hk : (p.remainingUpTo count).length = min count (p.record.size - p.offset) := by
    rw [p.remainingUpTo_eq, List.length_take, Position.remaining, List.length_drop,
      Record.length_bytes]
  refine ⟨⟨?_, fun _ => ?_⟩, ?_⟩
  · rw [hk, totalSize_append, totalSize_cons]
    omega
  · refine ⟨p.record.size - p.offset, ⟨before, p.record, after, rfl, ?_, ?_, ?_⟩, hk⟩ <;> omega
  · have hall : p.record.bytes.drop p.offset =
        p.remainingUpTo count ++ p.remaining.drop count := by
      rw [p.remainingUpTo_eq, List.take_append_drop, Position.remaining]
    rw [drop_concat_append (Nat.le_of_lt hlt), hall, List.append_assoc, List.take_left]

/-! ### Reading -/

namespace Session

variable {c : Conditions}

/-- **What reading does**, once it has the lock: it copies the bytes that the contents have at the
position, and moves the position behind them. -/
theorem read_granted (s : Session) (store : Store n) (hc : c.lock = .granted) (hcount : 0 < count) :
    ∃ k es, Copies store.toList s.position count k ∧
      s.read store c count = ⟨{ s with position := s.position + k }, store, es,
        .ok ((store.contents.drop s.position).take k)⟩ := by
  rw [read, if_neg (Nat.ne_of_gt hcount), hc]
  cases h : store.locate? s.position with
  | none => exact ⟨0, _, copies_of_locateFrom_eq_none count h, by rw [List.take_zero]; rfl⟩
  | some p =>
    obtain ⟨hcopies, hbytes⟩ := copies_of_locateFrom h hcount
    let k := (p.remainingUpTo count).length
    refine ⟨k, [.readCopied k (s.position + k)], hcopies, ?_⟩
    rw [Store.contents, ← hbytes]

/-- A read fails and changes nothing, or it gives bytes that the contents have at the position, and
moves the position behind them. -/
theorem read_cases (s : Session) (store : Store n) (c : Conditions) (count : Nat) :
    (∃ e es, s.read store c count = ⟨s, store, es, .error e⟩) ∨
      ∃ bs es, s.read store c count =
          ⟨{ s with position := s.position + bs.length }, store, es, .ok bs⟩ ∧
        bs <+: store.contents.drop s.position := by
  rcases Nat.eq_zero_or_pos count with rfl | hcount
  · exact .inr ⟨[], [], rfl, List.nil_prefix⟩
  · cases hc : c.lock with
    | cancelled => exact .inl ⟨_, _, by rw [read, if_neg (Nat.ne_of_gt hcount), hc]; rfl⟩
    | granted =>
      obtain ⟨k, es, hcopies, hread⟩ := s.read_granted store hc hcount
      have hk : ((store.contents.drop s.position).take k).length = k := hcopies.length_take
      exact .inr ⟨_, es, by rw [hread, hk], List.take_prefix _ _⟩

/-- **Reading on until nothing is read** gives everything from the position on, and takes the
position to the end of the data if it was not past it before. -/
theorem readUpTo_granted (s : Session) (store : Store n) (hc : c.lock = .granted)
    (hcount : 0 < count) {reads : Nat} (hreads : store.size - s.position < reads) :
    ∃ texts es, s.readUpTo store c count reads =
        ⟨{ s with position := max s.position store.size }, store, es, .ok texts⟩ ∧
      texts.flatten = store.contents.drop s.position := by
  induction reads generalizing s with
  | zero => exact absurd hreads (Nat.not_lt_zero _)
  | succ reads ih =>
    obtain ⟨k, es, hcopies, hread⟩ := s.read_granted store hc hcount
    rw [readUpTo, hread]
    by_cases hk : k = 0
    · have hend : store.size ≤ s.position := hcopies.eq_zero_iff.1 hk
      refine ⟨[], es, ?_, ?_⟩
      · rw [hk, List.take_zero, Nat.max_eq_left hend]
        rfl
      · exact (hcopies.drop_eq_nil_iff.2 hk).symm
    · have hle : s.position + k ≤ store.size := hcopies.add_le hk
      -- what this read copied, and what the others will
      have hne : (store.contents.drop s.position).take k ≠ [] := by
        rw [Ne, ← List.length_eq_zero_iff, Store.contents, hcopies.length_take]
        exact hk
      obtain ⟨b, bs, hbytes⟩ := List.exists_cons_of_ne_nil hne
      have hless : store.size - (s.position + k) < reads := by omega
      obtain ⟨texts, es', hrest, htexts⟩ := ih { s with position := s.position + k } hless
      refine ⟨(b :: bs) :: texts, es ++ es', ?_, ?_⟩
      · rw [hbytes]
        dsimp only
        rw [hrest]
        simp only [Except.map]
        rw [Nat.max_eq_right hle, Nat.max_eq_right (Nat.le_of_add_right_le hle)]
      · rw [List.flatten_cons, ← hbytes, htexts, ← List.drop_drop, List.take_append_drop]

end Session

end RecordRing
