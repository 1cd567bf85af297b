import RecordRing.Record

/-!
# Cutting bytes after every terminator

A byte string has one reading as terminated *pieces* followed by an unterminated *remainder*. This
is what the assembler is measured by: it sees the bytes chunk by chunk, keeps some, gives some
back, and is refused memory in between, and none of that may show in what it cuts.

## Main definitions

* `IsPiece` — bytes that end with the terminator and have no other
* `pieces`, `remainder` — the reading of a byte string
* `IsCut` — what makes a division of a byte string its reading

## Main results

* `isCut_pieces` — the reading is a division of the string
* `IsCut.eq_pieces`, `IsCut.eq_remainder` — and the only one
* `pieces_append`, `remainder_append` — what was cut stays cut when more bytes come
-/

namespace RecordRing

variable {t : UInt8}

/-- Bytes that end with `t` and have no other `t`. -/
def IsPiece (t : UInt8) (bs : List UInt8) : Prop := ∃ body, t ∉ body ∧ bs = body ++ [t]

/-- The terminated pieces of a byte string. A byte in front of them extends the first one; if there
is none, the byte is left to the remainder. -/
def pieces (t : UInt8) : List UInt8 → List (List UInt8)
  | [] => []
  | b :: bs => if b = t then [b] :: pieces t bs else (pieces t bs).modifyHead (b :: ·)

/-- The bytes after the last terminator, or all of them if there is none. -/
def remainder (t : UInt8) : List UInt8 → List UInt8
  | [] => []
  | b :: bs => if t ∈ b :: bs then remainder t bs else b :: bs

/-- A division of a byte string into pieces and a rest that has no terminator. -/
structure IsCut (t : UInt8) (bs : List UInt8) (ps : List (List UInt8)) (rest : List UInt8) :
    Prop where
  /-- Nothing is lost, moved or made up. -/
  flatten_append : ps.flatten ++ rest = bs
  /-- Every piece is one. -/
  isPiece : ∀ p ∈ ps, IsPiece t p
  /-- No further piece could be cut. -/
  notMem : t ∉ rest

/-! ### Pieces -/

theorem IsPiece.ne_nil {bs : List UInt8} (h : IsPiece t bs) : bs ≠ [] := by
  obtain ⟨body, -, rfl⟩ := h
  simp

theorem IsPiece.mem {bs : List UInt8} (h : IsPiece t bs) : t ∈ bs := by
  obtain ⟨body, -, rfl⟩ := h
  simp

/-- Bytes without a terminator may be put in front of a piece. -/
theorem IsPiece.append_left {xs bs : List UInt8} (hxs : t ∉ xs) (h : IsPiece t bs) :
    IsPiece t (xs ++ bs) := by
  obtain ⟨body, hbody, rfl⟩ := h
  exact ⟨xs ++ body, by simp [hxs, hbody], by simp⟩

theorem findIdx?_beq_eq_none_iff {bs : List UInt8} :
    bs.findIdx? (· == t) = none ↔ t ∉ bs := by
  rw [List.findIdx?_eq_none_iff]
  constructor
  · intro h hmem
    simpa using h t hmem
  · rintro h b hb
    rw [beq_eq_false_iff_ne]
    rintro rfl
    exact h hb

/-- The bytes up to the first terminator, and with it, are a piece. -/
theorem isPiece_take_of_findIdx? {bs : List UInt8} {i : Nat}
    (h : bs.findIdx? (· == t) = some i) : IsPiece t (bs.take (i + 1)) ∧ i < bs.length := by
  obtain ⟨hi, hit, hbefore⟩ := List.findIdx?_eq_some_iff_getElem.1 h
  have hnot : t ∉ bs.take i := by
    intro hmem
    obtain ⟨j, hj, hjt⟩ := List.mem_take_iff_getElem.1 hmem
    exact hbefore j (by omega) (by simp [hjt])
  have hlast : bs[i] = t := by simpa using hit
  exact ⟨⟨bs.take i, hnot, by rw [← hlast, List.take_append_getElem hi]⟩, hi⟩

/-! ### The reading of a byte string -/

theorem pieces_of_notMem {bs : List UInt8} (h : t ∉ bs) : pieces t bs = [] := by
  induction bs with
  | nil => rfl
  | cons b bs ih =>
    rw [List.mem_cons, not_or] at h
    rw [pieces, if_neg (Ne.symm h.1), ih h.2]
    rfl

theorem remainder_of_notMem {bs : List UInt8} (h : t ∉ bs) : remainder t bs = bs := by
  cases bs with
  | nil => rfl
  | cons b bs => rw [remainder, if_neg h]

/-- A piece in front is the first piece. -/
theorem pieces_piece_append {p : List UInt8} (hp : IsPiece t p) (bs : List UInt8) :
    pieces t (p ++ bs) = p :: pieces t bs := by
  obtain ⟨body, hbody, rfl⟩ := hp
  induction body with
  | nil => simp [pieces]
  | cons b body ih =>
    rw [List.mem_cons, not_or] at hbody
    simp only [List.cons_append, pieces, if_neg (Ne.symm hbody.1), ih hbody.2, List.modifyHead_cons]

/-- Pieces in front are the first pieces. -/
theorem pieces_flatten_append {ps : List (List UInt8)} (hps : ∀ p ∈ ps, IsPiece t p)
    (bs : List UInt8) : pieces t (ps.flatten ++ bs) = ps ++ pieces t bs := by
  induction ps with
  | nil => rfl
  | cons p ps ih =>
    obtain ⟨hp, hrest⟩ := List.forall_mem_cons.1 hps
    rw [List.flatten_cons, List.append_assoc, pieces_piece_append hp, ih hrest, List.cons_append]

/-- A piece in front does not show in the remainder. -/
theorem remainder_piece_append {p : List UInt8} (hp : IsPiece t p) (bs : List UInt8) :
    remainder t (p ++ bs) = remainder t bs := by
  obtain ⟨body, -, rfl⟩ := hp
  induction body with
  | nil => simp [remainder]
  | cons b body ih =>
    rw [List.cons_append, List.cons_append, remainder, if_pos (by simp)]
    exact ih

/-- There is only one division. -/
theorem IsCut.eq_reading {bs rest : List UInt8} {ps : List (List UInt8)} (h : IsCut t bs ps rest) :
    ps = pieces t bs ∧ rest = remainder t bs := by
  obtain ⟨rfl, hps, hrest⟩ := h
  induction ps with
  | nil => exact ⟨(pieces_of_notMem hrest).symm, (remainder_of_notMem hrest).symm⟩
  | cons p ps ih =>
    obtain ⟨hpieces, hremainder⟩ := ih fun q hq => hps q (List.mem_cons_of_mem _ hq)
    have hp : IsPiece t p := hps p List.mem_cons_self
    rw [List.flatten_cons, List.append_assoc, pieces_piece_append hp, remainder_piece_append hp]
    exact ⟨congrArg _ hpieces, hremainder⟩

theorem IsCut.eq_pieces {bs rest : List UInt8} {ps : List (List UInt8)} (h : IsCut t bs ps rest) :
    ps = pieces t bs := h.eq_reading.1

theorem IsCut.eq_remainder {bs rest : List UInt8} {ps : List (List UInt8)}
    (h : IsCut t bs ps rest) : rest = remainder t bs := h.eq_reading.2

/-- A piece may be put in front of a division. -/
theorem IsCut.cons {p bs rest : List UInt8} {ps : List (List UInt8)} (hp : IsPiece t p)
    (h : IsCut t bs ps rest) : IsCut t (p ++ bs) (p :: ps) rest where
  flatten_append := by rw [List.flatten_cons, List.append_assoc, h.flatten_append]
  isPiece := List.forall_mem_cons.2 ⟨hp, h.isPiece⟩
  notMem := h.notMem

/-- **Every byte string has a division**, and `pieces` and `remainder` compute it. -/
theorem isCut_pieces (t : UInt8) (bs : List UInt8) :
    IsCut t bs (pieces t bs) (remainder t bs) := by
  by_cases h : t ∈ bs
  · -- The first terminator ends the first piece; what follows it is shorter.
    obtain ⟨body, rest, hbs, hbody⟩ := List.eq_append_cons_of_mem h
    have hp : IsPiece t (body ++ [t]) := ⟨body, hbody, rfl⟩
    have hlt : rest.length < bs.length := by rw [hbs, List.length_append, List.length_cons]; omega
    rw [hbs, List.append_cons, pieces_piece_append hp, remainder_piece_append hp]
    exact (isCut_pieces t rest).cons hp
  · rw [pieces_of_notMem h, remainder_of_notMem h]
    exact ⟨rfl, by simp, h⟩
termination_by bs.length

theorem notMem_remainder (t : UInt8) (bs : List UInt8) : t ∉ remainder t bs :=
  (isCut_pieces t bs).notMem

theorem pieces_eq_nil_iff {bs : List UInt8} : pieces t bs = [] ↔ t ∉ bs := by
  refine ⟨fun h => ?_, pieces_of_notMem⟩
  have hcut := isCut_pieces t bs
  rw [← hcut.flatten_append, h, List.flatten_nil, List.nil_append]
  exact hcut.notMem

/-- A string is its own remainder only if it has no piece. -/
theorem remainder_eq_self_iff {bs : List UInt8} : remainder t bs = bs ↔ pieces t bs = [] := by
  refine ⟨fun h => ?_, fun h => remainder_of_notMem (pieces_eq_nil_iff.1 h)⟩
  rw [pieces_eq_nil_iff, ← h]
  exact notMem_remainder t bs

/-- Bytes that come later are read behind the remainder. -/
theorem isCut_append (t : UInt8) (xs ys : List UInt8) :
    IsCut t (xs ++ ys) (pieces t xs ++ pieces t (remainder t xs ++ ys))
      (remainder t (remainder t xs ++ ys)) := by
  have hx : IsCut t xs (pieces t xs) (remainder t xs) := isCut_pieces t xs
  have hy := isCut_pieces t (remainder t xs ++ ys)
  refine ⟨?_, ?_, hy.notMem⟩
  · rw [List.flatten_append, List.append_assoc, hy.flatten_append, ← List.append_assoc,
      hx.flatten_append]
  · exact List.forall_mem_append.2 ⟨hx.isPiece, hy.isPiece⟩

/-- **What was cut stays cut.** -/
theorem pieces_append (t : UInt8) (xs ys : List UInt8) :
    pieces t (xs ++ ys) = pieces t xs ++ pieces t (remainder t xs ++ ys) :=
  (isCut_append t xs ys).eq_pieces.symm

theorem remainder_append (t : UInt8) (xs ys : List UInt8) :
    remainder t (xs ++ ys) = remainder t (remainder t xs ++ ys) :=
  (isCut_append t xs ys).eq_remainder.symm

end RecordRing
